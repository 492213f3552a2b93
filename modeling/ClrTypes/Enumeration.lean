import ClrTypes.Symbol.Display

namespace ClrTypes

def Symbol.storesEnum (s : Symbol) : Bool :=
  s.isUnsupported || s.special?.any (·.isIntegral)

namespace Hierarchy

def setUnderlying (h : Hierarchy) (d : Definition) (underlying : Symbol) :
    Except Fault Hierarchy :=
  if underlying.storesEnum then
    match h.underlying? d with
    | some _ => .error (.malformed (.underlyingRecorded d.token))
    | none => .ok (h.update d { h.relations d with underlying := some underlying })
  else .error (.malformed (.underlyingNotIntegral d.token (underlying.display h)))

def underlyingOf? (h : Hierarchy) (s : Symbol) : Option Symbol :=
  s.definition?.bind h.underlying?

end Hierarchy

end ClrTypes
