import ClrTypes.Hierarchy
import ClrTypes.Substitution

namespace ClrTypes.Hierarchy

def seenFrom (s recorded : Symbol) : Build Symbol :=
  match Substitution.ofSymbol? s with
  | some m => m.apply recorded
  | none => return recorded

def baseOf? (h : Hierarchy) (s : Symbol) : Build (Option Symbol) :=
  match s.definition?.bind h.base? with
  | some base => return some (← seenFrom s base)
  | none => return none

def interfacesOf? (h : Hierarchy) (s : Symbol) : Build (Option (List Symbol)) :=
  match s.definition? with
  | some d => return some (← (h.interfaces d).mapM (seenFrom s))
  | none => return none

/-- The container of a nominal symbol. It takes the leading arguments of a constructed type, those
that the type's own definition does not declare. -/
def containerOf? (h : Hierarchy) (s : Symbol) : Build (Option Symbol) :=
  match s with
  | .named _ d =>
    match h.container? d with
    | some c => return some (← Build.named c)
    | none => return none
  | .constructed _ d bindings =>
    match h.container? d with
    | some c =>
      let outer := bindings.length - d.arity
      if outer = 0 then return some (← Build.named c)
      else return some (← Build.constructed c (bindings.take outer))
    | none => return none
  | _ => return none

end ClrTypes.Hierarchy
