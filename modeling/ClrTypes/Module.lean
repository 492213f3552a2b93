import ClrTypes.Build
import ClrTypes.Nesting

namespace ClrTypes

structure Module where
  assembly : Assembly
  linked : List Assembly := []
  hasLocalTypes : Bool := false
  definitions : List Definition := []
  /-- The registered definitions with the full names that they had at that time. -/
  names : List (String × Definition) := []
  specials : List (SpecialType × Symbol) := []
  typeSymbol : Option Symbol := none

namespace Module

def ofAssembly (assembly : Assembly) : Module := { assembly }

def link (m : Module) (assembly : Assembly) : Module :=
  if m.linked.contains assembly then m else { m with linked := m.linked ++ [assembly] }

def withLocalTypes (m : Module) : Module :=
  { m with hasLocalTypes := true }

def definition? (m : Module) (t : Token) : Option Definition :=
  m.definitions.find? fun d => d.token == t

def named (m : Module) (fullName : String) : List Definition :=
  (m.names.filter fun entry => entry.1 == fullName).map (·.2)

def size (m : Module) : Nat :=
  m.definitions.length

def isEmpty (m : Module) : Bool :=
  m.definitions.isEmpty

def declaresLocal (m : Module) (d : Definition) : Bool :=
  d.isLocal && d.assembly == m.assembly

def recordSpecial (m : Module) (d : Definition) : Build Module :=
  match d.special with
  | some special =>
    if (m.specials.lookup special).isSome then return m
    else return { m with specials := m.specials ++ [(special, ← Build.named d)] }
  | none => return m

def recordTypeSymbol (m : Module) (d : Definition) : Build Module := do
  if d.space == "System" && d.name == "Type" && m.typeSymbol.isNone then
    return { m with typeSymbol := some (← Build.named d) }
  else return m

def register (m : Module) (h : Hierarchy) (d : Definition) : Build (Except Fault Module) :=
  match m.definition? d.token with
  | some _ => return .error (.malformed (.duplicateDefinition d.token))
  | none => do
    let m := { m with
      definitions := m.definitions ++ [d]
      names := m.names ++ [(h.fullName d, d)]
      hasLocalTypes := m.hasLocalTypes || m.declaresLocal d }
    return .ok (← (← m.recordSpecial d).recordTypeSymbol d)

def special (m : Module) (s : SpecialType) : Build Symbol :=
  match m.specials.lookup s with
  | some symbol => return symbol
  | none => Build.unsupported (some (.specialTypeMissing s))

def systemType (m : Module) : Build Symbol :=
  match m.typeSymbol with
  | some symbol => return symbol
  | none =>
    Build.unsupported (some (.typeError ("System.Type is not available in " ++ m.assembly.name)))

end Module

end ClrTypes
