import ClrTypes.Assembly
import ClrTypes.Attributes

namespace ClrTypes

structure Parameter where
  token : Token
  name : String
  ordinal : Nat
deriving Repr

namespace Parameter

instance : BEq Parameter := ⟨fun p q => p.token == q.token⟩

end Parameter

structure Definition where
  /-- Tells apart definitions that declare the same. -/
  serial : Nat
  token : Token
  space : String
  name : String
  flags : Attributes
  assembly : Assembly
  parameters : List Parameter
  special : Option SpecialType
  isLocal : Bool
deriving Repr

namespace Definition

def beq (d e : Definition) : Bool :=
  d.token == e.token && d.assembly == e.assembly && d.space == e.space && d.name == e.name

instance : BEq Definition := ⟨beq⟩

def arity (d : Definition) : Nat :=
  d.parameters.length

def isInterface (d : Definition) : Bool :=
  d.flags.contains .interface

def classify (space name : String) : Option SpecialType :=
  SpecialType.ofFullName? (space ++ "." ++ name)

def numbered (parameters : List (Token × String)) : List Parameter :=
  parameters.zipIdx.map fun ((token, name), ordinal) => { token, name, ordinal }

def qualifiedName (d : Definition) : String :=
  if d.space.isEmpty then d.name else d.space ++ "." ++ d.name

end Definition

end ClrTypes
