import ClrTypes.Definition
import ClrTypes.Signature

/-!
# Type symbols

The shapes of types that binding and code generation work with. Every node carries the serial number
of its creation: two references to one serial number are references to one node. All comparisons
apart from that question disregard the numbers.
-/

namespace ClrTypes

structure Modifier (α : Type) where
  required : Bool
  type : α
deriving Repr

structure Binding (α : Type) where
  parameter : Parameter
  argument : α
deriving Repr

def Binding.align {α : Type} (parameters : List Parameter) (arguments : List α) :
    List (Binding α) :=
  parameters.zipWith Binding.mk arguments

theorem Binding.parameters_align {α : Type} {parameters : List Parameter} {arguments : List α}
    (same : parameters.length = arguments.length) :
    (align parameters arguments).map (·.parameter) = parameters := by
  induction parameters generalizing arguments with
  | nil => rfl
  | cons p parameters ih =>
      cases arguments with
      | nil => simp at same
      | cons a arguments => simpa [align] using ih (Nat.succ.inj same)

theorem Binding.arguments_align {α : Type} {parameters : List Parameter} {arguments : List α}
    (same : parameters.length = arguments.length) :
    (align parameters arguments).map (·.argument) = arguments := by
  induction parameters generalizing arguments with
  | nil => simpa [align] using (List.length_eq_zero_iff.mp same.symm).symm
  | cons p parameters ih =>
      cases arguments with
      | nil => simp at same
      | cons a arguments => simpa [align] using ih (Nat.succ.inj same)

inductive Symbol where
  | array (serial : Nat) (element : Symbol) (rank : UInt32) (dimensions : List Dimension)
    (modifiers : List (Modifier Symbol))
  | szArray (serial : Nat) (element : Symbol) (modifiers : List (Modifier Symbol))
  | pointer (serial : Nat) (pointee : Symbol) (modifiers : List (Modifier Symbol))
  | byRef (serial : Nat) (referenced : Symbol)
  /-- A type without arguments: it takes none, or it is the unbound form of a generic type. -/
  | named (serial : Nat) (definition : Definition)
  | constructed (serial : Nat) (definition : Definition) (bindings : List (Binding Symbol))
  | parameter (serial : Nat) (parameter : Parameter)
  /-- Stands for a type that could not be built. -/
  | unsupported (serial : Nat) (cause : Option Fault)
  /-- Marks a constructed type that embedded interop rules forbid. -/
  | illegal (serial : Nat) (underlying : Symbol)
deriving Repr, Inhabited

namespace Symbol

def serial : Symbol → Nat
  | .array serial .. | .szArray serial .. | .pointer serial .. | .byRef serial ..
  | .named serial .. | .constructed serial .. | .parameter serial .. | .unsupported serial ..
  | .illegal serial .. => serial

def isSameNode (s t : Symbol) : Bool :=
  s.serial == t.serial

def isUnsupported : Symbol → Bool
  | .unsupported .. => true
  | _ => false

def cause? : Symbol → Option Fault
  | .unsupported _ cause => cause
  | _ => none

def isIllegal : Symbol → Bool
  | .illegal .. => true
  | _ => false

def definition? : Symbol → Option Definition
  | .named _ d | .constructed _ d _ => some d
  | _ => none

def bindings? : Symbol → Option (List (Binding Symbol))
  | .constructed _ _ bindings => some bindings
  | _ => none

def arguments? (s : Symbol) : Option (List Symbol) :=
  s.bindings?.map fun bindings => bindings.map (·.argument)

def special? (s : Symbol) : Option SpecialType :=
  s.definition?.bind (·.special)

def isInterface (s : Symbol) : Bool :=
  s.definition?.any (·.isInterface)

def isVolatileMarker (s : Symbol) : Bool :=
  s.special? == some .isVolatile

def operand? : Symbol → Option Symbol
  | .array _ s .. | .szArray _ s .. | .pointer _ s .. | .byRef _ s | .illegal _ s => some s
  | _ => none

def stripped : Symbol → Symbol
  | .illegal _ underlying => underlying
  | s => s

def primitiveCode : Symbol → PrimitiveCode
  | .pointer .. => .pointer
  | .byRef .. => .byRef
  | s => (s.special?.map (·.primitiveCode)).getD .notPrimitive

end Symbol

def Modifier.isVolatile (m : Modifier Symbol) : Bool :=
  m.required && m.type.isVolatileMarker

end ClrTypes
