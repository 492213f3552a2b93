import ClrTypes.Build
import ClrTypes.Symbol.Equality

namespace ClrTypes

structure Substitution where
  bindings : List (Binding Symbol)
deriving Repr

def Symbol.isOccurrence (serial : Nat) (p : Parameter) : Symbol → Bool
  | .parameter serial' p' =>
    serial == serial' && p.token == p'.token && p.name == p'.name && p.ordinal == p'.ordinal
  | _ => false

namespace Substitution

def ofLists (parameters : List Parameter) (arguments : List Symbol) : Except Fault Substitution :=
  if parameters.length = arguments.length then
    .ok ⟨Binding.align parameters arguments⟩
  else .error (.malformed (.argumentCount parameters.length arguments.length))

def identity (parameters : List Parameter) : Build Substitution := do
  return ⟨← parameters.mapM fun p => return ⟨p, ← Build.parameter p⟩⟩

def ofSymbol? (s : Symbol) : Option Substitution :=
  s.bindings?.map Substitution.mk

def parameters (m : Substitution) : List Parameter :=
  m.bindings.map (·.parameter)

def arguments (m : Substitution) : List Symbol :=
  m.bindings.map (·.argument)

theorem columns_of_ofLists {parameters : List Parameter} {arguments : List Symbol}
    {m : Substitution} (paired : ofLists parameters arguments = .ok m) :
    m.parameters = parameters ∧ m.arguments = arguments := by
  by_cases same : parameters.length = arguments.length
  · simp only [ofLists, same, if_true, Except.ok.injEq] at paired
    subst paired
    exact ⟨Binding.parameters_align same, Binding.arguments_align same⟩
  · simp [ofLists, same] at paired

def size (m : Substitution) : Nat :=
  m.bindings.length

def isEmpty (m : Substitution) : Bool :=
  m.bindings.isEmpty

def lookup? (m : Substitution) (p : Parameter) : Option Symbol :=
  (m.bindings.find? fun b => b.parameter == p).map (·.argument)

def take (m : Substitution) (count : Nat) : Substitution :=
  ⟨m.bindings.take count⟩

def beq (m n : Substitution) : Bool :=
  Symbol.beqBindings m.bindings n.bindings

instance : BEq Substitution := ⟨beq⟩

mutual

/-- The symbol with its parameters replaced, or nothing if that leaves it as it is. -/
def replace? (m : Substitution) : Symbol → Build (Option Symbol)
  | .array _ s rank dimensions modifiers => do
    match ← replace? m s with
    | none => return none
    | some s' => return some (.array (← Build.serial) s' rank dimensions modifiers)
  | .szArray _ s modifiers => do
    match ← replace? m s with
    | none => return none
    | some s' => return some (.szArray (← Build.serial) s' modifiers)
  | .pointer _ s modifiers => do
    match ← replace? m s with
    | none => return none
    | some s' => return some (.pointer (← Build.serial) s' modifiers)
  | .byRef _ s => do
    match ← replace? m s with
    | none => return none
    | some s' => return some (.byRef (← Build.serial) s')
  | .named .. => return none
  | .constructed _ d bindings => do
    match ← replaceArguments? m bindings with
    | none => return none
    | some bindings' => return some (.constructed (← Build.serial) d bindings')
  | .parameter serial p =>
    match m.lookup? p with
    | none => return none
    | some argument => return if argument.isOccurrence serial p then none else some argument
  | .unsupported .. => return none
  | .illegal _ s => do
    match ← replace? m s with
    | none => return none
    | some s' => return some (.illegal (← Build.serial) s')

def replaceArguments? (m : Substitution) :
    List (Binding Symbol) → Build (Option (List (Binding Symbol)))
  | [] => return none
  | ⟨p, argument⟩ :: rest => do
    let argument' ← replace? m argument
    let rest' ← replaceArguments? m rest
    match argument', rest' with
    | none, none => return none
    | _, _ => return some (⟨p, argument'.getD argument⟩ :: rest'.getD rest)

end

def apply (m : Substitution) (s : Symbol) : Build Symbol := do
  return (← m.replace? s).getD s

end Substitution

end ClrTypes
