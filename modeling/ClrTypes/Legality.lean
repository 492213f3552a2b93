import ClrTypes.Context
import ClrTypes.Symbol.Closure

/-!
# Legality of generic instantiations

Interop types that are embedded into several assemblies cannot be told to be the same type where
they are generic arguments. An instantiation over one is illegal, save for the trailing arguments
that belong to interfaces nested in other types.
-/

namespace ClrTypes

/-- How many of `remaining` leading arguments are checked: while the type is a nested interface, its
own arguments are exempt and its container is next, for at most `room` steps. -/
def Hierarchy.checkedCount (h : Hierarchy) : (room : Nat) → Definition → (remaining : Nat) → Nat
  | 0, _, remaining => remaining
  | room + 1, d, remaining =>
    if d.isInterface then
      match h.container? d with
      | some c => checkedCount h room c (remaining - d.arity)
      | none => remaining
    else remaining

theorem Hierarchy.checkedCount_le (h : Hierarchy) (room : Nat) (d : Definition) (remaining : Nat) :
    h.checkedCount room d remaining ≤ remaining := by
  induction room generalizing d remaining with
  | zero => simp [checkedCount]
  | succ room ih =>
      rw [checkedCount]
      split
      · split
        · exact Nat.le_trans (ih _ _) (Nat.sub_le _ _)
        · exact Nat.le_refl _
      · exact Nat.le_refl _

namespace Context

def interopGate (ctx : Context) : Bool :=
  ctx.config.checksInterop && (!ctx.home.linked.isEmpty || ctx.home.hasLocalTypes)

/-- Does a checked argument refer to a local type or is it closed over a linked assembly? An
argument without a flag refers to none. -/
def hasIllegalArgument (ctx : Context) (d : Definition) (arguments : List Symbol)
    (flags : List Bool) : Bool :=
  let checked := ctx.hierarchy.checkedCount ctx.config.nestingDepth d arguments.length
  (flags.take checked).any id ||
    (arguments.take checked).any fun a => a.isClosedOver ctx.home.linked

def isIllegal (ctx : Context) (d : Definition) (arguments : List Symbol) (flags : List Bool) :
    Bool :=
  ctx.interopGate && ctx.hasIllegalArgument d arguments flags

end Context

end ClrTypes
