import ClrTypes.Proofs.Instantiation
import Mathlib.Algebra.GroupWithZero.Nat

namespace ClrTypes

namespace Hierarchy

variable {h : Hierarchy} {d : Definition}

theorem tooDeep_max_iff (limit : Nat) :
    h.TooDeep (max limit 1) d ↔ h.TooDeep limit d ∧ (limit ≠ 0 ∨ (h.container? d).isSome = true) := by
  cases limit with
  | zero =>
      constructor
      · intro deep
        refine ⟨fun chain chained => chained.length_pos, .inr ?_⟩
        rw [Option.isSome_iff_ne_none]
        intro top
        exact absurd (deep _ (.outermost top)) (Nat.lt_irrefl 1)
      · rintro ⟨-, unlimited | inside⟩ chain chained
        · exact absurd rfl unlimited
        · cases chained with
          | outermost top => simp [top] at inside
          | nested _ rest => exact Nat.succ_lt_succ rest.length_pos
  | succ limit => simp

/-- The legality check goes outwards from a definition, past nested interfaces, to where it stops. -/
inductive Exempts (h : Hierarchy) : Definition → List Definition → Definition → Prop
  | here (d : Definition) : Exempts h d [] d
  | outward {d c stop : Definition} {ds : List Definition} : d.isInterface = true →
      h.container? d = some c → Exempts h c ds stop → Exempts h d (d :: ds) stop

theorem checkedCount_ends (h : Hierarchy) (room : Nat) (d : Definition) (count : Nat) :
    ∃ exempt stop, h.Exempts d exempt stop ∧ exempt.length ≤ room ∧
      (exempt.length = room ∨ h.isNestedInterface stop = false) ∧
      h.checkedCount room d count = count - (exempt.map (·.arity)).sum := by
  induction room generalizing d count with
  | zero => exact ⟨[], d, .here d, Nat.le_refl 0, .inl rfl, rfl⟩
  | succ room ih =>
      rw [checkedCount]
      by_cases interface : d.isInterface = true
      · rw [if_pos interface]
        cases inside : h.container? d with
        | none =>
            refine ⟨[], d, .here d, Nat.zero_le _, .inr ?_, rfl⟩
            simp [isNestedInterface, inside]
        | some c =>
            obtain ⟨exempt, stop, walk, short, ends, left⟩ := ih c (count - d.arity)
            refine ⟨d :: exempt, stop, .outward interface inside walk, ?_, ?_, ?_⟩
            · exact Nat.succ_le_succ short
            · exact ends.imp_left (congrArg Nat.succ)
            · simp only [left, List.map_cons, List.sum_cons, Nat.sub_sub]
      · rw [if_neg interface]
        refine ⟨[], d, .here d, Nat.zero_le _, .inr ?_, rfl⟩
        simp [isNestedInterface, interface]

end Hierarchy

namespace Context

variable {ctx : Context}

theorem instantiateDefinition_causeless {generic : Symbol} {d : Definition}
    (nominal : generic.definition? = some d) {formals : List Parameter}
    (walked : ctx.formals d = .ok formals) (arguments : List Symbol) (flags : List Bool) :
    Build.Yields (fun s => s.cause? = none)
      (ctx.instantiateDefinition generic d arguments flags) := by
  simp only [instantiateDefinition, walked]
  split
  · refine .after fun _ => (Build.unsupported_yields none).mono ?_
    rintro _ ⟨n, rfl⟩
    rfl
  rename_i arity
  split
  · apply Build.Yields.pure
    rcases Symbol.eq_of_definition? nominal with ⟨n, rfl⟩ | ⟨n, bindings, rfl⟩ <;> rfl
  · refine (ctx.construct_yields d (not_not.mp arity) _).mono ?_
    rintro _ ⟨n, n', rfl⟩
    split <;> rfl

/-- An instantiation ends in a new symbol for the limit exactly if the chain of the definition is too
deep, save that limit 0 is not noticed without a container. Before that the legality check ends. -/
theorem instantiate_tooDeep_iff (ctx : Context) {generic : Symbol} {d : Definition}
    (nominal : generic.definition? = some d) {arguments : List Symbol}
    (sound : ∀ a ∈ arguments, a.isUnsupported = false) (flags : List Bool) :
    (ctx.instantiate generic arguments flags =
        Build.unsupported (some (.recursionLimit ctx.config.nestingDepth)) ↔
      ctx.hierarchy.TooDeep ctx.config.nestingDepth d ∧
        (ctx.config.nestingDepth ≠ 0 ∨ (ctx.hierarchy.container? d).isSome = true)) ∧
    ∃ exempt stop, ctx.hierarchy.Exempts d exempt stop ∧
      exempt.length ≤ ctx.config.nestingDepth ∧
      (exempt.length = ctx.config.nestingDepth ∨
        ctx.hierarchy.isNestedInterface stop = false) ∧
      ctx.hierarchy.checkedCount ctx.config.nestingDepth d arguments.length =
        arguments.length - (exempt.map (·.arity)).sum := by
  refine ⟨?_, ctx.hierarchy.checkedCount_ends _ d _⟩
  rw [← Hierarchy.tooDeep_max_iff, instantiate_of_nominal nominal sound]
  constructor
  · intro refused
    cases walked : ctx.formals d with
    | error fault => exact (Hierarchy.formals_eq_error_iff.mp walked).1
    | ok formals =>
        have causeless := instantiateDefinition_causeless nominal walked arguments flags {}
        rw [refused] at causeless
        cases causeless
  · intro deep
    have walked : ctx.formals d = .error (.recursionLimit ctx.config.nestingDepth) :=
      Hierarchy.formals_eq_error_iff.mpr ⟨deep, rfl⟩
    simp only [instantiateDefinition, walked]

theorem instantiate_view_tooDeep :
    let shallow : Context := { Sample.context with config := { nestingDepth := 1 } }
    let cyclic : Context := { Sample.context with hierarchy :=
      { entries := [(Sample.view.serial, { container := some Sample.box }),
        (Sample.box.serial, { container := some Sample.view })] } }
    let arguments : List Symbol := [.named 1 Sample.point, .named 2 Sample.point]
    shallow.instantiate (.named 0 Sample.view) arguments [] =
        Build.unsupported (some (.recursionLimit 1)) ∧
      cyclic.instantiate (.named 0 Sample.view) arguments [] =
        Build.unsupported (some (.recursionLimit 64)) := by
  intro shallow cyclic arguments
  have nominal : (Symbol.named 0 Sample.view).definition? = some Sample.view := rfl
  have sound : ∀ a ∈ arguments, a.isUnsupported = false := by decide
  constructor
  · refine (instantiate_tooDeep_iff shallow nominal sound []).1.mpr ⟨?_, .inl (by decide)⟩
    intro chain chained
    obtain rfl := chained.unique (.nested rfl (.outermost rfl))
    decide
  · refine (instantiate_tooDeep_iff cyclic nominal sound []).1.mpr ⟨?_, .inl (by decide)⟩
    have around : Relation.TransGen (fun a b => cyclic.hierarchy.container? a = some b)
        Sample.view Sample.view := .tail (.single (b := Sample.box) rfl) rfl
    exact Hierarchy.tooDeep_of_cycle _ around around

/-- Under limit 0 there is room for no chain, and yet `Box<Point>` is built. -/
theorem instantiate_box_unlimited :
    let ctx : Context := { Sample.context with config := { nestingDepth := 0 } }
    ctx.hierarchy.TooDeep ctx.config.nestingDepth Sample.box ∧
      ((ctx.instantiate (.named 0 Sample.box) [.named 1 Sample.point] []).outcome
        {}).isConstructed = true := by
  intro ctx
  exact ⟨fun _ chained => chained.length_pos, by decide⟩

end Context

end ClrTypes
