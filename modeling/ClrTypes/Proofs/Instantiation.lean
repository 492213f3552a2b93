import ClrTypes.Instantiation
import ClrTypes.Proofs.Loading
import ClrTypes.Proofs.Nesting
import ClrTypes.Proofs.Symbol.Parts

/-!
# Outcomes of instantiation

What instantiating a symbol can lead to, and which constructed types it marks as illegal. Something
is built, there is nothing to instantiate, or something stands against it: the conditions of the
three are stated without the order of the checks, and one of them always holds.
-/

namespace ClrTypes

namespace Context

/-- A definition takes as many arguments as there are formals along its chain. What has no
definition takes none. -/
def Takes (ctx : Context) (count : Nat) : Option Definition → Prop
  | some d => ∃ formals, ctx.formals d = .ok formals ∧ formals.length = count
  | none => count = 0

structure Builds (ctx : Context) (generic : Symbol) (arguments : List Symbol) (d : Definition)
    (formals : List Parameter) : Prop where
  nominal : generic.definition? = some d
  sound : ∀ a ∈ arguments, a.isUnsupported = false
  walked : ctx.formals d = .ok formals
  takes : formals ≠ []
  arity : formals.length = arguments.length

inductive Returns (ctx : Context) (generic : Symbol) (arguments : List Symbol) : Prop
  | poisoned : generic.isUnsupported = true → Returns ctx generic arguments
  | bare : arguments = [] → (∀ d, generic.definition? = some d → ctx.formals d = .ok []) →
      Returns ctx generic arguments

inductive Refuses (ctx : Context) (generic : Symbol) (arguments : List Symbol) :
    Option Fault → Prop
  | poisoned : generic.isUnsupported = false → (∃ a ∈ arguments, a.isUnsupported = true) →
      Refuses ctx generic arguments none
  | notNominal : generic.isUnsupported = false → (∀ a ∈ arguments, a.isUnsupported = false) →
      generic.definition? = none → arguments ≠ [] →
      Refuses ctx generic arguments (some .notSupported)
  | tooDeep {d : Definition} {fault : Fault} : (∀ a ∈ arguments, a.isUnsupported = false) →
      generic.definition? = some d → ctx.formals d = .error fault →
      Refuses ctx generic arguments (some (.recursionLimit ctx.config.nestingDepth))
  | miscounted {d : Definition} {formals : List Parameter} :
      (∀ a ∈ arguments, a.isUnsupported = false) → generic.definition? = some d →
      ctx.formals d = .ok formals → formals.length ≠ arguments.length →
      Refuses ctx generic arguments none

theorem construct_yields (ctx : Context) (d : Definition) {formals : List Parameter}
    {arguments : List Symbol} (arity : formals.length = arguments.length) (illegal : Bool) :
    Build.Yields (fun s => ∃ n n', s =
      if illegal then .illegal n' (.constructed n d (Binding.align formals arguments))
      else .constructed n d (Binding.align formals arguments))
      (ctx.construct d formals arguments illegal) := by
  rw [construct, Substitution.ofLists, if_pos arity]
  refine (Build.constructed_yields _ _).bind ?_
  rintro _ ⟨n, rfl⟩
  cases illegal
  · exact .pure ⟨n, 0, rfl⟩
  · exact .after fun _ => .after fun n' => .pure ⟨n, n', rfl⟩

section Decision

variable {ctx : Context} {generic : Symbol} {arguments : List Symbol} {d : Definition}
  {formals : List Parameter}

theorem decided (ctx : Context) (generic : Symbol) (arguments : List Symbol) :
    ctx.Returns generic arguments ∨ (∃ cause, ctx.Refuses generic arguments cause) ∨
      ∃ d formals, ctx.Builds generic arguments d formals := by
  cases poisoned : generic.isUnsupported with
  | true => exact .inl (.poisoned poisoned)
  | false =>
    by_cases faulty : ∃ a ∈ arguments, a.isUnsupported = true
    · exact .inr (.inl ⟨none, .poisoned poisoned faulty⟩)
    have sound : ∀ a ∈ arguments, a.isUnsupported = false := by simpa using faulty
    cases nominal : generic.definition? with
    | none =>
        by_cases bare : arguments = []
        · exact .inl (.bare bare (by simp [nominal]))
        · exact .inr (.inl ⟨_, .notNominal poisoned sound nominal bare⟩)
    | some d =>
        cases walked : ctx.formals d with
        | error fault => exact .inr (.inl ⟨_, .tooDeep sound nominal walked⟩)
        | ok formals =>
            by_cases arity : formals.length = arguments.length
            · by_cases none : formals = []
              · subst none
                apply Or.inl
                apply Returns.bare (List.length_eq_zero_iff.mp arity.symm)
                intro e same
                rw [nominal, Option.some.injEq] at same
                exact same ▸ walked
              · exact .inr (.inr ⟨d, formals, nominal, sound, walked, none, arity⟩)
            · exact .inr (.inl ⟨none, .miscounted sound nominal walked arity⟩)

theorem instantiate_of_nominal (nominal : generic.definition? = some d)
    (sound : ∀ a ∈ arguments, a.isUnsupported = false) (flags : List Bool) :
    ctx.instantiate generic arguments flags =
      ctx.instantiateDefinition generic d arguments flags := by
  have plain : generic.isUnsupported = false := by
    rcases Symbol.eq_of_definition? nominal with ⟨n, rfl⟩ | ⟨n, bindings, rfl⟩ <;> rfl
  have none : arguments.any (·.isUnsupported) = false := by simpa using sound
  simp [instantiate, plain, none, nominal]

theorem Returns.instantiate_eq (returns : ctx.Returns generic arguments) (flags : List Bool) :
    ctx.instantiate generic arguments flags = pure generic := by
  cases returns with
  | poisoned poisoned => rw [instantiate, if_pos poisoned]
  | bare none formals =>
      subst none
      by_cases poisoned : generic.isUnsupported = true
      · rw [instantiate, if_pos poisoned]
      cases nominal : generic.definition? with
      | none => simp [instantiate, poisoned, nominal]
      | some d => simp [instantiate, instantiateDefinition, poisoned, nominal, formals d nominal]

theorem Builds.instantiate_eq (builds : ctx.Builds generic arguments d formals)
    (flags : List Bool) : ctx.instantiate generic arguments flags =
      ctx.construct d formals arguments (ctx.isIllegal d arguments flags) := by
  rw [instantiate_of_nominal builds.nominal builds.sound, instantiateDefinition]
  simp [builds.walked, builds.arity, builds.takes]

theorem Builds.outcome_eq (builds : ctx.Builds generic arguments d formals) (flags : List Bool)
    (p : Progress) : (ctx.instantiate generic arguments flags).outcome p =
      if ctx.isIllegal d arguments flags then
        .illegal (p.next + 1) (.constructed p.next d (Binding.align formals arguments))
      else .constructed p.next d (Binding.align formals arguments) := by
  rw [builds.instantiate_eq, construct, Substitution.ofLists, if_pos builds.arity]
  cases ctx.isIllegal d arguments flags <;> rfl

theorem Builds.stripped_eq (builds : ctx.Builds generic arguments d formals) (flags : List Bool)
    (p : Progress) : ((ctx.instantiate generic arguments flags).outcome p).stripped =
      .constructed p.next d (Binding.align formals arguments) := by
  rw [builds.outcome_eq]
  cases ctx.isIllegal d arguments flags <;> rfl

theorem Builds.next_le_serial (builds : ctx.Builds generic arguments d formals)
    (flags : List Bool) (p : Progress) :
    p.next ≤ ((ctx.instantiate generic arguments flags).outcome p).serial := by
  rw [builds.outcome_eq]
  cases ctx.isIllegal d arguments flags
  · exact Nat.le_refl _
  · exact Nat.le_succ _

theorem Refuses.outcome_eq {cause : Option Fault} (refuses : ctx.Refuses generic arguments cause)
    (flags : List Bool) (p : Progress) :
    (ctx.instantiate generic arguments flags).outcome p = .unsupported p.next cause := by
  cases refuses with
  | poisoned plain faulty =>
      have any : arguments.any (·.isUnsupported) = true := List.any_eq_true.mpr faulty
      simp only [instantiate, plain, any]
      rfl
  | notNominal plain sound nominal some =>
      have none : arguments.any (·.isUnsupported) = false := by simpa using sound
      simp [instantiate, plain, none, nominal, some]
      rfl
  | tooDeep sound nominal walked =>
      rw [instantiate_of_nominal nominal sound, instantiateDefinition, walked,
        (Hierarchy.formals_eq_error_iff.mp walked).2]
      rfl
  | miscounted sound nominal walked arity =>
      rw [instantiate_of_nominal nominal sound, instantiateDefinition]
      simp [walked, arity]
      rfl

end Decision

inductive Instantiated (ctx : Context) (generic : Symbol) (arguments : List Symbol)
    (flags : List Bool) : Symbol → Prop
  | refused (n : Nat) (cause : Option Fault) :
      ((∃ a ∈ arguments, a.isUnsupported = true) ∨
        ¬ ctx.Takes arguments.length generic.definition?) →
      Instantiated ctx generic arguments flags (.unsupported n cause)
  | kept : (generic.isUnsupported = false → arguments = [] ∧
      ∀ d, generic.definition? = some d → ctx.formals d = .ok []) →
      Instantiated ctx generic arguments flags generic
  | built {d : Definition} {formals : List Parameter} {s : Symbol} (n : Nat) :
      generic.definition? = some d → ctx.formals d = .ok formals → formals ≠ [] →
      formals.length = arguments.length → (∀ a ∈ arguments, a.isUnsupported = false) →
      s.stripped = .constructed n d (Binding.align formals arguments) →
      s.isIllegal = ctx.isIllegal d arguments flags →
      Instantiated ctx generic arguments flags s

theorem instantiate_yields (ctx : Context) (generic : Symbol) (arguments : List Symbol)
    (flags : List Bool) : Build.Yields (ctx.Instantiated generic arguments flags)
      (ctx.instantiate generic arguments flags) := by
  intro p
  rcases ctx.decided generic arguments with returns | ⟨cause, refuses⟩ | ⟨d, formals, builds⟩
  · rw [returns.instantiate_eq]
    cases returns with
    | poisoned poisoned => exact .kept (by simp [poisoned])
    | bare none formals => exact .kept fun _ => ⟨none, formals⟩
  · rw [refuses.outcome_eq]
    cases refuses with
    | poisoned _ faulty => exact .refused _ _ (.inl faulty)
    | notNominal _ _ nominal given =>
        exact .refused _ _ (.inr (by simpa [Takes, nominal] using given))
    | tooDeep _ nominal walked => exact .refused _ _ (.inr (by simp [Takes, nominal, walked]))
    | miscounted _ nominal walked arity =>
        exact .refused _ _ (.inr (by simpa [Takes, nominal, walked] using arity))
  · refine .built p.next builds.nominal builds.walked builds.takes builds.arity builds.sound
      (builds.stripped_eq flags p) ?_
    rw [builds.outcome_eq]
    cases ctx.isIllegal d arguments flags <;> rfl

theorem Instantiated.chained {ctx : Context} {generic : Symbol} {arguments : List Symbol}
    {flags : List Bool} {s : Symbol} (result : ctx.Instantiated generic arguments flags s)
    (bare : generic.stripped.isConstructed = false) (built : s.stripped.isConstructed = true) :
    ∃ d chain, generic.definition? = some d ∧ ctx.hierarchy.IsChain d chain := by
  cases result with
  | refused n cause => simp [Symbol.stripped, Symbol.isConstructed] at built
  | kept => simp [bare] at built
  | built n nominal walked =>
      obtain ⟨chain, chained, -⟩ := Hierarchy.isChain_of_formals walked
      exact ⟨_, chain, nominal, chained⟩

theorem mem_take_iff {α : Type} {xs : List α} {n : Nat} {x : α} :
    x ∈ xs.take n ↔ ∃ i, i < n ∧ xs[i]? = some x := by
  simp only [List.mem_iff_getElem?, List.getElem?_take, Option.ite_none_right_eq_some]

theorem interopGate_iff (ctx : Context) : ctx.interopGate = true ↔ ctx.config.checksInterop = true ∧
    (ctx.home.linked ≠ [] ∨ ctx.home.hasLocalTypes = true) := by
  simp [interopGate]

def ReachesLinked (ctx : Context) (s : Symbol) : Prop :=
  ∃ t d, Symbol.IsPartOf t s ∧ t.definition? = some d ∧
    ctx.home.linked.contains d.assembly = true

theorem hasIllegalArgument_iff {ctx : Context} {d : Definition} {chain : List Definition}
    {arguments : List Symbol} {flags : List Bool} (chained : ctx.hierarchy.IsChain d chain)
    (short : chain.length ≤ max ctx.config.nestingDepth 1)
    (arity : (Hierarchy.flattened chain).length = arguments.length) :
    ctx.hasIllegalArgument d arguments flags = true ↔
      ∃ i a, i < ctx.hierarchy.exposedCount chain ∧ arguments[i]? = some a ∧
        (flags[i]?.getD false = true ∨ ctx.ReachesLinked a) := by
  have checked : ctx.hierarchy.checkedCount ctx.config.nestingDepth d arguments.length =
      ctx.hierarchy.exposedCount chain := by
    rw [← arity]
    exact Hierarchy.checkedCount_chain chained short
  have bound : ctx.hierarchy.exposedCount chain ≤ arguments.length :=
    arity ▸ Hierarchy.exposedCount_le ctx.hierarchy chain
  simp only [hasIllegalArgument, checked, Bool.or_eq_true, List.any_eq_true, id_eq, mem_take_iff]
  constructor
  · rintro (⟨_, ⟨i, inside, found⟩, rfl⟩ | ⟨a, ⟨i, inside, found⟩, closed⟩)
    · have present : i < arguments.length := Nat.lt_of_lt_of_le inside bound
      exact ⟨i, arguments[i], inside, List.getElem?_eq_getElem present, .inl (by simp [found])⟩
    · exact ⟨i, a, inside, found, .inr (Symbol.isClosedOver_iff.mp closed)⟩
  · rintro ⟨i, a, inside, found, flag | closed⟩
    · refine .inl ⟨true, ⟨i, inside, ?_⟩, rfl⟩
      cases given : flags[i]? <;> simp_all
    · exact .inr ⟨a, ⟨i, inside, found⟩, Symbol.isClosedOver_iff.mpr closed⟩

theorem isIllegal_of_instantiated {ctx : Context} {generic : Symbol} {d : Definition}
    {chain : List Definition} {arguments : List Symbol} {flags : List Bool} {s : Symbol}
    (nominal : generic.definition? = some d) (chained : ctx.hierarchy.IsChain d chain)
    (result : ctx.Instantiated generic arguments flags s)
    (built : s.stripped.isConstructed = true) :
    s.isIllegal = true ↔ ctx.interopGate = true ∧
      ∃ i a, i < ctx.hierarchy.exposedCount chain ∧ arguments[i]? = some a ∧
        (flags[i]?.getD false = true ∨ ctx.ReachesLinked a) := by
  cases result with
  | refused n cause => simp [Symbol.stripped, Symbol.isConstructed] at built
  | kept rest =>
      -- the symbol itself comes back only if it takes no arguments, and then there is none to check
      rcases Symbol.eq_of_definition? nominal with ⟨n, rfl⟩ | ⟨n, bindings, rfl⟩ <;>
        simp [Symbol.isIllegal, (rest rfl).1]
  | built n same walked _ arity _ _ marked =>
      rw [nominal, Option.some.injEq] at same
      subst same
      obtain ⟨chain', chained', short, rfl⟩ := Hierarchy.isChain_of_formals walked
      rw [← chained.unique chained'] at short arity
      rw [marked, isIllegal, Bool.and_eq_true, hasIllegalArgument_iff chained short arity]

/-- A constructed type is marked exactly if the check is on, and an argument below the exposed count
is flagged or reaches a linked assembly. The arguments from there on make no difference. -/
theorem instantiate_marks (ctx : Context) {generic : Symbol} {d : Definition}
    {chain : List Definition} (nominal : generic.definition? = some d)
    (chained : ctx.hierarchy.IsChain d chain) (arguments : List Symbol) (flags : List Bool)
    (p : Progress) (built : ((ctx.instantiate generic arguments flags).outcome p).stripped.isConstructed = true) :
    (((ctx.instantiate generic arguments flags).outcome p).isIllegal = true ↔
      ctx.config.checksInterop = true ∧
        (ctx.home.linked ≠ [] ∨ ctx.home.hasLocalTypes = true) ∧
        ∃ i a, i < ctx.hierarchy.exposedCount chain ∧ arguments[i]? = some a ∧
          (flags[i]?.getD false = true ∨ ctx.ReachesLinked a)) ∧
      ∀ (arguments' : List Symbol) (flags' : List Bool) (q : Progress),
        ((ctx.instantiate generic arguments' flags').outcome q).stripped.isConstructed = true →
        (∀ i < ctx.hierarchy.exposedCount chain, arguments'[i]? = arguments[i]? ∧
          flags'[i]?.getD false = flags[i]?.getD false) →
        ((ctx.instantiate generic arguments' flags').outcome q).isIllegal =
          ((ctx.instantiate generic arguments flags).outcome p).isIllegal := by
  have rule (arguments : List Symbol) (flags : List Bool) (p : Progress)
      (built : ((ctx.instantiate generic arguments flags).outcome p).stripped.isConstructed) :=
    isIllegal_of_instantiated nominal chained (ctx.instantiate_yields generic arguments flags p)
      built
  constructor
  · rw [rule arguments flags p built, interopGate_iff, and_assoc]
  · intro arguments' flags' q built' agree
    rw [Bool.eq_iff_iff, rule arguments' flags' q built', rule arguments flags p built]
    refine and_congr_right fun _ => exists_congr fun i => exists_congr fun a => ?_
    refine and_congr_right fun inside => ?_
    rw [(agree i inside).1, (agree i inside).2]

end Context

/-!
## A sample

`Point`, `Box<T>` with the interface `View<U>` in it, `Shape` of a linked assembly, and `Lens<T>`,
which is a local copy of an embedded interop type.
-/

namespace Sample

def define (row : UInt32) (name assembly : String) (flags : Attributes)
    (parameters : List Parameter) (isLocal : Bool) : Definition where
  serial := row.toNat
  token := .ofParts Token.typeDefTable row
  space := "Sample"
  name
  flags
  assembly := ⟨assembly, .zero, none⟩
  parameters
  special := none
  isLocal

def point : Definition := define 1 "Point" "App" .none [] false

def box : Definition := define 2 "Box" "App" .none [⟨⟨0x2A000001⟩, "T", 0⟩] false

def view : Definition := define 3 "View" "App" (.only .interface) [⟨⟨0x2A000002⟩, "U", 0⟩] false

def shape : Definition := define 4 "Shape" "Interop" (.only .interface) [] false

def lens : Definition := define 5 "Lens" "App" .none [⟨⟨0x2A000003⟩, "T", 0⟩] true

def context : Context where
  home :=
    { assembly := point.assembly
      linked := [shape.assembly]
      hasLocalTypes := true
      definitions := [point, box, view, shape, lens]
      names := [("Sample.Point", point), ("Sample.Box", box), ("Sample.Box+View", view),
        ("Sample.Shape", shape), ("Sample.Lens", lens)] }
  hierarchy := { entries := [(view.serial, { container := some box })] }
  config := {}

theorem isLoaded : context.home.IsLoaded := by
  have linked := (Module.IsLoaded.empty point.assembly).link shape.assembly
  have one := linked.register context.hierarchy point {} rfl
  have two := one.register context.hierarchy box {} rfl
  have three := two.register context.hierarchy view {} rfl
  have four := three.register context.hierarchy shape {} rfl
  exact four.register context.hierarchy lens {} rfl

end Sample

theorem Context.instantiate_view_marks :
    ((Sample.context.instantiate (.named 0 Sample.view)
      [.szArray 1 (.named 2 Sample.shape) [], .named 3 Sample.point] []).outcome {}).isIllegal =
        true ∧
    ((Sample.context.instantiate (.named 0 Sample.view)
      [.szArray 1 (.named 2 Sample.shape) [], .named 3 Sample.shape]
      [false, true]).outcome {}).isIllegal = true := by
  have chained : Sample.context.hierarchy.IsChain Sample.view [Sample.view, Sample.box] :=
    .nested rfl (.outermost rfl)
  have nominal : (Symbol.named 0 Sample.view).definition? = some Sample.view := rfl
  have rule := instantiate_marks Sample.context nominal chained
    [.szArray 1 (.named 2 Sample.shape) [], .named 3 Sample.point] [] {} (by decide)
  have reaches : Sample.context.ReachesLinked (.szArray 1 (.named 2 Sample.shape) []) :=
    Symbol.isClosedOver_iff.mp (by decide)
  have marked := rule.1.mpr ⟨rfl, .inr rfl, 0, _, by decide, rfl, .inr reaches⟩
  refine ⟨marked, (rule.2 _ _ {} (by decide) ?_).trans marked⟩
  intro i inside
  have first : i = 0 := Nat.lt_one_iff.mp inside
  subst first
  exact ⟨rfl, rfl⟩

end ClrTypes
