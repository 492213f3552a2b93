import ClrTypes.Proofs.Resolution.View

namespace ClrTypes

def Context.withChecks (ctx : Context) (checks : Bool) : Context :=
  { ctx with config := { ctx.config with checksInterop := checks } }

namespace Symbol

def components : Symbol → List Symbol
  | .array _ s _ _ modifiers | .szArray _ s modifiers | .pointer _ s modifiers =>
    s :: modifiers.map (·.type)
  | s => s.parts

def IsWithin (t s : Symbol) : Prop :=
  Relation.ReflTransGen (fun u v => u ∈ v.components) t s

theorem isWithin_iff {t s : Symbol} : t.IsWithin s ↔ t = s ∨ ∃ u ∈ s.components, t.IsWithin u := by
  rw [IsWithin, Relation.ReflTransGen.cases_tail_iff, eq_comm]
  simp only [IsWithin, and_comm]

/-- All illegal markers within the symbol are markers within the symbols of a scope. -/
def BringsMarkers (scope : List Symbol) (s : Symbol) : Prop :=
  ∀ t : Symbol, t.IsWithin s → t.isIllegal = true → ∃ a ∈ scope, t.IsWithin a

variable {scope : List Symbol} {s t : Symbol}

theorem bringsMarkers_of_mem (member : s ∈ scope) : BringsMarkers scope s :=
  fun _ within _ => ⟨s, member, within⟩

theorem bringsMarkers_of_components (unmarked : s.isIllegal = false)
    (rest : ∀ u ∈ s.components, BringsMarkers scope u) : BringsMarkers scope s := by
  intro t within marked
  rcases isWithin_iff.mp within with rfl | ⟨u, member, inner⟩
  · simp [unmarked] at marked
  · exact rest u member t inner marked

theorem bringsMarkers_named (n : Nat) (d : Definition) : BringsMarkers scope (.named n d) :=
  bringsMarkers_of_components rfl (by simp [components, parts])

theorem bringsMarkers_unsupported (n : Nat) (cause : Option Fault) :
    BringsMarkers scope (.unsupported n cause) :=
  bringsMarkers_of_components rfl (by simp [components, parts])

theorem bringsMarkers_of_sameRoot (same : s.SameRoot t) : BringsMarkers scope s := by
  rcases same with ⟨n, _, d, rfl, -⟩ | ⟨n, _, cause, rfl, -⟩
  · exact bringsMarkers_named n d
  · exact bringsMarkers_unsupported n cause

theorem bringsMarkers_of_alike {ms ns : List (Modifier Symbol)}
    (alike : List.Forall₂ Modifier.IsAlike ms ns) :
    ∀ t ∈ ms.map (·.type), BringsMarkers scope t := by
  induction alike with
  | nil => simp
  | cons first _ ih =>
      obtain ⟨-, n, _, d, type, -⟩ := first
      rw [List.map_cons, List.forall_mem_cons, type]
      exact ⟨bringsMarkers_named n d, ih⟩

end Symbol

namespace Build

open ClrTypes.Symbol (BringsMarkers)

variable {scope : List Symbol} {s : Symbol}

theorem Formed.bringsMarkers {make : Nat → Symbol} {t : Symbol} (result : Formed s make t)
    (inner : BringsMarkers scope s) (unmarked : ∀ n, (make n).isIllegal = false)
    (rest : ∀ n, ∀ u ∈ (make n).components, u = s ∨ BringsMarkers scope u) :
    BringsMarkers scope t := by
  cases result with
  | forwarded => exact inner
  | formed n =>
      refine Symbol.bringsMarkers_of_components (unmarked n) fun u member => ?_
      rcases rest n u member with rfl | brought
      · exact inner
      · exact brought

theorem pointer_bringsMarkers {modifiers : List (Modifier Symbol)} (inner : BringsMarkers scope s)
    (types : ∀ t ∈ modifiers.map (·.type), BringsMarkers scope t) :
    Yields (BringsMarkers scope) (pointer s modifiers) := by
  refine (pointer_yields s modifiers).mono fun t result => ?_
  refine result.bringsMarkers inner (fun _ => rfl) fun n u member => ?_
  exact (List.mem_cons.mp member).imp_right (types u)

theorem szArray_bringsMarkers {modifiers : List (Modifier Symbol)} (inner : BringsMarkers scope s)
    (types : ∀ t ∈ modifiers.map (·.type), BringsMarkers scope t) :
    Yields (BringsMarkers scope) (szArray s modifiers) := by
  refine (szArray_yields s modifiers).mono fun t result => ?_
  refine result.bringsMarkers inner (fun _ => rfl) fun n u member => ?_
  exact (List.mem_cons.mp member).imp_right (types u)

theorem array_bringsMarkers (h : Hierarchy) (inner : BringsMarkers scope s) (rank : UInt32)
    (dimensions : List Dimension) :
    Yields (BringsMarkers scope) (array h s rank dimensions []) := by
  refine (array_yields h s rank dimensions []).mono fun t result => ?_
  cases result with
  | refused n cause => exact Symbol.bringsMarkers_unsupported n cause
  | made _ result =>
      refine result.bringsMarkers inner (fun _ => rfl) fun n u member => ?_
      exact (List.mem_cons.mp member).imp_right (by simp)

theorem byRef_bringsMarkers (inner : BringsMarkers scope s) :
    Yields (BringsMarkers scope) (byRef s) := by
  refine .after fun n => .pure (Symbol.bringsMarkers_of_components rfl ?_)
  simpa [Symbol.components, Symbol.parts] using inner

end Build

namespace Context

open ClrTypes.Symbol (BringsMarkers)

variable {ctx : Context} {scope : List Symbol} {s : Signature}

theorem isIllegal_of_unchecked (off : ctx.config.checksInterop = false) (d : Definition)
    (arguments : List Symbol) (flags : List Bool) : ctx.isIllegal d arguments flags = false := by
  simp [isIllegal, interopGate, off]

theorem instantiate_bringsMarkers (off : ctx.config.checksInterop = false) {generic : Symbol}
    {arguments : List Symbol} (base : BringsMarkers scope generic)
    (each : ∀ a ∈ arguments, BringsMarkers scope a) (flags : List Bool) :
    Build.Yields (BringsMarkers scope) (ctx.instantiate generic arguments flags) := by
  refine (ctx.instantiate_yields generic arguments flags).mono fun s result => ?_
  cases result with
  | refused n cause => exact Symbol.bringsMarkers_unsupported n cause
  | kept => exact base
  | @built d formals s n _ _ _ arity _ stripped marked =>
      rw [isIllegal_of_unchecked off] at marked
      refine Symbol.bringsMarkers_of_components marked ?_
      obtain rfl : s = .constructed n d (Binding.align formals arguments) := by
        cases s <;> simp_all [Symbol.isIllegal, Symbol.stripped]
      simp only [Symbol.components, Symbol.parts, Binding.arguments_align arity]
      exact each

theorem resolve_bringsMarkers (ctx : Context) (loaded : ctx.home.IsLoaded)
    (off : ctx.config.checksInterop = false) (scope : List Symbol) (s : Signature) :
    Build.Yields (BringsMarkers scope) (ctx.resolve scope s) := by
  have sim : Simulates ctx ctx scope scope (fun _ => True) (fun s _ => s.BringsMarkers scope) :=
    { types := fun _ _ _ _ => rfl
      named := fun n _ d _ _ => Symbol.bringsMarkers_named n d
      fault := fun n _ cause => Symbol.bringsMarkers_unsupported n cause
      special := fun type _ => (Module.special_relates loaded type.special).mono fun _ _ same =>
        Symbol.bringsMarkers_of_sameRoot same
      parameter := fun i => (resolveParameter_yields
        (fun _ member => Symbol.bringsMarkers_of_mem member)
        Symbol.bringsMarkers_unsupported i).relates
      pointer := fun _ _ _ _ inner alike =>
        (Build.pointer_bringsMarkers inner (Symbol.bringsMarkers_of_alike alike)).relates
      szArray := fun _ _ _ _ inner alike =>
        (Build.szArray_bringsMarkers inner (Symbol.bringsMarkers_of_alike alike)).relates
      array := fun _ _ _ rank dimensions _ inner =>
        (Build.array_bringsMarkers ctx.hierarchy inner rank dimensions).relates
      byRef := fun _ _ inner => (Build.byRef_bringsMarkers inner).relates
      generic := fun _ _ ss ts flags _ _ _ base _ each => by
        have paired := each.imp fun _ _ inner => And.intro inner True.intro
        exact (instantiate_bringsMarkers off base
          ((List.forall₂_and_left ss ts).mp paired).1 flags).relates }
  exact (sim.resolve (.same rfl rfl) fun _ _ => True.intro).yields

theorem resolve_unmarked (ctx : Context) (checks checks' : Bool) (scope : List Symbol)
    (nominal : ∀ base parts, Signature.IsPartOf (.generic base parts) s → base.isNominal = true) :
    Build.Relates (fun t t' => t.unmarked = t'.unmarked)
      ((ctx.withChecks checks).resolve scope s) ((ctx.withChecks checks').resolve scope s) := by
  have v := Symbol.bare_isView false
  have sim : Simulates (ctx.withChecks checks) (ctx.withChecks checks') scope scope
      (fun t => t.IsPartOf s) (Symbol.SeenAlike (Symbol.bare false) (Symbol.bare false)) := by
    refine simulates_of_views v v (fun _ => rfl) (fun _ => rfl) (special_seenAlike v ctx.home)
      (parameter_seenAlike v scope) ?_ ?_ nofun
    · -- the one message that shows a symbol is that of rank 0, and markers are not shown
      intro _ _ _ a b alike
      rw [← Symbol.display_bare _ false, alike.1, Symbol.display_bare]
      rfl
    · intro base parts part a b _ root
      rcases root (nominal base parts part) with ⟨_, _, d, rfl, rfl⟩ | ⟨_, _, cause, rfl, rfl⟩
      · rfl
      · rfl
  exact (sim.resolve (.same rfl rfl) fun _ part => part).mono fun _ _ alike => alike.1

/-- The interop check changes nothing but illegal markers, and without it a signature resolves to no
markers but those within the scope. -/
theorem resolve_checks {ctx : Context} (loaded : ctx.home.IsLoaded) (scope : List Symbol)
    {s : Signature}
    (nominal : ∀ base parts, Signature.IsPartOf (.generic base parts) s → base.isNominal = true)
    (p q : Progress) :
    (((ctx.withChecks true).resolve scope s).outcome p).unmarked =
        (((ctx.withChecks false).resolve scope s).outcome q).unmarked ∧
      ∀ t : Symbol, t.IsWithin (((ctx.withChecks false).resolve scope s).outcome q) →
        t.isIllegal = true → ∃ a ∈ scope, t.IsWithin a := by
  constructor
  · exact ctx.resolve_unmarked true false scope nominal p q
  · exact resolve_bringsMarkers (ctx.withChecks false) loaded rfl scope s q

theorem resolve_box_of_shapes_checks :
    let s : Signature :=
      .generic (.classType Sample.box.token) [.szArray (.classType Sample.shape.token) []]
    let checked := ((Sample.context.withChecks true).resolve [] s).outcome {}
    let unchecked := ((Sample.context.withChecks false).resolve [] s).outcome {}
    checked.isIllegal = true ∧ checked.unmarked = unchecked.unmarked ∧
      ∀ t : Symbol, t.IsWithin unchecked → t.isIllegal = false := by
  intro s checked unchecked
  have bases : s.hasNominalBases = true := rfl
  obtain ⟨same, brought⟩ := resolve_checks Sample.isLoaded []
    (fun _ _ part => Signature.isNominal_of_hasNominalBases bases part) {} {}
  refine ⟨by decide, same, fun t within => ?_⟩
  rw [← Bool.not_eq_true]
  intro marked
  obtain ⟨a, member, -⟩ := brought t within marked
  simp at member

end Context

end ClrTypes
