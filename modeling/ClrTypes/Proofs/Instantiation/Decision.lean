import ClrTypes.Proofs.Instantiation

namespace ClrTypes.Context

variable {ctx : Context} {generic s : Symbol} {arguments : List Symbol} {d : Definition}
  {formals : List Parameter} {p : Progress}

inductive Ended (ctx : Context) (generic : Symbol) (arguments : List Symbol) (p : Progress) :
    Symbol → Prop
  | returned : ctx.Returns generic arguments → Ended ctx generic arguments p generic
  | refused {cause : Option Fault} : ctx.Refuses generic arguments cause →
      Ended ctx generic arguments p (.unsupported p.next cause)
  | built {d : Definition} {formals : List Parameter} {s : Symbol} :
      ctx.Builds generic arguments d formals → p.next ≤ s.serial →
      s.stripped = .constructed p.next d (Binding.align formals arguments) →
      Ended ctx generic arguments p s

theorem instantiate_ended (ctx : Context) (generic : Symbol) (arguments : List Symbol)
    (flags : List Bool) (p : Progress) :
    ctx.Ended generic arguments p ((ctx.instantiate generic arguments flags).outcome p) := by
  rcases ctx.decided generic arguments with returns | ⟨cause, refuses⟩ | ⟨d, formals, builds⟩
  · rw [returns.instantiate_eq]
    exact .returned returns
  · rw [refuses.outcome_eq]
    exact .refused refuses
  · exact .built builds (builds.next_le_serial flags p) (builds.stripped_eq flags p)

theorem not_isSameNode (used : generic.serial < p.next) (new : p.next ≤ s.serial) :
    s.isSameNode generic = false := by
  have other : s.serial ≠ generic.serial := by omega
  simpa [Symbol.isSameNode] using other

theorem Ended.one_of_three (ended : ctx.Ended generic arguments p s)
    (used : generic.serial < p.next) :
    s.stripped.isConstructed = true ∧ s.isSameNode generic = false ∨ s = generic ∨
      ∃ n cause, s = .unsupported n cause ∧ p.next ≤ n := by
  cases ended with
  | returned => exact .inr (.inl rfl)
  | refused => exact .inr (.inr ⟨_, _, rfl, Nat.le_refl _⟩)
  | built _ new stripped =>
      apply Or.inl
      constructor
      · rw [stripped]
        rfl
      · exact not_isSameNode used new

theorem Ended.builds (ended : ctx.Ended generic arguments p s)
    (constructed : s.stripped.isConstructed = true) (new : s ≠ generic) :
    ∃ d formals, ctx.Builds generic arguments d formals := by
  cases ended with
  | returned => exact absurd rfl new
  | refused => simp [Symbol.stripped, Symbol.isConstructed] at constructed
  | built builds => exact ⟨_, _, builds⟩

theorem Ended.returns (ended : ctx.Ended generic arguments p s) (used : generic.serial < p.next)
    (same : s.isSameNode generic = true) : ctx.Returns generic arguments := by
  cases ended with
  | returned returns => exact returns
  | refused =>
      rw [not_isSameNode used (Nat.le_refl _)] at same
      contradiction
  | built _ new =>
      rw [not_isSameNode used new] at same
      contradiction

theorem Ended.refuses {n : Nat} {cause : Option Fault} (ended : ctx.Ended generic arguments p s)
    (same : s = .unsupported n cause) : s = generic ∨ ctx.Refuses generic arguments cause := by
  cases ended with
  | returned => exact .inl rfl
  | refused refuses =>
      obtain ⟨-, rfl⟩ := Symbol.unsupported.inj same
      exact .inr refuses
  | built _ _ stripped =>
      rw [same] at stripped
      cases stripped

theorem Builds.pairs (builds : ctx.Builds generic arguments d formals) :
    ∃ m, Substitution.ofLists formals arguments = .ok m ∧
      m.bindings = Binding.align formals arguments ∧ m.parameters = formals ∧
      m.arguments = arguments := by
  have paired : Substitution.ofLists formals arguments = .ok _ := if_pos builds.arity
  obtain ⟨parameters, values⟩ := Substitution.columns_of_ofLists paired
  exact ⟨_, paired, rfl, parameters, values⟩

/-- An instantiation gives a new constructed type, the generic symbol itself or a new symbol for a
fault, each exactly under its conditions. What is built takes the very arguments, and those that the
generic symbol has already play no part. Parameters and arguments always pair up. The generic symbol
was built before, so its serial number is in use. -/
theorem instantiate_decides (ctx : Context) {generic : Symbol} (arguments : List Symbol)
    (flags : List Bool) {p : Progress} (used : generic.serial < p.next) :
    let s := (ctx.instantiate generic arguments flags).outcome p
    (s.stripped.isConstructed = true ∧ s.isSameNode generic = false ∨ s = generic ∨
      ∃ n cause, s = .unsupported n cause ∧ p.next ≤ n) ∧
    (s.stripped.isConstructed = true ∧ s.isSameNode generic = false ↔
      ∃ d formals, ctx.Builds generic arguments d formals) ∧
    (∀ d formals, ctx.Builds generic arguments d formals →
      (∃ n m, s.stripped = .constructed n d m.bindings ∧ p.next ≤ n ∧
        Substitution.ofLists formals arguments = .ok m ∧ m.parameters = formals ∧
        m.arguments = arguments) ∧
      ∀ other, other.definition? = some d →
        ctx.instantiate other arguments flags = ctx.instantiate generic arguments flags) ∧
    (s.isSameNode generic = true ↔ ctx.Returns generic arguments) ∧
    (ctx.Returns generic arguments → s = generic) ∧
    (∀ cause, (∃ n, s = .unsupported n cause ∧ p.next ≤ n) ↔
      ctx.Refuses generic arguments cause) ∧
    ∀ n expected given, s = .unsupported n (some (.malformed (.argumentCount expected given))) →
      s = generic := by
  intro s
  have ended : ctx.Ended generic arguments p s := ctx.instantiate_ended _ _ flags p
  have returned (returns : ctx.Returns generic arguments) : s = generic := by
    show (ctx.instantiate generic arguments flags).outcome p = generic
    rw [returns.instantiate_eq]
    rfl
  refine ⟨ended.one_of_three used, ⟨?_, ?_⟩, ?_, ⟨ended.returns used, ?_⟩, returned, ?_, ?_⟩
  · rintro ⟨constructed, new⟩
    apply ended.builds constructed
    intro same
    simp [same, Symbol.isSameNode] at new
  · rintro ⟨d, formals, builds⟩
    constructor
    · rw [show s.stripped = _ from builds.stripped_eq flags p]
      rfl
    · exact not_isSameNode used (builds.next_le_serial flags p)
  · intro d formals builds
    obtain ⟨m, paired, bindings, columns⟩ := builds.pairs
    constructor
    · exact ⟨p.next, m, bindings ▸ builds.stripped_eq flags p, Nat.le_refl _, paired, columns⟩
    · intro other nominal
      have again : ctx.Builds other arguments d formals := { builds with nominal }
      rw [again.instantiate_eq, builds.instantiate_eq]
  · intro returns
    simp [returned returns, Symbol.isSameNode]
  · intro cause
    constructor
    · rintro ⟨n, same, new⟩
      rcases ended.refuses same with kept | refuses
      · rw [← kept, same] at used
        exact absurd used (Nat.not_lt.mpr new)
      · exact refuses
    · intro refuses
      exact ⟨p.next, refuses.outcome_eq flags p, Nat.le_refl _⟩
  · intro n expected given same
    rcases ended.refuses same with kept | refuses
    · exact kept
    · cases refuses

theorem instantiate_view_decides :
    let formals := Sample.box.parameters ++ Sample.view.parameters
    let generic : Symbol := .constructed 2 Sample.view
      (Binding.align formals [.named 0 Sample.point, .named 1 Sample.lens])
    let arguments : List Symbol := [.named 3 Sample.shape, .named 0 Sample.point]
    let s := (Sample.context.instantiate generic arguments []).outcome { next := 4 }
    generic.serial < 4 ∧ s.isIllegal = true ∧ s.isSameNode generic = false ∧
      s.stripped.definition? = some Sample.view ∧ s.stripped.arguments? = some arguments := by
  intro formals generic arguments s
  have builds : Sample.context.Builds generic arguments Sample.view formals :=
    { nominal := rfl, sound := by decide, walked := rfl, takes := nofun, arity := rfl }
  have used : generic.serial < Progress.next { next := 4 } := by decide
  obtain ⟨-, built, taken, -⟩ := Sample.context.instantiate_decides arguments [] used
  obtain ⟨⟨n, m, stripped, -, -, -, columns⟩, -⟩ := taken _ _ builds
  refine ⟨used, by decide, (built.mpr ⟨_, _, builds⟩).2, ?_, ?_⟩
  · rw [show s.stripped = _ from stripped]
    rfl
  · rw [show s.stripped = _ from stripped]
    exact congrArg some columns

end ClrTypes.Context
