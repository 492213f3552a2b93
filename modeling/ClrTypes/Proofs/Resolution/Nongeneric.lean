import ClrTypes.Proofs.Resolution.Legality

namespace ClrTypes.Context

variable {ctx : Context} {scope : List Symbol} {base : Signature} {arguments : List Signature}

def IsResolved (ctx : Context) (scope : List Symbol) (q : Progress) (s : Symbol) (a : Signature) :
    Prop :=
  s.unnumbered = ((ctx.resolve scope a).outcome q).unnumbered

theorem IsResolved.isUnsupported_eq {q : Progress} {s : Symbol} {a : Signature}
    (resolved : ctx.IsResolved scope q s a) :
    s.isUnsupported = ((ctx.resolve scope a).outcome q).isUnsupported := by
  rw [← Symbol.isUnsupported_unnumbered, resolved, Symbol.isUnsupported_unnumbered]

theorem supported_of_isResolved {q : Progress} {symbols : List Symbol}
    (each : List.Forall₂ (ctx.IsResolved scope q) symbols arguments)
    (sound : ∀ a ∈ arguments, ((ctx.resolve scope a).outcome q).isUnsupported = false) :
    ∀ s ∈ symbols, s.isUnsupported = false := by
  induction each with
  | nil => simp
  | cons first _ ih =>
      obtain ⟨head, tail⟩ := List.forall_mem_cons.mp sound
      exact List.forall_mem_cons.mpr ⟨first.isUnsupported_eq.trans head, ih tail⟩

theorem resolveAt_isResolved (a : Signature) {depth : Nat}
    (fits : depth + a.height ≤ ctx.config.signatureDepth) (q : Progress) :
    Build.Yields (fun r => ctx.IsResolved scope q r.symbol a) (ctx.resolveAt scope depth a) := by
  intro p
  exact ctx.resolveAt_unnumbered scope a (.shallow fits (by omega)) p q

theorem resolve_generic_instantiates
    (fits : (Signature.generic base arguments).height ≤ ctx.config.signatureDepth) (q : Progress) :
    Build.Yields (fun s => ∃ generic symbols flags p', ctx.IsResolved scope q generic base ∧
        List.Forall₂ (ctx.IsResolved scope q) symbols arguments ∧
        s = (ctx.instantiate generic symbols flags).outcome p')
      (ctx.resolve scope (.generic base arguments)) := by
  have inner (u : Signature) (member : u ∈ (Signature.generic base arguments).parts) :
      Build.Yields (fun r => ctx.IsResolved scope q r.symbol u) (ctx.resolveAt scope 1 u) := by
    have lower := Signature.height_lt_of_mem_parts member
    exact resolveAt_isResolved u (by omega) q
  have positive := (Signature.generic base arguments).height_pos
  rw [resolve, resolveAt, within_eq (by omega)]
  refine Build.Yields.bind ?_ fun r (known : ∃ generic symbols flags p',
    ctx.IsResolved scope q generic base ∧
      List.Forall₂ (ctx.IsResolved scope q) symbols arguments ∧
      r.symbol = (ctx.instantiate generic symbols flags).outcome p') => .pure known
  refine (inner base List.mem_cons_self).bind fun generic first => ?_
  refine (resolveEach_yields fun a member => inner a (List.mem_cons_of_mem _ member)).bind
    fun rs each => ?_
  intro p'
  exact ⟨generic.symbol, _, _, p', first, List.forall₂_map_left_iff.mpr each, rfl⟩

/-- With arguments for a base that takes none, nothing is built. A cause is given exactly if the base
is no nominal type, and then it is always the same one. -/
theorem resolve_nongeneric (given : arguments ≠ [])
    (fits : (Signature.generic base arguments).height ≤ ctx.config.signatureDepth) (q : Progress)
    (built : ((ctx.resolve scope base).outcome q).isUnsupported = false)
    (takes : ctx.Takes 0 ((ctx.resolve scope base).outcome q).definition?)
    (sound : ∀ a ∈ arguments, ((ctx.resolve scope a).outcome q).isUnsupported = false)
    (p : Progress) :
    let s := (ctx.resolve scope (.generic base arguments)).outcome p
    s.isUnsupported = true ∧
      (s.cause? ≠ none ↔ ((ctx.resolve scope base).outcome q).definition? = none) ∧
      ∀ cause, s.cause? = some cause → cause = .notSupported := by
  intro s
  obtain ⟨generic, symbols, flags, p', same, each, result⟩ :=
    resolve_generic_instantiates fits q p
  have plain : generic.isUnsupported = false := same.isUnsupported_eq.trans built
  have clean : ∀ t ∈ symbols, t.isUnsupported = false := supported_of_isResolved each sound
  have many : symbols.length ≠ 0 := by
    rw [each.length_eq]
    exact mt List.length_eq_zero_iff.mp given
  show s.isUnsupported = true ∧ _
  rw [← Symbol.definition?_of_unnumbered same] at takes ⊢
  cases nominal : generic.definition? with
  | none =>
      have refuses : ctx.Refuses generic symbols (some .notSupported) :=
        .notNominal plain clean nominal (mt List.length_eq_zero_iff.mpr many)
      rw [show s = _ from result, refuses.outcome_eq]
      simp [Symbol.isUnsupported, Symbol.cause?]
  | some d =>
      rw [nominal] at takes
      obtain ⟨formals, walked, empty⟩ := takes
      have refuses : ctx.Refuses generic symbols none :=
        .miscounted clean nominal walked (empty ▸ many.symm)
      rw [show s = _ from result, refuses.outcome_eq]
      simp [Symbol.isUnsupported, Symbol.cause?]

theorem resolve_array_of_point_refused :
    let base : Signature := .szArray (.classType Sample.point.token) []
    let s := (Sample.context.resolve [] (.generic base [.classType Sample.point.token])).outcome {}
    s.isUnsupported = true ∧ s.cause? = some .notSupported := by
  intro base s
  have given : [Signature.classType Sample.point.token] ≠ [] := List.cons_ne_nil _ _
  have fits : (Signature.generic base [.classType Sample.point.token]).height ≤
      Sample.context.config.signatureDepth := by decide
  have built : ((Sample.context.resolve [] base).outcome {}).isUnsupported = false := rfl
  have sound : ∀ a ∈ [Signature.classType Sample.point.token],
      ((Sample.context.resolve [] a).outcome {}).isUnsupported = false := by decide
  obtain ⟨refused, named, same⟩ := resolve_nongeneric given fits {} built rfl sound {}
  refine ⟨refused, ?_⟩
  obtain ⟨cause, found⟩ := Option.ne_none_iff_exists'.mp (named.mpr rfl)
  rw [show s.cause? = _ from found, same cause found]

theorem resolve_point_of_point_causeless :
    let base : Signature := .classType Sample.point.token
    let whole : Signature := .generic base [base]
    let symbol := (Sample.context.resolve [] base).outcome {}
    whole.height ≤ Sample.context.config.signatureDepth ∧ symbol.isUnsupported = false ∧
      Sample.context.Takes 0 symbol.definition? ∧
      ((Sample.context.resolve [] whole).outcome {}).cause? = none :=
  ⟨by decide, rfl, ⟨[], rfl, rfl⟩, rfl⟩

end ClrTypes.Context
