import ClrTypes.Proofs.Instantiation.Decision
import ClrTypes.Proofs.Symbol.Bare

namespace ClrTypes.Context

variable {ctx : Context} {generic : Symbol} {arguments : List Symbol} {d : Definition}
  {formals : List Parameter}

theorem unbound_stable (ctx : Context) (s : Symbol) :
    Build.Yields (fun u => ctx.unbound u = pure u) (ctx.unbound s) := by
  cases s with
  | constructed n d bindings =>
      by_cases takes : ctx.isGeneric d = true
      · rw [unbound, if_pos takes]
        refine (Build.named_yields d).mono ?_
        rintro _ ⟨n, rfl⟩
        rfl
      · have same : ctx.unbound (.constructed n d bindings) = pure (.constructed n d bindings) := by
          rw [unbound, if_neg takes]
        rw [same]
        exact .pure same
  | _ => exact .pure rfl

theorem Builds.isGeneric (builds : ctx.Builds generic arguments d formals) :
    ctx.isGeneric d = true := by
  simp [Context.isGeneric, builds.walked, builds.takes]

theorem Builds.unbound_yields (builds : ctx.Builds generic arguments d formals) (n : Nat)
    (bindings : List (Binding Symbol)) :
    Build.Yields (fun u => ∃ n, u = .named n d) (ctx.unbound (.constructed n d bindings)) := by
  rw [unbound, if_pos builds.isGeneric]
  exact Build.named_yields d

theorem Builds.sameTree {other : Symbol} (builds : ctx.Builds generic arguments d formals)
    (nominal : other.definition? = some d) (flags : List Bool) :
    Build.Relates Symbol.SameTree (ctx.instantiate other arguments flags)
      (ctx.instantiate generic arguments flags) := by
  intro p q
  have again : ctx.Builds other arguments d formals := { builds with nominal }
  apply Symbol.sameTree_of_unnumbered
  rw [again.outcome_eq, builds.outcome_eq]
  cases ctx.isIllegal d arguments flags <;> rfl

theorem Ended.returned_of_nil {s : Symbol} {p : Progress} (ended : ctx.Ended generic [] p s)
    (constructed : s.stripped.isConstructed = true) : s = generic := by
  by_contra new
  obtain ⟨d, formals, builds⟩ := ended.builds constructed new
  exact builds.takes (List.length_eq_zero_iff.mp builds.arity)

theorem Ended.builds_of_ne_nil {s : Symbol} {p : Progress}
    (ended : ctx.Ended generic arguments p s) (constructed : s.stripped.isConstructed = true)
    (given : arguments ≠ []) : ∃ d formals, ctx.Builds generic arguments d formals := by
  cases ended with
  | returned returns =>
      cases returns with
      | poisoned poisoned =>
          cases generic with
          | unsupported => simp [Symbol.stripped, Symbol.isConstructed] at constructed
          | _ => simp [Symbol.isUnsupported] at poisoned
      | bare none => exact absurd none given
  | refused => simp [Symbol.stripped, Symbol.isConstructed] at constructed
  | built builds => exact ⟨_, _, builds⟩

/-- Unbinding is idempotent and leaves a marker alone. What comes of giving at least one argument is
unbound to its definition alone, and the same arguments and flags bring it back with its marker. With
no argument nothing is built. -/
theorem unbound_inverts (ctx : Context) :
    (∀ s, Build.Yields (fun u => ctx.unbound u = pure u) (ctx.unbound s)) ∧
    (∀ n s, ctx.unbound (.illegal n s) = pure (.illegal n s)) ∧
    (∀ generic arguments flags p,
      let s := (ctx.instantiate generic arguments flags).outcome p
      arguments ≠ [] → s.stripped.isConstructed = true →
        ∃ d, generic.definition? = some d ∧ s.stripped.definition? = some d ∧
          s.stripped.arguments? = some arguments ∧
          Build.Yields (fun u => (∃ n, u = .named n d) ∧
            Build.Yields (·.SameTree s) (ctx.instantiate u arguments flags))
            (ctx.unbound s.stripped)) ∧
    ∀ generic flags p,
      let s := (ctx.instantiate generic [] flags).outcome p
      s.stripped.isConstructed = true → s = generic := by
  refine ⟨ctx.unbound_stable, fun n s => rfl, ?_, ?_⟩
  · intro generic arguments flags p s given constructed
    have ended : ctx.Ended generic arguments p s := ctx.instantiate_ended _ _ flags p
    obtain ⟨d, formals, builds⟩ := ended.builds_of_ne_nil constructed given
    have stripped : s.stripped = .constructed p.next d (Binding.align formals arguments) :=
      builds.stripped_eq flags p
    rw [stripped]
    refine ⟨d, builds.nominal, rfl, ?_, ?_⟩
    · exact congrArg some (Binding.arguments_align builds.arity)
    · refine (builds.unbound_yields _ _).mono ?_
      rintro _ ⟨n, rfl⟩
      exact ⟨⟨n, rfl⟩, fun q => builds.sameTree rfl flags q p⟩
  · intro generic flags p s constructed
    have ended : ctx.Ended generic [] p s := ctx.instantiate_ended _ _ flags p
    exact ended.returned_of_nil constructed

theorem unbound_view_inverts :
    let arguments : List Symbol := [.szArray 1 (.named 2 Sample.shape) [], .named 3 Sample.point]
    let s := (Sample.context.instantiate (.named 0 Sample.view) arguments []).outcome { next := 4 }
    s.isIllegal = true ∧ arguments ≠ [] ∧ s.stripped.isConstructed = true ∧
      s.stripped.arguments? = some arguments ∧
      Build.Yields (fun u => (∃ n, u = .named n Sample.view) ∧
        Build.Yields (·.SameTree s) (Sample.context.instantiate u arguments []))
        (Sample.context.unbound s.stripped) := by
  intro arguments s
  obtain ⟨-, -, inverts, -⟩ := unbound_inverts Sample.context
  have given : arguments ≠ [] := by simp [arguments]
  have constructed : s.stripped.isConstructed = true := by decide
  obtain ⟨d, nominal, -, taken, back⟩ :=
    inverts (.named 0 Sample.view) arguments [] { next := 4 } given constructed
  obtain rfl : Sample.view = d := Option.some.inj nominal
  exact ⟨by decide, given, constructed, taken, back⟩

/-- `Box<Point>` is marked for the flag alone. Given nothing, the marked type comes back as it is; the
arguments given back without the flag make a type that is not marked. -/
theorem unbound_loses_flag :
    let box : Symbol := .named 0 Sample.box
    let point : Symbol := .named 1 Sample.point
    let marked := (Sample.context.instantiate box [point] [true]).outcome { next := 2 }
    let s := (Sample.context.instantiate marked [] []).outcome { next := 4 }
    let u := (Sample.context.unbound s.stripped).outcome { next := 4 }
    let again := (Sample.context.instantiate u [point] []).outcome { next := 5 }
    s.isIllegal = true ∧ s.stripped.arguments? = some [point] ∧ u = .named 4 Sample.box ∧
      again.isIllegal = false ∧ (again == s) = false := by
  exact ⟨by decide, rfl, rfl, by decide, by decide⟩

end ClrTypes.Context
