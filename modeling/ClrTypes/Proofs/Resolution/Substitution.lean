import ClrTypes.Proofs.Resolution.View

namespace ClrTypes

theorem Substitution.lookup?_align {formals : List Parameter} {arguments : List Symbol} {i : Nat}
    {p : Parameter} {a : Symbol} (distinct : (formals.map (·.token)).Nodup)
    (formal : formals[i]? = some p) (argument : arguments[i]? = some a) :
    lookup? ⟨Binding.align formals arguments⟩ p = some a := by
  induction formals generalizing arguments i with
  | nil => simp at formal
  | cons q formals ih =>
      cases arguments with
      | nil => simp at argument
      | cons b arguments =>
          obtain ⟨fresh, rest⟩ := List.nodup_cons.mp distinct
          cases i with
          | zero =>
              simp only [List.getElem?_cons_zero, Option.some.injEq] at formal argument
              subst formal argument
              simp [lookup?, Binding.align]
          | succ i =>
              simp only [List.getElem?_cons_succ] at formal argument
              have differs : (q == p) = false := by
                have other : p.token ∈ formals.map (·.token) :=
                  List.mem_map_of_mem (List.mem_of_getElem? formal)
                have unlike : q.token ≠ p.token := by
                  intro same
                  rw [← same] at other
                  exact fresh other
                show (q.token == p.token) = false
                simpa using unlike
              have found := ih rest formal argument
              simpa [lookup?, Binding.align, differs] using found

namespace Context

variable {ctx : Context} {m : Substitution} {marks : Bool}

theorem special_image (loaded : ctx.home.IsLoaded) (special : SpecialType) :
    Build.Relates (Symbol.SeenAlike (fun s => (m.image s).bare marks) (Symbol.bare marks))
      (ctx.home.special special) (ctx.home.special special) :=
  (Module.special_relates loaded special).mono fun _ _ =>
    seenAlike_of_sameRoot (m.image_isView marks) (Symbol.bare_isView marks)

theorem parameter_image {formals : List Parameter} {scope arguments : List Symbol}
    (occurrences : List.Forall₂ (fun s p => ∃ n, s = Symbol.parameter n p) scope formals)
    (distinct : (formals.map (·.token)).Nodup) (paired : formals.length = arguments.length)
    (sound : ∀ a ∈ arguments, a.isUnsupported = false) (i : UInt32) :
    Build.Relates (Symbol.SeenAlike
        (fun s => (Substitution.image ⟨Binding.align formals arguments⟩ s).bare marks)
        (Symbol.bare marks))
      (resolveParameter scope i) (resolveParameter arguments i) := by
  have lengths : scope.length = arguments.length := occurrences.length_eq.trans paired
  unfold resolveParameter
  by_cases inside : i.toNat < arguments.length
  · have insideScope : i.toNat < scope.length := lengths ▸ inside
    have insideFormals : i.toNat < formals.length := paired ▸ inside
    obtain ⟨n, occurrence⟩ := occurrences.get insideScope insideFormals
    have bound := Substitution.lookup?_align distinct (List.getElem?_eq_getElem insideFormals)
      (List.getElem?_eq_getElem inside)
    rw [List.getElem?_eq_getElem inside, List.getElem?_eq_getElem insideScope]
    refine .pure ⟨?_, ?_⟩
    · simp only [List.get_eq_getElem] at occurrence
      simp only [occurrence, Substitution.image, bound, Option.getD_some]
    · simp only [List.get_eq_getElem] at occurrence
      rw [occurrence, sound _ (List.getElem_mem inside)]
      rfl
  · have outside : arguments[i.toNat]? = none := by simpa using inside
    have outside' : scope[i.toNat]? = none := by simpa [lengths] using inside
    rw [outside, outside', lengths]
    exact unsupported_seenAlike (Substitution.image_isView marks _) (Symbol.bare_isView marks) _

theorem resolve_image (marks : Bool) {formals : List Parameter} {scope arguments : List Symbol} {s : Signature}
    (loaded : ctx.home.IsLoaded)
    (occurrences : List.Forall₂ (fun s p => ∃ n, s = Symbol.parameter n p) scope formals)
    (distinct : (formals.map (·.token)).Nodup) (paired : formals.length = arguments.length)
    (sound : ∀ a ∈ arguments, a.isUnsupported = false)
    (nominal : ∀ base parts, Signature.IsPartOf (.generic base parts) s → base.isNominal = true)
    (ranked : ∀ element dimensions, ¬ Signature.IsPartOf (.array element 0 dimensions) s)
    (legal : marks = true → ctx.interopGate = false) :
    Build.Relates (fun t r =>
        (Substitution.image ⟨Binding.align formals arguments⟩ t).bare marks = r.bare marks)
      (ctx.resolve scope s) (ctx.resolve arguments s) := by
  have v := Substitution.image_isView marks ⟨Binding.align formals arguments⟩
  have v' := Symbol.bare_isView marks
  have sim : Simulates ctx ctx scope arguments (fun t => t.IsPartOf s)
      (Symbol.SeenAlike (fun t =>
        (Substitution.image ⟨Binding.align formals arguments⟩ t).bare marks)
        (Symbol.bare marks)) := by
    refine simulates_of_views v v' (fun _ => rfl) (fun _ => rfl) (special_image loaded)
      (parameter_image occurrences distinct paired sound) ?_ ?_ ?_
    · intro element dimensions part
      exact absurd part (ranked element dimensions)
    · intro base arguments part t r _ root
      rcases root (nominal base arguments part) with ⟨_, _, d, rfl, rfl⟩ | ⟨_, _, cause, rfl, rfl⟩
      · rfl
      · rfl
    · intro kept d _ _ _ _
      simp [isIllegal, legal kept]
  exact (sim.resolve (.same rfl rfl) fun _ part => part).mono fun _ _ alike => alike.1

/-- Resolving over formal parameters and then substituting arguments for them is resolving over the
arguments, up to illegal markers, and without exception where nothing is marked. -/
theorem resolve_substituted {ctx : Context} {formals : List Parameter}
    {scope arguments : List Symbol} {s : Signature} (loaded : ctx.home.IsLoaded)
    (occurrences : List.Forall₂ (fun s p => ∃ n, s = Symbol.parameter n p) scope formals)
    (distinct : (formals.map (·.token)).Nodup) (paired : formals.length = arguments.length)
    (sound : ∀ a ∈ arguments, a.isUnsupported = false)
    (nominal : ∀ base parts, Signature.IsPartOf (.generic base parts) s → base.isNominal = true)
    (ranked : ∀ element dimensions, ¬ Signature.IsPartOf (.array element 0 dimensions) s) :
    ∃ m, Substitution.ofLists formals arguments = .ok m ∧ ∀ p q r,
      ((m.apply ((ctx.resolve scope s).outcome p)).outcome q).unmarked =
          ((ctx.resolve arguments s).outcome r).unmarked ∧
        (ctx.interopGate = false →
          ((m.apply ((ctx.resolve scope s).outcome p)).outcome q ==
            (ctx.resolve arguments s).outcome r) = true) := by
  refine ⟨⟨Binding.align formals arguments⟩, if_pos paired, fun p q r => ?_⟩
  have applied := Substitution.apply_yields ⟨Binding.align formals arguments⟩
    ((ctx.resolve scope s).outcome p) q
  constructor
  · have same := resolve_image false loaded occurrences distinct paired sound nominal ranked
      nofun p r
    rw [Symbol.unmarked, ← Symbol.bare_unnumbered, applied, Symbol.bare_unnumbered]
    exact same
  · intro closed
    have same := resolve_image true loaded occurrences distinct paired sound nominal ranked
      (fun _ => closed) p r
    exact Symbol.beq_of_unnumbered (applied.trans same)

end Context

theorem Context.resolve_view_substituted :
    let signature : Signature := .generic (.classType Sample.view.token)
      [.parameter 0, .szArray (.parameter 1) []]
    let formals := Sample.box.parameters ++ Sample.view.parameters
    let m : Substitution := ⟨Binding.align formals [.named 0 Sample.shape, .named 1 Sample.point]⟩
    let generic := (Sample.context.resolve (formals.map (.parameter 2)) signature).outcome {}
    let applied := (m.apply generic).outcome {}
    let direct := (Sample.context.resolve [.named 0 Sample.shape, .named 1 Sample.point]
      signature).outcome {}
    generic.isIllegal = false ∧ direct.isIllegal = true ∧ applied.unmarked = direct.unmarked := by
  intro signature formals m generic applied direct
  have parts (t : Signature) (part : t.IsPartOf signature) :
      t = signature ∨ t = .classType Sample.view.token ∨ t = .parameter 0 ∨
        t = .szArray (.parameter 1) [] ∨ t = .parameter 1 := by
    rcases Signature.isPartOf_iff.mp part with same | ⟨u, member, inner⟩
    · exact .inl same
    · simp only [signature, Signature.parts, List.mem_cons, List.not_mem_nil, or_false] at member
      rcases member with rfl | rfl | rfl
      · exact .inr (.inl (inner.eq_of_leaf rfl))
      · exact .inr (.inr (.inl (inner.eq_of_leaf rfl)))
      · rcases Signature.isPartOf_iff.mp inner with same | ⟨u, member, innermost⟩
        · exact .inr (.inr (.inr (.inl same)))
        · obtain rfl := List.mem_singleton.mp member
          exact .inr (.inr (.inr (.inr (innermost.eq_of_leaf rfl))))
  have occurrences : List.Forall₂ (fun s p => ∃ n, s = Symbol.parameter n p)
      (formals.map (.parameter 2)) formals := .cons ⟨2, rfl⟩ (.cons ⟨2, rfl⟩ .nil)
  have sound : ∀ a ∈ [Symbol.named 0 Sample.shape, .named 1 Sample.point],
      a.isUnsupported = false := by decide
  have nominal (base : Signature) (arguments : List Signature)
      (part : Signature.IsPartOf (.generic base arguments) signature) : base.isNominal = true := by
    rcases parts _ part with same | same | same | same | same <;>
      simp_all [signature, Signature.isNominal]
  have ranked (element : Signature) (dimensions : List Dimension) :
      ¬ Signature.IsPartOf (.array element 0 dimensions) signature := by
    intro part
    rcases parts _ part with same | same | same | same | same <;> simp [signature] at same
  obtain ⟨_, paired, same⟩ := resolve_substituted Sample.isLoaded occurrences (by decide) rfl sound
    nominal ranked
  obtain rfl := Except.ok.inj paired
  exact ⟨by decide, by decide, (same {} {} {}).1⟩

end ClrTypes
