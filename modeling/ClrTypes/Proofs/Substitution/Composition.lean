import ClrTypes.Proofs.Substitution.Image

namespace ClrTypes.Substitution

variable {m m' : Substitution}

def andThen (m n : Substitution) : Substitution :=
  ⟨n.imageBindings m.bindings ++ n.bindings⟩

theorem lookup?_andThen (m n : Substitution) (p : Parameter) :
    (m.andThen n).lookup? p = ((m.lookup? p).map n.image).or (n.lookup? p) := by
  simp [lookup?, andThen, imageBindings_eq_map, List.find?_append, List.find?_map, Option.map_or,
    Function.comp_def]

theorem image_image (m n : Substitution) (s : Symbol) :
    n.image (m.image s) = (m.andThen n).image s := by
  induction s with
  | parameter k p =>
      rw [image, image, lookup?_andThen]
      cases m.lookup? p <;> simp [image]
  | constructed k d bindings ih => simpa [image, imageBindings_eq_map] using ih
  | _ => simp_all [image]

def unnumbered (m : Substitution) : Substitution :=
  ⟨Symbol.bareBindings true m.bindings⟩

theorem lookup?_unnumbered (m : Substitution) (p : Parameter) :
    m.unnumbered.lookup? p = (m.lookup? p).map (·.unnumbered) := by
  simp [lookup?, unnumbered, Symbol.bareBindings_eq_map, List.find?_map, Function.comp_def]

theorem unnumbered_image (m : Substitution) (s : Symbol) :
    (m.image s).unnumbered = m.unnumbered.image s.unnumbered := by
  induction s with
  | parameter n p =>
      rw [image, show (Symbol.parameter n p).unnumbered = .parameter 0 p from rfl, image,
        lookup?_unnumbered]
      cases m.lookup? p <;> rfl
  | constructed n d bindings ih =>
      simpa [image, imageBindings_eq_map, Symbol.bare, Symbol.bareBindings_eq_map] using ih
  | _ => simp_all [image, Symbol.bare]

theorem image_congr (same : m.unnumbered = m'.unnumbered) {s t : Symbol}
    (alike : s.unnumbered = t.unnumbered) :
    (m.image s).unnumbered = (m'.image t).unnumbered := by
  rw [unnumbered_image, same, alike, ← unnumbered_image]

theorem unnumbered_eq_of_columns (parameters : m.parameters = m'.parameters)
    (arguments : m.arguments.map (Symbol.bare true) = m'.arguments.map (Symbol.bare true)) :
    m.unnumbered = m'.unnumbered :=
  congrArg mk (Symbol.bareBindings_congr parameters arguments)

theorem mapM_apply_yields (m : Substitution) (ss : List Symbol) :
    Build.Yields (fun ts => ts.map (Symbol.bare true) = (ss.map m.image).map (Symbol.bare true))
      (ss.mapM m.apply) := by
  induction ss with
  | nil => exact .pure rfl
  | cons s ss ih =>
      rw [List.mapM_cons]
      refine (m.apply_yields s).bind fun t first => ih.bind fun ts rest => .pure ?_
      simp only [List.map_cons, first, rest]

theorem ofLists_andThen (m n : Substitution) {ss : List Symbol}
    (built : ss.map (Symbol.bare true) = (m.arguments.map n.image).map (Symbol.bare true)) :
    ∃ c, ofLists (m.parameters ++ n.parameters) (ss ++ n.arguments) = .ok c ∧
      c.unnumbered = (m.andThen n).unnumbered := by
  have many := congrArg List.length built
  have lengths : (m.parameters ++ n.parameters).length = (ss ++ n.arguments).length := by
    simp only [List.length_map] at many
    rw [List.length_append, List.length_append, many]
    simp [parameters, arguments]
  have paired : ofLists (m.parameters ++ n.parameters) (ss ++ n.arguments) = .ok _ :=
    if_pos lengths
  obtain ⟨columns, values⟩ := columns_of_ofLists paired
  refine ⟨_, paired, unnumbered_eq_of_columns ?_ ?_⟩
  · rw [columns]
    simp [andThen, parameters, parameters_imageBindings]
  · rw [values, List.map_append, built]
    simp [andThen, arguments, arguments_imageBindings]

theorem apply_apply (m n : Substitution) (s : Symbol) (p q r u : Progress) :
    ∃ c, ofLists (m.parameters ++ n.parameters)
        ((m.arguments.mapM n.apply).outcome p ++ n.arguments) = .ok c ∧
      Symbol.SameTree ((n.apply ((m.apply s).outcome q)).outcome r) ((c.apply s).outcome u) := by
  obtain ⟨c, paired, same⟩ := ofLists_andThen m n (n.mapM_apply_yields m.arguments p)
  refine ⟨c, paired, Symbol.sameTree_of_unnumbered ?_⟩
  calc ((n.apply ((m.apply s).outcome q)).outcome r).unnumbered
      = (n.image ((m.apply s).outcome q)).unnumbered := n.apply_yields _ r
    _ = (n.image (m.image s)).unnumbered := image_congr rfl (m.apply_yields s q)
    _ = ((m.andThen n).image s).unnumbered := by rw [image_image]
    _ = (c.image s).unnumbered := image_congr same.symm rfl
    _ = ((c.apply s).outcome u).unnumbered := (c.apply_yields s u).symm

def BindsOwn (m : Substitution) : Prop :=
  ∀ b ∈ m.bindings, ∃ n, b.argument = .parameter n b.parameter

theorem identity_bindsOwn (parameters : List Parameter) :
    Build.Yields BindsOwn (identity parameters) := by
  unfold identity
  refine (Build.Yields.mapM fun p _ => ?_).bind fun bindings own => .pure own
  refine (Build.parameter_yields p).bind ?_
  rintro _ ⟨n, rfl⟩
  exact .pure ⟨n, rfl⟩

theorem BindsOwn.canonical_image (own : m.BindsOwn) (s : Symbol) :
    (m.image s).canonical = s.canonical := by
  induction s with
  | parameter n p =>
      rw [image]
      cases found : m.lookup? p with
      | none => rfl
      | some argument =>
          obtain ⟨b, first, rfl⟩ := Option.map_eq_some_iff.mp found
          obtain ⟨k, occurrence⟩ := own b (List.mem_of_find?_eq_some first)
          -- only the tokens agree, so the occurrence that comes in may have another name
          have same := List.find?_some first
          simp [occurrence, Symbol.canonical, Parameter.beq_iff.mp same]
  | constructed n d bindings ih =>
      simpa [image, imageBindings_eq_map, Symbol.canonical, Symbol.canonicalBindings_eq_map]
        using ih
  | _ => simp_all [image, Symbol.canonical]

theorem BindsOwn.beq_of_replaced (own : m.BindsOwn) {s t : Symbol} (replaced : Replaced m s t) :
    t.beq s = true := by
  apply Symbol.beq_iff.mpr
  rw [Symbol.canonical_of_unnumbered replaced.unnumbered_eq, own.canonical_image]

/-- Two substitutions compose to one, binding parameters to themselves changes nothing, and a
substitution replaces all at once and leaves everything else as it is. -/
theorem apply_composes (m n : Substitution) (parameters : List Parameter) (s : Symbol) :
    (∀ p q r u, ∃ c, ofLists (m.parameters ++ n.parameters)
        ((m.arguments.mapM n.apply).outcome p ++ n.arguments) = .ok c ∧
      Symbol.SameTree ((n.apply ((m.apply s).outcome q)).outcome r) ((c.apply s).outcome u)) ∧
    (∀ p q, ((((identity parameters).outcome p).apply s).outcome q == s) = true) ∧
    ∀ p, Replaced m s ((m.apply s).outcome p) := by
  refine ⟨m.apply_apply n s, fun p q => ?_, m.apply_replaced s⟩
  exact (identity_bindsOwn parameters p).beq_of_replaced (apply_replaced _ s q)

end ClrTypes.Substitution
