import ClrTypes.Proofs.Nesting

namespace ClrTypes.Hierarchy

variable {h h' : Hierarchy} {d : Definition} {s : Symbol}

theorem relations_update (h : Hierarchy) (d : Definition) (f : Relations → Relations)
    (e : Definition) : (h.update d (f (h.relations d))).relations e =
      if e.serial = d.serial then f (h.relations e) else h.relations e := by
  by_cases same : e.serial = d.serial
  · simp [relations, update, same]
  · rw [if_neg same]
    exact relations_update_of_ne h _ same

theorem container?_update (h : Hierarchy) (d : Definition) (f : Relations → Relations)
    (e : Definition) : (h.update d (f (h.relations d))).container? e =
      if e.serial = d.serial then (f (h.relations e)).container.bind h.existing?
      else h.container? e := by
  rw [container?, relations_update]
  split <;> rfl

theorem eq_of_setBase (recorded : h.setBase d s = .ok h') :
    h' = h.update d { h.relations d with base := some s } := by
  unfold setBase at recorded
  split at recorded
  · cases recorded
  · exact (Except.ok.inj recorded).symm

theorem relations_setBase (recorded : h.setBase d s = .ok h') (e : Definition) :
    h'.relations e =
      if e.serial = d.serial then { h.relations e with base := some s } else h.relations e := by
  rw [eq_of_setBase recorded]
  exact relations_update h d ({ · with base := some s }) e

theorem container?_setBase (recorded : h.setBase d s = .ok h') (e : Definition) :
    h'.container? e = h.container? e := by
  rw [eq_of_setBase recorded, container?_update h d ({ · with base := some s })]
  split <;> rfl

theorem relations_addInterface (h : Hierarchy) (d : Definition) (s : Symbol) (e : Definition) :
    (h.addInterface d s).2.relations e =
      if e.serial = d.serial then { h.relations e with interfaces := h.interfaces e ++ [s] }
      else h.relations e :=
  relations_update h d (fun r => { r with interfaces := r.interfaces ++ [s] }) e

theorem container?_addInterface (h : Hierarchy) (d : Definition) (s : Symbol) (e : Definition) :
    (h.addInterface d s).2.container? e = h.container? e := by
  refine (container?_update h d (fun r => { r with interfaces := r.interfaces ++ [s] }) e).trans ?_
  split <;> rfl

theorem of_setContainer {c : Definition} (recorded : h.setContainer d c = .ok h') :
    (h.relations d).container = none ∧
      h' = h.update d { h.relations d with container := some c } := by
  unfold setContainer at recorded
  split at recorded
  · cases recorded
  · exact ⟨‹_›, (Except.ok.inj recorded).symm⟩

theorem relations_setContainer {c : Definition} (recorded : h.setContainer d c = .ok h')
    (e : Definition) : h'.relations e =
      if e.serial = d.serial then { h.relations e with container := some c }
      else h.relations e := by
  rw [(of_setContainer recorded).2]
  exact relations_update h d ({ · with container := some c }) e

theorem container?_setContainer {c : Definition} (recorded : h.setContainer d c = .ok h')
    (e : Definition) :
    h'.container? e = if e.serial = d.serial then h.existing? c else h.container? e := by
  rw [(of_setContainer recorded).2]
  exact container?_update h d ({ · with container := some c }) e

theorem container?_congr {e : Definition} (same : e.serial = d.serial) :
    h.container? e = h.container? d := by
  rw [container?, container?, relations, relations, same]

theorem container?_eq_none_of_setContainer {c : Definition}
    (recorded : h.setContainer d c = .ok h') : h.container? d = none := by
  rw [container?, (of_setContainer recorded).1, Option.bind_none]

theorem existing?_eq_some_iff {c : Definition} :
    h.existing? d = some c ↔ d.serial ∉ h.gone ∧ d = c := by
  simp [existing?]

theorem container?_eq_some_iff {c : Definition} :
    h.container? d = some c ↔ (h.relations d).container = some c ∧ c.serial ∉ h.gone := by
  rw [container?, Option.bind_eq_some_iff]
  simp only [existing?_eq_some_iff]
  grind

theorem container?_drop (h : Hierarchy) (c d : Definition) :
    (h.drop c).container? d = (h.container? d).filter (·.serial ≠ c.serial) := by
  ext k
  rw [Option.filter_eq_some_iff, container?_eq_some_iff, container?_eq_some_iff]
  simp [drop, relations, and_comm, and_assoc]

theorem IsChain.congr {chain : List Definition} (chained : h.IsChain d chain)
    (same : ∀ c ∈ chain, h'.container? c = h.container? c) : h'.IsChain d chain := by
  induction chained with
  | outermost top => exact .outermost ((same _ List.mem_cons_self).trans top)
  | nested inside _ ih =>
      refine .nested ((same _ List.mem_cons_self).trans inside) (ih fun c member => ?_)
      exact same c (List.mem_cons_of_mem _ member)

/-- Where `P` holds, the two hierarchies have the same containers, and `P` holds of these too. -/
structure AgreesOn (P : Definition → Prop) (h h' : Hierarchy) : Prop where
  link : ∀ d, P d → h'.container? d = h.container? d
  outward : ∀ d c, P d → h.container? d = some c → P c

variable {P : Definition → Prop}

theorem AgreesOn.outward?_eq (agree : AgreesOn P h h') (room : Nat) (holds : P d) :
    h'.outward? room d = h.outward? room d := by
  induction room generalizing d with
  | zero => rw [outward?, outward?, agree.link d holds]
  | succ room ih =>
      rw [outward?, outward?, agree.link d holds]
      cases inside : h.container? d with
      | none => rfl
      | some c => simp only [ih (agree.outward d c holds inside)]

theorem AgreesOn.fullName_eq (agree : AgreesOn P h h') (holds : P d) :
    h'.fullName d = h.fullName d := by
  rw [fullName, fullName, agree.outward?_eq _ holds]

theorem AgreesOn.formals_eq (agree : AgreesOn P h h') (limit : Nat) (holds : P d) :
    h'.formals limit d = h.formals limit d := by
  simp only [formals, chain, containers, agree.outward?_eq _ holds]

theorem AgreesOn.checkedCount_eq (agree : AgreesOn P h h') (room : Nat) (holds : P d)
    (remaining : Nat) : h'.checkedCount room d remaining = h.checkedCount room d remaining := by
  induction room generalizing d remaining with
  | zero => rfl
  | succ room ih =>
      rw [checkedCount, checkedCount, agree.link d holds]
      cases inside : h.container? d with
      | none => rfl
      | some c => simp only [ih (agree.outward d c holds inside)]

/-- The way outwards ends in the first hierarchy where it goes on in the second one. -/
def IsCutShort (h h' : Hierarchy) (d : Definition) : Prop :=
  ∃ e, Relation.ReflTransGen (fun a b => h.container? a = some b) d e ∧
    h.container? e = none ∧ h'.container? e ≠ none

def IsCutFrom (h h' : Hierarchy) : Prop :=
  ∀ d, h.container? d = none ∨ h.container? d = h'.container? d

theorem IsCutFrom.agreesOn (cut : IsCutFrom h h') :
    AgreesOn (fun d => ¬ IsCutShort h h' d) h h' where
  link d whole := by
    rcases cut d with top | same
    · rw [top]
      exact Classical.byContradiction fun goes_on => whole ⟨d, .refl, top, goes_on⟩
    · exact same.symm
  outward d c whole inside := fun ⟨e, walk, ends⟩ => whole ⟨e, .head inside walk, ends⟩

theorem isCutFrom_setContainer {c k : Definition} (recorded : h.setContainer c k = .ok h') :
    IsCutFrom h h' := by
  intro d
  by_cases here : d.serial = c.serial
  · exact .inl ((container?_congr here).trans (container?_eq_none_of_setContainer recorded))
  · rw [container?_setContainer recorded, if_neg here]
    exact .inr rfl

theorem isCutFrom_drop (h : Hierarchy) (c : Definition) : IsCutFrom (h.drop c) h := by
  intro d
  rw [container?_drop]
  cases h.container? d with
  | none => exact .inl rfl
  | some k => by_cases same : k.serial = c.serial <;> simp [same]

theorem isCutShort_setContainer_iff {c k : Definition} (recorded : h.setContainer c k = .ok h') :
    IsCutShort h h' d ↔ k.serial ∉ h.gone ∧ h.IsInside d c := by
  have link := container?_setContainer recorded
  constructor
  · rintro ⟨e, walk, top, goes_on⟩
    rw [link] at goes_on
    split at goes_on
    · rename_i same
      obtain ⟨k', present⟩ := Option.ne_none_iff_exists'.mp goes_on
      exact ⟨(existing?_eq_some_iff.mp present).1, e, walk, same⟩
    · exact absurd top goes_on
  · rintro ⟨present, e, walk, same⟩
    have top := (container?_congr same).trans (container?_eq_none_of_setContainer recorded)
    have linked : h'.container? e = some k := by
      rw [link, if_pos same]
      exact existing?_eq_some_iff.mpr ⟨present, rfl⟩
    exact ⟨e, walk, top, by simp [linked]⟩

theorem isCutShort_drop_iff {c : Definition} :
    IsCutShort (h.drop c) h d ↔ h.IsNestedIn d c := by
  have lost {e k : Definition} (inside : h.container? e = some k) (same : k.serial = c.serial) :
      IsCutShort (h.drop c) h e :=
    ⟨e, .refl, by simp [container?_drop, inside, same], by simp [inside]⟩
  constructor
  · rintro ⟨e, walk, top, goes_on⟩
    obtain ⟨k, inside⟩ := Option.ne_none_iff_exists'.mp goes_on
    have same : k.serial = c.serial := by simpa [container?_drop, inside] using top
    have kept (a b : Definition) (step : (h.drop c).container? a = some b) :
        h.container? a = some b := by
      rw [container?_drop] at step
      exact (Option.filter_eq_some_iff.mp step).1
    exact ⟨k, .tail' (Relation.ReflTransGen.mono kept _ _ walk) inside, same⟩
  · rintro ⟨e, walk, same⟩
    induction walk using Relation.TransGen.head_induction_on with
    | single inside => exact lost inside same
    | @head d k inside _ ih =>
        by_cases here : k.serial = c.serial
        · exact lost inside here
        · obtain ⟨x, walk, ends⟩ := ih
          exact ⟨x, .head (by simp [container?_drop, inside, here]) walk, ends⟩

theorem agreesOn_around {roots : Definition → Prop}
    (same : ∀ d c, roots d → h.IsInside d c → h'.container? c = h.container? c) :
    AgreesOn (fun c => ∃ d, roots d ∧ h.IsInside d c) h h' where
  link := fun c ⟨d, root, around⟩ => same d c root around
  outward := by
    rintro c next ⟨d, root, e, walk, equal⟩ inside
    rw [← container?_congr equal] at inside
    exact ⟨d, root, next, walk.tail inside, rfl⟩

end ClrTypes.Hierarchy
