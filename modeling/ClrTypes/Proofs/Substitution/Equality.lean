import ClrTypes.Proofs.Instantiation
import ClrTypes.Proofs.Substitution.Image

namespace ClrTypes

theorem contains_eq_of_beq {α : Type} [BEq α] [EquivBEq α] {l l' : List α} {a b : α}
    (same : (a == b) = true) (each : List.Forall₂ (fun x y => (x == y) = true) l l') :
    l.contains a = l'.contains b := by
  induction each with
  | nil => rfl
  | cons first _ ih =>
      rw [List.contains_cons, List.contains_cons, ih, BEq.congr_left same, BEq.congr_right first]

namespace Symbol

variable {l l' : List Assembly} {s s' : Symbol}

theorem definition?_canonical (s : Symbol) :
    s.canonical.definition? = s.definition?.map Definition.canonical := by
  cases s <;> rfl

theorem parts_canonical (s : Symbol) : s.canonical.parts = s.parts.map canonical := by
  cases s <;> simp [canonical, parts, canonicalBindings_eq_map]

theorem isClosedOver_of_canonical (each : List.Forall₂ (fun a b => (a == b) = true) l l')
    (same : s.canonical = s'.canonical) (closed : s.isClosedOver l = true) :
    s'.isClosedOver l' = true := by
  induction s using parts_induction generalizing s' with
  | made s ih =>
    rw [isClosedOver_iff_parts] at closed ⊢
    rcases closed with ⟨d, defined, found⟩ | ⟨u, member, closed⟩
    · have definitions := congrArg definition? same
      rw [definition?_canonical, definition?_canonical, defined] at definitions
      obtain ⟨d', defined', alike⟩ := Option.map_eq_some_iff.mp definitions.symm
      have assemblies : (d.assembly == d'.assembly) = true :=
        Assembly.beq_iff.mpr (congrArg Definition.assembly alike.symm)
      exact .inl ⟨d', defined', (contains_eq_of_beq assemblies each).symm.trans found⟩
    · have made : u.canonical ∈ s'.parts.map canonical := by
        rw [← parts_canonical, ← same, parts_canonical]
        exact List.mem_map_of_mem member
      obtain ⟨u', member', alike⟩ := List.mem_map.mp made
      exact .inr ⟨u', member', ih u member alike.symm closed⟩

theorem isClosedOver_eq_of_beq (each : List.Forall₂ (fun a b => (a == b) = true) l l')
    (alike : (s == s') = true) : s.isClosedOver l = s'.isClosedOver l' := by
  have same := beq_iff.mp alike
  have back : List.Forall₂ (fun a b => (a == b) = true) l' l :=
    (each.imp fun _ _ => BEq.symm).flip
  rw [Bool.eq_iff_iff]
  exact ⟨isClosedOver_of_canonical each same, isClosedOver_of_canonical back same.symm⟩

end Symbol

namespace Substitution

def canonical (m : Substitution) : Substitution :=
  ⟨Symbol.canonicalBindings m.bindings⟩

theorem beq_iff {m m' : Substitution} : (m == m') = true ↔ m.canonical = m'.canonical := by
  show Symbol.beqBindings m.bindings m'.bindings = true ↔ _
  rw [Symbol.beqBindings_iff, canonical, canonical, Substitution.mk.injEq]

theorem lookup?_canonical (m : Substitution) (p : Parameter) :
    m.canonical.lookup? p.canonical = (m.lookup? p).map Symbol.canonical := by
  have tokens (q : Parameter) : (q.canonical == p.canonical) = (q == p) := rfl
  simp [lookup?, canonical, Symbol.canonicalBindings_eq_map, List.find?_map, Function.comp_def,
    tokens]

theorem canonical_image (m : Substitution) (s : Symbol) :
    (m.image s).canonical = m.canonical.image s.canonical := by
  induction s with
  | parameter n p =>
      rw [image, Symbol.canonical, image, lookup?_canonical]
      cases m.lookup? p <;> rfl
  | constructed n d bindings ih =>
      simpa [image, imageBindings_eq_map, Symbol.canonical, Symbol.canonicalBindings_eq_map]
        using ih
  | _ => simp_all [image, Symbol.canonical]

theorem canonical_apply (m : Substitution) (s : Symbol) (p : Progress) :
    ((m.apply s).outcome p).canonical = m.canonical.image s.canonical := by
  rw [Symbol.canonical_of_unnumbered (m.apply_yields s p), canonical_image]

/-- Equality of symbols is an equivalence. Equal substitutions of equal symbols are equal, and equal
symbols are closed over the same assemblies, where these count as the same if they are equal. -/
theorem beq_isCongruence :
    (∀ s : Symbol, (s == s) = true) ∧
    (∀ s t : Symbol, (s == t) = true → (t == s) = true) ∧
    (∀ s t u : Symbol, (s == t) = true → (t == u) = true → (s == u) = true) ∧
    (∀ (m m' : Substitution) (s s' : Symbol) (p p' : Progress), (m == m') = true →
      (s == s') = true → ((m.apply s).outcome p == (m'.apply s').outcome p') = true) ∧
    ∀ (l l' : List Assembly) (s s' : Symbol),
      List.Forall₂ (fun a b => (a == b) = true) l l' → (s == s') = true →
        s.isClosedOver l = s'.isClosedOver l' := by
  refine ⟨fun _ => BEq.rfl, fun _ _ => BEq.symm, fun _ _ _ => BEq.trans, ?_, ?_⟩
  · intro m m' s s' p p' same alike
    apply Symbol.beq_iff.mpr
    rw [canonical_apply, canonical_apply, beq_iff.mp same, Symbol.beq_iff.mp alike]
  · intro l l' s s' each alike
    exact Symbol.isClosedOver_eq_of_beq each alike

theorem beq_point_arrays :
    let t : Parameter := ⟨⟨0x2A000001⟩, "T", 0⟩
    let t' : Parameter := ⟨⟨0x2A000001⟩, "Item", 3⟩
    let point' : Definition := { Sample.point with
      serial := 9, flags := .only .sealed, assembly := ⟨"APP", .zero, none⟩, parameters := [t'] }
    let m : Substitution := ⟨[⟨t, .named 0 Sample.point⟩]⟩
    let m' : Substitution := ⟨[⟨t', .named 7 point'⟩]⟩
    let s : Symbol := .szArray 1 (.parameter 2 t) []
    let s' : Symbol := .szArray 3 (.parameter 4 t') []
    (m == m') = true ∧ (s == s') = true ∧
      ((m.apply s).outcome {} == (m'.apply s').outcome {}) = true ∧
      (Symbol.named 0 Sample.point).isClosedOver [Sample.point.assembly] =
        (Symbol.named 7 point').isClosedOver [point'.assembly] := by
  intro t t' point' m m' s s'
  obtain ⟨-, -, -, applied, closed⟩ := beq_isCongruence
  have same : (m == m') = true := by decide
  have alike : (s == s') = true := by decide
  have assemblies : List.Forall₂ (fun a b => (a == b) = true) [Sample.point.assembly]
      [point'.assembly] := .cons (by decide) .nil
  exact ⟨same, alike, applied m m' s s' {} {} same alike, closed _ _ _ _ assemblies (by decide)⟩

end Substitution

end ClrTypes
