import ClrTypes.Proofs.Substitution.Image

namespace ClrTypes

namespace Symbol

/-- The parameter occurs in the symbol, and not only in modifiers. -/
def Mentions (s : Symbol) (p : Parameter) : Prop :=
  ∃ n, (parameter n p).IsPartOf s

variable {s u : Symbol} {p q : Parameter}

theorem Mentions.inner (mentioned : u.Mentions p) (member : u ∈ s.parts) : s.Mentions p := by
  obtain ⟨n, part⟩ := mentioned
  exact ⟨n, part.inner member⟩

theorem mentions_iff :
    s.Mentions p ↔ (∃ n, s = .parameter n p) ∨ ∃ u ∈ s.parts, u.Mentions p := by
  constructor
  · rintro ⟨n, part⟩
    rcases isPartOf_iff.mp part with same | ⟨u, member, inner⟩
    · exact .inl ⟨n, same.symm⟩
    · exact .inr ⟨u, member, n, inner⟩
  · rintro (⟨n, rfl⟩ | ⟨u, member, mentioned⟩)
    · exact ⟨n, .refl _⟩
    · exact mentioned.inner member

theorem mentions_parameter {n : Nat} : (parameter n p).Mentions q ↔ q = p := by
  rw [mentions_iff]
  simp [parts, eq_comm]

theorem mentions_constructed {n : Nat} {d : Definition} {bindings : List (Binding Symbol)} :
    (constructed n d bindings).Mentions p ↔ ∃ b ∈ bindings, b.argument.Mentions p := by
  rw [mentions_iff]
  simp [parts]

end Symbol

namespace Substitution

variable {m m' : Substitution} {s : Symbol}

theorem image_eq_of_mentions (agree : ∀ p, s.Mentions p → m.lookup? p = m'.lookup? p) :
    m.image s = m'.image s := by
  induction s with
  | named | unsupported => rfl
  | parameter n p =>
      rw [image, image, agree p (Symbol.mentions_parameter.mpr rfl)]
  | array n s rank dimensions modifiers ih | szArray n s modifiers ih | pointer n s modifiers ih
  | byRef n s ih | illegal n s ih =>
      have inner : m.image s = m'.image s := by
        apply ih
        intro p mentioned
        exact agree p (mentioned.inner List.mem_cons_self)
      rw [image, image, inner]
  | constructed n d bindings ih =>
      have arguments : ∀ b ∈ bindings, m.image b.argument = m'.image b.argument := by
        intro b member
        apply ih b member
        intro p mentioned
        exact agree p (mentioned.inner (List.mem_map_of_mem member))
      have same : m.imageBindings bindings = m'.imageBindings bindings := by
        rw [imageBindings_eq_map, imageBindings_eq_map]
        apply List.map_congr_left
        intro b member
        rw [arguments b member]
      rw [image, image, same]

theorem definition?_image (other : ∀ n p, s ≠ .parameter n p) :
    (m.image s).definition? = s.definition? := by
  cases s with
  | parameter n p => exact absurd rfl (other n p)
  | _ => rfl

theorem parts_image (other : ∀ n p, s ≠ .parameter n p) :
    (m.image s).parts = s.parts.map m.image := by
  cases s with
  | parameter n p => exact absurd rfl (other n p)
  | constructed n d bindings => exact m.arguments_imageBindings bindings
  | _ => rfl

theorem isClosedOver_image (m : Substitution) (s : Symbol) (assemblies : List Assembly) :
    (m.image s).isClosedOver assemblies = true ↔ s.isClosedOver assemblies = true ∨
      ∃ p a, s.Mentions p ∧ m.lookup? p = some a ∧ a.isClosedOver assemblies = true := by
  induction s using Symbol.parts_induction with
  | made s ih =>
    by_cases occurrence : ∃ n p, s = .parameter n p
    · obtain ⟨n, p, rfl⟩ := occurrence
      rw [image]
      cases found : m.lookup? p <;> simp [Symbol.mentions_parameter, Symbol.isClosedOver, found]
    · have other : ∀ n p, s ≠ .parameter n p := by simpa using occurrence
      rw [Symbol.isClosedOver_iff_parts, Symbol.isClosedOver_iff_parts _ s, definition?_image other,
        parts_image other, or_assoc]
      apply or_congr_right
      simp only [List.mem_map, exists_exists_and_eq_and]
      constructor
      · rintro ⟨u, member, closed⟩
        rcases (ih u member).mp closed with before | ⟨p, a, mentioned, bound⟩
        · exact .inl ⟨u, member, before⟩
        · exact .inr ⟨p, a, mentioned.inner member, bound⟩
      · rintro (⟨u, member, before⟩ | ⟨p, a, mentioned, bound⟩)
        · exact ⟨u, member, (ih u member).mpr (.inl before)⟩
        · rcases Symbol.mentions_iff.mp mentioned with ⟨n, same⟩ | ⟨u, member, inner⟩
          · exact absurd same (other n p)
          · exact ⟨u, member, (ih u member).mpr (.inr ⟨p, a, inner, bound⟩)⟩

/-- A symbol is closed over assemblies after a substitution exactly if it was so before, or one of
the parameters that it mentions is bound to an argument that is. -/
theorem isClosedOver_apply_iff (m : Substitution) (s : Symbol) (assemblies : List Assembly)
    (p : Progress) :
    ((m.apply s).outcome p).isClosedOver assemblies = true ↔ s.isClosedOver assemblies = true ∨
      ∃ q a, s.Mentions q ∧ m.lookup? q = some a ∧ a.isClosedOver assemblies = true := by
  rw [← Symbol.isClosedOver_unnumbered, m.apply_yields s p, Symbol.isClosedOver_unnumbered,
    isClosedOver_image]

end Substitution

end ClrTypes
