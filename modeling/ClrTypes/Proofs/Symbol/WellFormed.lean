import ClrTypes.Proofs.Nesting
import ClrTypes.Proofs.Substitution.Image

/-!
# Well-formed symbols

Well-formedness says of every node what its constructor does not: which ranks and operands occur,
and that a constructed type binds the parameters along the chain of its definition. It depends on
containers only, and substitution keeps it.
-/

namespace ClrTypes.Symbol

/-- The node of the symbol is as it should be; nothing is said about the nodes below. -/
def IsSound (h : Hierarchy) : Symbol → Prop
  | .array _ s rank _ _ => 2 ≤ rank.toNat ∧ s.isUnsupported = false
  | .szArray _ s _ | .pointer _ s _ => s.isUnsupported = false
  | .constructed _ d bindings => (∃ chain, h.IsChain d chain ∧
      bindings.map (·.parameter) = Hierarchy.flattened chain) ∧
    bindings ≠ [] ∧ ∀ b ∈ bindings, b.argument.isUnsupported = false
  | .illegal _ s => s.isConstructed = true
  | .byRef .. | .named .. | .parameter .. | .unsupported .. => True

def WellFormed (h : Hierarchy) (s : Symbol) : Prop :=
  ∀ t, IsPartOf t s → t.IsSound h

variable {h h' : Hierarchy} {s t : Symbol}

theorem wellFormed_iff : s.WellFormed h ↔ s.IsSound h ∧ ∀ u ∈ s.parts, u.WellFormed h := by
  constructor
  · intro whole
    refine ⟨whole s (.refl s), fun u member t part => ?_⟩
    exact whole t (part.inner member)
  · rintro ⟨root, rest⟩ t part
    rcases isPartOf_iff.mp part with rfl | ⟨u, member, inner⟩
    · exact root
    · exact rest u member t inner

theorem WellFormed.isSound (whole : s.WellFormed h) : s.IsSound h :=
  (wellFormed_iff.mp whole).1

theorem WellFormed.part (whole : s.WellFormed h) {u : Symbol} (member : u ∈ s.parts) :
    u.WellFormed h :=
  (wellFormed_iff.mp whole).2 u member

theorem wellFormed_of_leaf (root : s.IsSound h) (leaf : s.parts = []) : s.WellFormed h :=
  wellFormed_iff.mpr ⟨root, by simp [leaf]⟩

theorem wellFormed_of_operand {u : Symbol} (root : s.IsSound h) (single : s.parts = [u])
    (whole : u.WellFormed h) : s.WellFormed h :=
  wellFormed_iff.mpr ⟨root, by simpa [single] using whole⟩

theorem wellFormed_named (n : Nat) (d : Definition) : (named n d).WellFormed h :=
  wellFormed_of_leaf True.intro rfl

theorem wellFormed_parameter (n : Nat) (p : Parameter) : (parameter n p).WellFormed h :=
  wellFormed_of_leaf True.intro rfl

theorem wellFormed_unsupported (n : Nat) (cause : Option Fault) :
    (unsupported n cause).WellFormed h :=
  wellFormed_of_leaf True.intro rfl

theorem wellFormed_of_sameRoot (same : s.SameRoot t) : s.WellFormed h := by
  rcases same with ⟨n, _, d, rfl, -⟩ | ⟨n, _, cause, rfl, -⟩
  · exact wellFormed_named n d
  · exact wellFormed_unsupported n cause

theorem wellFormed_of_stripped {d : Definition} {n : Nat} {chain : List Definition}
    {arguments : List Symbol} (chained : h.IsChain d chain)
    (some : Hierarchy.flattened chain ≠ [])
    (arity : (Hierarchy.flattened chain).length = arguments.length)
    (sound : ∀ a ∈ arguments, a.isUnsupported = false)
    (whole : ∀ a ∈ arguments, a.WellFormed h) (stripped : s.stripped =
      .constructed n d (Binding.align (Hierarchy.flattened chain) arguments)) :
    s.WellFormed h := by
  have parameters := Binding.parameters_align arity
  have bound := Binding.arguments_align arity
  have underlying : (constructed n d
      (Binding.align (Hierarchy.flattened chain) arguments)).WellFormed h := by
    refine wellFormed_iff.mpr ⟨⟨⟨chain, chained, parameters⟩, ?_, ?_⟩, ?_⟩
    · intro none
      rw [none] at parameters
      exact some parameters.symm
    · intro b member
      have given := List.mem_map_of_mem (f := (·.argument)) member
      rw [bound] at given
      exact sound _ given
    · rw [parts, bound]
      exact whole
  rw [← stripped] at underlying
  cases s with
  | illegal n' u =>
      have root : u.isConstructed = true := by rw [show u = _ from stripped]; rfl
      exact wellFormed_of_operand root rfl underlying
  | _ => exact underlying

theorem WellFormed.of_chains (whole : s.WellFormed h)
    (chains : ∀ n d bindings, IsPartOf (.constructed n d bindings) s → ∀ chain,
      h.IsChain d chain → h'.IsChain d chain) : s.WellFormed h' := by
  intro t part
  have sound := whole t part
  cases t with
  | constructed n d bindings =>
      obtain ⟨⟨chain, chained, parameters⟩, rest⟩ := sound
      exact ⟨⟨chain, chains n d bindings part chain chained, parameters⟩, rest⟩
  | _ => exact sound

theorem parts_unnumbered (s : Symbol) : s.unnumbered.parts = s.parts.map (·.unnumbered) := by
  cases s <;> simp [bare, parts, bareBindings_eq_map]

theorem isConstructed_unnumbered (s : Symbol) :
    s.unnumbered.isConstructed = s.isConstructed := by
  cases s <;> simp [bare, isConstructed]

theorem isSound_unnumbered (s : Symbol) : s.unnumbered.IsSound h ↔ s.IsSound h := by
  cases s with
  | constructed n d bindings =>
      simp [bare, IsSound, bareBindings_eq_map, isUnsupported_unnumbered, Function.comp_def]
  | _ => simp [bare, IsSound, isUnsupported_unnumbered, isConstructed_unnumbered]

theorem wellFormed_unnumbered (s : Symbol) : s.unnumbered.WellFormed h ↔ s.WellFormed h := by
  induction s using parts_induction with
  | made s ih =>
    rw [wellFormed_iff, wellFormed_iff, isSound_unnumbered, parts_unnumbered]
    simp only [List.forall_mem_map]
    exact and_congr_right fun _ => forall₂_congr ih

theorem WellFormed.of_unnumbered (whole : s.WellFormed h)
    (same : t.unnumbered = s.unnumbered) : t.WellFormed h := by
  rw [← wellFormed_unnumbered, same, wellFormed_unnumbered]
  exact whole

end ClrTypes.Symbol

namespace ClrTypes.Substitution

variable {h : Hierarchy} {m : Substitution}

theorem mem_of_lookup? {p : Parameter} {a : Symbol} (found : m.lookup? p = some a) :
    ∃ b ∈ m.bindings, b.argument = a := by
  obtain ⟨b, first, same⟩ := Option.map_eq_some_iff.mp found
  exact ⟨b, List.mem_of_find?_eq_some first, same⟩

theorem isUnsupported_image (sound : ∀ b ∈ m.bindings, b.argument.isUnsupported = false)
    (s : Symbol) : (m.image s).isUnsupported = s.isUnsupported := by
  cases s with
  | parameter n p =>
      rw [image]
      cases found : m.lookup? p with
      | none => rfl
      | some a =>
          obtain ⟨b, member, rfl⟩ := mem_of_lookup? found
          exact sound b member
  | _ => rfl

theorem isConstructed_image {s : Symbol} (built : s.isConstructed = true) :
    (m.image s).isConstructed = true := by
  cases s <;> simp_all [Symbol.isConstructed, image]

theorem image_wellFormed (sound : ∀ b ∈ m.bindings, b.argument.isUnsupported = false)
    (arguments : ∀ b ∈ m.bindings, b.argument.WellFormed h) {s : Symbol}
    (whole : s.WellFormed h) : (m.image s).WellFormed h := by
  induction s with
  | named | unsupported => exact whole
  | parameter n p =>
      rw [image]
      cases found : m.lookup? p with
      | none => exact whole
      | some a =>
          obtain ⟨b, member, rfl⟩ := mem_of_lookup? found
          exact arguments b member
  | byRef n s ih =>
      exact Symbol.wellFormed_of_operand True.intro rfl (ih (whole.part List.mem_cons_self))
  | array n s rank dimensions modifiers ih _ | szArray n s modifiers ih _
  | pointer n s modifiers ih _ =>
      have root := whole.isSound
      refine Symbol.wellFormed_of_operand ?_ rfl (ih (whole.part List.mem_cons_self))
      simpa [image, Symbol.IsSound, isUnsupported_image sound] using root
  | illegal n s ih =>
      have root : (m.image s).isConstructed = true := isConstructed_image whole.isSound
      exact Symbol.wellFormed_of_operand root rfl (ih (whole.part List.mem_cons_self))
  | constructed n d bindings ih =>
      rw [image, Symbol.wellFormed_iff, imageBindings_eq_map]
      constructor
      · have root := whole.isSound
        simpa [Symbol.IsSound, isUnsupported_image sound, Function.comp_def] using root
      · have inner (b : Binding Symbol) (member : b ∈ bindings) :
            (m.image b.argument).WellFormed h :=
          ih b member (whole.part (List.mem_map_of_mem member))
        simpa [Symbol.parts] using inner

end ClrTypes.Substitution
