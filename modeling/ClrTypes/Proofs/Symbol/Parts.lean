import ClrTypes.Symbol.Closure
import Mathlib.Logic.Basic
import Mathlib.Logic.Relation

namespace ClrTypes.Symbol

@[elab_as_elim, induction_eliminator]
theorem induction {motive : Symbol → Prop}
    (array : ∀ serial element rank dimensions modifiers, motive element →
      (∀ m ∈ modifiers, motive m.type) → motive (.array serial element rank dimensions modifiers))
    (szArray : ∀ serial element modifiers, motive element → (∀ m ∈ modifiers, motive m.type) →
      motive (.szArray serial element modifiers))
    (pointer : ∀ serial pointee modifiers, motive pointee → (∀ m ∈ modifiers, motive m.type) →
      motive (.pointer serial pointee modifiers))
    (byRef : ∀ serial referenced, motive referenced → motive (.byRef serial referenced))
    (named : ∀ serial definition, motive (.named serial definition))
    (constructed : ∀ serial definition bindings, (∀ b ∈ bindings, motive b.argument) →
      motive (.constructed serial definition bindings))
    (parameter : ∀ serial p, motive (.parameter serial p))
    (unsupported : ∀ serial cause, motive (.unsupported serial cause))
    (illegal : ∀ serial underlying, motive underlying → motive (.illegal serial underlying))
    (s : Symbol) : motive s :=
  Symbol.rec (motive_1 := motive) (motive_2 := fun ms => ∀ m ∈ ms, motive m.type)
    (motive_3 := fun bs => ∀ b ∈ bs, motive b.argument) (motive_4 := fun m => motive m.type)
    (motive_5 := fun b => motive b.argument)
    (fun n s rank ds ms element modifiers => array n s rank ds ms element modifiers)
    (fun n s ms element modifiers => szArray n s ms element modifiers)
    (fun n s ms pointee modifiers => pointer n s ms pointee modifiers)
    byRef named constructed parameter unsupported illegal
    (by simp) (fun _ _ first rest => by simpa using ⟨first, rest⟩)
    (by simp) (fun _ _ first rest => by simpa using ⟨first, rest⟩)
    (fun _ _ type => type) (fun _ _ argument => argument) s

def isConstructed : Symbol → Bool
  | .constructed .. => true
  | _ => false

theorem eq_of_definition? {s : Symbol} {d : Definition} (nominal : s.definition? = some d) :
    (∃ n, s = .named n d) ∨ ∃ n bindings, s = .constructed n d bindings := by
  cases s <;> simp_all [definition?]

def parts : Symbol → List Symbol
  | .array _ s .. | .szArray _ s _ | .pointer _ s _ | .byRef _ s | .illegal _ s => [s]
  | .constructed _ _ bindings => bindings.map (·.argument)
  | .named .. | .parameter .. | .unsupported .. => []

def IsPartOf (t s : Symbol) : Prop :=
  Relation.ReflTransGen (fun u v => u ∈ v.parts) t s

theorem isPartOf_iff {t s : Symbol} : t.IsPartOf s ↔ t = s ∨ ∃ u ∈ s.parts, t.IsPartOf u := by
  rw [IsPartOf, Relation.ReflTransGen.cases_tail_iff, eq_comm]
  simp only [IsPartOf, and_comm]

theorem IsPartOf.refl (s : Symbol) : s.IsPartOf s :=
  Relation.ReflTransGen.refl

theorem IsPartOf.inner {t u s : Symbol} (part : t.IsPartOf u) (member : u ∈ s.parts) :
    t.IsPartOf s :=
  Relation.ReflTransGen.tail part member

theorem parts_induction {motive : Symbol → Prop}
    (made : ∀ s : Symbol, (∀ u ∈ s.parts, motive u) → motive s) (s : Symbol) : motive s := by
  induction s with
  | constructed n d bindings arguments =>
      apply made
      simpa [parts] using arguments
  | named | parameter | unsupported => exact made _ (by simp [parts])
  | byRef | illegal =>
      rename_i inner
      exact made _ (by simpa [parts] using inner)
  | array | szArray | pointer =>
      rename_i inner _
      exact made _ (by simpa [parts] using inner)

theorem anyClosedOver_iff {assemblies : List Assembly} {bindings : List (Binding Symbol)} :
    anyClosedOver assemblies bindings = true ↔
      ∃ b ∈ bindings, b.argument.isClosedOver assemblies = true := by
  induction bindings with
  | nil => simp [anyClosedOver]
  | cons b bindings ih => simp [anyClosedOver, ih]

theorem isClosedOver_iff_parts (assemblies : List Assembly) (s : Symbol) :
    s.isClosedOver assemblies = true ↔
      (∃ d, s.definition? = some d ∧ assemblies.contains d.assembly = true) ∨
        ∃ u ∈ s.parts, u.isClosedOver assemblies = true := by
  cases s with
  | constructed =>
      simp [isClosedOver, definition?, parts, anyClosedOver_iff]
  | _ => simp [isClosedOver, definition?, parts]

theorem isClosedOver_iff {assemblies : List Assembly} {s : Symbol} :
    s.isClosedOver assemblies = true ↔ ∃ t d, IsPartOf t s ∧ t.definition? = some d ∧
      assemblies.contains d.assembly = true := by
  constructor
  · intro closed
    induction s using parts_induction with
    | made s ih =>
      rcases (isClosedOver_iff_parts _ _).mp closed with ⟨d, defined, found⟩ | ⟨u, member, found⟩
      · exact ⟨s, d, .refl s, defined, found⟩
      · obtain ⟨t, d, part, defined⟩ := ih u member found
        exact ⟨t, d, part.inner member, defined⟩
  · rintro ⟨t, d, part, defined, found⟩
    induction part with
    | refl => exact (isClosedOver_iff_parts _ _).mpr (.inl ⟨d, defined, found⟩)
    | tail _ member ih => exact (isClosedOver_iff_parts _ _).mpr (.inr ⟨_, member, ih⟩)

end ClrTypes.Symbol
