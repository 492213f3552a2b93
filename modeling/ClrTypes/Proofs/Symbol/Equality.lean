import ClrTypes.Proofs.Symbol.Parts
import ClrTypes.Symbol.Equality

/-!
# Canonical symbols

Equality of symbols looks at the tokens of parameters, at what identifies a definition, and at the
names of assemblies up to case. A symbol from which all else is taken away is canonical, and symbols
are equal exactly if they have the same canonical form. So equality is an equivalence.
-/

namespace ClrTypes

theorem Text.sameIgnoringCase_iff {s t : List Char} :
    Text.sameIgnoringCase s t = true ↔ s.map Char.toLower = t.map Char.toLower := by
  induction s generalizing t with
  | nil => cases t <;> simp [Text.sameIgnoringCase]
  | cons c s ih => cases t <;> simp [Text.sameIgnoringCase, ih]

def Assembly.canonical (a : Assembly) : Assembly :=
  { a with name := a.name.toLower }

def Definition.canonical (d : Definition) : Definition where
  serial := 0
  token := d.token
  space := d.space
  name := d.name
  flags := .none
  assembly := d.assembly.canonical
  parameters := []
  special := none
  isLocal := false

def Parameter.canonical (p : Parameter) : Parameter :=
  ⟨p.token, "", 0⟩

theorem Assembly.beq_iff {a b : Assembly} : (a == b) = true ↔ a.canonical = b.canonical := by
  show a.beq b = true ↔ _
  have names : a.name.toLower = b.name.toLower ↔
      a.name.toList.map Char.toLower = b.name.toList.map Char.toLower := by
    show a.name.map Char.toLower = b.name.map Char.toLower ↔ _
    rw [← String.toList_inj, String.toList_map, String.toList_map]
  simp [Assembly.beq, canonical, Text.sameIgnoringCase_iff, names, and_assoc]

theorem Definition.beq_iff {d e : Definition} : (d == e) = true ↔ d.canonical = e.canonical := by
  show d.beq e = true ↔ _
  simp only [Definition.beq, canonical, Bool.and_eq_true, beq_iff_eq, Assembly.beq_iff,
    Definition.mk.injEq, true_and, and_true]
  constructor
  · rintro ⟨⟨⟨token, assembly⟩, space⟩, name⟩
    exact ⟨token, space, name, assembly⟩
  · rintro ⟨token, space, name, assembly⟩
    exact ⟨⟨⟨token, assembly⟩, space⟩, name⟩

theorem Parameter.beq_iff {p q : Parameter} : (p == q) = true ↔ p.canonical = q.canonical := by
  show (p.token == q.token) = true ↔ _
  simp [canonical]

theorem equivBEq_of_canonical {α β : Type} [BEq α] {canonical : α → β}
    (iff : ∀ {a b : α}, (a == b) = true ↔ canonical a = canonical b) : EquivBEq α where
  rfl := iff.mpr rfl
  symm same := iff.mpr (iff.mp same).symm
  trans first second := iff.mpr ((iff.mp first).trans (iff.mp second))

instance : EquivBEq Assembly := equivBEq_of_canonical Assembly.beq_iff

instance : EquivBEq Definition := equivBEq_of_canonical Definition.beq_iff

instance : EquivBEq Parameter := equivBEq_of_canonical Parameter.beq_iff

namespace Symbol

mutual

/-- The symbol with nothing in it but what equality looks at. -/
def canonical : Symbol → Symbol
  | .array _ s rank dimensions modifiers =>
    .array 0 (canonical s) rank dimensions (canonicalModifiers modifiers)
  | .szArray _ s modifiers => .szArray 0 (canonical s) (canonicalModifiers modifiers)
  | .pointer _ s modifiers => .pointer 0 (canonical s) (canonicalModifiers modifiers)
  | .byRef _ s => .byRef 0 (canonical s)
  | .named _ d => .named 0 d.canonical
  | .constructed _ d bindings => .constructed 0 d.canonical (canonicalBindings bindings)
  | .parameter _ p => .parameter 0 p.canonical
  | .unsupported _ cause => .unsupported 0 cause
  | .illegal _ s => .illegal 0 (canonical s)

def canonicalModifiers : List (Modifier Symbol) → List (Modifier Symbol)
  | [] => []
  | ⟨required, s⟩ :: rest => ⟨required, canonical s⟩ :: canonicalModifiers rest

def canonicalBindings : List (Binding Symbol) → List (Binding Symbol)
  | [] => []
  | ⟨p, s⟩ :: rest => ⟨p.canonical, canonical s⟩ :: canonicalBindings rest

end

theorem canonicalModifiers_eq_map (modifiers : List (Modifier Symbol)) :
    canonicalModifiers modifiers = modifiers.map fun m => ⟨m.required, m.type.canonical⟩ := by
  induction modifiers with
  | nil => rfl
  | cons m modifiers ih => simp [canonicalModifiers, ih]

theorem canonicalBindings_eq_map (bindings : List (Binding Symbol)) :
    canonicalBindings bindings =
      bindings.map fun b => ⟨b.parameter.canonical, b.argument.canonical⟩ := by
  induction bindings with
  | nil => rfl
  | cons b bindings ih => simp [canonicalBindings, ih]

theorem beqModifiers_iff_of_mem {modifiers others : List (Modifier Symbol)}
    (types : ∀ m ∈ modifiers, ∀ t, beq m.type t = true ↔ m.type.canonical = t.canonical) :
    beqModifiers modifiers others = true ↔
      canonicalModifiers modifiers = canonicalModifiers others := by
  induction modifiers generalizing others with
  | nil => cases others <;> simp [beqModifiers, canonicalModifiers]
  | cons m modifiers ih =>
      obtain ⟨first, rest⟩ := List.forall_mem_cons.mp types
      cases others <;> simp [beqModifiers, canonicalModifiers, first, ih rest]

theorem beqBindings_iff_of_mem {bindings others : List (Binding Symbol)}
    (arguments : ∀ b ∈ bindings, ∀ t,
      beq b.argument t = true ↔ b.argument.canonical = t.canonical) :
    beqBindings bindings others = true ↔
      canonicalBindings bindings = canonicalBindings others := by
  induction bindings generalizing others with
  | nil => cases others <;> simp [beqBindings, canonicalBindings]
  | cons b bindings ih =>
      obtain ⟨first, rest⟩ := List.forall_mem_cons.mp arguments
      cases others <;>
        simp [beqBindings, canonicalBindings, Parameter.beq_iff, first, ih rest]

theorem beq_iff {s t : Symbol} : (s == t) = true ↔ s.canonical = t.canonical := by
  show beq s t = true ↔ _
  induction s generalizing t with
  | array n s rank dimensions modifiers element types =>
      cases t <;> simp [beq, canonical, element, beqModifiers_iff_of_mem fun m member _ =>
        types m member, and_assoc]
  | szArray n s modifiers element types =>
      cases t <;> simp [beq, canonical, element, beqModifiers_iff_of_mem fun m member _ =>
        types m member]
  | pointer n s modifiers pointee types =>
      cases t <;> simp [beq, canonical, pointee, beqModifiers_iff_of_mem fun m member _ =>
        types m member]
  | constructed n d bindings arguments =>
      cases t <;> simp [beq, canonical, Definition.beq_iff, beqBindings_iff_of_mem
        fun b member _ => arguments b member]
  | byRef n s inner | illegal n s inner => cases t <;> simp [beq, canonical, inner]
  | named | parameter | unsupported =>
      cases t <;> simp [beq, canonical, Definition.beq_iff, Parameter.beq_iff]

instance : EquivBEq Symbol := equivBEq_of_canonical beq_iff

theorem beqBindings_iff {bindings others : List (Binding Symbol)} :
    beqBindings bindings others = true ↔
      canonicalBindings bindings = canonicalBindings others :=
  beqBindings_iff_of_mem fun _ _ _ => beq_iff

end Symbol

end ClrTypes
