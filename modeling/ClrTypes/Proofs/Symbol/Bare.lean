import ClrTypes.Proofs.Symbol.Equality
import ClrTypes.Symbol.Display

namespace ClrTypes

namespace Symbol

mutual

/-- The symbol with all serial numbers zero, and without illegal markers unless `marks` is set. -/
def bare (marks : Bool) : Symbol → Symbol
  | .array _ s rank dimensions modifiers =>
    .array 0 (bare marks s) rank dimensions (bareModifiers marks modifiers)
  | .szArray _ s modifiers => .szArray 0 (bare marks s) (bareModifiers marks modifiers)
  | .pointer _ s modifiers => .pointer 0 (bare marks s) (bareModifiers marks modifiers)
  | .byRef _ s => .byRef 0 (bare marks s)
  | .named _ d => .named 0 d
  | .constructed _ d bindings => .constructed 0 d (bareBindings marks bindings)
  | .parameter _ p => .parameter 0 p
  | .unsupported _ cause => .unsupported 0 cause
  | .illegal _ s => if marks then .illegal 0 (bare marks s) else bare marks s

def bareModifiers (marks : Bool) : List (Modifier Symbol) → List (Modifier Symbol)
  | [] => []
  | ⟨required, s⟩ :: rest => ⟨required, bare marks s⟩ :: bareModifiers marks rest

def bareBindings (marks : Bool) : List (Binding Symbol) → List (Binding Symbol)
  | [] => []
  | ⟨p, s⟩ :: rest => ⟨p, bare marks s⟩ :: bareBindings marks rest

end

abbrev unnumbered (s : Symbol) : Symbol := s.bare true

abbrev unmarked (s : Symbol) : Symbol := s.bare false

theorem bareModifiers_eq_map (marks : Bool) (modifiers : List (Modifier Symbol)) :
    bareModifiers marks modifiers = modifiers.map fun m => ⟨m.required, m.type.bare marks⟩ := by
  induction modifiers with
  | nil => rfl
  | cons m modifiers ih => simp [bareModifiers, ih]

theorem bareBindings_eq_map (marks : Bool) (bindings : List (Binding Symbol)) :
    bareBindings marks bindings = bindings.map fun b => ⟨b.parameter, b.argument.bare marks⟩ := by
  induction bindings with
  | nil => rfl
  | cons b bindings ih => simp [bareBindings, ih]

theorem bareBindings_congr {marks : Bool} {bindings others : List (Binding Symbol)}
    (parameters : bindings.map (·.parameter) = others.map (·.parameter))
    (arguments : (bindings.map (·.argument)).map (bare marks) =
      (others.map (·.argument)).map (bare marks)) :
    bareBindings marks bindings = bareBindings marks others := by
  induction bindings generalizing others with
  | nil => cases others <;> simp_all [bareBindings]
  | cons b bindings ih =>
      cases others with
      | nil => simp at parameters
      | cons other others =>
          simp only [List.map_cons, List.cons.injEq] at parameters arguments
          simp [bareBindings, parameters.1, arguments.1, ih parameters.2 arguments.2]

theorem bare_unnumbered (marks : Bool) (s : Symbol) : s.unnumbered.bare marks = s.bare marks := by
  induction s with
  | named | parameter | unsupported => rfl
  | byRef n s ih => simp [bare, ih]
  | illegal n s ih => cases marks <;> simp [bare, ih]
  | constructed n d bindings ih =>
      simpa [bare, bareBindings_eq_map] using ih
  | array | szArray | pointer =>
      rename_i element modifiers
      simpa [bare, bareModifiers_eq_map, element] using modifiers

theorem isUnsupported_unnumbered (s : Symbol) : s.unnumbered.isUnsupported = s.isUnsupported := by
  cases s <;> simp [bare, isUnsupported]

theorem definition?_unnumbered (s : Symbol) : s.unnumbered.definition? = s.definition? := by
  cases s <;> simp [bare, definition?]

theorem isClosedOver_unnumbered (assemblies : List Assembly) (s : Symbol) :
    s.unnumbered.isClosedOver assemblies = s.isClosedOver assemblies := by
  induction s with
  | constructed n d bindings ih =>
      have arguments : anyClosedOver assemblies (bareBindings true bindings) =
          anyClosedOver assemblies bindings := by
        induction bindings with
        | nil => rfl
        | cons b bindings rest =>
            simp only [List.mem_cons, forall_eq_or_imp] at ih
            simp [bareBindings, anyClosedOver, ih.1, rest ih.2]
      simp [bare, isClosedOver, arguments]
  | _ => simp_all [bare, isClosedOver]

theorem display_bare (h : Hierarchy) (marks : Bool) (s : Symbol) :
    (s.bare marks).display h = s.display h := by
  induction s with
  | constructed n d bindings ih =>
      have arguments : displayArguments h (bareBindings marks bindings) =
          displayArguments h bindings := by
        induction bindings with
        | nil => rfl
        | cons b bindings rest =>
            simp only [List.mem_cons, forall_eq_or_imp] at ih
            simp [bareBindings, displayArguments, ih.1, rest ih.2]
      simp [bare, display, arguments]
  | unsupported n cause => cases cause <;> simp [bare, display]
  | illegal n s ih => cases marks <;> simp [bare, display, ih]
  | _ => simp_all [bare, display]

theorem definition?_of_unnumbered {s t : Symbol} (same : s.unnumbered = t.unnumbered) :
    s.definition? = t.definition? := by
  rw [← definition?_unnumbered, same, definition?_unnumbered]

theorem display_of_unnumbered (h : Hierarchy) {s t : Symbol} (same : s.unnumbered = t.unnumbered) :
    s.display h = t.display h := by
  rw [← display_bare h true, ← display_bare h true t]
  exact congrArg (display h) same

theorem canonical_unnumbered (s : Symbol) : s.unnumbered.canonical = s.canonical := by
  induction s with
  | constructed n d bindings ih =>
      simpa [bare, canonical, bareBindings_eq_map, canonicalBindings_eq_map] using ih
  | array | szArray | pointer =>
      rename_i element modifiers
      simpa [bare, canonical, bareModifiers_eq_map, canonicalModifiers_eq_map, element]
        using modifiers
  | _ => simp_all [bare, canonical]

theorem canonical_of_unnumbered {s t : Symbol} (same : s.unnumbered = t.unnumbered) :
    s.canonical = t.canonical := by
  rw [← canonical_unnumbered, same, canonical_unnumbered]

theorem beq_of_unnumbered {s t : Symbol} (same : s.unnumbered = t.unnumbered) :
    (s == t) = true :=
  beq_iff.mpr (canonical_of_unnumbered same)

/-- The symbols are equal, and so are their trees apart from serial numbers. -/
def SameTree (s t : Symbol) : Prop :=
  s.unnumbered = t.unnumbered ∧ (s == t) = true

theorem sameTree_of_unnumbered {s t : Symbol} (same : s.unnumbered = t.unnumbered) :
    s.SameTree t :=
  ⟨same, beq_of_unnumbered same⟩

end Symbol

end ClrTypes
