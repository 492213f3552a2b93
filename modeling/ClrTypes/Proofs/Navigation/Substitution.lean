import ClrTypes.Navigation
import ClrTypes.Proofs.Instantiation
import ClrTypes.Proofs.Substitution.Composition
import ClrTypes.Proofs.Substitution.Mentions

namespace ClrTypes

namespace Substitution

variable {m : Substitution} {s t : Symbol} {bindings others : List (Binding Symbol)}

def Maps (m : Substitution) (s t : Symbol) : Prop :=
  Build.Yields t.SameTree (m.apply s)

def MapsBindings (m : Substitution) (bindings others : List (Binding Symbol)) : Prop :=
  Symbol.bareBindings true others = Symbol.bareBindings true (m.imageBindings bindings)

theorem maps_of_unnumbered (same : t.unnumbered = (m.image s).unnumbered) : m.Maps s t := by
  intro p
  apply Symbol.sameTree_of_unnumbered
  rw [same, m.apply_yields s p]

theorem MapsBindings.maps (maps : m.MapsBindings bindings others) (n n' : Nat) (d : Definition) :
    m.Maps (.constructed n d bindings) (.constructed n' d others) := by
  apply maps_of_unnumbered
  simp only [image, Symbol.bare]
  rw [show Symbol.bareBindings true others = _ from maps]

theorem MapsBindings.length_eq (maps : m.MapsBindings bindings others) :
    others.length = bindings.length := by
  have lengths := congrArg List.length maps
  simpa [Symbol.bareBindings_eq_map, imageBindings_eq_map] using lengths

theorem MapsBindings.take (maps : m.MapsBindings bindings others) (count : Nat) :
    m.MapsBindings (bindings.take count) (others.take count) := by
  have leading := congrArg (List.take count) maps
  simpa [MapsBindings, Symbol.bareBindings_eq_map, imageBindings_eq_map, List.map_take]
    using leading

theorem apply_constructed_yields (m : Substitution) (n : Nat) (d : Definition)
    (bindings : List (Binding Symbol)) :
    Build.Yields (fun t => ∃ n' others, t = .constructed n' d others ∧
      m.MapsBindings bindings others) (m.apply (.constructed n d bindings)) := by
  intro p
  have same := m.apply_yields (.constructed n d bindings) p
  generalize (m.apply (.constructed n d bindings)).outcome p = t at same ⊢
  cases t <;>
    simp only [image, Symbol.bare, reduceCtorEq, if_true, Symbol.constructed.injEq] at same
  obtain ⟨-, rfl, same⟩ := same
  exact ⟨_, _, rfl, same⟩

theorem lookup?_imageBindings (m : Substitution) (bindings : List (Binding Symbol))
    (p : Parameter) :
    lookup? ⟨m.imageBindings bindings⟩ p = (lookup? ⟨bindings⟩ p).map m.image := by
  simp [lookup?, imageBindings_eq_map, List.find?_map, Function.comp_def]

theorem image_image_of_bound
    (bound : ∀ p, s.Mentions p → (lookup? ⟨bindings⟩ p).isSome = true) :
    m.image (image ⟨bindings⟩ s) = image ⟨m.imageBindings bindings⟩ s := by
  rw [image_image]
  apply image_eq_of_mentions
  intro p mentioned
  obtain ⟨a, found⟩ := Option.isSome_iff_exists.mp (bound p mentioned)
  rw [lookup?_andThen, lookup?_imageBindings, found]
  rfl

end Substitution

namespace Hierarchy

open Substitution (image)

variable {h : Hierarchy} {m : Substitution} {n n' : Nat} {d : Definition}
  {bindings others : List (Binding Symbol)}

theorem seenFrom_maps (maps : m.MapsBindings bindings others) {recorded : Symbol}
    (bound : ∀ p, recorded.Mentions p → (Substitution.lookup? ⟨bindings⟩ p).isSome = true) :
    Build.Relates m.Maps (seenFrom (.constructed n d bindings) recorded)
      (seenFrom (.constructed n' d others) recorded) := by
  intro p q
  apply Substitution.maps_of_unnumbered
  calc ((seenFrom (.constructed n' d others) recorded).outcome q).unnumbered
      = (image ⟨others⟩ recorded).unnumbered := Substitution.apply_yields ⟨others⟩ recorded q
    _ = (image ⟨m.imageBindings bindings⟩ recorded).unnumbered :=
      Substitution.image_congr (congrArg Substitution.mk maps) rfl
    _ = (m.image (image ⟨bindings⟩ recorded)).unnumbered := by
      rw [Substitution.image_image_of_bound bound]
    _ = (m.image ((seenFrom (.constructed n d bindings) recorded).outcome p)).unnumbered :=
      Substitution.image_congr rfl (Substitution.apply_yields ⟨bindings⟩ recorded p).symm

theorem baseOf?_maps (maps : m.MapsBindings bindings others)
    (bound : ∀ base, h.base? d = some base → ∀ p, base.Mentions p →
      (Substitution.lookup? ⟨bindings⟩ p).isSome = true) :
    Build.Relates (Option.Rel m.Maps) (h.baseOf? (.constructed n d bindings))
      (h.baseOf? (.constructed n' d others)) := by
  simp only [baseOf?, Symbol.definition?, Option.bind_some]
  cases recorded : h.base? d with
  | none => exact .pure .none
  | some base =>
      refine (seenFrom_maps maps (bound base recorded)).bind ?_
      intro s t related
      exact .pure (.some related)

theorem interfacesOf?_maps (maps : m.MapsBindings bindings others)
    (bound : ∀ interface ∈ h.interfaces d, ∀ p, interface.Mentions p →
      (Substitution.lookup? ⟨bindings⟩ p).isSome = true) :
    Build.Relates (Option.Rel (List.Forall₂ m.Maps)) (h.interfacesOf? (.constructed n d bindings))
      (h.interfacesOf? (.constructed n' d others)) := by
  simp only [interfacesOf?, Symbol.definition?]
  have each : ∀ interface ∈ h.interfaces d,
      Build.Relates m.Maps (seenFrom (.constructed n d bindings) interface)
        (seenFrom (.constructed n' d others) interface) := by
    intro interface member
    exact seenFrom_maps maps (bound interface member)
  refine (Build.Relates.mapM each).bind ?_
  intro ss ts related
  exact .pure (.some related)

theorem containerOf?_maps (maps : m.MapsBindings bindings others) :
    Build.Relates (Option.Rel m.Maps) (h.containerOf? (.constructed n d bindings))
      (h.containerOf? (.constructed n' d others)) := by
  simp only [containerOf?, maps.length_eq]
  cases h.container? d with
  | none => exact .pure .none
  | some c =>
      by_cases outermost : bindings.length - d.arity = 0
      · simp only [outermost, if_true]
        refine ((Build.named_yields c).both (Build.named_yields c)).bind ?_
        rintro _ _ ⟨⟨k, rfl⟩, k', rfl⟩
        exact .pure (.some (Substitution.maps_of_unnumbered rfl))
      · simp only [outermost, if_false]
        refine ((Build.constructed_yields _ _).both (Build.constructed_yields _ _)).bind ?_
        rintro _ _ ⟨⟨k, rfl⟩, k', rfl⟩
        exact .pure (.some ((maps.take _).maps k k' c))

/-- Substituting in a constructed type and then navigating from it is the same as navigating and
then substituting. The type has to bind the parameters of its definition's base and interfaces. -/
theorem navigation_substituted (h : Hierarchy) (m : Substitution) {n : Nat} {d : Definition}
    {bindings : List (Binding Symbol)}
    (bound : ∀ recorded, h.base? d = some recorded ∨ recorded ∈ h.interfaces d →
      ∀ p, recorded.Mentions p → (Substitution.lookup? ⟨bindings⟩ p).isSome = true)
    (p : Progress) :
    let s := Symbol.constructed n d bindings
    let t := (m.apply s).outcome p
    Build.Relates (Option.Rel m.Maps) (h.baseOf? s) (h.baseOf? t) ∧
      Build.Relates (Option.Rel (List.Forall₂ m.Maps)) (h.interfacesOf? s) (h.interfacesOf? t) ∧
      Build.Relates (Option.Rel m.Maps) (h.containerOf? s) (h.containerOf? t) := by
  intro s t
  obtain ⟨n', others, shape, maps⟩ := m.apply_constructed_yields n d bindings p
  rw [show t = _ from shape]
  refine ⟨baseOf?_maps maps ?_, interfacesOf?_maps maps ?_, containerOf?_maps maps⟩
  · intro base recorded
    exact bound base (.inl recorded)
  · intro interface member
    exact bound interface (.inr member)

end Hierarchy

namespace Sample

def recursive : Hierarchy :=
  let formals := box.parameters ++ view.parameters
  let own : Symbol := .constructed 0 view (Binding.align formals (formals.map (.parameter 1)))
  let relations : Relations :=
    { container := some box
      base := some (.constructed 2 lens (Binding.align lens.parameters [own]))
      interfaces := [.constructed 3 box
        (Binding.align box.parameters (view.parameters.map (.parameter 4)))] }
  { entries := [(view.serial, relations)] }

def exchanged : List (Binding Symbol) :=
  Binding.align (box.parameters ++ view.parameters)
    (view.parameters.map (fun p => .szArray 5 (.parameter 6 p) []) ++
      box.parameters.map (.parameter 7))

theorem recursive_bound (recorded : Symbol)
    (known : recursive.base? view = some recorded ∨ recorded ∈ recursive.interfaces view)
    (p : Parameter) (mentioned : recorded.Mentions p) :
    (Substitution.lookup? ⟨exchanged⟩ p).isSome = true := by
  rcases known with base | interface
  · obtain rfl := Option.some.inj base
    have formal : p = ⟨⟨0x2A000001⟩, "T", 0⟩ ∨ p = ⟨⟨0x2A000002⟩, "U", 0⟩ := by
      simpa [Symbol.mentions_constructed, Symbol.mentions_parameter, Binding.align, lens, box,
        view, define] using mentioned
    rcases formal with rfl | rfl <;> rfl
  · obtain rfl := List.mem_singleton.mp interface
    have formal : p = ⟨⟨0x2A000002⟩, "U", 0⟩ := by
      simpa [Symbol.mentions_constructed, Symbol.mentions_parameter, Binding.align, box, view,
        define] using mentioned
    subst formal
    rfl

end Sample

theorem Hierarchy.view_navigation_substituted :
    let h := Sample.recursive
    let m : Substitution := ⟨Binding.align (Sample.box.parameters ++ Sample.view.parameters)
      [.named 8 Sample.point, .named 9 Sample.shape]⟩
    let s : Symbol := .constructed 10 Sample.view Sample.exchanged
    let t := (m.apply s).outcome { next := 11 }
    Build.Relates (Option.Rel m.Maps) (h.baseOf? s) (h.baseOf? t) ∧
      Build.Relates (Option.Rel (List.Forall₂ m.Maps)) (h.interfacesOf? s) (h.interfacesOf? t) ∧
      Build.Relates (Option.Rel m.Maps) (h.containerOf? s) (h.containerOf? t) ∧
      ((h.baseOf? t).outcome { next := 13 }).isSome = true ∧
      ((h.containerOf? t).outcome { next := 13 }).isSome = true := by
  intro h m s t
  obtain ⟨base, interfaces, container⟩ := navigation_substituted h m (n := 10)
    Sample.recursive_bound { next := 11 }
  exact ⟨base, interfaces, container, by decide, by decide⟩

end ClrTypes
