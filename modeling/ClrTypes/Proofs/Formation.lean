import ClrTypes.Navigation
import ClrTypes.Proofs.Instantiation
import ClrTypes.Proofs.Resolution.Simulation
import ClrTypes.Proofs.Symbol.WellFormed

namespace ClrTypes

open ClrTypes.Symbol (WellFormed)

variable {h : Hierarchy} {s : Symbol}

namespace Build

theorem unsupported_wellFormed (cause : Option Fault) : Yields (WellFormed h) (unsupported cause) :=
  (unsupported_yields cause).mono fun _ ⟨n, same⟩ => same ▸ Symbol.wellFormed_unsupported n cause

theorem named_wellFormed (d : Definition) : Yields (WellFormed h) (named d) :=
  (named_yields d).mono fun _ ⟨n, same⟩ => same ▸ Symbol.wellFormed_named n d

theorem szArray_wellFormed (whole : s.WellFormed h) (modifiers : List (Modifier Symbol)) :
    Yields (WellFormed h) (szArray s modifiers) := by
  refine (szArray_yields s modifiers).mono fun t result => ?_
  cases result with
  | forwarded => exact whole
  | formed n built =>
      refine Symbol.wellFormed_of_operand ?_ rfl whole
      simpa [Symbol.IsSound] using built

theorem pointer_wellFormed (whole : s.WellFormed h) (modifiers : List (Modifier Symbol)) :
    Yields (WellFormed h) (pointer s modifiers) := by
  refine (pointer_yields s modifiers).mono fun t result => ?_
  cases result with
  | forwarded => exact whole
  | formed n built =>
      refine Symbol.wellFormed_of_operand ?_ rfl whole
      simpa [Symbol.IsSound] using built

theorem byRef_wellFormed (whole : s.WellFormed h) : Yields (WellFormed h) (byRef s) :=
  .after fun _ => .pure (Symbol.wellFormed_of_operand True.intro rfl whole)

theorem array_wellFormed (shown : Hierarchy) (whole : s.WellFormed h) (rank : UInt32)
    (dimensions : List Dimension) (modifiers : List (Modifier Symbol)) :
    Yields (WellFormed h) (array shown s rank dimensions modifiers) := by
  refine (array_yields shown s rank dimensions modifiers).mono fun t result => ?_
  cases result with
  | refused n cause => exact Symbol.wellFormed_unsupported n cause
  | made high result =>
      cases result with
      | forwarded => exact whole
      | formed n built => exact Symbol.wellFormed_of_operand ⟨high, built⟩ rfl whole

end Build

namespace Context

variable {ctx : Context}

theorem instantiate_wellFormed {generic : Symbol} {arguments : List Symbol}
    (whole : generic.WellFormed ctx.hierarchy)
    (each : ∀ a ∈ arguments, a.WellFormed ctx.hierarchy) (flags : List Bool) :
    Build.Yields (WellFormed ctx.hierarchy) (ctx.instantiate generic arguments flags) := by
  refine (ctx.instantiate_yields generic arguments flags).mono fun s result => ?_
  cases result with
  | refused n cause => exact Symbol.wellFormed_unsupported n cause
  | kept => exact whole
  | built n nominal walked some arity sound stripped _ =>
      obtain ⟨chain, chained, -, rfl⟩ := Hierarchy.isChain_of_formals walked
      exact Symbol.wellFormed_of_stripped chained some arity sound each stripped

theorem unbound_wellFormed (whole : s.WellFormed h) :
    Build.Yields (WellFormed h) (ctx.unbound s) := by
  cases s with
  | constructed n d bindings =>
      rw [unbound]
      split
      · exact Build.named_wellFormed d
      · exact .pure whole
  | _ => exact .pure whole

theorem resolve_wellFormed (loaded : ctx.home.IsLoaded) {scope : List Symbol}
    (known : ∀ s ∈ scope, s.WellFormed ctx.hierarchy) (signature : Signature) :
    Build.Yields (WellFormed ctx.hierarchy) (ctx.resolve scope signature) := by
  have sim : Simulates ctx ctx scope scope (fun _ => True)
      (fun s _ => s.WellFormed ctx.hierarchy) :=
    { types := fun _ _ _ _ => rfl
      named := fun n _ d _ _ => Symbol.wellFormed_named n d
      fault := fun n _ cause => Symbol.wellFormed_unsupported n cause
      special := fun type _ => (Module.special_relates loaded type.special).mono fun _ _ same =>
        Symbol.wellFormed_of_sameRoot same
      parameter := fun i =>
        (resolveParameter_yields known Symbol.wellFormed_unsupported i).relates
      pointer := fun _ _ ms _ whole _ => (Build.pointer_wellFormed whole ms).relates
      szArray := fun _ _ ms _ whole _ => (Build.szArray_wellFormed whole ms).relates
      array := fun _ _ _ rank dimensions _ whole =>
        (Build.array_wellFormed ctx.hierarchy whole rank dimensions []).relates
      byRef := fun _ _ whole => (Build.byRef_wellFormed whole).relates
      generic := fun _ _ ss ts flags _ _ _ whole _ each => by
        have paired := each.imp fun _ _ inner => And.intro inner True.intro
        have arguments : ∀ a ∈ ss, a.WellFormed ctx.hierarchy :=
          ((List.forall₂_and_left ss ts).mp paired).1
        exact (instantiate_wellFormed whole arguments flags).relates }
  exact (sim.resolve (.same rfl rfl) fun _ _ => True.intro).yields

end Context

namespace Hierarchy

theorem seenFrom_wellFormed (whole : s.WellFormed h) {recorded : Symbol}
    (known : recorded.WellFormed h) : Build.Yields (WellFormed h) (seenFrom s recorded) := by
  cases s with
  | constructed n d bindings =>
      have sound := whole.isSound.2.2
      have arguments (b : Binding Symbol) (member : b ∈ bindings) : b.argument.WellFormed h :=
        whole.part (List.mem_map_of_mem member)
      have image : (Substitution.image ⟨bindings⟩ recorded).WellFormed h :=
        Substitution.image_wellFormed sound arguments known
      exact (Substitution.apply_yields ⟨bindings⟩ recorded).mono fun t same =>
        image.of_unnumbered same
  | _ => exact .pure known

theorem baseOf?_wellFormed (whole : s.WellFormed h)
    (known : ∀ d base, h.base? d = some base → base.WellFormed h) :
    Build.Yields (fun r => ∀ t ∈ r, t.WellFormed h) (h.baseOf? s) := by
  unfold baseOf?
  cases recorded : s.definition?.bind h.base? with
  | none => exact .pure (by simp)
  | some base =>
      obtain ⟨d, _, found⟩ := Option.bind_eq_some_iff.mp recorded
      refine (seenFrom_wellFormed whole (known d base found)).bind fun t inner => .pure ?_
      simpa using inner

theorem interfacesOf?_wellFormed (whole : s.WellFormed h)
    (known : ∀ d, ∀ interface ∈ h.interfaces d, interface.WellFormed h) :
    Build.Yields (fun r => ∀ ts ∈ r, ∀ t ∈ ts, t.WellFormed h) (h.interfacesOf? s) := by
  unfold interfacesOf?
  cases s.definition? with
  | none => exact .pure (by simp)
  | some d =>
      have each := Build.Yields.mapM fun interface member =>
        seenFrom_wellFormed whole (known d interface member)
      exact each.bind fun ts all => .pure (by simpa using all)

theorem leading_wellFormed {n n' : Nat} {d c : Definition} {bindings : List (Binding Symbol)}
    (whole : (Symbol.constructed n d bindings).WellFormed h) (inside : h.container? d = some c)
    (some : bindings.length - d.arity ≠ 0) :
    (Symbol.constructed n' c (bindings.take (bindings.length - d.arity))).WellFormed h := by
  obtain ⟨⟨chain, chained, parameters⟩, -, sound⟩ := whole.isSound
  cases chained with
  | outermost top => simp [inside] at top
  | @nested _ c' outer inside' rest =>
      -- the chain goes on as that of `c`, and all but the last parameters belong to it
      obtain rfl : c = c' := Option.some.inj (inside.symm.trans inside')
      have lengths := congrArg List.length parameters
      rw [flattened_cons, List.length_map, List.length_append] at lengths
      have leading : bindings.length - d.arity = (flattened outer).length := by
        rw [lengths, Definition.arity, Nat.add_sub_cancel]
      refine Symbol.wellFormed_iff.mpr ⟨⟨⟨outer, rest, ?_⟩, ?_, ?_⟩, ?_⟩
      · rw [List.map_take, parameters, flattened_cons, leading, List.take_left]
      · intro none
        have empty := congrArg List.length none
        rw [List.length_take, List.length_nil] at empty
        omega
      · intro b member
        exact sound b (List.mem_of_mem_take member)
      · simp only [Symbol.parts, List.forall_mem_map]
        intro b member
        exact whole.part (List.mem_map_of_mem (List.mem_of_mem_take member))

theorem containerOf?_wellFormed (whole : s.WellFormed h) :
    Build.Yields (fun r => ∀ t ∈ r, t.WellFormed h) (h.containerOf? s) := by
  cases s with
  | named n d =>
      rw [containerOf?]
      cases h.container? d with
      | none => exact .pure (by simp)
      | some c => exact (Build.named_wellFormed c).bind fun t inner => .pure (by simpa using inner)
  | constructed n d bindings =>
      simp only [containerOf?]
      cases inside : h.container? d with
      | none => exact .pure (by simp)
      | some c =>
          by_cases outermost : bindings.length - d.arity = 0
          · simp only [outermost, if_true]
            exact (Build.named_wellFormed c).bind fun t inner => .pure (by simpa using inner)
          · simp only [outermost, if_false]
            refine (Build.constructed_yields _ _).bind ?_
            rintro _ ⟨n', rfl⟩
            exact .pure (by simpa using leading_wellFormed whole inside outermost)
  | _ => exact .pure (by simp)

end Hierarchy

end ClrTypes
