import ClrTypes.Navigation
import ClrTypes.Proofs.Instantiation.Decision
import ClrTypes.Proofs.Symbol.Bare

namespace ClrTypes

namespace Hierarchy

variable {h : Hierarchy} {d e c : Definition} {chain outer : List Definition}

theorem flattened_append (inner outer : List Definition) :
    flattened (inner ++ outer) = flattened outer ++ flattened inner := by
  simp [flattened]

theorem flattened_drop (chain : List Definition) (k : Nat) :
    flattened (chain.drop k) = (flattened chain).take (flattened (chain.drop k)).length := by
  have whole := flattened_append (chain.take k) (chain.drop k)
  rw [List.take_append_drop] at whole
  rw [whole, List.take_left]

theorem length_flattened_drop_le (chain : List Definition) (k : Nat) :
    (flattened (chain.drop k)).length ≤ (flattened chain).length := by
  rw [flattened_drop, List.length_take]
  exact Nat.min_le_right _ _

theorem formals_of_isChain {limit : Nat} (chained : h.IsChain d chain)
    (short : chain.length ≤ max limit 1) : h.formals limit d = .ok (flattened chain) := by
  cases walked : h.formals limit d with
  | error fault =>
      have deep := (formals_eq_error_iff.mp walked).1 chain chained
      exact absurd short (Nat.not_le.mpr deep)
  | ok formals =>
      obtain ⟨again, chained', -, same⟩ := isChain_of_formals walked
      rw [same, chained.unique chained']

def enclosing? (h : Hierarchy) : (k : Nat) → Symbol → Build (Option Symbol)
  | 0, s => return some s
  | k + 1, s => do
    match ← h.containerOf? s with
    | some c => enclosing? h k c
    | none => return none

theorem enclosing?_one (h : Hierarchy) (s : Symbol) : h.enclosing? 1 s = h.containerOf? s := by
  have same : (fun r : Option Symbol => show Build (Option Symbol) from
      match r with
      | some c => h.enclosing? 0 c
      | none => return none) = pure := by
    funext r
    cases r <;> rfl
  rw [enclosing?, same, bind_pure]

/-- The symbol is the first definition of a chain with those of the bindings that belong to the
chain, and without bindings if there are none. -/
inductive IsLevel (bindings : List (Binding Symbol)) : List Definition → Symbol → Prop
  | plain (n : Nat) {e : Definition} {outer : List Definition} : flattened (e :: outer) = [] →
      IsLevel bindings (e :: outer) (.named n e)
  | taken (n : Nat) {e : Definition} {outer : List Definition} : flattened (e :: outer) ≠ [] →
      IsLevel bindings (e :: outer)
        (.constructed n e (bindings.take (flattened (e :: outer)).length))

variable {bindings : List (Binding Symbol)} {s : Symbol}

theorem IsLevel.top (level : IsLevel bindings (e :: outer) s) (top : h.container? e = none) :
    Build.Yields (· = none) (h.containerOf? s) := by
  cases level <;> simp only [containerOf?, top] <;> exact .pure rfl

theorem named_isLevel (empty : flattened (c :: outer) = []) :
    Build.Yields (fun r => ∃ t, r = some t ∧ IsLevel bindings (c :: outer) t)
      (do return some (← Build.named c)) := by
  refine (Build.named_yields c).bind ?_
  rintro _ ⟨n, rfl⟩
  exact .pure ⟨_, rfl, .plain n empty⟩

theorem IsLevel.outward (level : IsLevel bindings (e :: c :: outer) s)
    (inside : h.container? e = some c)
    (many : (flattened (e :: c :: outer)).length ≤ bindings.length) :
    Build.Yields (fun r => ∃ t, r = some t ∧ IsLevel bindings (c :: outer) t)
      (h.containerOf? s) := by
  cases level with
  | plain n none =>
      rw [flattened_cons] at none
      simp only [containerOf?, inside]
      exact named_isLevel (List.append_eq_nil_iff.mp none).1
  | taken n some =>
      -- what is left without the parameters of `e` are those along the chain of `c`
      have leading : (bindings.take (flattened (e :: c :: outer)).length).length - e.arity =
          (flattened (c :: outer)).length := by
        rw [List.length_take, Nat.min_eq_left many, length_flattened_cons, Nat.add_sub_cancel]
      have shorter := length_flattened_drop_le (e :: c :: outer) 1
      simp only [containerOf?, inside, leading]
      by_cases empty : flattened (c :: outer) = []
      · simp only [empty, List.length_nil, if_true]
        exact named_isLevel empty
      · simp only [List.length_eq_zero_iff, empty, if_false]
        refine (Build.constructed_yields _ _).bind ?_
        rintro _ ⟨k, rfl⟩
        rw [List.take_take, Nat.min_eq_left (by simpa using shorter)]
        exact .pure ⟨_, rfl, .taken k empty⟩

theorem IsLevel.enclosing (chained : h.IsChain e chain) (level : IsLevel bindings chain s)
    (many : (flattened chain).length ≤ bindings.length) (k : Nat) :
    Build.Yields (fun r => (chain.length ≤ k → r = none) ∧
      (k < chain.length → ∃ t, r = some t ∧ IsLevel bindings (chain.drop k) t))
      (h.enclosing? k s) := by
  induction k generalizing e chain s with
  | zero =>
      have some := chained.length_pos
      exact .pure ⟨fun none => by omega, fun _ => ⟨s, rfl, level⟩⟩
  | succ k ih =>
      rw [enclosing?]
      cases chained with
      | outermost top =>
          refine (level.top top).bind ?_
          rintro _ rfl
          exact .pure ⟨fun _ => rfl, fun some => by simp at some⟩
      | nested inside rest =>
          obtain ⟨outer, rfl⟩ := rest.eq_cons
          have fewer := Nat.le_trans (length_flattened_drop_le _ 1) many
          refine (level.outward inside many).bind ?_
          rintro _ ⟨t, rfl, next⟩
          simpa using ih rest next fewer

end Hierarchy

namespace Context

open Hierarchy (IsLevel flattened enclosing?)

structure IsInstance (ctx : Context) (e : Definition) (arguments : List Symbol) (t : Symbol) :
    Prop where
  definition : t.definition? = some e
  taken : t.arguments? = if arguments = [] then none else some arguments
  instantiated (n : Nat) : Build.Yields (fun s => t.SameTree s.stripped)
    (ctx.instantiate (.named n e) arguments [])

variable {ctx : Context} {d e : Definition} {chain : List Definition} {arguments : List Symbol}

theorem isInstance_of_isLevel {bindings : List (Binding Symbol)} {t : Symbol}
    (chained : ctx.hierarchy.IsChain e chain) (short : chain.length ≤ max ctx.config.nestingDepth 1)
    (sound : ∀ a ∈ arguments, a.isUnsupported = false)
    (arity : (flattened chain).length = arguments.length)
    (leading : bindings.take (flattened chain).length = Binding.align (flattened chain) arguments)
    (level : IsLevel bindings chain t) : ctx.IsInstance e arguments t := by
  have walked : ctx.formals e = .ok (flattened chain) :=
    Hierarchy.formals_of_isChain chained short
  obtain ⟨_, first⟩ := chained.eq_cons
  cases level with
  | plain n empty =>
      obtain ⟨rfl, -⟩ := List.cons.inj first
      rw [empty] at arity walked
      obtain rfl := List.length_eq_zero_iff.mp arity.symm
      refine ⟨rfl, rfl, ?_⟩
      intro k
      have returns : ctx.Returns (.named k _) [] := .bare rfl fun d same => by
        obtain rfl := Option.some.inj same
        exact walked
      rw [returns.instantiate_eq]
      exact .pure (Symbol.sameTree_of_unnumbered rfl)
  | taken n some =>
      obtain ⟨rfl, -⟩ := List.cons.inj first
      have given : arguments ≠ [] := by
        rintro rfl
        exact some (List.length_eq_zero_iff.mp arity)
      rw [leading]
      refine ⟨rfl, ?_, ?_⟩
      · rw [if_neg given]
        exact congrArg Option.some (Binding.arguments_align arity)
      · intro k p
        have builds : ctx.Builds (.named k _) arguments _ _ := ⟨rfl, sound, walked, some, arity⟩
        rw [builds.stripped_eq]
        exact Symbol.sameTree_of_unnumbered rfl

section Built

variable {generic : Symbol} {n k : Nat}

theorem Builds.isLevel (builds : ctx.Builds generic arguments d (flattened chain))
    (chained : ctx.hierarchy.IsChain d chain) :
    IsLevel (Binding.align (flattened chain) arguments) chain
      (.constructed n d (Binding.align (flattened chain) arguments)) := by
  obtain ⟨outer, rfl⟩ := chained.eq_cons
  have whole : (Binding.align (flattened (d :: outer)) arguments).take
      (flattened (d :: outer)).length = Binding.align (flattened (d :: outer)) arguments := by
    apply List.take_of_length_le
    simp [Binding.align, builds.arity]
  have level : IsLevel (Binding.align (flattened (d :: outer)) arguments) (d :: outer)
      (.constructed n d ((Binding.align (flattened (d :: outer)) arguments).take
        (flattened (d :: outer)).length)) := .taken n builds.takes
  rwa [whole] at level

theorem Builds.enclosing (builds : ctx.Builds generic arguments d (flattened chain))
    (chained : ctx.hierarchy.IsChain d chain) (k : Nat) :
    Build.Yields (fun r => (chain.length ≤ k → r = none) ∧ (k < chain.length → ∃ t, r = some t ∧
        IsLevel (Binding.align (flattened chain) arguments) (chain.drop k) t))
      (ctx.hierarchy.enclosing? k
        (.constructed n d (Binding.align (flattened chain) arguments))) := by
  apply (builds.isLevel chained).enclosing chained
  simp [Binding.align, builds.arity]

theorem Builds.short (builds : ctx.Builds generic arguments d (flattened chain))
    (chained : ctx.hierarchy.IsChain d chain) (k : Nat) :
    (chain.drop k).length ≤ max ctx.config.nestingDepth 1 := by
  obtain ⟨_, again, short, -⟩ := Hierarchy.isChain_of_formals builds.walked
  rw [← chained.unique again] at short
  rw [List.length_drop]
  omega

theorem Builds.formals_eq (builds : ctx.Builds generic arguments d (flattened chain))
    (chained : ctx.hierarchy.IsChain d chain) (found : chain[k]? = some e) :
    ctx.formals e = .ok (flattened (chain.drop k)) :=
  Hierarchy.formals_of_isChain (chained.drop found) (builds.short chained k)

theorem Builds.isInstance (builds : ctx.Builds generic arguments d (flattened chain))
    (chained : ctx.hierarchy.IsChain d chain) (found : chain[k]? = some e) {t : Symbol}
    (level : IsLevel (Binding.align (flattened chain) arguments) (chain.drop k) t) :
    ctx.IsInstance e (arguments.take (flattened (chain.drop k)).length) t := by
  refine isInstance_of_isLevel (chained.drop found) (builds.short chained k) ?_ ?_ ?_ level
  · intro a member
    exact builds.sound a (List.mem_of_mem_take member)
  · have fewer := Hierarchy.length_flattened_drop_le chain k
    rw [List.length_take, ← builds.arity, Nat.min_eq_left fewer]
  · rw [Binding.align, List.take_zipWith, ← Hierarchy.flattened_drop]
    rfl

end Built

/-- Going outwards from an instantiated type leads through the chain of its definition and ends
there. At each place stands an instance of the definition over the arguments that belong to it and
to the definitions around it. -/
theorem containers_of_instantiated (ctx : Context) {n : Nat} {d : Definition}
    {arguments : List Symbol} {flags : List Bool} {p : Progress}
    (built : ((ctx.instantiate (.named n d) arguments flags).outcome p).stripped.isConstructed =
      true) :
    let s := ((ctx.instantiate (.named n d) arguments flags).outcome p).stripped
    (∀ c, ctx.hierarchy.container? d = some c → ∃ formals, ctx.formals c = .ok formals ∧
      Build.Yields (fun r => ∃ t, r = some t ∧
        ctx.IsInstance c (arguments.take formals.length) t) (ctx.hierarchy.containerOf? s)) ∧
    ∃ chain, ctx.hierarchy.IsChain d chain ∧ ∀ k,
      (∀ e, chain[k]? = some e → ∃ formals, ctx.formals e = .ok formals ∧
        Build.Yields (fun r => ∃ t, r = some t ∧
          ctx.IsInstance e (arguments.take formals.length) t) (ctx.hierarchy.enclosing? k s)) ∧
      (chain.length ≤ k → Build.Yields (· = none) (ctx.hierarchy.enclosing? k s)) := by
  intro s
  have named : (ctx.instantiate (.named n d) arguments flags).outcome p ≠ .named n d := by
    intro same
    rw [same] at built
    contradiction
  obtain ⟨d', formals, builds⟩ := (ctx.instantiate_ended _ _ flags p).builds built named
  obtain rfl : d = d' := Option.some.inj builds.nominal
  obtain ⟨chain, chained, -, rfl⟩ := Hierarchy.isChain_of_formals builds.walked
  rw [show s = _ from builds.stripped_eq flags p]
  have level {k : Nat} {e : Definition} (found : chain[k]? = some e) :
      ∃ formals, ctx.formals e = .ok formals ∧ Build.Yields (fun r => ∃ t, r = some t ∧
        ctx.IsInstance e (arguments.take formals.length) t) (ctx.hierarchy.enclosing? k
          (.constructed p.next d (Binding.align (flattened chain) arguments))) := by
    obtain ⟨inside, -⟩ := List.getElem?_eq_some_iff.mp found
    refine ⟨_, builds.formals_eq chained found, (builds.enclosing chained k).mono ?_⟩
    rintro r ⟨-, within⟩
    obtain ⟨t, same, level⟩ := within inside
    exact ⟨t, same, builds.isInstance chained found level⟩
  refine ⟨?_, chain, chained, fun k => ⟨fun e found => level found, fun beyond => ?_⟩⟩
  · intro c inside
    rw [← Hierarchy.enclosing?_one]
    apply level
    cases chained with
    | outermost top => simp [top] at inside
    | nested inside' rest =>
        obtain ⟨outer, rfl⟩ := rest.eq_cons
        rw [← inside, inside']
        rfl
  · exact (builds.enclosing chained k).mono fun r walk => walk.1 beyond

theorem containers_of_view :
    let ctx : Context := { Sample.context with hierarchy :=
      { entries := [(Sample.view.serial, { container := some Sample.point }),
        (Sample.point.serial, { container := some Sample.box })] } }
    let shape : Symbol := .named 1 Sample.shape
    let s := ((ctx.instantiate (.named 0 Sample.view) [shape, .named 2 Sample.lens] []).outcome
      { next := 3 }).stripped
    s.isConstructed = true ∧
      Build.Yields (fun r => ∃ t, r = some t ∧ ctx.IsInstance Sample.point [shape] t)
        (ctx.hierarchy.containerOf? s) ∧
      Build.Yields (fun r => ∃ t, r = some t ∧ ctx.IsInstance Sample.box [shape] t)
        (ctx.hierarchy.enclosing? 2 s) ∧
      Build.Yields (· = none) (ctx.hierarchy.enclosing? 3 s) := by
  intro ctx shape s
  have built : s.isConstructed = true := by decide
  obtain ⟨outward, chain, chained, places⟩ := containers_of_instantiated ctx built
  obtain rfl := chained.unique (.nested rfl (.nested rfl (.outermost rfl)))
  obtain ⟨_, walked, container⟩ := outward Sample.point rfl
  obtain rfl : Sample.box.parameters = _ := Except.ok.inj walked
  obtain ⟨_, walked, outermost⟩ := (places 2).1 Sample.box rfl
  obtain rfl : Sample.box.parameters = _ := Except.ok.inj walked
  exact ⟨built, container, outermost, (places 3).2 (by decide)⟩

end Context

end ClrTypes
