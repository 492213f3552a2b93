import ClrTypes.Proofs.Instantiation
import ClrTypes.Proofs.Resolution.Simulation
import ClrTypes.Proofs.Substitution.Image

/-!
# Resolving up to a view

A view forgets serial numbers, and perhaps markers, and may replace parameters. Two contexts in
which special types, parameters and legality look the same resolve signatures to the same views.
-/

namespace ClrTypes

open ClrTypes.Symbol (bareModifiers)

/-- The function keeps the shape of a symbol and all that it holds but serial numbers, parameters
and, unless `marks` is set, illegal markers. -/
structure Symbol.IsView (marks : Bool) (view : Symbol → Symbol) : Prop where
  array (n : Nat) (s : Symbol) (rank : UInt32) (dimensions : List Dimension)
    (ms : List (Modifier Symbol)) : view (.array n s rank dimensions ms) =
      .array 0 (view s) rank dimensions (bareModifiers marks ms)
  szArray (n : Nat) (s : Symbol) (ms : List (Modifier Symbol)) :
    view (.szArray n s ms) = .szArray 0 (view s) (bareModifiers marks ms)
  pointer (n : Nat) (s : Symbol) (ms : List (Modifier Symbol)) :
    view (.pointer n s ms) = .pointer 0 (view s) (bareModifiers marks ms)
  byRef (n : Nat) (s : Symbol) : view (.byRef n s) = .byRef 0 (view s)
  named (n : Nat) (d : Definition) : view (.named n d) = .named 0 d
  constructed (n : Nat) (d : Definition) (bindings : List (Binding Symbol)) :
    view (.constructed n d bindings) =
      .constructed 0 d (bindings.map fun b => ⟨b.parameter, view b.argument⟩)
  unsupported (n : Nat) (cause : Option Fault) :
    view (.unsupported n cause) = .unsupported 0 cause
  illegal (n : Nat) (s : Symbol) :
    view (.illegal n s) = if marks then .illegal 0 (view s) else view s

theorem Symbol.bare_isView (marks : Bool) : IsView marks (bare marks) := by
  constructor <;> intros <;> simp [bare, bareBindings_eq_map]

theorem Substitution.image_isView (marks : Bool) (m : Substitution) :
    Symbol.IsView marks fun s => (m.image s).bare marks := by
  constructor <;> intros <;>
    simp [image, Symbol.bare, Symbol.bareBindings_eq_map, imageBindings_eq_map]

def Symbol.SeenAlike (view view' : Symbol → Symbol) (s t : Symbol) : Prop :=
  view s = view' t ∧ s.isUnsupported = t.isUnsupported

namespace Context

variable {marks : Bool} {view view' : Symbol → Symbol}

theorem seenAlike_of_sameRoot (v : Symbol.IsView marks view) (v' : Symbol.IsView marks view')
    {s t : Symbol} (same : s.SameRoot t) : s.SeenAlike view view' t := by
  rcases same with ⟨_, _, d, rfl, rfl⟩ | ⟨_, _, cause, rfl, rfl⟩
  · exact ⟨by rw [v.named, v'.named], rfl⟩
  · exact ⟨by rw [v.unsupported, v'.unsupported], rfl⟩

theorem unsupported_seenAlike (v : Symbol.IsView marks view) (v' : Symbol.IsView marks view')
    (cause : Option Fault) : Build.Relates (Symbol.SeenAlike view view')
      (Build.unsupported cause) (Build.unsupported cause) :=
  (Build.unsupported_relates cause).mono fun _ _ => seenAlike_of_sameRoot v v'

theorem align_map (parameters : List Parameter) (ss : List Symbol) (view : Symbol → Symbol) :
    (Binding.align parameters ss).map (fun b => ⟨b.parameter, view b.argument⟩) =
      Binding.align parameters (ss.map view) := by
  simp [Binding.align, List.map_zipWith, List.zipWith_map_right]

theorem map_of_seenAlike {ss ts : List Symbol}
    (each : List.Forall₂ (Symbol.SeenAlike view view') ss ts) :
    ss.map view = ts.map view' ∧ ss.any (·.isUnsupported) = ts.any (·.isUnsupported) := by
  induction each with
  | nil => simp
  | cons first _ ih => simp [first.1, first.2, ih.1, ih.2]

theorem construct_seenAlike (v : Symbol.IsView marks view) (v' : Symbol.IsView marks view')
    {ctx ctx' : Context} {ss ts : List Symbol}
    (each : List.Forall₂ (Symbol.SeenAlike view view') ss ts) {illegal illegal' : Bool}
    (legal : marks = true → illegal = illegal') (d : Definition) {formals : List Parameter}
    (arity : formals.length = ts.length) :
    Build.Relates (Symbol.SeenAlike view view') (ctx.construct d formals ss illegal)
      (ctx'.construct d formals ts illegal') := by
  have type (n n' : Nat) : view (.constructed n d (Binding.align formals ss)) =
      view' (.constructed n' d (Binding.align formals ts)) := by
    rw [v.constructed, v'.constructed, align_map, align_map, (map_of_seenAlike each).1]
  intro p q
  obtain ⟨n, k, left⟩ := ctx.construct_yields d (arity.trans each.length_eq.symm) illegal p
  obtain ⟨n', k', right⟩ := ctx'.construct_yields d arity illegal' q
  rw [left, right]
  cases marks
  · cases illegal <;> cases illegal' <;>
      simp [Symbol.SeenAlike, v.illegal, v'.illegal, type n n', Symbol.isUnsupported]
  · rw [legal rfl]
    cases illegal' <;>
      simp [Symbol.SeenAlike, v.illegal, v'.illegal, type n n', Symbol.isUnsupported]

theorem instantiate_seenAlike (v : Symbol.IsView marks view) (v' : Symbol.IsView marks view')
    {ctx ctx' : Context} {s t : Symbol} {ss ts : List Symbol} {flags : List Bool}
    (same : s.SeenAlike view view' t) (nominal : s.definition? = t.definition?)
    (each : List.Forall₂ (Symbol.SeenAlike view view') ss ts)
    (formals : ∀ d, t.definition? = some d → ctx.formals d = ctx'.formals d)
    (legal : marks = true → ∀ d, t.definition? = some d →
      ctx.isIllegal d ss flags = ctx'.isIllegal d ts flags) :
    Build.Relates (Symbol.SeenAlike view view') (ctx.instantiate s ss flags)
      (ctx'.instantiate t ts flags) := by
  have lengths := each.length_eq
  have refusal (cause : Option Fault) := unsupported_seenAlike v v' cause
  unfold instantiate
  rw [same.2, (map_of_seenAlike each).2, nominal]
  by_cases poisoned : t.isUnsupported = true
  · rw [if_pos poisoned, if_pos poisoned]
    exact .pure same
  rw [if_neg poisoned, if_neg poisoned]
  by_cases faulty : ts.any (·.isUnsupported) = true
  · rw [if_pos faulty, if_pos faulty]
    exact refusal none
  rw [if_neg faulty, if_neg faulty]
  cases named : t.definition? with
  | none =>
      have empty : ss.isEmpty = ts.isEmpty := by
        cases each <;> rfl
      dsimp only
      rw [empty]
      by_cases bare : ts.isEmpty = true
      · rw [if_pos bare, if_pos bare]
        exact .pure same
      · rw [if_neg bare, if_neg bare]
        exact .after fun _ _ => refusal _
  | some d =>
      simp only [instantiateDefinition, formals d named, lengths]
      cases ctx'.formals d with
      | error fault => exact refusal _
      | ok formals =>
          dsimp only
          by_cases arity : formals.length = ts.length
          · rw [if_neg (not_not_intro arity), if_neg (not_not_intro arity)]
            by_cases none : formals.isEmpty = true
            · rw [if_pos none, if_pos none]
              exact .pure same
            · rw [if_neg none, if_neg none]
              exact construct_seenAlike v v' each (fun kept => legal kept d named) d arity
          · rw [if_pos arity, if_pos arity]
            exact .after fun _ _ => refusal none

theorem pointer_seenAlike (v : Symbol.IsView marks view) (v' : Symbol.IsView marks view')
    {s t : Symbol} {ms ns : List (Modifier Symbol)} (same : s.SeenAlike view view' t)
    (modifiers : List.Forall₂ Modifier.IsAlike ms ns) :
    Build.Relates (Symbol.SeenAlike view view') (Build.pointer s ms) (Build.pointer t ns) := by
  unfold Build.pointer
  rw [same.2]
  by_cases poisoned : t.isUnsupported = true
  · rw [if_pos poisoned, if_pos poisoned]
    exact .pure same
  · rw [if_neg poisoned, if_neg poisoned]
    refine .after fun _ _ => .pure ⟨?_, rfl⟩
    rw [v.pointer, v'.pointer, same.1, Symbol.bareModifiers_of_alike modifiers]

theorem szArray_seenAlike (v : Symbol.IsView marks view) (v' : Symbol.IsView marks view')
    {s t : Symbol} {ms ns : List (Modifier Symbol)} (same : s.SeenAlike view view' t)
    (modifiers : List.Forall₂ Modifier.IsAlike ms ns) :
    Build.Relates (Symbol.SeenAlike view view') (Build.szArray s ms) (Build.szArray t ns) := by
  unfold Build.szArray
  rw [same.2]
  by_cases poisoned : t.isUnsupported = true
  · rw [if_pos poisoned, if_pos poisoned]
    exact .pure same
  · rw [if_neg poisoned, if_neg poisoned]
    refine .after fun _ _ => .pure ⟨?_, rfl⟩
    rw [v.szArray, v'.szArray, same.1, Symbol.bareModifiers_of_alike modifiers]

theorem byRef_seenAlike (v : Symbol.IsView marks view) (v' : Symbol.IsView marks view')
    {s t : Symbol} (same : s.SeenAlike view view' t) :
    Build.Relates (Symbol.SeenAlike view view') (Build.byRef s) (Build.byRef t) :=
  .after fun _ _ => .pure ⟨by rw [v.byRef, v'.byRef, same.1], rfl⟩

theorem array_seenAlike (v : Symbol.IsView marks view) (v' : Symbol.IsView marks view')
    {h h' : Hierarchy} {s t : Symbol} {rank : UInt32} (same : s.SeenAlike view view' t)
    (shown : rank = 0 → s.display h = t.display h') (dimensions : List Dimension) :
    Build.Relates (Symbol.SeenAlike view view') (Build.array h s rank dimensions [])
      (Build.array h' t rank dimensions []) := by
  unfold Build.array
  rw [same.2]
  by_cases one : rank = 1
  · rw [if_pos one, if_pos one]
    exact .after fun _ _ => unsupported_seenAlike v v' none
  rw [if_neg one, if_neg one]
  by_cases poisoned : t.isUnsupported = true
  · rw [if_pos poisoned, if_pos poisoned]
    exact .pure same
  rw [if_neg poisoned, if_neg poisoned]
  by_cases zero : rank = 0
  · rw [if_pos zero, if_pos zero, shown zero]
    exact unsupported_seenAlike v v' _
  · rw [if_neg zero, if_neg zero]
    exact .after fun _ _ => .pure ⟨by rw [v.array, v'.array, same.1], rfl⟩

theorem simulates_of_views (v : Symbol.IsView marks view) (v' : Symbol.IsView marks view')
    {ctx ctx' : Context} {scope scope' : List Symbol} {admits : Signature → Prop}
    (types : ∀ token, ctx'.typeOf? token = ctx.typeOf? token)
    (formals : ∀ d, ctx.formals d = ctx'.formals d)
    (special : ∀ s, Build.Relates (Symbol.SeenAlike view view') (ctx.home.special s)
      (ctx'.home.special s))
    (parameter : ∀ i, Build.Relates (Symbol.SeenAlike view view') (resolveParameter scope i)
      (resolveParameter scope' i))
    (shown : ∀ element dimensions, admits (.array element 0 dimensions) → ∀ s t : Symbol,
      s.SeenAlike view view' t → s.display ctx.hierarchy = t.display ctx'.hierarchy)
    (nominal : ∀ base arguments, admits (.generic base arguments) → ∀ s t : Symbol,
      s.SeenAlike view view' t → (base.isNominal = true → s.SameRoot t) →
      s.definition? = t.definition?)
    (legal : marks = true → ∀ d ss ts flags,
      List.Forall₂ (Symbol.SeenAlike view view') ss ts →
      ctx.isIllegal d ss flags = ctx'.isIllegal d ts flags) :
    Simulates ctx ctx' scope scope' admits (Symbol.SeenAlike view view') where
  types _ token _ _ := types token
  named n n' d _ _ := seenAlike_of_sameRoot v v' (.inl ⟨n, n', d, rfl, rfl⟩)
  fault n n' cause := seenAlike_of_sameRoot v v' (.inr ⟨n, n', cause, rfl, rfl⟩)
  special type _ := special type.special
  parameter := parameter
  pointer _ _ _ _ := pointer_seenAlike v v'
  szArray _ _ _ _ := szArray_seenAlike v v'
  array s t element _ dimensions admitted same :=
    array_seenAlike v v' same (fun zero => shown element dimensions (zero ▸ admitted) s t same)
      dimensions
  byRef _ _ := byRef_seenAlike v v'
  generic s t ss ts flags base arguments admitted same root each :=
    instantiate_seenAlike v v' same (nominal base arguments admitted s t same root) each
      (fun d _ => formals d) fun kept d _ => legal kept d ss ts flags each

theorem special_seenAlike (v : Symbol.IsView marks view) (m : Module) (special : SpecialType) :
    Build.Relates (Symbol.SeenAlike view view) (m.special special) (m.special special) := by
  unfold Module.special
  cases m.specials.lookup special with
  | some symbol => exact .pure ⟨rfl, rfl⟩
  | none => exact unsupported_seenAlike v v _

theorem parameter_seenAlike (v : Symbol.IsView marks view) (scope : List Symbol) (i : UInt32) :
    Build.Relates (Symbol.SeenAlike view view) (resolveParameter scope i)
      (resolveParameter scope i) := by
  unfold resolveParameter
  cases scope[i.toNat]? with
  | some symbol => exact .pure ⟨rfl, rfl⟩
  | none => exact unsupported_seenAlike v v _

theorem isIllegal_of_seenAlike (ctx : Context) (d : Definition) {ss ts : List Symbol}
    (each : List.Forall₂ (Symbol.SeenAlike (Symbol.bare true) (Symbol.bare true)) ss ts)
    (flags : List Bool) : ctx.isIllegal d ss flags = ctx.isIllegal d ts flags := by
  have unnumbered (arguments : List Symbol) :
      ctx.isIllegal d (arguments.map (·.unnumbered)) flags = ctx.isIllegal d arguments flags := by
    simp [isIllegal, hasIllegalArgument, ← List.map_take, List.any_map, Function.comp_def,
      Symbol.isClosedOver_unnumbered]
  rw [← unnumbered, ← unnumbered ts]
  exact congrArg (ctx.isIllegal d · flags) (map_of_seenAlike each).1

theorem unnumbered_simulates (ctx ctx' : Context) (scope : List Symbol)
    (home : ctx'.home = ctx.home) (hierarchy : ctx'.hierarchy = ctx.hierarchy)
    (nesting : ctx'.config.nestingDepth = ctx.config.nestingDepth)
    (checks : ctx'.config.checksInterop = ctx.config.checksInterop) :
    Simulates ctx ctx' scope scope (fun _ => True)
      (Symbol.SeenAlike (Symbol.bare true) (Symbol.bare true)) := by
  have v := Symbol.bare_isView true
  refine simulates_of_views v v ?_ ?_ ?_ ?_ ?_ ?_ ?_
  · intro token
    rw [typeOf?, typeOf?, home]
  · intro d
    rw [Context.formals, Context.formals, hierarchy, nesting]
  · intro special
    rw [home]
    exact special_seenAlike v ctx.home special
  · exact parameter_seenAlike v scope
  · intro _ _ _ a b alike
    rw [hierarchy, Symbol.display_of_unnumbered _ alike.1]
  · intro _ _ _ a b alike _
    exact Symbol.definition?_of_unnumbered alike.1
  · intro _ d ss ts flags each
    rw [isIllegal_of_seenAlike ctx d each]
    simp only [isIllegal, interopGate, hasIllegalArgument, home, hierarchy, nesting, checks]

theorem resolveAt_unnumbered (ctx : Context) (scope : List Symbol) (s : Signature)
    {depth depth' : Nat} (aligned : Aligned ctx ctx depth depth' s s) :
    Build.Relates (fun r r' => r.symbol.unnumbered = r'.symbol.unnumbered)
      (ctx.resolveAt scope depth s) (ctx.resolveAt scope depth' s) :=
  ((unnumbered_simulates ctx ctx scope rfl rfl rfl rfl).resolveAt s aligned fun _ _ => trivial).mono
    fun _ _ alike => alike.1.1

end Context

end ClrTypes
