import ClrTypes.Proofs.Layout
import Mathlib.Data.Set.List

namespace ClrTypes

namespace Layout

def isConstructed : Layout → Bool
  | .constructed .. => true
  | _ => false

def children : Layout → List Layout
  | .array s _ _ modifiers | .szArray s modifiers | .pointer s modifiers =>
    s :: modifiers.map (·.type)
  | .byRef s | .illegal s => [s]
  | .constructed _ columns => columns.arguments
  | .named _ | .parameter _ | .unsupported _ => []

end Layout

inductive Item where
  | columns (c : Columns Layout)
  | symbol (s : Layout)

/-- What some sequence of operations leads to. Each of them may happen in a context of its own. Symbols
may be formed from any others, and what a symbol holds can be taken out of it. -/
inductive Obtained : Item → Prop
  | paired {parameters : List Parameter} {arguments : List Layout} {c : Columns Layout} :
      Columns.pair parameters arguments = .ok c → (∀ a ∈ arguments, Obtained (.symbol a)) →
      Obtained (.columns c)
  | identity (parameters : List Parameter) : Obtained (.columns (Columns.identity parameters))
  | leading {c c' : Columns Layout} (count : Nat) : Obtained (.columns c) →
      c.leading count = .ok c' → Obtained (.columns c')
  | found {c : Columns Layout} {s : Layout} (p : Parameter) : Obtained (.columns c) →
      c.lookup p = .ok (some s) → Obtained (.symbol s)
  | substituted {c : Columns Layout} {s t : Layout} : Obtained (.columns c) →
      Obtained (.symbol s) → c.substitute s = .ok t → Obtained (.symbol t)
  | constructed {c : Columns Layout} (d : Definition) : Obtained (.columns c) →
      Obtained (.symbol (.constructed d c))
  | carried {d : Definition} {c : Columns Layout} : Obtained (.symbol (.constructed d c)) →
      Obtained (.columns c)
  | instantiated {generic t : Layout} {arguments : List Layout} (ctx : Context)
      (flags : List Bool) : Obtained (.symbol generic) →
      (∀ a ∈ arguments, Obtained (.symbol a)) →
      ctx.instantiateLayout generic arguments flags = .ok t → Obtained (.symbol t)
  | container {s t : Layout} (h : Hierarchy) : Obtained (.symbol s) →
      s.container h = .ok (some t) → Obtained (.symbol t)
  | formed {s : Layout} : s.isConstructed = false → (∀ u ∈ s.children, Obtained (.symbol u)) →
      Obtained (.symbol s)
  | child {s u : Layout} : Obtained (.symbol s) → u ∈ s.children → Obtained (.symbol u)

def Item.IsLaidOut : Item → Prop
  | .columns c => ∃ m : Substitution, m.columns = c
  | .symbol s => ∃ t : Symbol, t.layout = s

namespace Symbol

theorem exists_map_layout {ss : List Layout} (each : ∀ s ∈ ss, ∃ t : Symbol, t.layout = s) :
    ∃ ts : List Symbol, ts.map layout = ss := by
  have within : ss ∈ Set.range (List.map layout) := by
    rw [Set.range_list_map]
    exact each
  exact within

theorem exists_layoutModifiers {modifiers : List (Modifier Layout)}
    (each : ∀ u ∈ modifiers.map (·.type), ∃ t : Symbol, t.layout = u) :
    ∃ ms : List (Modifier Symbol), layoutModifiers ms = modifiers := by
  induction modifiers with
  | nil => exact ⟨[], rfl⟩
  | cons m modifiers ih =>
      obtain ⟨⟨t, first⟩, rest⟩ := List.forall_mem_cons.mp each
      obtain ⟨ms, others⟩ := ih rest
      exact ⟨⟨m.required, t⟩ :: ms, by rw [layoutModifiers, first, others]⟩

theorem exists_layout_of_children {s : Layout} (form : s.isConstructed = false)
    (each : ∀ u ∈ s.children, ∃ t : Symbol, t.layout = u) : ∃ t : Symbol, t.layout = s := by
  cases s with
  | constructed => simp [Layout.isConstructed] at form
  | named d => exact ⟨.named 0 d, rfl⟩
  | parameter p => exact ⟨.parameter 0 p, rfl⟩
  | unsupported cause => exact ⟨.unsupported 0 cause, rfl⟩
  | byRef u =>
      obtain ⟨t, rfl⟩ := each u List.mem_cons_self
      exact ⟨.byRef 0 t, rfl⟩
  | illegal u =>
      obtain ⟨t, rfl⟩ := each u List.mem_cons_self
      exact ⟨.illegal 0 t, rfl⟩
  | array u rank dimensions modifiers =>
      obtain ⟨⟨t, rfl⟩, rest⟩ := List.forall_mem_cons.mp each
      obtain ⟨ms, rfl⟩ := exists_layoutModifiers rest
      exact ⟨.array 0 t rank dimensions ms, rfl⟩
  | szArray u modifiers =>
      obtain ⟨⟨t, rfl⟩, rest⟩ := List.forall_mem_cons.mp each
      obtain ⟨ms, rfl⟩ := exists_layoutModifiers rest
      exact ⟨.szArray 0 t ms, rfl⟩
  | pointer u modifiers =>
      obtain ⟨⟨t, rfl⟩, rest⟩ := List.forall_mem_cons.mp each
      obtain ⟨ms, rfl⟩ := exists_layoutModifiers rest
      exact ⟨.pointer 0 t ms, rfl⟩

theorem exists_layout_child {s : Symbol} {u : Layout} (member : u ∈ s.layout.children) :
    ∃ t : Symbol, t.layout = u := by
  cases s with
  | named | parameter | unsupported => simp [layout, Layout.children] at member
  | byRef n t | illegal n t => exact ⟨t, (List.mem_singleton.mp member).symm⟩
  | constructed n d bindings =>
      rw [layout_constructed] at member
      obtain ⟨t, -, same⟩ := List.mem_map.mp member
      exact ⟨t, same⟩
  | array n t rank dimensions modifiers | szArray n t modifiers | pointer n t modifiers =>
      rcases List.mem_cons.mp member with rfl | inside
      · exact ⟨t, rfl⟩
      · rw [layoutModifiers_eq_map, List.map_map] at inside
        obtain ⟨m, -, same⟩ := List.mem_map.mp inside
        exact ⟨m.type, same⟩

end Symbol

theorem Obtained.isLaidOut {item : Item} (obtained : Obtained item) : item.IsLaidOut := by
  -- what an operation starts from has bindings by induction, and on these its outcome is known
  induction obtained with
  | @paired parameters arguments c paired _ each =>
      obtain ⟨ts, rfl⟩ := Symbol.exists_map_layout each
      rw [Substitution.pair_layout] at paired
      cases built : Substitution.ofLists parameters ts with
      | error fault => simp [built, Except.map] at paired
      | ok m => exact ⟨m, by simpa [built, Except.map] using paired⟩
  | identity parameters =>
      exact ⟨(Substitution.identity parameters).outcome {}, Substitution.identity_columns _ {}⟩
  | leading count _ cut laid =>
      obtain ⟨m, rfl⟩ := laid
      rw [m.leading_columns] at cut
      exact ⟨m.take count, Except.ok.inj cut⟩
  | found p _ found laid =>
      obtain ⟨m, rfl⟩ := laid
      rw [m.lookup_columns] at found
      obtain ⟨t, -, same⟩ := Option.map_eq_some_iff.mp (Except.ok.inj found)
      exact ⟨t, same⟩
  | substituted _ _ replaced laid inner =>
      obtain ⟨m, rfl⟩ := laid
      obtain ⟨s, rfl⟩ := inner
      rw [m.substitute_layout] at replaced
      exact ⟨m.image s, Except.ok.inj replaced⟩
  | constructed d _ laid =>
      obtain ⟨m, rfl⟩ := laid
      exact ⟨.constructed 0 d m.bindings, Symbol.layout_constructed 0 d m.bindings⟩
  | carried _ laid =>
      obtain ⟨t, same⟩ := laid
      cases t with
      | constructed n d bindings =>
          rw [Symbol.layout_constructed] at same
          exact ⟨⟨bindings⟩, (Layout.constructed.inj same).2⟩
      | _ => cases same
  | instantiated ctx flags _ _ built laid each =>
      obtain ⟨generic, rfl⟩ := laid
      obtain ⟨arguments, rfl⟩ := Symbol.exists_map_layout each
      rw [ctx.instantiate_layout generic arguments flags {}] at built
      exact ⟨_, Except.ok.inj built⟩
  | container h _ outward laid =>
      obtain ⟨s, rfl⟩ := laid
      rw [h.container_layout s {}] at outward
      obtain ⟨t, -, same⟩ := Option.map_eq_some_iff.mp (Except.ok.inj outward)
      exact ⟨t, same⟩
  | formed form _ each => exact Symbol.exists_layout_of_children form each
  | child _ member laid =>
      obtain ⟨s, rfl⟩ := laid
      exact Symbol.exists_layout_child member

theorem obtained_columns {m : Substitution}
    (each : ∀ b ∈ m.bindings, Obtained (.symbol b.argument.layout)) :
    Obtained (.columns m.columns) := by
  refine .paired (if_pos m.length_columns.symm) fun a member => ?_
  obtain ⟨s, inside, rfl⟩ := List.mem_map.mp member
  obtain ⟨b, bound, rfl⟩ := List.mem_map.mp inside
  exact each b bound

theorem obtained_layout (s : Symbol) : Obtained (.symbol s.layout) := by
  induction s with
  | named | parameter | unsupported =>
      exact .formed rfl (by simp [Symbol.layout, Layout.children])
  | byRef n s ih | illegal n s ih =>
      exact .formed rfl (by simpa [Symbol.layout, Layout.children] using ih)
  | array n s rank dimensions modifiers ih each | szArray n s modifiers ih each
  | pointer n s modifiers ih each =>
      refine .formed rfl (List.forall_mem_cons.mpr ⟨ih, ?_⟩)
      simpa [Symbol.layoutModifiers_eq_map] using each
  | constructed n d bindings each =>
      rw [Symbol.layout_constructed]
      exact .constructed d (obtained_columns each)

/-- Whatever is obtained, a substitution has as many arguments as parameters, looking up any parameter
and cutting off any number of bindings stays within both lists, and so does going to a container. Each
operation gives what it gives on bindings, and all that has bindings can be obtained. The check of any
arguments, however many the definitions around take and however many flags there are, looks at
positions below the number of arguments only. -/
theorem obtained_inRange :
    (∀ c, Obtained (.columns c) → c.arguments.length = c.parameters.length ∧
      ∃ m : Substitution, m.columns = c ∧
        (∀ p, c.lookup p = .ok ((m.lookup? p).map Symbol.layout)) ∧
        (∀ count, c.leading count = .ok (m.take count).columns) ∧
        ∀ (s : Symbol) q, c.substitute s.layout = .ok ((m.apply s).outcome q).layout) ∧
    (∀ s, Obtained (.symbol s) → ∃ t : Symbol, t.layout = s ∧
      (∀ (h : Hierarchy) q,
        s.container h = .ok (((h.containerOf? t).outcome q).map Symbol.layout)) ∧
      ∀ (ctx : Context) arguments flags q,
        ctx.instantiateLayout s (arguments.map Symbol.layout) flags =
          .ok ((ctx.instantiate t arguments flags).outcome q).layout) ∧
    (∀ m : Substitution, Obtained (.columns m.columns)) ∧
    (∀ t : Symbol, Obtained (.symbol t.layout)) ∧
    ∀ (ctx : Context) (d : Definition) (flags : List Bool),
      (∀ arguments : List Layout,
        (∀ i < ctx.hierarchy.checkedCount ctx.config.nestingDepth d arguments.length,
          i < arguments.length) ∧
        ∃ illegal, ctx.scanLayouts d arguments flags = .ok illegal) ∧
      ∀ arguments : List Symbol, ctx.scanLayouts d (arguments.map Symbol.layout) flags =
        .ok (ctx.hasIllegalArgument d arguments flags) := by
  refine ⟨fun c obtained => ?_, fun s obtained => ?_, fun m => ?_, obtained_layout,
    fun ctx d flags => ⟨fun arguments => ⟨fun i checked => ?_, ?_⟩, fun arguments => ?_⟩⟩
  · obtain ⟨m, rfl⟩ := obtained.isLaidOut
    exact ⟨m.length_columns, m, rfl, m.lookup_columns, m.leading_columns, m.substitute_columns⟩
  · obtain ⟨t, rfl⟩ := obtained.isLaidOut
    exact ⟨t, rfl, fun h => h.container_layout t, fun ctx => ctx.instantiate_layout t⟩
  · exact obtained_columns fun b _ => obtained_layout b.argument
  · exact Nat.lt_of_lt_of_le checked (ctx.hierarchy.checkedCount_le _ d _)
  · exact ⟨_, ctx.scanLayouts_eq d arguments flags⟩
  · exact ctx.scanLayouts_layout d arguments flags

theorem obtained_view_inRange :
    let c : Columns Layout := ⟨Sample.box.parameters ++ Sample.view.parameters,
      [.named Sample.point, .named Sample.shape]⟩
    let s : Layout := .constructed Sample.view c
    Obtained (.columns c) ∧ c.arguments.length = c.parameters.length ∧
      (∃ m : Substitution, m.columns = c ∧
        (m.lookup? ⟨⟨0x2A000002⟩, "U", 0⟩).map Symbol.layout = some (.named Sample.shape)) ∧
      Obtained (.symbol s) ∧ ∃ t : Symbol, t.layout = s ∧
        ((Sample.context.hierarchy.containerOf? t).outcome {}).map Symbol.layout =
          some (.constructed Sample.box ⟨Sample.box.parameters, [.named Sample.point]⟩) := by
  intro c s
  have paired : Columns.pair c.parameters c.arguments = .ok c := rfl
  have columns : Obtained (.columns c) := by
    refine .paired paired fun a member => ?_
    rcases List.mem_pair.mp member with rfl | rfl <;>
      exact .formed rfl (by simp [Layout.children])
  have symbol : Obtained (.symbol s) := .constructed Sample.view columns
  obtain ⟨even, m, laid, lookup, -⟩ := obtained_inRange.1 c columns
  obtain ⟨t, whole, container, -⟩ := obtained_inRange.2.1 s symbol
  have second : c.lookup ⟨⟨0x2A000002⟩, "U", 0⟩ = .ok (some (.named Sample.shape)) := rfl
  have outward : s.container Sample.context.hierarchy =
      .ok (some (.constructed Sample.box ⟨Sample.box.parameters, [.named Sample.point]⟩)) := rfl
  rw [lookup] at second
  rw [container _ {}] at outward
  exact ⟨columns, even, ⟨m, laid, Except.ok.inj second⟩, symbol, t, whole, Except.ok.inj outward⟩

end ClrTypes
