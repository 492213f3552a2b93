import ClrTypes.Navigation
import ClrTypes.Proofs.Instantiation
import ClrTypes.Proofs.Substitution.Image

/-!
# Parameters and arguments side by side

A binding holds a parameter together with its argument. Kept apart, the parameters and the arguments of
a substitution are two lists of any lengths, and what is found by position in one list is fetched by
position from the other. In this layout every access to a list is checked, and one beyond the end is an
outcome of its own. On the layout of a substitution or a symbol no access fails, and the results are
the layouts of what the operations on bindings give.

Serial numbers are left out: they say which nodes are shared, and no position depends on that.
-/

namespace ClrTypes

structure OutOfRange where
  position : Nat
  length : Nat
deriving Repr

abbrev Checked := Except OutOfRange

namespace Checked

variable {α β : Type}

@[simp]
theorem pure_eq (a : α) : (pure a : Checked α) = .ok a := rfl

@[simp]
theorem ok_bind (a : α) (next : α → Checked β) : (Except.ok a >>= next) = next a := rfl

def element (xs : List α) (i : Nat) : Checked α :=
  match xs[i]? with
  | some x => return x
  | none => throw ⟨i, xs.length⟩

def leading (xs : List α) (count : Nat) : Checked (List α) :=
  if count ≤ xs.length then return xs.take count else throw ⟨count, xs.length⟩

theorem element_of_lt {xs : List α} {i : Nat} (inside : i < xs.length) :
    element xs i = .ok xs[i] := by
  rw [element, List.getElem?_eq_getElem inside]
  rfl

theorem leading_of_le {xs : List α} {count : Nat} (inside : count ≤ xs.length) :
    leading xs count = .ok (xs.take count) :=
  if_pos inside

end Checked

structure Columns (α : Type) where
  parameters : List Parameter
  arguments : List α

namespace Columns

variable {α : Type}

def pair (parameters : List Parameter) (arguments : List α) : Except Fault (Columns α) :=
  if parameters.length = arguments.length then .ok ⟨parameters, arguments⟩
  else .error (.malformed (.argumentCount parameters.length arguments.length))

def lookup (c : Columns α) (p : Parameter) : Checked (Option α) :=
  match c.parameters.findIdx? (· == p) with
  | some i => return some (← Checked.element c.arguments i)
  | none => return none

def leading (c : Columns α) (count : Nat) : Checked (Columns α) := do
  let count := min count c.parameters.length
  return ⟨← Checked.leading c.parameters count, ← Checked.leading c.arguments count⟩

end Columns

/-- A symbol that has its arguments in columns. -/
inductive Layout where
  | array (element : Layout) (rank : UInt32) (dimensions : List Dimension)
    (modifiers : List (Modifier Layout))
  | szArray (element : Layout) (modifiers : List (Modifier Layout))
  | pointer (pointee : Layout) (modifiers : List (Modifier Layout))
  | byRef (referenced : Layout)
  | named (definition : Definition)
  | constructed (definition : Definition) (columns : Columns Layout)
  | parameter (parameter : Parameter)
  | unsupported (cause : Option Fault)
  | illegal (underlying : Layout)

namespace Layout

def isUnsupported : Layout → Bool
  | .unsupported _ => true
  | _ => false

def definition? : Layout → Option Definition
  | .named d | .constructed d _ => some d
  | _ => none

mutual

def isClosedOver (assemblies : List Assembly) : Layout → Bool
  | .array s .. | .szArray s _ | .pointer s _ | .byRef s | .illegal s => isClosedOver assemblies s
  | .named d => assemblies.contains d.assembly
  | .constructed d ⟨_, arguments⟩ =>
    assemblies.contains d.assembly || anyClosedOver assemblies arguments
  | .parameter _ | .unsupported _ => false

def anyClosedOver (assemblies : List Assembly) : List Layout → Bool
  | [] => false
  | s :: rest => isClosedOver assemblies s || anyClosedOver assemblies rest

end

def container (h : Hierarchy) : Layout → Checked (Option Layout)
  | .named d => return (h.container? d).map .named
  | .constructed d columns =>
    match h.container? d with
    | some c => do
      let outer := columns.parameters.length - d.arity
      if outer = 0 then return some (.named c)
      else return some (.constructed c (← columns.leading outer))
    | none => return none
  | _ => return none

/-- Goes through the arguments below `count` from the last one back, up to one that is flagged or
forbidden. An argument without a flag is not flagged. -/
def scan (forbidden : Layout → Bool) (arguments : List Layout) (flags : List Bool) :
    (count : Nat) → Checked Bool
  | 0 => return false
  | i + 1 => do
    if flags[i]?.getD false then return true
    else if forbidden (← Checked.element arguments i) then return true
    else scan forbidden arguments flags i

end Layout

namespace Columns

def identity (parameters : List Parameter) : Columns Layout :=
  ⟨parameters, parameters.map .parameter⟩

mutual

def substitute (c : Columns Layout) : Layout → Checked Layout
  | .array s rank dimensions modifiers =>
    return .array (← substitute c s) rank dimensions modifiers
  | .szArray s modifiers => return .szArray (← substitute c s) modifiers
  | .pointer s modifiers => return .pointer (← substitute c s) modifiers
  | .byRef s => return .byRef (← substitute c s)
  | .named d => return .named d
  | .constructed d ⟨parameters, arguments⟩ =>
    return .constructed d ⟨parameters, ← substituteEach c arguments⟩
  | .parameter p => return (← c.lookup p).getD (.parameter p)
  | .unsupported cause => return .unsupported cause
  | .illegal s => return .illegal (← substitute c s)

def substituteEach (c : Columns Layout) : List Layout → Checked (List Layout)
  | [] => return []
  | s :: rest => return (← substitute c s) :: (← substituteEach c rest)

end

end Columns

namespace Context

def scanLayouts (ctx : Context) (d : Definition) (arguments : List Layout) (flags : List Bool) :
    Checked Bool :=
  Layout.scan (Layout.isClosedOver ctx.home.linked) arguments flags
    (ctx.hierarchy.checkedCount ctx.config.nestingDepth d arguments.length)

def isIllegalLayout (ctx : Context) (d : Definition) (arguments : List Layout)
    (flags : List Bool) : Checked Bool :=
  if ctx.interopGate then ctx.scanLayouts d arguments flags else return false

def instantiateDefinitionLayout (ctx : Context) (generic : Layout) (d : Definition)
    (arguments : List Layout) (flags : List Bool) : Checked Layout := do
  -- the scan comes first, when the number of arguments is not yet compared with anything
  let illegal ← ctx.isIllegalLayout d arguments flags
  match ctx.formals d with
  | .error fault => return .unsupported (some fault)
  | .ok formals =>
    if formals.length ≠ arguments.length then return .unsupported none
    else if formals.isEmpty then return generic
    else
      match Columns.pair formals arguments with
      | .error fault => return .unsupported (some fault)
      | .ok columns =>
        if illegal then return .illegal (.constructed d columns)
        else return .constructed d columns

def instantiateLayout (ctx : Context) (generic : Layout) (arguments : List Layout)
    (flags : List Bool) : Checked Layout := do
  if generic.isUnsupported then return generic
  else if arguments.any (·.isUnsupported) then return .unsupported none
  else
    match generic.definition? with
    | some d => ctx.instantiateDefinitionLayout generic d arguments flags
    | none =>
      if arguments.isEmpty then return generic else return .unsupported (some .notSupported)

end Context

namespace Symbol

mutual

def layout : Symbol → Layout
  | .array _ s rank dimensions modifiers =>
    .array (layout s) rank dimensions (layoutModifiers modifiers)
  | .szArray _ s modifiers => .szArray (layout s) (layoutModifiers modifiers)
  | .pointer _ s modifiers => .pointer (layout s) (layoutModifiers modifiers)
  | .byRef _ s => .byRef (layout s)
  | .named _ d => .named d
  | .constructed _ d bindings =>
    .constructed d ⟨bindings.map (·.parameter), layoutArguments bindings⟩
  | .parameter _ p => .parameter p
  | .unsupported _ cause => .unsupported cause
  | .illegal _ s => .illegal (layout s)

def layoutModifiers : List (Modifier Symbol) → List (Modifier Layout)
  | [] => []
  | ⟨required, s⟩ :: rest => ⟨required, layout s⟩ :: layoutModifiers rest

def layoutArguments : List (Binding Symbol) → List Layout
  | [] => []
  | ⟨_, s⟩ :: rest => layout s :: layoutArguments rest

end

end Symbol

def Substitution.columns (m : Substitution) : Columns Layout :=
  ⟨m.parameters, m.arguments.map Symbol.layout⟩

namespace Symbol

theorem layoutModifiers_eq_map (modifiers : List (Modifier Symbol)) :
    layoutModifiers modifiers = modifiers.map fun m => ⟨m.required, m.type.layout⟩ := by
  induction modifiers with
  | nil => rfl
  | cons m modifiers ih => simp [layoutModifiers, ih]

theorem layoutArguments_eq_map (bindings : List (Binding Symbol)) :
    layoutArguments bindings = bindings.map fun b => b.argument.layout := by
  induction bindings with
  | nil => rfl
  | cons b bindings ih => simp [layoutArguments, ih]

theorem layout_constructed (n : Nat) (d : Definition) (bindings : List (Binding Symbol)) :
    (constructed n d bindings).layout = .constructed d (Substitution.columns ⟨bindings⟩) := by
  simp [layout, layoutArguments_eq_map, Substitution.columns, Substitution.parameters,
    Substitution.arguments, Function.comp_def]

theorem layout_unnumbered (s : Symbol) : s.unnumbered.layout = s.layout := by
  induction s with
  | constructed n d bindings ih =>
      simpa [bare, layout, bareBindings_eq_map, layoutArguments_eq_map] using ih
  | array | szArray | pointer =>
      rename_i element modifiers
      simpa [bare, layout, bareModifiers_eq_map, layoutModifiers_eq_map, element] using modifiers
  | _ => simp_all [bare, layout]

theorem layout_of_unnumbered {s t : Symbol} (same : s.unnumbered = t.unnumbered) :
    s.layout = t.layout := by
  rw [← layout_unnumbered, same, layout_unnumbered]

theorem isUnsupported_layout (s : Symbol) : s.layout.isUnsupported = s.isUnsupported := by
  cases s <;> rfl

theorem definition?_layout (s : Symbol) : s.layout.definition? = s.definition? := by
  cases s <;> rfl

theorem isClosedOver_layout (assemblies : List Assembly) (s : Symbol) :
    s.layout.isClosedOver assemblies = s.isClosedOver assemblies := by
  induction s with
  | constructed n d bindings ih =>
      have arguments : Layout.anyClosedOver assemblies (layoutArguments bindings) =
          anyClosedOver assemblies bindings := by
        induction bindings with
        | nil => rfl
        | cons b bindings rest =>
            rw [List.forall_mem_cons] at ih
            rw [layoutArguments, Layout.anyClosedOver, anyClosedOver, ih.1, rest ih.2]
      rw [layout, Layout.isClosedOver, isClosedOver, arguments]
  | _ => simp_all [layout, Layout.isClosedOver, isClosedOver]

end Symbol

namespace Build

theorem named_layout (d : Definition) : Yields (fun s => s.layout = .named d) (named d) :=
  (named_yields d).mono fun _ ⟨_, same⟩ => same ▸ rfl

theorem constructed_layout (d : Definition) (bindings : List (Binding Symbol)) :
    Yields (fun s => s.layout = .constructed d (Substitution.columns ⟨bindings⟩))
      (constructed d bindings) :=
  (constructed_yields d bindings).mono fun _ ⟨n, same⟩ =>
    same ▸ Symbol.layout_constructed n d bindings

theorem unsupported_layout (cause : Option Fault) :
    Yields (fun s => s.layout = .unsupported cause) (unsupported cause) :=
  (unsupported_yields cause).mono fun _ ⟨_, same⟩ => same ▸ rfl

end Build

namespace Substitution

variable {m : Substitution}

theorem pair_layout (parameters : List Parameter) (arguments : List Symbol) :
    Columns.pair parameters (arguments.map Symbol.layout) =
      (ofLists parameters arguments).map columns := by
  by_cases same : parameters.length = arguments.length
  · obtain ⟨m, paired⟩ : ∃ m, ofLists parameters arguments = .ok m := ⟨_, if_pos same⟩
    obtain ⟨left, right⟩ := columns_of_ofLists paired
    rw [paired, Columns.pair, List.length_map, if_pos same, Except.map, columns, left, right]
  · rw [Columns.pair, ofLists, List.length_map, if_neg same, if_neg same, Except.map]

theorem identity_columns (parameters : List Parameter) :
    Build.Yields (fun m => m.columns = Columns.identity parameters) (identity parameters) := by
  suffices own : Build.Yields (fun bindings : List (Binding Symbol) =>
      bindings.map (·.parameter) = parameters ∧
        (bindings.map (·.argument)).map Symbol.layout = parameters.map .parameter)
      (parameters.mapM fun p => return ⟨p, ← Build.parameter p⟩) by
    refine own.bind fun bindings both => .pure ?_
    rw [columns, Columns.identity, Substitution.parameters, Substitution.arguments, both.1, both.2]
  induction parameters with
  | nil => exact .pure ⟨rfl, rfl⟩
  | cons p parameters ih =>
      rw [List.mapM_cons, bind_assoc]
      refine (Build.parameter_yields p).bind ?_
      rintro _ ⟨n, rfl⟩
      refine ih.bind fun rest both => .pure ?_
      simp only [List.map_cons, both, Symbol.layout, and_self]

theorem length_columns (m : Substitution) :
    m.columns.arguments.length = m.columns.parameters.length := by
  simp [columns, parameters, arguments]

theorem lookup_columns (m : Substitution) (p : Parameter) :
    m.columns.lookup p = .ok ((m.lookup? p).map Symbol.layout) := by
  have position : m.columns.parameters.findIdx? (· == p) =
      m.bindings.findIdx? fun b => b.parameter == p := by
    rw [columns, parameters, List.findIdx?_map]
    rfl
  rw [Columns.lookup, position, lookup?, List.find?_eq_bind_findIdx?_getElem?]
  cases found : m.bindings.findIdx? fun b => b.parameter == p with
  | none => rfl
  | some i =>
      obtain ⟨inside, -⟩ := List.findIdx?_eq_some_iff_getElem.mp found
      have present : i < m.columns.arguments.length := by simpa [columns, arguments] using inside
      simp only [Checked.element_of_lt present]
      simp [columns, arguments, inside]

-- with a missing argument the position would be out of range
example : (Columns.mk Sample.box.parameters ([] : List Layout)).lookup ⟨⟨0x2A000001⟩, "T", 0⟩ =
    .error ⟨0, 0⟩ := rfl

theorem leading_columns (m : Substitution) (count : Nat) :
    m.columns.leading count = .ok (m.take count).columns := by
  have size : m.columns.parameters.length = m.bindings.length := List.length_map _
  have inside : min count m.bindings.length ≤ m.bindings.length := Nat.min_le_right _ _
  rw [Columns.leading, size, Checked.leading_of_le (size ▸ inside),
    Checked.leading_of_le (m.length_columns.trans size ▸ inside)]
  simp [columns, take, parameters, arguments, List.map_take, List.take_eq_take_min]

theorem substituteEach_layout {bindings : List (Binding Symbol)}
    (each : ∀ b ∈ bindings,
      m.columns.substitute b.argument.layout = .ok (m.image b.argument).layout) :
    m.columns.substituteEach (Symbol.layoutArguments bindings) =
      .ok (Symbol.layoutArguments (m.imageBindings bindings)) := by
  induction bindings with
  | nil => rfl
  | cons b bindings ih =>
      obtain ⟨first, rest⟩ := List.forall_mem_cons.mp each
      rw [Symbol.layoutArguments, Columns.substituteEach, first, ih rest]
      rfl

theorem substitute_layout (m : Substitution) (s : Symbol) :
    m.columns.substitute s.layout = .ok (m.image s).layout := by
  induction s with
  | named | unsupported => rfl
  | parameter n p =>
      rw [Symbol.layout, Columns.substitute, lookup_columns, image]
      cases m.lookup? p <;> rfl
  | array n s rank dimensions modifiers ih | szArray n s modifiers ih
  | pointer n s modifiers ih | byRef n s ih | illegal n s ih =>
      rw [Symbol.layout, Columns.substitute, ih]
      rfl
  | constructed n d bindings ih =>
      rw [Symbol.layout, Columns.substitute, substituteEach_layout ih, image, Symbol.layout,
        parameters_imageBindings]
      rfl

theorem substitute_columns (m : Substitution) (s : Symbol) :
    Build.Yields (fun t => m.columns.substitute s.layout = .ok t.layout) (m.apply s) := by
  refine (m.apply_yields s).mono fun t same => ?_
  rw [substitute_layout, Symbol.layout_of_unnumbered same]

end Substitution

theorem Hierarchy.container_layout (h : Hierarchy) (s : Symbol) :
    Build.Yields (fun r => s.layout.container h = .ok (r.map Symbol.layout))
      (h.containerOf? s) := by
  cases s with
  | named n d =>
      rw [containerOf?, Symbol.layout, Layout.container]
      cases h.container? d with
      | none => exact .pure rfl
      | some c =>
          exact (Build.named_layout c).bind fun t same =>
            .pure (congrArg (fun s => Except.ok (some s)) same.symm)
  | constructed n d bindings =>
      rw [containerOf?, Symbol.layout_constructed, Layout.container]
      cases h.container? d with
      | none => exact .pure rfl
      | some c =>
          have size : (Substitution.columns ⟨bindings⟩).parameters.length = bindings.length :=
            List.length_map _
          simp only [size]
          split
          · exact (Build.named_layout c).bind fun t same =>
              .pure (congrArg (fun s => Except.ok (some s)) same.symm)
          · refine (Build.constructed_layout c _).bind fun t same => .pure ?_
            rw [Substitution.leading_columns, Option.map_some, same]
            rfl
  | _ => exact .pure rfl

theorem Layout.scan_of_le {forbidden : Layout → Bool} {arguments : List Layout}
    {flags : List Bool} {count : Nat} (inside : count ≤ arguments.length) :
    scan forbidden arguments flags count =
      .ok ((flags.take count).any id || (arguments.take count).any forbidden) := by
  induction count with
  | zero => simp [scan]
  | succ i ih =>
      have last : i < arguments.length := inside
      have flag : (flags.take (i + 1)).any id =
          ((flags.take i).any id || flags[i]?.getD false) := by
        rw [List.take_add_one, List.any_append]
        cases flags[i]? <;> simp
      have argument : (arguments.take (i + 1)).any forbidden =
          ((arguments.take i).any forbidden || forbidden arguments[i]) := by
        rw [List.take_add_one, List.getElem?_eq_getElem last, List.any_append]
        simp
      rw [scan, Checked.element_of_lt last, Checked.ok_bind, ih (Nat.le_of_lt last), flag, argument]
      cases flags[i]?.getD false <;> cases forbidden arguments[i] <;> simp

namespace Context

variable {ctx : Context}

theorem scanLayouts_eq (ctx : Context) (d : Definition) (arguments : List Layout)
    (flags : List Bool) :
    let checked := ctx.hierarchy.checkedCount ctx.config.nestingDepth d arguments.length
    ctx.scanLayouts d arguments flags = .ok ((flags.take checked).any id ||
      (arguments.take checked).any (Layout.isClosedOver ctx.home.linked)) :=
  Layout.scan_of_le (ctx.hierarchy.checkedCount_le _ d _)

theorem scanLayouts_layout (ctx : Context) (d : Definition) (arguments : List Symbol)
    (flags : List Bool) : ctx.scanLayouts d (arguments.map Symbol.layout) flags =
      .ok (ctx.hasIllegalArgument d arguments flags) := by
  have closed : Layout.isClosedOver ctx.home.linked ∘ Symbol.layout =
      Symbol.isClosedOver ctx.home.linked :=
    funext (Symbol.isClosedOver_layout ctx.home.linked)
  rw [scanLayouts_eq, List.length_map, ← List.map_take, List.any_map, closed]
  rfl

theorem isIllegalLayout_layout (ctx : Context) (d : Definition) (arguments : List Symbol)
    (flags : List Bool) : ctx.isIllegalLayout d (arguments.map Symbol.layout) flags =
      .ok (ctx.isIllegal d arguments flags) := by
  rw [isIllegalLayout, isIllegal, scanLayouts_layout]
  cases ctx.interopGate <;> rfl

theorem construct_layout {d : Definition} {formals : List Parameter} {arguments : List Symbol}
    {m : Substitution} (paired : Substitution.ofLists formals arguments = .ok m) (illegal : Bool) :
    Build.Yields (fun t => (if illegal then Layout.illegal (.constructed d m.columns)
      else .constructed d m.columns) = t.layout) (ctx.construct d formals arguments illegal) := by
  rw [construct, paired]
  refine (Build.constructed_layout d m.bindings).bind fun t built => ?_
  cases illegal
  · exact .pure built.symm
  · exact .after fun _ => .after fun _ => .pure (congrArg Layout.illegal built.symm)

theorem instantiateDefinition_layout (ctx : Context) (generic : Symbol) (d : Definition)
    (arguments : List Symbol) (flags : List Bool) :
    Build.Yields (fun t => ctx.instantiateDefinitionLayout generic.layout d
      (arguments.map Symbol.layout) flags = .ok t.layout)
      (ctx.instantiateDefinition generic d arguments flags) := by
  rw [instantiateDefinition, instantiateDefinitionLayout, isIllegalLayout_layout,
    Checked.ok_bind]
  cases ctx.formals d with
  | error fault =>
      exact (Build.unsupported_layout _).mono fun t same => congrArg Except.ok same.symm
  | ok formals =>
      simp only [List.length_map]
      by_cases arity : formals.length = arguments.length
      · rw [if_neg (not_not.mpr arity), if_neg (not_not.mpr arity)]
        by_cases none : formals.isEmpty = true
        · rw [if_pos none, if_pos none]
          exact .pure rfl
        · rw [if_neg none, if_neg none]
          obtain ⟨m, paired⟩ : ∃ m, Substitution.ofLists formals arguments = .ok m :=
            ⟨_, if_pos arity⟩
          refine (construct_layout paired _).mono fun t same => ?_
          rw [← same, Substitution.pair_layout, paired]
          cases ctx.isIllegal d arguments flags <;> rfl
      · rw [if_pos arity, if_pos arity]
        refine .after fun _ => (Build.unsupported_layout _).mono fun t same => ?_
        exact congrArg Except.ok same.symm

theorem instantiate_layout (ctx : Context) (generic : Symbol) (arguments : List Symbol)
    (flags : List Bool) :
    Build.Yields (fun t => ctx.instantiateLayout generic.layout (arguments.map Symbol.layout) flags =
      .ok t.layout) (ctx.instantiate generic arguments flags) := by
  have any : (arguments.map Symbol.layout).any (·.isUnsupported) =
      arguments.any (·.isUnsupported) := by
    simp only [List.any_map, Function.comp_def, Symbol.isUnsupported_layout]
  rw [instantiate, instantiateLayout, Symbol.isUnsupported_layout, any, List.isEmpty_map,
    Symbol.definition?_layout]
  by_cases poisoned : generic.isUnsupported = true
  · rw [if_pos poisoned, if_pos poisoned]
    exact .pure rfl
  rw [if_neg poisoned, if_neg poisoned]
  by_cases faulty : arguments.any (·.isUnsupported) = true
  · rw [if_pos faulty, if_pos faulty]
    exact (Build.unsupported_layout _).mono fun t same => congrArg Except.ok same.symm
  rw [if_neg faulty, if_neg faulty]
  cases generic.definition? with
  | some d => exact ctx.instantiateDefinition_layout generic d arguments flags
  | none =>
      by_cases bare : arguments.isEmpty = true
      · simp only [bare, if_true]
        exact .pure rfl
      · simp only [bare]
        refine .after fun _ => (Build.unsupported_layout _).mono fun t same => ?_
        exact congrArg Except.ok same.symm

end Context

end ClrTypes
