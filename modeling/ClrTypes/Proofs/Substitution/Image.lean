import ClrTypes.Proofs.Building
import ClrTypes.Proofs.Symbol.Bare
import ClrTypes.Substitution

/-!
# Substitution as a function and as a relation

`image` replaces parameters without drawing serial numbers: every node keeps its own. `Replaced` says
what may come out where nodes are built anew. What `apply` builds is `Replaced`, whatever it shares
with the symbol that it starts from, and so it is the image up to serial numbers.
-/

namespace ClrTypes.Substitution

mutual

/-- The symbol with its parameters replaced; nodes keep their serial numbers. -/
def image (m : Substitution) : Symbol → Symbol
  | .array n s rank dimensions modifiers => .array n (image m s) rank dimensions modifiers
  | .szArray n s modifiers => .szArray n (image m s) modifiers
  | .pointer n s modifiers => .pointer n (image m s) modifiers
  | .byRef n s => .byRef n (image m s)
  | .named n d => .named n d
  | .constructed n d bindings => .constructed n d (imageBindings m bindings)
  | .parameter n p => (m.lookup? p).getD (.parameter n p)
  | .unsupported n cause => .unsupported n cause
  | .illegal n s => .illegal n (image m s)

def imageBindings (m : Substitution) : List (Binding Symbol) → List (Binding Symbol)
  | [] => []
  | ⟨p, s⟩ :: rest => ⟨p, image m s⟩ :: imageBindings m rest

end

theorem imageBindings_eq_map (m : Substitution) (bindings : List (Binding Symbol)) :
    m.imageBindings bindings = bindings.map fun b => ⟨b.parameter, m.image b.argument⟩ := by
  induction bindings with
  | nil => rfl
  | cons b bindings ih => simp [imageBindings, ih]

theorem parameters_imageBindings (m : Substitution) (bindings : List (Binding Symbol)) :
    (m.imageBindings bindings).map (·.parameter) = bindings.map (·.parameter) := by
  simp [imageBindings_eq_map, Function.comp_def]

theorem arguments_imageBindings (m : Substitution) (bindings : List (Binding Symbol)) :
    (m.imageBindings bindings).map (·.argument) = (bindings.map (·.argument)).map m.image := by
  simp [imageBindings_eq_map, Function.comp_def]

/-- The second symbol is the first one with every bound parameter replaced, all at once. Nodes may be
new. What they hold besides their parts is kept, and what stands for a parameter is not looked into. -/
inductive Replaced (m : Substitution) : Symbol → Symbol → Prop
  | array {n n' : Nat} {s t : Symbol} {rank : UInt32} {dimensions : List Dimension}
      {modifiers : List (Modifier Symbol)} : Replaced m s t →
      Replaced m (.array n s rank dimensions modifiers) (.array n' t rank dimensions modifiers)
  | szArray {n n' : Nat} {s t : Symbol} {modifiers : List (Modifier Symbol)} : Replaced m s t →
      Replaced m (.szArray n s modifiers) (.szArray n' t modifiers)
  | pointer {n n' : Nat} {s t : Symbol} {modifiers : List (Modifier Symbol)} : Replaced m s t →
      Replaced m (.pointer n s modifiers) (.pointer n' t modifiers)
  | byRef {n n' : Nat} {s t : Symbol} : Replaced m s t → Replaced m (.byRef n s) (.byRef n' t)
  | named {n : Nat} {d : Definition} : Replaced m (.named n d) (.named n d)
  | constructed {n n' : Nat} {d : Definition} {bindings bindings' : List (Binding Symbol)} :
      bindings'.map (·.parameter) = bindings.map (·.parameter) →
      List.Forall₂ (Replaced m) (bindings.map (·.argument)) (bindings'.map (·.argument)) →
      Replaced m (.constructed n d bindings) (.constructed n' d bindings')
  | bound {n : Nat} {p : Parameter} {a : Symbol} : m.lookup? p = some a →
      Replaced m (.parameter n p) a
  | free {n : Nat} {p : Parameter} : m.lookup? p = none →
      Replaced m (.parameter n p) (.parameter n p)
  | unsupported {n : Nat} {cause : Option Fault} :
      Replaced m (.unsupported n cause) (.unsupported n cause)
  | illegal {n n' : Nat} {s t : Symbol} : Replaced m s t →
      Replaced m (.illegal n s) (.illegal n' t)

variable {m : Substitution}

theorem eq_of_isOccurrence {s : Symbol} {n : Nat} {p : Parameter}
    (occurrence : s.isOccurrence n p = true) : s = .parameter n p := by
  cases s <;> simp only [Symbol.isOccurrence, Bool.and_eq_true, beq_iff_eq, Bool.false_eq_true]
    at occurrence
  rename_i n' p'
  obtain ⟨⟨⟨rfl, token⟩, name⟩, ordinal⟩ := occurrence
  cases p
  cases p'
  simp_all

theorem rebuilt_replaced (node : Nat → Symbol → Symbol) {step : Build (Option Symbol)}
    {s : Symbol} (n : Nat)
    (kept : ∀ n' t, Replaced m s t → Replaced m (node n s) (node n' t))
    (inner : Build.Yields (fun r => Replaced m s (r.getD s)) step) :
    Build.Yields (fun r => Replaced m (node n s) (r.getD (node n s)))
      (do match ← step with
          | none => return none
          | some s' => return some (node (← Build.serial) s')) := by
  refine inner.bind fun r replaced => ?_
  cases r with
  | none => exact .pure (kept n s replaced)
  | some s' => exact .after fun n' => .pure (kept n' s' replaced)

theorem replaceArguments?_replaced {bindings : List (Binding Symbol)}
    (arguments : ∀ b ∈ bindings, Build.Yields (fun r => Replaced m b.argument (r.getD b.argument))
      (m.replace? b.argument)) :
    Build.Yields (fun r => (r.getD bindings).map (·.parameter) = bindings.map (·.parameter) ∧
        List.Forall₂ (Replaced m) (bindings.map (·.argument))
          ((r.getD bindings).map (·.argument)))
      (m.replaceArguments? bindings) := by
  induction bindings with
  | nil => exact .pure ⟨rfl, .nil⟩
  | cons b bindings ih =>
      rw [replaceArguments?]
      refine (arguments b List.mem_cons_self).bind fun first replaced => ?_
      refine (ih fun b member => arguments b (List.mem_cons_of_mem _ member)).bind
        fun rest others => ?_
      cases first <;> cases rest <;> exact .pure (by simp_all)

theorem replace?_replaced (m : Substitution) (s : Symbol) :
    Build.Yields (fun r => Replaced m s (r.getD s)) (m.replace? s) := by
  induction s with
  | named =>
      rw [replace?]
      exact .pure .named
  | unsupported =>
      rw [replace?]
      exact .pure .unsupported
  | parameter n p =>
      rw [replace?]
      cases found : m.lookup? p with
      | none => exact .pure (.free found)
      | some argument =>
          apply Build.Yields.pure
          split
          · rename_i occurrence
            exact .bound (eq_of_isOccurrence occurrence ▸ found)
          · exact .bound found
  | array n s rank dimensions modifiers ih =>
      rw [replace?]
      exact rebuilt_replaced (.array · · rank dimensions modifiers) n (fun _ _ => .array) ih
  | szArray n s modifiers ih =>
      rw [replace?]
      exact rebuilt_replaced (.szArray · · modifiers) n (fun _ _ => .szArray) ih
  | pointer n s modifiers ih =>
      rw [replace?]
      exact rebuilt_replaced (.pointer · · modifiers) n (fun _ _ => .pointer) ih
  | byRef n s ih =>
      rw [replace?]
      exact rebuilt_replaced .byRef n (fun _ _ => .byRef) ih
  | illegal n s ih =>
      rw [replace?]
      exact rebuilt_replaced .illegal n (fun _ _ => .illegal) ih
  | constructed n d bindings ih =>
      rw [replace?]
      refine (replaceArguments?_replaced ih).bind fun r replaced => ?_
      obtain ⟨parameters, arguments⟩ := replaced
      cases r with
      | none => exact .pure (.constructed parameters arguments)
      | some bindings' => exact .after fun _ => .pure (.constructed parameters arguments)

theorem apply_replaced (m : Substitution) (s : Symbol) :
    Build.Yields (Replaced m s) (m.apply s) :=
  (m.replace?_replaced s).bind fun _ replaced => .pure replaced

theorem map_unnumbered_of_replaced {ss ts : List Symbol}
    (alike : ∀ a ∈ ss, ∀ {t}, Replaced m a t → t.unnumbered = (m.image a).unnumbered)
    (each : List.Forall₂ (Replaced m) ss ts) :
    ts.map (Symbol.bare true) = (ss.map m.image).map (Symbol.bare true) := by
  induction each with
  | nil => rfl
  | cons first _ ih =>
      rw [List.forall_mem_cons] at alike
      simp [alike.1 first, ih alike.2]

theorem Replaced.unnumbered_eq {s t : Symbol} (replaced : Replaced m s t) :
    t.unnumbered = (m.image s).unnumbered := by
  induction s generalizing t with
  | named | unsupported => cases replaced; rfl
  | parameter n p => cases replaced <;> simp_all [image]
  | array n s rank dimensions modifiers ih | szArray n s modifiers ih | pointer n s modifiers ih
  | byRef n s ih | illegal n s ih =>
      cases replaced
      simp_all [image, Symbol.bare]
  | constructed n d bindings ih =>
      cases replaced with
      | @constructed _ _ _ _ bindings' parameters arguments =>
          have same := map_unnumbered_of_replaced (by simpa using ih) arguments
          rw [← arguments_imageBindings] at same
          have bound := Symbol.bareBindings_congr
            (parameters.trans (m.parameters_imageBindings bindings).symm) same
          simp [image, Symbol.bare, bound]

theorem apply_yields (m : Substitution) (s : Symbol) :
    Build.Yields (fun t => t.unnumbered = (m.image s).unnumbered) (m.apply s) :=
  (m.apply_replaced s).mono fun _ => Replaced.unnumbered_eq

end ClrTypes.Substitution
