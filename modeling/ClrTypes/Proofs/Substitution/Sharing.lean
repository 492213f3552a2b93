import ClrTypes.Proofs.Instantiation
import ClrTypes.Proofs.Substitution.Image
import ClrTypes.Proofs.Symbol.Numbering
import ClrTypes.Proofs.Symbol.WellFormed

/-!
# What substitution shares

Where no parameter is replaced by another node, substitution gives the very node that it started
from. Elsewhere it builds a new node, and the parts in which nothing is replaced are shared with it.
This needs numbers that tell nodes apart, before and at each later step, so `replace?_traces` follows
the numbers in use together with what comes out.
-/

namespace ClrTypes.Substitution

open ClrTypes.Symbol (Numbered)

variable {m : Substitution} {s t : Symbol} {roots : List Symbol} {first : Nat} {p : Progress}

/-- Each parameter in the symbol is unbound or bound to that very occurrence of it. -/
def Spares (m : Substitution) (s : Symbol) : Prop :=
  ∀ n x, (Symbol.parameter n x).IsPartOf s → ∀ a, m.lookup? x = some a →
    a.isSameNode (.parameter n x) = true

/-- The second symbol comes from the first one by replacing parameters. Nodes in which nothing is
replaced are shared; the others that have parts are new, with numbers from `first` on. -/
inductive Shares (m : Substitution) (first : Nat) : Symbol → Symbol → Prop
  | kept {s : Symbol} : m.Spares s → Shares m first s s
  | bound {n : Nat} {x : Parameter} {a : Symbol} : ¬ m.Spares (.parameter n x) →
      m.lookup? x = some a → Shares m first (.parameter n x) a
  | rebuilt {s t : Symbol} : ¬ m.Spares s → s.parts ≠ [] → first ≤ t.serial →
      List.Forall₂ (Shares m first) s.parts t.parts → Shares m first s t

theorem spares_parameter {n : Nat} {x : Parameter} : m.Spares (.parameter n x) ↔
    ∀ a, m.lookup? x = some a → a.isSameNode (.parameter n x) = true := by
  constructor
  · intro spares
    exact spares n x (.refl _)
  · intro same n' x' part
    rcases Symbol.isPartOf_iff.mp part with whole | ⟨u, member, -⟩
    · cases whole
      exact same
    · simp [Symbol.parts] at member

theorem spares_iff (other : ∀ n x, s ≠ .parameter n x) :
    m.Spares s ↔ ∀ u ∈ s.parts, m.Spares u := by
  constructor
  · intro spares u member n x part
    exact spares n x (part.inner member)
  · intro inner n x part
    rcases Symbol.isPartOf_iff.mp part with whole | ⟨u, member, part⟩
    · exact absurd whole.symm (other n x)
    · exact inner u member n x part

structure Traced (m : Substitution) (roots : List Symbol) (first : Nat) (s : Symbol)
    (r : Option Symbol) (p : Progress) : Prop where
  later : first ≤ p.next
  spared : r = none ↔ m.Spares s
  shares : m.Shares first s (r.getD s)
  numbered : Numbered (r.getD s :: roots) p

structure TracedAll (m : Substitution) (roots : List Symbol) (first : Nat) (ss : List Symbol)
    (r : Option (List Symbol)) (p : Progress) : Prop where
  later : first ≤ p.next
  spared : r = none ↔ ∀ s ∈ ss, m.Spares s
  shares : List.Forall₂ (m.Shares first) ss (r.getD ss)
  numbered : Numbered (r.getD ss ++ roots) p

def Traces (m : Substitution) (first : Nat) (s : Symbol) : Prop :=
  ∀ roots, (∀ a ∈ m.arguments, a.IsNodeOf roots) → s.IsNodeOf roots →
    Build.Ensures (fun p => first ≤ p.next ∧ Numbered roots p) (m.Traced roots first s)
      (m.replace? s)

theorem Traced.single {r : Option Symbol} (traced : m.Traced roots first s r p) :
    m.TracedAll roots first [s] (r.map fun t => [t]) p where
  later := traced.later
  spared := by rw [Option.map_eq_none_iff, traced.spared, List.forall_mem_singleton]
  shares := by
    rw [Option.getD_map]
    exact .cons traced.shares .nil
  numbered := by
    rw [Option.getD_map]
    exact traced.numbered

theorem TracedAll.cons {ss : List Symbol} {r : Option Symbol} {rest result : Option (List Symbol)}
    {q : Progress} (traced : m.Traced roots first s r p)
    (others : m.TracedAll (r.getD s :: roots) first ss rest q)
    (kept : result = none ↔ r = none ∧ rest = none)
    (whole : result.getD (s :: ss) = r.getD s :: rest.getD ss) :
    m.TracedAll roots first (s :: ss) result q where
  later := others.later
  spared := by rw [kept, traced.spared, others.spared, List.forall_mem_cons]
  shares := by
    rw [whole]
    exact .cons traced.shares others.shares
  numbered := by
    rw [whole]
    apply others.numbered.of_subset
    exact List.perm_middle.symm.subset

theorem traced_kept (later : first ≤ p.next) (spares : m.Spares s) (node : s.IsNodeOf roots)
    (numbered : Numbered roots p) : m.Traced roots first s none p where
  later := later
  spared := iff_of_true rfl spares
  shares := .kept spares
  numbered := numbered.cons node

theorem traced_unchanged (other : ∀ n x, s ≠ .parameter n x) (node : s.IsNodeOf roots)
    (traced : m.TracedAll roots first s.parts none p) : m.Traced roots first s none p := by
  have spares : m.Spares s := (spares_iff other).mpr (traced.spared.mp rfl)
  have numbered : Numbered roots p := traced.numbered.of_subset (List.subset_append_right _ _)
  exact traced_kept traced.later spares node numbered

theorem traced_rebuilt {parts : List Symbol} (other : ∀ n x, s ≠ .parameter n x)
    (traced : m.TracedAll roots first s.parts (some parts) p) (serial : t.serial = p.next)
    (inner : t.parts = parts) :
    m.Traced roots first s (some t) { p with next := p.next + 1 } := by
  subst inner
  have changed : ¬ m.Spares s := by
    rw [spares_iff other, ← traced.spared]
    exact Option.some_ne_none t.parts
  have composite : s.parts ≠ [] := by
    intro leaf
    exact changed ((spares_iff other).mpr (by simp [leaf]))
  have grown := traced.numbered.grow
    (fun u member => Symbol.isNodeOf_of_mem (List.mem_append_left _ member)) serial
  constructor
  · exact Nat.le_succ_of_le traced.later
  · exact iff_of_false (Option.some_ne_none t) changed
  · exact .rebuilt changed composite (serial ▸ traced.later) traced.shares
  · exact grown.of_subset (List.cons_subset_cons t (List.subset_append_right _ _))

theorem operand_traces (make : Nat → Symbol → Symbol) (n : Nat)
    (made : ∀ n s, (make n s).serial = n ∧ (make n s).parts = [s]) (inner : m.Traces first s)
    (known : ∀ a ∈ m.arguments, a.IsNodeOf roots) (node : (make n s).IsNodeOf roots) :
    Build.Ensures (fun p => first ≤ p.next ∧ Numbered roots p) (m.Traced roots first (make n s))
      (do match ← m.replace? s with
          | none => return none
          | some s' => return some (make (← Build.serial) s')) := by
  have parts := (made n s).2
  have other : ∀ k x, make n s ≠ .parameter k x := by
    intro k x same
    simp [same, Symbol.parts] at parts
  refine (inner roots known (node.inner (by simp [parts]))).bind fun r p traced => ?_
  have tracedParts := parts ▸ traced.single
  cases r with
  | none => exact traced_unchanged other node tracedParts
  | some s' => exact traced_rebuilt other tracedParts (made p.next s').1 (made p.next s').2

theorem replaceArguments?_ensures {bindings : List (Binding Symbol)}
    (each : ∀ b ∈ bindings, m.Traces first b.argument)
    (known : ∀ a ∈ m.arguments, a.IsNodeOf roots)
    (nodes : ∀ b ∈ bindings, b.argument.IsNodeOf roots) :
    Build.Ensures (fun p => first ≤ p.next ∧ Numbered roots p)
      (fun r => m.TracedAll roots first (bindings.map (·.argument))
        (r.map fun bindings' => bindings'.map (·.argument)))
      (m.replaceArguments? bindings) := by
  induction bindings generalizing roots with
  | nil =>
      rw [replaceArguments?]
      exact .pure fun p ready => ⟨ready.1, by simp, .nil, ready.2⟩
  | cons b bindings ih =>
      rw [replaceArguments?]
      obtain ⟨head, tail⟩ := List.forall_mem_cons.mp each
      obtain ⟨node, others⟩ := List.forall_mem_cons.mp nodes
      refine (head roots known node).bind fun r p traced => ?_
      -- The other arguments are replaced while what came out for the first one is in use, too.
      have more {u : Symbol} (old : u.IsNodeOf roots) :
          u.IsNodeOf (r.getD b.argument :: roots) :=
        old.of_subset (List.subset_cons_self _ _)
      have remaining := ih tail (fun a member => more (known a member))
        fun b member => more (others b member)
      refine Build.Ensures.bind (Q := fun all => m.TracedAll roots first _ (Option.map _ all))
        remaining (fun rest => ?_) p ⟨traced.later, traced.numbered⟩
      cases r <;> cases rest <;>
        exact .pure fun q tracedRest => .cons traced tracedRest (by simp) rfl

theorem parameter_traces (m : Substitution) (first n : Nat) (x : Parameter) :
    m.Traces first (.parameter n x) := by
  intro roots known node p ⟨later, numbered⟩
  rw [replace?]
  cases found : m.lookup? x with
  | none => exact traced_kept later (spares_parameter.mpr (by simp [found])) node numbered
  | some a =>
      by_cases occurrence : a.isOccurrence n x = true
      · have spares : m.Spares (.parameter n x) := by
          simp [spares_parameter, found, eq_of_isOccurrence occurrence, Symbol.isSameNode]
        simp only [occurrence, if_true]
        exact traced_kept later spares node numbered
      · have argument : a.IsNodeOf roots := by
          obtain ⟨b, member, rfl⟩ := mem_of_lookup? found
          exact known _ (List.mem_map_of_mem member)
        have changed : ¬ m.Spares (.parameter n x) := by
          intro spares
          have same := spares_parameter.mp spares a found
          have whole := numbered.single a _ argument node (eq_of_beq same)
          simp [whole, Symbol.isOccurrence] at occurrence
        simp only [occurrence]
        exact ⟨later, iff_of_false (Option.some_ne_none a) changed, .bound changed found,
          numbered.cons argument⟩

theorem replace?_traces (m : Substitution) (first : Nat) (s : Symbol) : m.Traces first s := by
  induction s with
  | named | unsupported =>
      intro roots known node p ⟨later, numbered⟩
      exact traced_kept later ((spares_iff (by simp)).mpr (by simp [Symbol.parts])) node numbered
  | parameter n x => exact m.parameter_traces first n x
  | array n s rank dimensions modifiers ih =>
      intro roots
      rw [replace?]
      exact operand_traces (.array · · rank dimensions modifiers) n (fun _ _ => ⟨rfl, rfl⟩) ih
  | szArray n s modifiers ih =>
      intro roots
      rw [replace?]
      exact operand_traces (.szArray · · modifiers) n (fun _ _ => ⟨rfl, rfl⟩) ih
  | pointer n s modifiers ih =>
      intro roots
      rw [replace?]
      exact operand_traces (.pointer · · modifiers) n (fun _ _ => ⟨rfl, rfl⟩) ih
  | byRef n s ih =>
      intro roots
      rw [replace?]
      exact operand_traces .byRef n (fun _ _ => ⟨rfl, rfl⟩) ih
  | illegal n s ih =>
      intro roots
      rw [replace?]
      exact operand_traces .illegal n (fun _ _ => ⟨rfl, rfl⟩) ih
  | constructed n d bindings ih =>
      intro roots known node
      rw [replace?]
      have nodes : ∀ b ∈ bindings, b.argument.IsNodeOf roots := fun b member =>
        node.inner (List.mem_map_of_mem member)
      refine (replaceArguments?_ensures ih known nodes).bind fun r p traced => ?_
      cases r with
      | none => exact traced_unchanged (by simp) node traced
      | some bindings' => exact traced_rebuilt (by simp) traced rfl rfl

theorem Shares.changed (shares : m.Shares first s t) (changed : ¬ m.Spares s) :
    (∃ n x, s = .parameter n x ∧ m.lookup? x = some t) ∨
      (s.parts ≠ [] ∧ first ≤ t.serial ∧ List.Forall₂ (m.Shares first) s.parts t.parts) := by
  cases shares with
  | kept spares => exact absurd spares changed
  | bound _ found => exact .inl ⟨_, _, rfl, found⟩
  | rebuilt _ composite later parts => exact .inr ⟨composite, later, parts⟩

theorem apply_traced (m : Substitution) (s : Symbol) (numbered : Numbered (s :: m.arguments) p) :
    m.Traced (s :: m.arguments) p.next s ((m.replace? s).run p).1 ((m.apply s).run p).2 := by
  have known : ∀ a ∈ m.arguments, a.IsNodeOf (s :: m.arguments) := fun a member =>
    Symbol.isNodeOf_of_mem (List.mem_cons_of_mem s member)
  exact m.replace?_traces p.next s _ known (Symbol.isNodeOf_of_mem List.mem_cons_self) p
    ⟨Nat.le_refl _, numbered⟩

theorem spares_of_apply_eq (numbered : Numbered (s :: m.arguments) p)
    (same : (m.apply s).outcome p = s) : m.Spares s := by
  by_contra changed
  have shares : m.Shares p.next s ((m.apply s).outcome p) := (m.apply_traced s numbered).shares
  rw [same] at shares
  rcases shares.changed changed with ⟨n, x, rfl, found⟩ | ⟨-, later, -⟩
  · exact changed (spares_parameter.mpr (by simp [found, Symbol.isSameNode]))
  · have used := numbered.used s (Symbol.isNodeOf_of_mem List.mem_cons_self)
    omega

/-- Applying a substitution to `s` gives `s` itself exactly if each parameter in it is unbound or
bound to that very occurrence of it. Otherwise `s` is a parameter and its argument comes out, or what
comes out is a new node that has the unchanged parts of `s` in common with it. -/
theorem apply_shares (m : Substitution) (s : Symbol) {p : Progress}
    (numbered : Numbered (s :: m.arguments) p) :
    let t := (m.apply s).outcome p
    let q := ((m.apply s).run p).2
    (t.isSameNode s = true ↔ m.Spares s) ∧ (m.Spares s → t = s) ∧
    (¬ m.Spares s → (∃ n x, s = .parameter n x ∧ m.lookup? x = some t) ∨
      (s.parts ≠ [] ∧ p.next ≤ t.serial ∧ t.serial < q.next ∧
        List.Forall₂ (m.Shares p.next) s.parts t.parts)) ∧
    Replaced m s t ∧ Numbered (t :: s :: m.arguments) q := by
  intro t q
  have traced := m.apply_traced s numbered
  have shares : m.Shares p.next s t := traced.shares
  have after : Numbered (t :: s :: m.arguments) q := traced.numbered
  have result : t.IsNodeOf (t :: s :: m.arguments) := Symbol.isNodeOf_of_mem (by simp)
  have start : s.IsNodeOf (t :: s :: m.arguments) := Symbol.isNodeOf_of_mem (by simp)
  have kept (spares : m.Spares s) : t = s := by
    have nothing : ((m.replace? s).run p).1 = none := traced.spared.mpr spares
    exact congrArg (fun r => Option.getD r s) nothing
  refine ⟨⟨fun same => ?_, fun spares => ?_⟩, kept, fun changed => ?_, m.apply_replaced s p, after⟩
  · exact spares_of_apply_eq numbered (after.single t s result start (eq_of_beq same))
  · simp [kept spares, Symbol.isSameNode]
  · rcases shares.changed changed with bound | ⟨composite, later, parts⟩
    · exact .inl bound
    · exact .inr ⟨composite, later, after.used t result, parts⟩

theorem apply_pair_shares_array :
    let t : Parameter := ⟨⟨0x2A000001⟩, "T", 0⟩
    let u : Parameter := ⟨⟨0x2A000002⟩, "U", 1⟩
    let pair : Definition := Sample.define 6 "Pair" "App" .none [t, u] false
    let m : Substitution := ⟨[⟨t, .named 0 Sample.shape⟩]⟩
    let array : Symbol := .szArray 2 (.named 1 Sample.point) []
    let s : Symbol := .constructed 4 pair [⟨t, .parameter 3 t⟩, ⟨u, array⟩]
    let r : Symbol := .constructed 5 pair [⟨t, .named 0 Sample.shape⟩, ⟨u, array⟩]
    Numbered (s :: m.arguments) { next := 5 } ∧ (m.apply s).outcome { next := 5 } = r ∧
      ¬ m.Spares s ∧ List.Forall₂ (m.Shares 5) s.parts r.parts := by
  intro t u pair m array s r
  have numbered : Numbered (s :: m.arguments) { next := 5 } := by
    have shape := (Numbered.none {}).grow (s := .named 0 Sample.shape) (by simp [Symbol.parts]) rfl
    have point := shape.grow (s := .named 1 Sample.point) (by simp [Symbol.parts]) rfl
    have points := point.grow (s := array)
      (by simp [array, Symbol.parts, Symbol.isNodeOf_of_mem]) rfl
    have formal := points.grow (s := .parameter 3 t) (by simp [Symbol.parts]) rfl
    have whole := formal.grow (s := s) (by simp [s, Symbol.parts, Symbol.isNodeOf_of_mem]) rfl
    apply whole.mono
    simp [m, arguments, Symbol.isNodeOf_of_mem]
  obtain ⟨same, -, changed, -, -⟩ := apply_shares m s numbered
  have changes : ¬ m.Spares s := by
    rw [← same]
    decide
  rcases changed changes with ⟨n, x, root, -⟩ | ⟨-, -, -, parts⟩
  · simp [s] at root
  · exact ⟨numbered, rfl, changes, parts⟩

end ClrTypes.Substitution
