import ClrTypes.Context
import ClrTypes.Legality
import Mathlib.Logic.Relation

namespace ClrTypes.Hierarchy

/-- Following containers from a definition visits the definitions of a list, the innermost first,
and then ends. -/
inductive IsChain (h : Hierarchy) : Definition → List Definition → Prop
  | outermost {d : Definition} : h.container? d = none → IsChain h d [d]
  | nested {d c : Definition} {ds : List Definition} :
      h.container? d = some c → IsChain h c ds → IsChain h d (d :: ds)

def flattened (chain : List Definition) : List Parameter :=
  chain.reverse.flatMap (·.parameters)

def isNestedInterface (h : Hierarchy) (d : Definition) : Bool :=
  d.isInterface && (h.container? d).isSome

/-- The number of parameters that remain along a chain after its leading nested interfaces. -/
def exposedCount (h : Hierarchy) (chain : List Definition) : Nat :=
  (flattened (chain.dropWhile h.isNestedInterface)).length

variable {h : Hierarchy} {d : Definition} {chain : List Definition}

theorem IsChain.unique {other : List Definition} (chained : h.IsChain d chain)
    (again : h.IsChain d other) : chain = other := by
  induction chained generalizing other with
  | outermost top =>
      cases again with
      | outermost => rfl
      | nested inside => simp [top] at inside
  | nested inside _ ih =>
      cases again with
      | outermost top => simp [inside] at top
      | nested inside' rest =>
          rw [inside, Option.some.injEq] at inside'
          subst inside'
          rw [ih rest]

theorem IsChain.length_pos (chained : h.IsChain d chain) : 0 < chain.length := by
  cases chained <;> simp

theorem IsChain.eq_cons (chained : h.IsChain d chain) : ∃ outer, chain = d :: outer := by
  cases chained <;> exact ⟨_, rfl⟩

theorem IsChain.drop {e : Definition} {k : Nat} (chained : h.IsChain d chain)
    (found : chain[k]? = some e) : h.IsChain e (chain.drop k) := by
  induction k generalizing d chain with
  | zero =>
      obtain ⟨outer, rfl⟩ := chained.eq_cons
      obtain rfl := Option.some.inj found
      exact chained
  | succ k ih =>
      cases chained with
      | outermost => simp at found
      | nested _ rest => exact ih rest found

theorem isChain_of_outward? {room : Nat} {outer : List Definition}
    (walk : h.outward? room d = some outer) : h.IsChain d (d :: outer) ∧ outer.length ≤ room := by
  induction room generalizing d outer with
  | zero =>
      cases top : h.container? d with
      | some c => simp [outward?, top] at walk
      | none =>
          simp only [outward?, top, Option.isSome_none, Bool.false_eq_true, if_false,
            Option.some.injEq] at walk
          subst walk
          exact ⟨.outermost top, Nat.le_refl 0⟩
  | succ room ih =>
      cases top : h.container? d with
      | none =>
          simp only [outward?, top, Option.some.injEq] at walk
          subst walk
          exact ⟨.outermost top, Nat.zero_le _⟩
      | some c =>
          simp only [outward?, top, Option.map_eq_some_iff] at walk
          obtain ⟨rest, walk, rfl⟩ := walk
          obtain ⟨chained, short⟩ := ih walk
          exact ⟨.nested top chained, Nat.succ_le_succ short⟩

theorem IsChain.outward?_eq {room : Nat} {outer : List Definition}
    (chained : h.IsChain d (d :: outer)) (short : outer.length ≤ room) :
    h.outward? room d = some outer := by
  induction room generalizing d outer with
  | zero =>
      obtain rfl := List.length_eq_zero_iff.mp (Nat.le_zero.mp short)
      cases chained with
      | outermost top => simp [outward?, top]
      | nested inside rest => cases rest
  | succ room ih =>
      cases chained with
      | outermost top => simp [outward?, top]
      | nested inside rest =>
          obtain ⟨ds, rfl⟩ := rest.eq_cons
          simp [outward?, inside, ih rest (Nat.le_of_succ_le_succ short)]

/-- The chain of the definition holds more definitions than the limit, or it never ends. -/
def TooDeep (h : Hierarchy) (limit : Nat) (d : Definition) : Prop :=
  ∀ chain, h.IsChain d chain → limit < chain.length

theorem outward?_eq_none_iff {room : Nat} :
    h.outward? room d = none ↔ h.TooDeep (room + 1) d := by
  rw [Option.eq_none_iff_forall_ne_some]
  constructor
  · intro fails chain chained
    obtain ⟨outer, rfl⟩ := chained.eq_cons
    have long := mt chained.outward?_eq (fails outer)
    rw [List.length_cons]
    omega
  · intro deep outer walk
    obtain ⟨chained, short⟩ := isChain_of_outward? walk
    have long := deep _ chained
    rw [List.length_cons] at long
    omega

theorem IsChain.outward {c : Definition} (chained : h.IsChain d chain)
    (above : Relation.TransGen (fun a b => h.container? a = some b) d c) :
    ∃ rest, h.IsChain c rest ∧ rest.length < chain.length := by
  induction above with
  | single inside =>
      cases chained with
      | outermost top => simp [top] at inside
      | nested inside' rest =>
          rw [inside', Option.some.injEq] at inside
          exact ⟨_, inside ▸ rest, Nat.lt_succ_self _⟩
  | tail _ inside ih =>
      obtain ⟨outer, outward, shorter⟩ := ih
      cases outward with
      | outermost top => simp [top] at inside
      | nested inside' rest =>
          rw [inside', Option.some.injEq] at inside
          exact ⟨_, inside ▸ rest, Nat.lt_trans (Nat.lt_succ_self _) shorter⟩

/-- The second definition is the first one or lies around it. -/
def IsInside (h : Hierarchy) (d c : Definition) : Prop :=
  ∃ e, Relation.ReflTransGen (fun a b => h.container? a = some b) d e ∧ e.serial = c.serial

def IsNestedIn (h : Hierarchy) (d c : Definition) : Prop :=
  ∃ e, Relation.TransGen (fun a b => h.container? a = some b) d e ∧ e.serial = c.serial

theorem tooDeep_of_cycle {c : Definition} (limit : Nat)
    (above : Relation.TransGen (fun a b => h.container? a = some b) d c)
    (cycle : Relation.TransGen (fun a b => h.container? a = some b) c c) : h.TooDeep limit d := by
  intro chain chained
  obtain ⟨rest, outward, -⟩ := chained.outward above
  obtain ⟨again, around, shorter⟩ := outward.outward cycle
  rw [outward.unique around] at shorter
  exact absurd shorter (Nat.lt_irrefl _)

theorem isChain_of_formals {limit : Nat} {formals : List Parameter}
    (walked : h.formals limit d = .ok formals) : ∃ chain, h.IsChain d chain ∧
      chain.length ≤ max limit 1 ∧ formals = flattened chain := by
  cases walk : h.outward? (limit - 1) d with
  | none => simp [Hierarchy.formals, Hierarchy.chain, containers, walk, bind, Except.bind] at walked
  | some outer =>
      simp only [Hierarchy.formals, Hierarchy.chain, containers, walk, bind, Except.bind, pure,
        Except.pure, Except.ok.injEq] at walked
      obtain ⟨chained, short⟩ := isChain_of_outward? walk
      refine ⟨d :: outer, chained, ?_, walked.symm⟩
      rw [List.length_cons]
      omega

theorem formals_eq_error_iff {limit : Nat} {fault : Fault} :
    h.formals limit d = .error fault ↔
      h.TooDeep (max limit 1) d ∧ fault = .recursionLimit limit := by
  have room : limit - 1 + 1 = max limit 1 := by omega
  rw [← room, ← outward?_eq_none_iff]
  cases walk : h.outward? (limit - 1) d <;>
    simp [Hierarchy.formals, Hierarchy.chain, containers, walk, bind, Except.bind, pure,
      Except.pure, eq_comm]

theorem flattened_cons (d : Definition) (chain : List Definition) :
    flattened (d :: chain) = flattened chain ++ d.parameters := by
  simp [flattened]

theorem length_flattened_cons (d : Definition) (chain : List Definition) :
    (flattened (d :: chain)).length = (flattened chain).length + d.arity := by
  rw [flattened_cons, List.length_append, Definition.arity]

theorem exposedCount_le (h : Hierarchy) (chain : List Definition) :
    h.exposedCount chain ≤ (flattened chain).length := by
  induction chain with
  | nil => exact Nat.le_refl 0
  | cons d chain ih =>
      unfold exposedCount
      rw [List.dropWhile_cons]
      split
      · rw [length_flattened_cons]
        exact Nat.le_trans ih (Nat.le_add_right _ _)
      · exact Nat.le_refl _

theorem checkedCount_chain {room : Nat} (chained : h.IsChain d chain)
    (short : chain.length ≤ max room 1) :
    h.checkedCount room d (flattened chain).length = h.exposedCount chain := by
  induction chained generalizing room with
  | outermost top =>
      cases room <;> simp [checkedCount, exposedCount, isNestedInterface, top]
  | @nested d c ds inside rest ih =>
      cases room with
      | zero =>
          have nonempty := rest.length_pos
          simp only [List.length_cons] at short
          omega
      | succ room =>
          have shorter : ds.length ≤ max room 1 := by
            simp only [List.length_cons] at short
            omega
          by_cases interface : d.isInterface = true
          · simp only [checkedCount, interface, inside, length_flattened_cons,
              Nat.add_sub_cancel, ih shorter, if_true]
            simp [exposedCount, isNestedInterface, interface, inside]
          · simp [checkedCount, exposedCount, isNestedInterface, interface]

end ClrTypes.Hierarchy
