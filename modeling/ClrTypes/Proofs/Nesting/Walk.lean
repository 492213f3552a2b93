import ClrTypes.Proofs.Instantiation
import ClrTypes.Proofs.Recording
import Mathlib.Data.List.Nodup

namespace ClrTypes

namespace Hierarchy

variable {h : Hierarchy} {d c : Definition} {chain : List Definition} {limit : Nat}

theorem IsChain.nodup (chained : h.IsChain d chain) : (chain.map (·.serial)).Nodup := by
  induction chained with
  | outermost => exact List.nodup_singleton _
  | @nested d c ds inside rest ih =>
      rw [List.map_cons, List.nodup_cons]
      constructor
      · intro again
        obtain ⟨e, member, same⟩ := List.mem_map.mp again
        obtain ⟨k, found⟩ := List.mem_iff_getElem?.mp member
        -- where `d` comes again its whole chain would follow, and that is more than what is left
        have whole : h.IsChain e (e :: ds) :=
          .nested ((container?_congr same).trans inside) rest
        have left := congrArg List.length (whole.unique (rest.drop found))
        rw [List.length_cons, List.length_drop] at left
        omega
      · exact ih

theorem isChain_nested_iff (inside : h.container? d = some c) :
    h.IsChain d chain ↔ ∃ outer, h.IsChain c outer ∧ chain = d :: outer := by
  constructor
  · intro chained
    cases chained with
    | outermost top => simp [top] at inside
    | nested inside' rest =>
        rw [inside', Option.some.injEq] at inside
        exact ⟨_, inside ▸ rest, rfl⟩
  · rintro ⟨outer, rest, rfl⟩
    exact .nested inside rest

theorem chain_eq_ok_iff (positive : 0 < limit) :
    h.chain limit d = .ok chain ↔ h.IsChain d chain ∧ chain.length ≤ limit := by
  have room : limit - 1 + 1 = limit := Nat.sub_add_cancel positive
  constructor
  · intro walked
    cases walk : h.outward? (limit - 1) d with
    | none => simp [Hierarchy.chain, containers, walk, bind, Except.bind] at walked
    | some outer =>
        simp only [Hierarchy.chain, containers, walk, bind, Except.bind, pure, Except.pure,
          Except.ok.injEq] at walked
        obtain ⟨chained, short⟩ := isChain_of_outward? walk
        rw [← walked, List.length_cons]
        exact ⟨chained, by omega⟩
  · rintro ⟨chained, short⟩
    obtain ⟨outer, rfl⟩ := chained.eq_cons
    rw [List.length_cons] at short
    simp [Hierarchy.chain, containers, chained.outward?_eq (Nat.le_sub_one_of_lt short), bind,
      Except.bind, pure, Except.pure]

theorem chain_eq_error_iff (positive : 0 < limit) {fault : Fault} :
    h.chain limit d = .error fault ↔ h.TooDeep limit d ∧ fault = .recursionLimit limit := by
  have deep : h.outward? (limit - 1) d = none ↔ h.TooDeep limit d := by
    rw [outward?_eq_none_iff, Nat.sub_add_cancel positive]
  rw [← deep]
  cases walk : h.outward? (limit - 1) d <;>
    simp [Hierarchy.chain, containers, walk, bind, Except.bind, pure, Except.pure, eq_comm]

theorem formals_eq_map (h : Hierarchy) (limit : Nat) (d : Definition) :
    h.formals limit d = (h.chain limit d).map flattened := by
  rw [formals]
  cases h.chain limit d <;> rfl

theorem formals_eq_ok_iff {formals : List Parameter} : h.formals limit d = .ok formals ↔
    ∃ chain, h.chain limit d = .ok chain ∧ formals = flattened chain := by
  rw [formals_eq_map]
  cases h.chain limit d <;> simp [Except.map, eq_comm]

theorem formals_nested_iff (positive : 0 < limit) (inside : h.container? d = some c)
    {formals : List Parameter} : h.formals (limit + 1) d = .ok formals ↔
      ∃ outer, h.formals limit c = .ok outer ∧ formals = outer ++ d.parameters := by
  simp only [formals_eq_ok_iff, chain_eq_ok_iff positive, chain_eq_ok_iff (Nat.succ_pos limit),
    isChain_nested_iff inside]
  constructor
  · rintro ⟨_, ⟨⟨outer, rest, rfl⟩, short⟩, rfl⟩
    have shorter : outer.length ≤ limit := Nat.le_of_succ_le_succ short
    exact ⟨_, ⟨outer, ⟨rest, shorter⟩, rfl⟩, flattened_cons d outer⟩
  · rintro ⟨_, ⟨outer, ⟨rest, short⟩, rfl⟩, rfl⟩
    have longer : (d :: outer).length ≤ limit + 1 := Nat.succ_le_succ short
    exact ⟨d :: outer, ⟨⟨outer, rest, rfl⟩, longer⟩, (flattened_cons d outer).symm⟩

/-- Following containers from a definition comes to the definitions of a list first. -/
inductive Visits (h : Hierarchy) : Definition → List Definition → Prop
  | here (d : Definition) : Visits h d [d]
  | outward {d c : Definition} {ds : List Definition} : h.container? d = some c → Visits h c ds →
      Visits h d (d :: ds)

theorem outward?_visits (h : Hierarchy) (room : Nat) (d : Definition) :
    ∃ visited, h.Visits d visited ∧ visited.length ≤ room + 1 ∧
      ∀ h' : Hierarchy, (∀ e ∈ visited, h'.container? e = h.container? e) →
        h'.outward? room d = h.outward? room d := by
  induction room generalizing d with
  | zero =>
      refine ⟨[d], .here d, Nat.le_refl 1, fun h' same => ?_⟩
      rw [outward?, outward?, same d List.mem_cons_self]
  | succ room ih =>
      cases inside : h.container? d with
      | none =>
          refine ⟨[d], .here d, Nat.succ_le_succ (Nat.zero_le _), fun h' same => ?_⟩
          simp only [outward?, same d List.mem_cons_self, inside]
      | some c =>
          obtain ⟨visited, walk, short, decided⟩ := ih c
          refine ⟨d :: visited, .outward inside walk, Nat.succ_le_succ short, fun h' same => ?_⟩
          obtain ⟨first, rest⟩ := List.forall_mem_cons.mp same
          simp only [outward?, first, inside, decided h' rest]

/-- The walk succeeds exactly if the chain ends within the limit, and then gives that chain, in which
no definition comes twice, and its parameters from the outermost definition inwards. Otherwise it
reports its limit. Either way it ends after it has looked at `limit` definitions at the latest: the
containers of any others make no difference. -/
theorem chain_exact (h : Hierarchy) (d : Definition) {limit : Nat} (positive : 0 < limit) :
    (∀ chain, h.chain limit d = .ok chain ↔ h.IsChain d chain ∧ chain.length ≤ limit) ∧
    (∀ chain, h.chain limit d = .ok chain → (chain.map (·.serial)).Nodup) ∧
    (∀ formals, h.formals limit d = .ok formals ↔
      ∃ chain, h.chain limit d = .ok chain ∧ formals = chain.reverse.flatMap (·.parameters)) ∧
    (∀ c, h.container? d = some c → ∀ formals, h.formals (limit + 1) d = .ok formals ↔
      ∃ outer, h.formals limit c = .ok outer ∧ formals = outer ++ d.parameters) ∧
    (∀ fault, h.chain limit d = .error fault ↔
      (∀ chain, h.IsChain d chain → limit < chain.length) ∧ fault = .recursionLimit limit) ∧
    (∀ fault, h.formals limit d = .error fault ↔ h.chain limit d = .error fault) ∧
    ∃ visited, h.Visits d visited ∧ visited.length ≤ limit ∧
      ∀ h' : Hierarchy, (∀ e ∈ visited, h'.container? e = h.container? e) →
        h'.chain limit d = h.chain limit d ∧ h'.formals limit d = h.formals limit d := by
  refine ⟨fun chain => chain_eq_ok_iff positive, ?_, fun formals => formals_eq_ok_iff, ?_,
    fun fault => chain_eq_error_iff positive, ?_, ?_⟩
  · intro chain walked
    exact ((chain_eq_ok_iff positive).mp walked).1.nodup
  · intro c inside formals
    exact formals_nested_iff positive inside
  · intro fault
    rw [formals_eq_map]
    cases h.chain limit d <;> simp [Except.map]
  · obtain ⟨visited, walk, short, decided⟩ := h.outward?_visits (limit - 1) d
    rw [Nat.sub_add_cancel positive] at short
    refine ⟨visited, walk, short, fun h' same => ?_⟩
    have chains : h'.chain limit d = h.chain limit d := by
      simp only [Hierarchy.chain, containers, decided h' same]
    exact ⟨chains, by rw [formals_eq_map, formals_eq_map, chains]⟩

theorem chain_view :
    let h := Sample.context.hierarchy
    let loop : Hierarchy := { entries := [(Sample.box.serial, { container := some Sample.box })] }
    0 < 2 ∧ h.chain 2 Sample.view = .ok [Sample.view, Sample.box] ∧
      h.formals 2 Sample.view = .ok (Sample.box.parameters ++ Sample.view.parameters) ∧
      h.chain 1 Sample.view = .error (.recursionLimit 1) ∧
      loop.formals 64 Sample.box = .error (.recursionLimit 64) := by
  intro h loop
  have chained : h.IsChain Sample.view [Sample.view, Sample.box] := .nested rfl (.outermost rfl)
  obtain ⟨found, -, formals, -⟩ := h.chain_exact Sample.view (show 0 < 2 by decide)
  obtain ⟨-, -, -, -, missed, -⟩ := h.chain_exact Sample.view (show 0 < 1 by decide)
  obtain ⟨-, -, -, -, endless, given, -⟩ := loop.chain_exact Sample.box (show 0 < 64 by decide)
  have walked := (found _).mpr ⟨chained, Nat.le_refl 2⟩
  refine ⟨by decide, walked, (formals _).mpr ⟨_, walked, rfl⟩, (missed _).mpr ⟨?_, rfl⟩, ?_⟩
  · intro chain again
    rw [again.unique chained]
    decide
  · rw [given, endless]
    have cycle : Relation.TransGen (fun a b => loop.container? a = some b) Sample.box Sample.box :=
      .single rfl
    exact ⟨tooDeep_of_cycle 64 cycle cycle, rfl⟩

end Hierarchy

end ClrTypes
