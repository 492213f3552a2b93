import ClrTypes.Module
import ClrTypes.Proofs.Symbol.Equality
import Mathlib.Data.Set.Card

namespace ClrTypes

namespace Assembly

variable {items : List Assembly} {a b : Assembly}

theorem beq_iff_key : (a == b) = true ↔ a.key = b.key := by
  rw [beq_iff]
  simp [canonical, key]

instance : LawfulHashable Assembly where
  hash_eq a b same := by
    show hash a.key = hash b.key
    rw [beq_iff_key.mp same]

theorem beq_equivalence : Equivalence fun a b : Assembly => (a == b) = true :=
  ⟨fun _ => BEq.rfl, BEq.symm, BEq.trans⟩

def setoid : Setoid Assembly := ⟨_, beq_equivalence⟩

def classes (items : List Assembly) : Set (Quotient setoid) :=
  {c | ∃ a ∈ items, Quotient.mk setoid a = c}

/-- Says of each item whether no earlier one equals it. -/
def news (items : List Assembly) : List Bool :=
  items.zipIdx.map fun (a, i) => !(items.take i).contains a

def firsts (items : List Assembly) : List Assembly :=
  ((items.zip (news items)).filter (·.2)).map (·.1)

theorem mem_classes_iff : Quotient.mk setoid a ∈ classes items ↔ items.contains a = true := by
  have equal (b : Assembly) : Quotient.mk setoid b = Quotient.mk setoid a ↔ (a == b) = true := by
    rw [Quotient.eq, BEq.comm]
    exact Iff.rfl
  simp [classes, equal, List.contains_iff_exists_mem_beq]

theorem classes_concat (items : List Assembly) (a : Assembly) :
    classes (items ++ [a]) = insert (Quotient.mk setoid a) (classes items) := by
  ext c
  simp [classes, or_and_right, exists_or, or_comm, eq_comm]

theorem classes_finite (items : List Assembly) : (classes items).Finite :=
  (List.finite_toSet items).image (Quotient.mk setoid)

theorem ncard_classes_concat (items : List Assembly) (a : Assembly) :
    (classes (items ++ [a])).ncard =
      if items.contains a then (classes items).ncard else (classes items).ncard + 1 := by
  rw [classes_concat]
  split
  · rename_i known
    rw [Set.insert_eq_of_mem (mem_classes_iff.mpr known)]
  · rename_i unknown
    exact Set.ncard_insert_of_notMem (mt mem_classes_iff.mp unknown) (classes_finite items)

theorem length_news (items : List Assembly) : (news items).length = items.length := by
  simp [news]

theorem news_concat (items : List Assembly) (a : Assembly) :
    news (items ++ [a]) = news items ++ [!items.contains a] := by
  have before : ∀ entry ∈ items.zipIdx,
      (!((items ++ [a]).take entry.2).contains entry.1) =
        !(items.take entry.2).contains entry.1 := by
    intro entry member
    rw [List.take_append_of_le_length (List.snd_lt_of_mem_zipIdx member).le]
  simp [news, List.zipIdx_append, List.map_congr_left before]

theorem firsts_concat (items : List Assembly) (a : Assembly) :
    firsts (items ++ [a]) = if items.contains a then firsts items else firsts items ++ [a] := by
  rw [firsts, news_concat, List.zip_append (length_news items).symm]
  cases items.contains a <;> simp [firsts]

theorem contains_concat (items : List Assembly) (b a : Assembly) :
    (items ++ [b]).contains a = (items.contains a || a == b) := by
  simp

theorem contains_of_beq (same : (a == b) = true) (known : items.contains b = true) :
    items.contains a = true := by
  have one : Quotient.mk setoid a = Quotient.mk setoid b := Quotient.sound same
  rw [← mem_classes_iff, one]
  exact mem_classes_iff.mpr known

theorem contains_firsts (items : List Assembly) (a : Assembly) :
    (firsts items).contains a = items.contains a := by
  induction items using List.reverseRecOn with
  | nil => rfl
  | append_singleton items b ih =>
      rw [firsts_concat, contains_concat]
      split
      · rename_i known
        rw [ih, Bool.eq_iff_iff, Bool.or_eq_true]
        exact ⟨.inl, fun found => found.elim id fun same => contains_of_beq same known⟩
      · rw [contains_concat, ih]

theorem collect_concat (items : List Assembly) (a : Assembly) :
    collect (items ++ [a]) =
      ((collect items).1 ++ [!(collect items).2.contains a], (collect items).2.insert a) := by
  simp [collect, List.foldl_append]

theorem contains_collect (items : List Assembly) (a : Assembly) :
    (collect items).2.contains a = items.contains a := by
  induction items using List.reverseRecOn with
  | nil => exact Std.HashSet.contains_empty
  | append_singleton items b ih =>
      rw [collect_concat, Std.HashSet.contains_insert, ih, contains_concat, BEq.comm, Bool.or_comm]

theorem collect_news (items : List Assembly) : (collect items).1 = news items := by
  induction items using List.reverseRecOn with
  | nil => rfl
  | append_singleton items a ih => rw [collect_concat, contains_collect, ih, news_concat]

theorem size_collect (items : List Assembly) :
    (collect items).2.size = (classes items).ncard := by
  induction items using List.reverseRecOn with
  | nil => simp [collect, classes]
  | append_singleton items a ih =>
      rw [collect_concat, ncard_classes_concat, Std.HashSet.size_insert, ih]
      simp only [← contains_collect, Std.HashSet.contains_iff_mem]

end Assembly

theorem Module.linked_foldl_link (home : Assembly) (items : List Assembly) :
    (items.foldl link (ofAssembly home)).linked = Assembly.firsts items := by
  induction items using List.reverseRecOn with
  | nil => rfl
  | append_singleton items a ih =>
      rw [List.foldl_append, List.foldl_cons, List.foldl_nil, link, ih, Assembly.contains_firsts,
        Assembly.firsts_concat]
      split
      · exact ih
      · rfl

/-- Equality is an equivalence and agrees with the key that is hashed. A hash set takes an assembly for
new exactly if it comes first in its class, and in the end it has one member for each class. Linking
keeps the first members, in order. -/
theorem Assembly.beq_classifies :
    (Equivalence fun a b : Assembly => (a == b) = true) ∧
    (∀ a b : Assembly, (a == b) = true ↔ a.key = b.key) ∧
    (∀ a : Assembly, hash a = hash a.key) ∧
    ∀ items : List Assembly,
      (collect items).1 = news items ∧
      (collect items).2.size = (classes items).ncard ∧
      ∀ home, (items.foldl Module.link (.ofAssembly home)).linked = firsts items := by
  refine ⟨beq_equivalence, fun _ _ => beq_iff_key, fun _ => rfl, fun items => ?_⟩
  exact ⟨collect_news items, size_collect items, fun home => Module.linked_foldl_link home items⟩

end ClrTypes
