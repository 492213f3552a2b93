import ClrTypes.Proofs.Substitution.Composition
import ClrTypes.Proofs.Substitution.Equality
import ClrTypes.Proofs.Substitution.Mentions

namespace ClrTypes

namespace Symbol

variable {s : Symbol} {q : Parameter}

theorem eq_parameter_of_canonical {n : Nat} (same : s.canonical = .parameter n q) :
    ∃ k p, s = .parameter k p ∧ p.canonical = q := by
  cases s with
  | parameter k p => exact ⟨k, p, rfl, (Symbol.parameter.inj same).2⟩
  | _ => simp [canonical] at same

theorem exists_mentions_of_canonical (mentioned : s.canonical.Mentions q) :
    ∃ p, s.Mentions p ∧ p.canonical = q := by
  induction s using parts_induction with
  | made s ih =>
    rcases mentions_iff.mp mentioned with ⟨n, root⟩ | ⟨u, member, inner⟩
    · obtain ⟨k, p, rfl, same⟩ := eq_parameter_of_canonical root
      exact ⟨p, mentions_parameter.mpr rfl, same⟩
    · rw [parts_canonical] at member
      obtain ⟨v, part, rfl⟩ := List.mem_map.mp member
      obtain ⟨p, below, same⟩ := ih v part inner
      exact ⟨p, below.inner part, same⟩

theorem map_canonical_of_beq {a b : Option Symbol} (same : (a == b) = true) :
    a.map canonical = b.map canonical := by
  cases a <;> cases b <;> simp_all [beq_iff]

end Symbol

namespace Substitution

variable {m m' : Substitution} {s : Symbol}

theorem beq_of_lookup?_beq
    (agree : ∀ p, s.Mentions p → (m.lookup? p == m'.lookup? p) = true) (q q' : Progress) :
    ((m.apply s).outcome q == (m'.apply s).outcome q') = true := by
  rw [Symbol.beq_iff, canonical_apply, canonical_apply]
  apply image_eq_of_mentions
  intro r mentioned
  obtain ⟨p, inside, rfl⟩ := Symbol.exists_mentions_of_canonical mentioned
  rw [lookup?_canonical, lookup?_canonical, Symbol.map_canonical_of_beq (agree p inside)]

theorem sameTree_of_lookup?_eq (agree : ∀ p, s.Mentions p → m.lookup? p = m'.lookup? p)
    (q q' : Progress) : ((m.apply s).outcome q).SameTree ((m'.apply s).outcome q') := by
  apply Symbol.sameTree_of_unnumbered
  rw [m.apply_yields s q, m'.apply_yields s q', image_eq_of_mentions agree]

theorem lookup?_eq_or (m : Substitution) (n : Nat) (p : Parameter) :
    m.lookup? p = ((m.take n).lookup? p).or (lookup? ⟨m.bindings.drop n⟩ p) := by
  simp only [lookup?, take, ← Option.map_or, ← List.find?_append, List.take_append_drop]

theorem lookup?_isSome (m : Substitution) (p : Parameter) :
    (m.lookup? p).isSome = m.parameters.contains p := by
  rw [Bool.eq_iff_iff]
  simp [lookup?, parameters, BEq.comm]

theorem lookup?_take {n : Nat} {p : Parameter}
    (among : (m.parameters.take n).contains p = true) : (m.take n).lookup? p = m.lookup? p := by
  have leading : (m.take n).parameters = m.parameters.take n := List.map_take
  rw [← leading, ← lookup?_isSome] at among
  obtain ⟨a, found⟩ := Option.isSome_iff_exists.mp among
  rw [m.lookup?_eq_or n, found, Option.some_or]

theorem take_of_size_le {n : Nat} (short : m.size ≤ n) : m.take n = m := by
  rw [take, List.take_of_length_le short]

/-- Substitutions that bind the parameters of a symbol to equal arguments make equal symbols of it, and
the same tree where the arguments are the same. The leading bindings suffice if the parameters are all
among them, and as many as there are make up the whole substitution. -/
theorem apply_coincides (m m' : Substitution) (n : Nat) (s : Symbol) :
    ((∀ p, s.Mentions p → (m.lookup? p == m'.lookup? p) = true) →
      ∀ q q', ((m.apply s).outcome q == (m'.apply s).outcome q') = true) ∧
    ((∀ p, s.Mentions p → m.lookup? p = m'.lookup? p) →
      ∀ q q', ((m.apply s).outcome q).SameTree ((m'.apply s).outcome q')) ∧
    ((∀ p, s.Mentions p → (m.parameters.take n).contains p = true) →
      ∀ q q', (((m.take n).apply s).outcome q).SameTree ((m.apply s).outcome q')) ∧
    (m.size ≤ n → m.take n = m) :=
  ⟨beq_of_lookup?_beq, sameTree_of_lookup?_eq,
    fun among => sameTree_of_lookup?_eq fun p inside => lookup?_take (among p inside),
    take_of_size_le⟩

theorem apply_repeated_coincides :
    let t : Parameter := ⟨⟨0x2A000001⟩, "T", 0⟩
    let t' : Parameter := ⟨⟨0x2A000001⟩, "Item", 1⟩
    let u : Parameter := ⟨⟨0x2A000002⟩, "U", 0⟩
    let m : Substitution :=
      ⟨[⟨t, .named 0 Sample.point⟩, ⟨t', .named 1 Sample.shape⟩, ⟨u, .named 2 Sample.box⟩]⟩
    let m' : Substitution := ⟨[⟨t', .named 7 { Sample.point with flags := .only .sealed }⟩]⟩
    let s : Symbol := .szArray 3 (.parameter 4 t') [⟨true, .parameter 5 u⟩]
    ((m.apply s).outcome {} == (m'.apply s).outcome {}) = true ∧
      (((m.take 2).apply s).outcome {}).SameTree (((m.take 1).apply s).outcome {}) ∧
      (((m.take 1).apply s).outcome {}).SameTree ((m.apply s).outcome {}) ∧ m.take 3 = m := by
  intro t t' u m m' s
  have only (p : Parameter) (mentioned : s.Mentions p) : p = t' := by
    obtain ⟨n, same⟩ | ⟨v, member, inner⟩ := Symbol.mentions_iff.mp mentioned
    · simp [s] at same
    · obtain rfl := List.mem_singleton.mp member
      exact Symbol.mentions_parameter.mp inner
  obtain ⟨alike, -, leading, -⟩ := apply_coincides m m' 1 s
  obtain ⟨-, same, -, -⟩ := apply_coincides (m.take 2) (m.take 1) 1 s
  refine ⟨alike ?_ {} {}, same ?_ {} {}, leading ?_ {} {},
    (apply_coincides m m' 3 s).2.2.2 (by decide)⟩
  · intro p mentioned
    obtain rfl := only p mentioned
    decide
  · intro p mentioned
    obtain rfl := only p mentioned
    rfl
  · intro p mentioned
    obtain rfl := only p mentioned
    decide

end Substitution

end ClrTypes
