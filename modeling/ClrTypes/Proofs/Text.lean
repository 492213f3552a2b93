import ClrTypes.Text.Blank
import ClrTypes.Text.Numeral
import ClrTypes.Text.Pieces
import Mathlib.Data.List.DropRight

namespace ClrTypes.Text

section Readers

variable {ε α β : Type} {reader : Except ε α} {next : α → Except ε β}

theorem bind_eq_ok_iff {b : β} :
    reader >>= next = .ok b ↔ ∃ a, reader = .ok a ∧ next a = .ok b := by
  cases reader <;> simp [bind, Except.bind]

theorem bind_eq_error_iff {fault : ε} : reader >>= next = .error fault ↔
    reader = .error fault ∨ ∃ a, reader = .ok a ∧ next a = .error fault := by
  cases reader <;> simp [bind, Except.bind]

end Readers

theorem split_eq_splitOn (separator : Char) (s : List Char) :
    split separator s = s.splitOn separator := by
  induction s with
  | nil => rfl
  | cons c s ih =>
      rw [split, List.splitOn_cons_eq_if_modifyHead, ih]
      by_cases here : c = separator
      · simp [here]
      · obtain ⟨piece, pieces, same⟩ := List.exists_cons_of_ne_nil (s.splitOn_ne_nil separator)
        simp [here, same]

theorem split_intercalate {separator : Char} {pieces : List (List Char)}
    (clean : ∀ piece ∈ pieces, separator ∉ piece) (some : pieces ≠ []) :
    split separator ([separator].intercalate pieces) = pieces := by
  rw [split_eq_splitOn, List.splitOn_intercalate separator clean some]

theorem not_mem_of_mem_split {separator : Char} {s piece : List Char}
    (member : piece ∈ split separator s) : separator ∉ piece := by
  induction s generalizing piece with
  | nil => simp_all [split]
  | cons c s ih =>
      obtain ⟨first, rest, same⟩ := List.exists_cons_of_ne_nil (split_ne_nil separator s)
      rw [same] at ih
      by_cases here : c = separator
      · simp only [split, here, if_true, same, List.mem_cons] at member
        rcases member with rfl | member
        · exact List.not_mem_nil
        · exact ih (List.mem_cons.mpr member)
      · simp only [split, here, if_false, same, List.mem_cons] at member
        rcases member with rfl | member
        · exact List.not_mem_cons_of_ne_of_not_mem (Ne.symm here) (ih List.mem_cons_self)
        · exact ih (List.mem_cons_of_mem _ member)

theorem mem_intercalate {separator c : Char} {pieces : List (List Char)}
    (member : c ∈ [separator].intercalate pieces) : c = separator ∨ ∃ piece ∈ pieces, c ∈ piece := by
  induction pieces with
  | nil => simp at member
  | cons piece pieces ih =>
      by_cases last : pieces = []
      · rw [last, List.intercalate_singleton] at member
        exact .inr ⟨piece, List.mem_cons_self, member⟩
      · rw [List.intercalate_cons_of_ne_nil last, List.mem_append, List.mem_append,
          List.mem_singleton] at member
        rcases member with (member | here) | member
        · exact .inr ⟨piece, List.mem_cons_self, member⟩
        · exact .inl here
        · refine (ih member).imp_right fun ⟨other, found, inside⟩ => ?_
          exact ⟨other, List.mem_cons_of_mem _ found, inside⟩

structure IsTrimmed (s : List Char) : Prop where
  start : ∀ c ∈ s.head?, isBlank c = false
  finish : ∀ c ∈ s.getLast?, isBlank c = false

theorem trimStart_eq_self {s : List Char} (start : ∀ c ∈ s.head?, isBlank c = false) :
    trimStart s = s := by
  cases s with
  | nil => rfl
  | cons c s => exact List.dropWhile_cons_of_neg (by simpa using start)

theorem trimEnd_eq_self {s : List Char} (finish : ∀ c ∈ s.getLast?, isBlank c = false) :
    trimEnd s = s := by
  show s.rdropWhile isBlank = s
  rw [List.rdropWhile_eq_self_iff]
  intro some
  simpa using finish _ (List.getLast_mem_getLast? some)

theorem trim_eq_self {s : List Char} (trimmed : IsTrimmed s) : trim s = s := by
  rw [trim, trimStart_eq_self trimmed.start, trimEnd_eq_self trimmed.finish]

theorem trimEnd_isPrefix (s : List Char) : trimEnd s <+: s :=
  List.rdropWhile_prefix isBlank s

theorem trim_isTrimmed (s : List Char) : IsTrimmed (trim s) where
  start := by
    -- cutting at the end leaves the first letter in its place, or leaves nothing at all
    intro c first
    obtain ⟨rest, whole⟩ := trimEnd_isPrefix (trimStart s)
    have kept : (trimStart s).head? = some c := by
      rw [← whole, List.head?_append, show (trimEnd (trimStart s)).head? = some c from first]
      rfl
    simpa [show s.dropWhile isBlank = trimStart s from rfl, kept]
      using List.head?_dropWhile_not isBlank s
  finish := by
    intro c last
    obtain ⟨some, rfl⟩ := List.mem_getLast?_eq_getLast last
    have ink := List.rdropWhile_last_not isBlank (trimStart s) some
    exact Bool.eq_false_iff.mpr ink

theorem trim_eq_self_iff {s : List Char} : trim s = s ↔ IsTrimmed s :=
  ⟨fun same => same ▸ trim_isTrimmed s, trim_eq_self⟩

theorem mem_of_mem_trim {c : Char} {s : List Char} (member : c ∈ trim s) : c ∈ s :=
  List.dropWhile_subset isBlank ((trimEnd_isPrefix (trimStart s)).subset member)

theorem trim_space (s : List Char) : trim (' ' :: s) = trim s := rfl

theorem isTrimmed_append {label s : List Char} (trimmed : IsTrimmed label) (some : label ≠ [])
    (finish : ∀ c ∈ s.getLast?, isBlank c = false) : IsTrimmed (label ++ s) where
  start := by
    rw [List.head?_append_of_ne_nil _ some]
    exact trimmed.start
  finish := by
    intro c last
    rw [List.getLast?_append, Option.mem_def, Option.or_eq_some_iff] at last
    rcases last with last | ⟨-, last⟩
    · exact finish c last
    · exact trimmed.finish c last

theorem isBlank_of_isDigit {c : Char} (digit : c.isDigit = true) : isBlank c = false := by
  have bounds : 48 ≤ c.toNat ∧ c.toNat ≤ 57 := Char.isDigit_iff_toNat.mp digit
  have outside : ∀ range ∈ blankRanges, range.2 < 48 ∨ 57 < range.1 := by decide
  rw [isBlank, List.any_eq_false]
  rintro ⟨low, high⟩ member
  have apart := outside _ member
  simp only [Bool.and_eq_true, decide_eq_true_eq]
  omega

theorem trim_digits {digits : List Char} (all : ∀ c ∈ digits, c.isDigit = true) :
    trim digits = digits := by
  apply trim_eq_self
  constructor
  · exact fun c first => isBlank_of_isDigit (all c (List.mem_of_mem_head? first))
  · exact fun c last => isBlank_of_isDigit (all c (List.mem_of_mem_getLast? last))

/-- The text is an optional plus sign and at least one digit, and the digits have the value. -/
def IsNumeral (text : List Char) (n : Nat) : Prop :=
  ∃ digits, (text = digits ∨ text = '+' :: digits) ∧ digits ≠ [] ∧
    (∀ c ∈ digits, c.isDigit = true) ∧ Nat.ofDigitChars 10 digits 0 = n

theorem le_ofDigitChars (digits : List Char) (value : Nat) :
    value ≤ Nat.ofDigitChars 10 digits value := by
  rw [Nat.ofDigitChars_eq_ofDigitChars_zero]
  have scaled : 1 * value ≤ 10 ^ digits.length * value :=
    Nat.mul_le_mul_right value (Nat.one_le_pow _ _ (by decide))
  omega

theorem readDigits_eq_ok_iff {bound value n : Nat} {digits : List Char} (fits : value ≤ bound) :
    readDigits bound value digits = .ok n ↔
      (∀ c ∈ digits, c.isDigit = true) ∧ Nat.ofDigitChars 10 digits value = n ∧ n ≤ bound := by
  induction digits generalizing value with
  | nil =>
      simp only [readDigits, Except.ok.injEq, Nat.ofDigitChars_nil]
      constructor
      · rintro rfl
        exact ⟨by simp, rfl, fits⟩
      · exact fun read => read.2.1
  | cons c digits ih =>
      rw [readDigits, Nat.ofDigitChars_cons, Nat.mul_comm 10 value]
      by_cases digit : c.isDigit = true
      · have grows := le_ofDigitChars digits (value * 10 + digitValue c)
        by_cases room : value * 10 + digitValue c ≤ bound
        · simp only [digit, if_true, room, ih room, List.forall_mem_cons, true_and]
          rfl
        · simp only [digit, if_true, room, if_false]
          refine iff_of_false (by simp) fun ⟨_, same, small⟩ => room (grows.trans ?_)
          exact (Nat.le_of_eq same).trans small
      · simp [digit]

theorem isNumeral_signed_iff {digits : List Char} {n : Nat} : IsNumeral ('+' :: digits) n ↔
    digits ≠ [] ∧ (∀ c ∈ digits, c.isDigit = true) ∧ Nat.ofDigitChars 10 digits 0 = n := by
  constructor
  · rintro ⟨_, rfl | same, some, all, value⟩
    · exact absurd (all '+' List.mem_cons_self) (by decide)
    · obtain rfl := List.tail_eq_of_cons_eq same
      exact ⟨some, all, value⟩
  · exact fun numeral => ⟨digits, .inr rfl, numeral⟩

theorem isNumeral_plain_iff {text : List Char} {n : Nat}
    (plain : ∀ digits, text ≠ '+' :: digits) : IsNumeral text n ↔
    text ≠ [] ∧ (∀ c ∈ text, c.isDigit = true) ∧ Nat.ofDigitChars 10 text 0 = n := by
  constructor
  · rintro ⟨digits, rfl | signed, numeral⟩
    · exact numeral
    · exact absurd signed (plain digits)
  · exact fun numeral => ⟨text, .inl rfl, numeral⟩

theorem readDecimal_eq_ok_iff {bound n : Nat} {text : List Char} :
    readDecimal bound text = .ok n ↔ IsNumeral text n ∧ n ≤ bound := by
  have read (digits : List Char) : readDigits bound 0 digits = .ok n ↔
      (∀ c ∈ digits, c.isDigit = true) ∧ Nat.ofDigitChars 10 digits 0 = n ∧ n ≤ bound :=
    readDigits_eq_ok_iff (Nat.zero_le bound)
  unfold readDecimal
  split
  · simp [isNumeral_plain_iff]
  · simp [isNumeral_signed_iff]
  · rename_i digits more
    have some : digits ≠ [] := more
    simp [read, isNumeral_signed_iff, some, and_assoc]
  · rename_i some _ plain
    have some : text ≠ [] := some
    simp [read, isNumeral_plain_iff plain, some, and_assoc]

end ClrTypes.Text
