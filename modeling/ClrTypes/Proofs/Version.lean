import ClrTypes.Proofs.Text
import ClrTypes.Version
import Mathlib.Data.List.Forall2

namespace ClrTypes.Version

open Text (split IsNumeral)

variable {text piece : List Char} {pieces : List (List Char)} {room : Nat} {part : UInt16}
  {parts : List UInt16} {fault : Fault}

/-- The piece is a numeral of the part, blanks around it aside. The value of a part is at most
65535. -/
def IsPart (piece : List Char) (part : UInt16) : Prop :=
  IsNumeral (Text.trim piece) part.toNat

theorem readPart_eq_ok_iff : readPart piece = .ok part ↔ IsPart piece part := by
  have small : part.toNat ≤ 65535 := Nat.le_of_lt_succ part.toNat_lt
  have numeral : Text.readDecimal 65535 (Text.trim piece) = .ok part.toNat ↔
      IsNumeral (Text.trim piece) part.toNat :=
    Text.readDecimal_eq_ok_iff.trans (and_iff_left small)
  rw [IsPart, ← numeral, readPart]
  cases read : Text.readDecimal 65535 (Text.trim piece) with
  | error reason => simp
  | ok n =>
      have fits := (Text.readDecimal_eq_ok_iff.mp read).2
      have value : (UInt16.ofNat n).toNat = n := UInt16.toNat_ofNat_of_lt' (Nat.lt_succ_of_le fits)
      simp [← UInt16.toNat_inj, value]

theorem readPart_eq_error_iff : readPart piece = .error fault ↔ (¬ ∃ part, IsPart piece part) ∧
    ∃ reason, Text.readDecimal 65535 (Text.trim piece) = .error reason ∧
      fault = .malformed (.badVersionComponent (String.ofList piece) reason) := by
  simp only [← readPart_eq_ok_iff]
  rw [readPart]
  cases Text.readDecimal 65535 (Text.trim piece) <;> simp [eq_comm]

theorem readParts_cons_eq_ok_iff :
    readParts text (room + 1) (piece :: pieces) = .ok parts ↔ ∃ part others, IsPart piece part ∧
      readParts text room pieces = .ok others ∧ part :: others = parts := by
  simp [readParts, Text.bind_eq_ok_iff, readPart_eq_ok_iff, pure, Except.pure]

theorem readParts_cons_eq_error_iff :
    readParts text (room + 1) (piece :: pieces) = .error fault ↔ readPart piece = .error fault ∨
      (∃ part, IsPart piece part) ∧ readParts text room pieces = .error fault := by
  simp [readParts, Text.bind_eq_error_iff, readPart_eq_ok_iff, pure, Except.pure]

theorem readParts_eq_ok_iff : readParts text room pieces = .ok parts ↔
    pieces.length ≤ room ∧ List.Forall₂ IsPart pieces parts := by
  induction pieces generalizing room parts with
  | nil => simp [readParts, eq_comm]
  | cons piece pieces ih =>
      cases room with
      | zero => simp [readParts]
      | succ room =>
          rw [readParts_cons_eq_ok_iff, List.forall₂_cons_left_iff, List.length_cons,
            Nat.add_le_add_iff_right]
          simp only [ih]
          constructor
          · rintro ⟨part, others, first, ⟨short, rest⟩, rfl⟩
            exact ⟨short, part, others, first, rest, rfl⟩
          · rintro ⟨short, part, others, first, rest, rfl⟩
            exact ⟨part, others, first, ⟨short, rest⟩, rfl⟩

theorem readParts_eq_error_iff : readParts text room pieces = .error fault ↔
    (∃ before piece after, pieces = before ++ piece :: after ∧ before.length < room ∧
      (∀ earlier ∈ before, ∃ part, IsPart earlier part) ∧ readPart piece = .error fault) ∨
    room < pieces.length ∧ (∀ earlier ∈ pieces.take room, ∃ part, IsPart earlier part) ∧
      fault = .malformed (.tooManyVersionComponents (String.ofList text)) := by
  induction pieces generalizing room with
  | nil => simp [readParts]
  | cons piece pieces ih =>
      cases room with
      | zero => simp [readParts, eq_comm]
      | succ room =>
          rw [readParts_cons_eq_error_iff, ih, List.take_succ_cons, List.forall_mem_cons,
            List.length_cons, Nat.add_lt_add_iff_right]
          constructor
          · rintro (here | ⟨first, ⟨before, bad, after, rfl, inside, earlier, later⟩ | beyond⟩)
            · exact .inl ⟨[], piece, pieces, rfl, Nat.succ_pos room, by simp, here⟩
            · refine .inl ⟨piece :: before, bad, after, rfl, Nat.succ_lt_succ inside, ?_, later⟩
              exact List.forall_mem_cons.mpr ⟨first, earlier⟩
            · exact .inr ⟨beyond.1, ⟨first, beyond.2.1⟩, beyond.2.2⟩
          · rintro (⟨before, bad, after, same, inside, earlier, fails⟩ | ⟨more, good, same⟩)
            · cases before with
              | nil =>
                  obtain ⟨rfl, -⟩ := List.cons.inj same
                  exact .inl fails
              | cons first before =>
                  obtain ⟨rfl, rfl⟩ := List.cons.inj same
                  obtain ⟨first, earlier⟩ := List.forall_mem_cons.mp earlier
                  have within : before.length < room := Nat.lt_of_succ_lt_succ inside
                  exact .inr ⟨first, .inl ⟨before, bad, after, rfl, within, earlier, fails⟩⟩
            · exact .inr ⟨good.1, .inr ⟨more, good.2, same⟩⟩

def put (v : Version) (place : Fin 4) (part : UInt16) : Version :=
  match place with
  | 0 => { v with major := part }
  | 1 => { v with minor := part }
  | 2 => { v with build := part }
  | 3 => { v with revision := part }

theorem put_ofParts {filled : List UInt16} (room : filled.length < 4) (part : UInt16) :
    (ofParts filled).put ⟨filled.length, room⟩ part = ofParts (filled ++ [part]) := by
  match filled, room with
  | [], _ => rfl
  | [_], _ => rfl
  | [_, _], _ => rfl
  | [_, _, _], _ => rfl

structure Filling where
  version : Version
  count : Nat
  fits : count ≤ 4

namespace Filling

def none : Filling :=
  ⟨.zero, 0, by decide⟩

def add (text : List Char) (σ : Filling) (piece : List Char) : Except Fault Filling :=
  if full : σ.count = 4 then
    .error (.malformed (.tooManyVersionComponents (String.ofList text)))
  else do
    have room : σ.count < 4 := Nat.lt_of_le_of_ne σ.fits full
    let part ← readPart piece
    return ⟨σ.version.put ⟨σ.count, room⟩ part, σ.count + 1, room⟩

def ofParts (filled : List UInt16) (fits : filled.length ≤ 4) : Filling :=
  ⟨.ofParts filled, filled.length, fits⟩

variable {filled : List UInt16}

theorem add_full (full : filled.length = 4) : (ofParts filled (Nat.le_of_eq full)).add text piece =
    .error (.malformed (.tooManyVersionComponents (String.ofList text))) :=
  dif_pos full

theorem add_ofParts (room : filled.length < 4) : (ofParts filled (Nat.le_of_lt room)).add text piece =
    (readPart piece).map fun part =>
      ofParts (filled ++ [part]) (List.length_append.trans_le room) := by
  have some : (ofParts filled (Nat.le_of_lt room)).count ≠ 4 := Nat.ne_of_lt room
  rw [add, dif_neg some]
  cases readPart piece with
  | error fault => rfl
  | ok part => simp [ofParts, put_ofParts, Except.map, bind, Except.bind, pure, Except.pure]

theorem foldlM_add (text : List Char) (filled : List UInt16) (pieces : List (List Char))
    (fits : filled.length ≤ 4) :
    (pieces.foldlM (add text) (ofParts filled fits)).map (·.version) =
      (readParts text (4 - filled.length) pieces).map fun parts => .ofParts (filled ++ parts) := by
  induction pieces generalizing filled with
  | nil => simp [readParts, Except.map, pure, Except.pure, ofParts]
  | cons piece pieces ih =>
      rw [List.foldlM_cons]
      rcases Nat.eq_or_lt_of_le fits with full | room
      · rw [add_full full, full, Nat.sub_self, readParts]
        rfl
      · have left : 4 - filled.length = 4 - (filled.length + 1) + 1 := by omega
        rw [add_ofParts room, left, readParts]
        cases readPart piece with
        | error fault => rfl
        | ok part =>
            have rest := ih (filled ++ [part]) (List.length_append.trans_le room)
            simp only [List.length_append, List.length_singleton] at rest
            show Except.map _ (pieces.foldlM (add text) _) = _
            rw [rest]
            cases readParts text (4 - (filled.length + 1)) pieces with
            | error fault => rfl
            | ok parts => simp [Except.map, bind, Except.bind, pure, Except.pure]

end Filling

theorem parse_eq_map (text : List Char) :
    parse text = (readParts text 4 (split '.' text)).map ofParts := by
  rw [parse]
  cases readParts text 4 (split '.' text) <;> rfl

theorem parse_eq_foldlM (text : List Char) :
    parse text = ((split '.' text).foldlM (Filling.add text) .none).map (·.version) :=
  (parse_eq_map text).trans (Filling.foldlM_add text [] _ (Nat.zero_le 4)).symm

theorem eq_ofParts_iff {v : Version} (few : parts.length ≤ 4) :
    v = ofParts parts ↔ v.parts = parts ++ List.replicate (4 - parts.length) 0 := by
  obtain ⟨a, b, c, d⟩ := v
  match parts, few with
  | [], _ | [_], _ | [_, _], _ | [_, _, _], _ | [_, _, _, _], _ =>
    simp [ofParts, Version.parts, List.replicate]

theorem parse_eq_ok_iff {v : Version} : parse text = .ok v ↔ (split '.' text).length ≤ 4 ∧
    ∃ parts, List.Forall₂ IsPart (split '.' text) parts ∧
      v.parts = parts ++ List.replicate (4 - parts.length) 0 := by
  have read : parse text = .ok v ↔
      ∃ parts, readParts text 4 (split '.' text) = .ok parts ∧ v = ofParts parts := by
    rw [parse_eq_map]
    cases readParts text 4 (split '.' text) <;> simp [Except.map, eq_comm]
  simp only [read, readParts_eq_ok_iff, and_assoc, exists_and_left]
  refine and_congr_right fun few => exists_congr fun parts => and_congr_right fun each => ?_
  exact eq_ofParts_iff (each.length_eq ▸ few)

theorem parse_eq_error_iff :
    parse text = .error fault ↔ readParts text 4 (split '.' text) = .error fault := by
  rw [parse_eq_map]
  cases readParts text 4 (split '.' text) <;> simp [Except.map]

theorem isDigit_of_mem_toDigits {n : Nat} {c : Char} (member : c ∈ Nat.toDigits 10 n) :
    c.isDigit = true :=
  Nat.isDigit_of_mem_toDigits (by decide) (by decide) member

theorem toDigits_isPart (part : UInt16) : IsPart (Nat.toDigits 10 part.toNat) part := by
  have all : ∀ c ∈ Nat.toDigits 10 part.toNat, c.isDigit = true :=
    fun c => isDigit_of_mem_toDigits
  rw [IsPart, Text.trim_digits all]
  exact ⟨_, .inl rfl, Nat.toDigits_ne_nil, all, Nat.ofDigitChars_ten_toDigits⟩

theorem toList_display (v : Version) : v.display.toList =
    ['.'].intercalate (v.parts.map fun part => Nat.toDigits 10 part.toNat) := by
  rw [display, String.toList_intercalate, List.map_map]
  simp [Function.comp_def]

theorem split_display (v : Version) :
    split '.' v.display.toList = v.parts.map fun part => Nat.toDigits 10 part.toNat := by
  rw [toList_display]
  apply Text.split_intercalate
  · intro piece member dot
    obtain ⟨part, -, rfl⟩ := List.mem_map.mp member
    exact absurd (isDigit_of_mem_toDigits dot) (by decide)
  · simp [parts]

theorem mem_display {v : Version} {c : Char} (member : c ∈ v.display.toList) :
    c = '.' ∨ c.isDigit = true := by
  rw [toList_display] at member
  refine (Text.mem_intercalate member).imp_right ?_
  rintro ⟨piece, found, inside⟩
  obtain ⟨part, -, rfl⟩ := List.mem_map.mp found
  exact isDigit_of_mem_toDigits inside

theorem parse_display (v : Version) : parse v.display.toList = .ok v := by
  have parts : readParts v.display.toList 4 (split '.' v.display.toList) = .ok v.parts := by
    rw [readParts_eq_ok_iff, split_display, List.forall₂_map_left_iff]
    exact ⟨Nat.le_refl 4, List.forall₂_same.mpr fun part _ => toDigits_isPart part⟩
  rw [parse_eq_map, parts]
  rfl

/-- Reading succeeds exactly on one to four parts between dots, of which missing ones are zero. It
fails for the first piece that is no part if that is one of the first four, and for their number only
if the first four are parts. Four places are enough to read any text, and every version reads back
from what it is written as. -/
theorem parse_exact :
    (∀ text v, parse text = .ok v ↔ (split '.' text).length ≤ 4 ∧
      ∃ parts, List.Forall₂ IsPart (split '.' text) parts ∧
        v.parts = parts ++ List.replicate (4 - parts.length) 0) ∧
    (∀ text fault, parse text = .error fault ↔
      (∃ before piece after, split '.' text = before ++ piece :: after ∧ before.length < 4 ∧
        (∀ earlier ∈ before, ∃ part, IsPart earlier part) ∧ (¬ ∃ part, IsPart piece part) ∧
        ∃ reason, Text.readDecimal 65535 (Text.trim piece) = .error reason ∧
          fault = .malformed (.badVersionComponent (String.ofList piece) reason)) ∨
      4 < (split '.' text).length ∧
        (∀ earlier ∈ (split '.' text).take 4, ∃ part, IsPart earlier part) ∧
        fault = .malformed (.tooManyVersionComponents (String.ofList text))) ∧
    (∀ text, parse text = ((split '.' text).foldlM (Filling.add text) .none).map (·.version)) ∧
    ∀ v, parse v.display.toList = .ok v := by
  refine ⟨fun text v => parse_eq_ok_iff, fun text fault => ?_, parse_eq_foldlM, parse_display⟩
  simp only [parse_eq_error_iff, readParts_eq_error_iff, readPart_eq_error_iff]

end ClrTypes.Version
