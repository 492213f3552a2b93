namespace ClrTypes.Text

def split (separator : Char) : List Char → List (List Char)
  | [] => [[]]
  | c :: rest =>
    if c = separator then [] :: split separator rest
    else
      match split separator rest with
      | [] => [[c]]
      | piece :: pieces => (c :: piece) :: pieces

def after? : (head : List Char) → List Char → Option (List Char)
  | [], text => some text
  | _ :: _, [] => none
  | c :: head, d :: text => if c = d then after? head text else none

def sameIgnoringCase : List Char → List Char → Bool
  | [], [] => true
  | c :: s, d :: t => c.toLower == d.toLower && sameIgnoringCase s t
  | _, _ => false

theorem split_ne_nil (separator : Char) (s : List Char) : split separator s ≠ [] := by
  cases s with
  | nil => simp [split]
  | cons c rest =>
      rw [split]
      split
      · simp
      · split <;> simp

theorem after?_append (head text : List Char) : after? head (head ++ text) = some text := by
  induction head with
  | nil => cases text <;> rfl
  | cons c head ih => simp [after?, ih]

theorem eq_append_of_after? {head text rest : List Char} (found : after? head text = some rest) :
    text = head ++ rest := by
  induction head generalizing text with
  | nil => cases text <;> simp_all [after?]
  | cons c head ih =>
      cases text with
      | nil => simp [after?] at found
      | cons d text =>
          by_cases same : c = d
          · simp only [after?, same, if_true] at found
            simp [same, ih found]
          · simp [after?, same] at found

end ClrTypes.Text
