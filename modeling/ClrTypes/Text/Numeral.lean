namespace ClrTypes.Text

def hex (width n : Nat) : String :=
  let digits := Nat.toDigits 16 n
  String.ofList (List.replicate (width - digits.length) '0' ++ digits)

inductive NumeralError where
  | empty
  | invalidDigit
  | tooLarge
deriving DecidableEq, Repr

def NumeralError.text : NumeralError → String
  | .empty => "cannot parse integer from empty string"
  | .invalidDigit => "invalid digit found in string"
  | .tooLarge => "number too large to fit in target type"

def digitValue (c : Char) : Nat :=
  c.toNat - '0'.toNat

def readDigits (bound : Nat) (value : Nat) : List Char → Except NumeralError Nat
  | [] => .ok value
  | c :: rest =>
    if c.isDigit then
      let grown := value * 10 + digitValue c
      if grown ≤ bound then readDigits bound grown rest else .error .tooLarge
    else .error .invalidDigit

def readDecimal (bound : Nat) : List Char → Except NumeralError Nat
  | [] => .error .empty
  | ['+'] => .error .invalidDigit
  | '+' :: digits => readDigits bound 0 digits
  | digits => readDigits bound 0 digits

end ClrTypes.Text
