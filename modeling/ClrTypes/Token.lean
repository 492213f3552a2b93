import ClrTypes.Text.Numeral

namespace ClrTypes

structure Token where
  value : UInt32
deriving DecidableEq, Repr, Inhabited

namespace Token

def typeRefTable : UInt8 := 0x01

def typeDefTable : UInt8 := 0x02

def typeSpecTable : UInt8 := 0x1B

/-- The token of a row; a row wider than 24 bits loses its high byte. -/
def ofParts (table : UInt8) (row : UInt32) : Token :=
  ⟨(table.toUInt32 <<< 24) ||| (row &&& 0x00FFFFFF)⟩

def table (t : Token) : UInt8 :=
  (t.value >>> 24).toUInt8

def row (t : Token) : UInt32 :=
  t.value &&& 0x00FFFFFF

def isNull (t : Token) : Bool :=
  t.value == 0

def isType (t : Token) : Bool :=
  t.table == typeDefTable || t.table == typeRefTable || t.table == typeSpecTable

def compare (a b : Token) : Ordering :=
  Ord.compare a.value b.value

def display (t : Token) : String :=
  "0x" ++ Text.hex 8 t.value.toNat

def describe (t : Token) : String :=
  "Token(" ++ t.display ++ ", table: 0x" ++ Text.hex 2 t.table.toNat ++ ", row: " ++
    toString t.row.toNat ++ ")"

end Token

end ClrTypes
