import ClrTypes.Fault
import ClrTypes.Text.Blank
import ClrTypes.Text.Pieces

namespace ClrTypes

structure Version where
  major : UInt16
  minor : UInt16
  build : UInt16
  revision : UInt16
deriving DecidableEq, Repr, Hashable

namespace Version

def zero : Version := ⟨0, 0, 0, 0⟩

def parts (v : Version) : List UInt16 :=
  [v.major, v.minor, v.build, v.revision]

def ofParts (parts : List UInt16) : Version :=
  ⟨parts.getD 0 0, parts.getD 1 0, parts.getD 2 0, parts.getD 3 0⟩

def compare (v w : Version) : Ordering :=
  (Ord.compare v.major w.major).then <| (Ord.compare v.minor w.minor).then <|
    (Ord.compare v.build w.build).then (Ord.compare v.revision w.revision)

def display (v : Version) : String :=
  ".".intercalate (v.parts.map fun part => toString part.toNat)

def readPart (piece : List Char) : Except Fault UInt16 :=
  match Text.readDecimal 65535 (Text.trim piece) with
  | .ok n => .ok (UInt16.ofNat n)
  | .error reason => .error (.malformed (.badVersionComponent (String.ofList piece) reason))

def readParts (text : List Char) : (room : Nat) → List (List Char) → Except Fault (List UInt16)
  | _, [] => .ok []
  | 0, _ :: _ => .error (.malformed (.tooManyVersionComponents (String.ofList text)))
  | room + 1, piece :: pieces => do
    let part ← readPart piece
    let rest ← readParts text room pieces
    return part :: rest

def parse (text : List Char) : Except Fault Version := do
  let parts ← readParts text 4 (Text.split '.' text)
  return ofParts parts

end Version

end ClrTypes
