namespace ClrTypes

inductive Attribute where
  | interface
  | abstract
  | sealed
  | imported
  | nestedPublic
deriving DecidableEq, Repr

namespace Attribute

def all : List Attribute :=
  [.interface, .abstract, .sealed, .imported, .nestedPublic]

def bit : Attribute → UInt32
  | .interface => 0x00000020
  | .abstract => 0x00000080
  | .sealed => 0x00000100
  | .imported => 0x00001000
  | .nestedPublic => 0x00000002

def name : Attribute → String
  | .interface => "INTERFACE"
  | .abstract => "ABSTRACT"
  | .sealed => "SEALED"
  | .imported => "IMPORT"
  | .nestedPublic => "NESTED_PUBLIC"

end Attribute

structure Attributes where
  bits : UInt32
deriving DecidableEq, Repr

namespace Attributes

def known : UInt32 :=
  Attribute.all.foldl (fun bits a => bits ||| a.bit) 0

def ofBits (bits : UInt32) : Attributes :=
  ⟨bits &&& known⟩

def none : Attributes := ⟨0⟩

def only (a : Attribute) : Attributes := ⟨a.bit⟩

def contains (flags : Attributes) (a : Attribute) : Bool :=
  flags.bits &&& a.bit != 0

def isEmpty (flags : Attributes) : Bool :=
  flags.bits == 0

def toList (flags : Attributes) : List Attribute :=
  Attribute.all.filter flags.contains

def describe (flags : Attributes) : String :=
  let names := flags.toList.map Attribute.name
  "TypeAttributes(" ++ (if names.isEmpty then "0x0" else " | ".intercalate names) ++ ")"

end Attributes

end ClrTypes
