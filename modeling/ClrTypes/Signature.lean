import ClrTypes.Fault

namespace ClrTypes

inductive ElementType where
  | void
  | boolean
  | char
  | i1
  | u1
  | i2
  | u2
  | i4
  | u4
  | i8
  | u8
  | r4
  | r8
  | i
  | u
  | string
  | object
deriving DecidableEq, Repr

namespace ElementType

def special : ElementType → SpecialType
  | .void => .void
  | .boolean => .boolean
  | .char => .char
  | .i1 => .sbyte
  | .u1 => .byte
  | .i2 => .int16
  | .u2 => .uint16
  | .i4 => .int32
  | .u4 => .uint32
  | .i8 => .int64
  | .u8 => .uint64
  | .r4 => .single
  | .r8 => .double
  | .i => .intPtr
  | .u => .uintPtr
  | .string => .string
  | .object => .object

end ElementType

structure Dimension where
  size : Option UInt32
  lowerBound : Option Int32
deriving DecidableEq, Repr

structure ModifierToken where
  required : Bool
  token : Token
deriving DecidableEq, Repr

inductive Signature where
  | element (type : ElementType)
  | classType (token : Token)
  | valueType (token : Token)
  | parameter (index : UInt32)
  | pointer (pointee : Signature) (modifiers : List ModifierToken)
  | szArray (element : Signature) (modifiers : List ModifierToken)
  | array (element : Signature) (rank : UInt32) (dimensions : List Dimension)
  | byRef (referenced : Signature)
  | generic (base : Signature) (arguments : List Signature)
  /-- A part that the reader could not decode. -/
  | invalid (fault : Fault)

namespace Signature

mutual

def beq : Signature → Signature → Bool
  | .element t, .element t' => t == t'
  | .classType t, .classType t' => t == t'
  | .valueType t, .valueType t' => t == t'
  | .parameter i, .parameter i' => i == i'
  | .pointer s ms, .pointer s' ms' => beq s s' && ms == ms'
  | .szArray s ms, .szArray s' ms' => beq s s' && ms == ms'
  | .array s r ds, .array s' r' ds' => beq s s' && r == r' && ds == ds'
  | .byRef s, .byRef s' => beq s s'
  | .generic b as, .generic b' as' => beq b b' && beqList as as'
  | .invalid f, .invalid f' => f == f'
  | _, _ => false

def beqList : List Signature → List Signature → Bool
  | [], [] => true
  | s :: ss, s' :: ss' => beq s s' && beqList ss ss'
  | _, _ => false

end

instance : BEq Signature := ⟨beq⟩

inductive Wrapping where
  | pointer
  | szArray
  | array
  | byRef
deriving DecidableEq, Repr

def wrap : Wrapping → Signature → Signature
  | .pointer, s => .pointer s []
  | .szArray, s => .szArray s []
  | .array, s => .array s 2 []
  | .byRef, s => .byRef s

end Signature

end ClrTypes
