namespace ClrTypes

inductive SpecialType where
  | object
  | enum
  | valueType
  | void
  | boolean
  | char
  | sbyte
  | byte
  | int16
  | uint16
  | int32
  | uint32
  | int64
  | uint64
  | single
  | double
  | string
  | intPtr
  | uintPtr
  | isVolatile
deriving DecidableEq, Repr

inductive PrimitiveCode where
  | boolean
  | char
  | i1
  | u1
  | i2
  | u2
  | i4
  | u4
  | i8
  | u8
  | r4
  | r8
  | i
  | u
  | string
  | void
  | pointer
  | byRef
  | notPrimitive
deriving DecidableEq, Repr

def PrimitiveCode.name : PrimitiveCode → String
  | .boolean => "Boolean"
  | .char => "Char"
  | .i1 => "I1"
  | .u1 => "U1"
  | .i2 => "I2"
  | .u2 => "U2"
  | .i4 => "I4"
  | .u4 => "U4"
  | .i8 => "I8"
  | .u8 => "U8"
  | .r4 => "R4"
  | .r8 => "R8"
  | .i => "I"
  | .u => "U"
  | .string => "String"
  | .void => "Void"
  | .pointer => "Pointer"
  | .byRef => "ByRef"
  | .notPrimitive => "NotPrimitive"

namespace SpecialType

def all : List SpecialType :=
  [.object, .enum, .valueType, .void, .boolean, .char, .sbyte, .byte, .int16, .uint16, .int32,
   .uint32, .int64, .uint64, .single, .double, .string, .intPtr, .uintPtr, .isVolatile]

def name : SpecialType → String
  | .object => "Object"
  | .enum => "Enum"
  | .valueType => "ValueType"
  | .void => "Void"
  | .boolean => "Boolean"
  | .char => "Char"
  | .sbyte => "SByte"
  | .byte => "Byte"
  | .int16 => "Int16"
  | .uint16 => "UInt16"
  | .int32 => "Int32"
  | .uint32 => "UInt32"
  | .int64 => "Int64"
  | .uint64 => "UInt64"
  | .single => "Single"
  | .double => "Double"
  | .string => "String"
  | .intPtr => "IntPtr"
  | .uintPtr => "UIntPtr"
  | .isVolatile => "IsVolatile"

def space : SpecialType → String
  | .isVolatile => "System.Runtime.CompilerServices"
  | _ => "System"

def fullName (s : SpecialType) : String :=
  s.space ++ "." ++ s.name

def ofName? (name : String) : Option SpecialType :=
  all.find? fun s => s.name == name

def ofFullName? (fullName : String) : Option SpecialType :=
  all.find? fun s => s.fullName == fullName

def primitiveCode : SpecialType → PrimitiveCode
  | .void => .void
  | .boolean => .boolean
  | .char => .char
  | .sbyte => .i1
  | .byte => .u1
  | .int16 => .i2
  | .uint16 => .u2
  | .int32 => .i4
  | .uint32 => .u4
  | .int64 => .i8
  | .uint64 => .u8
  | .single => .r4
  | .double => .r8
  | .string => .string
  | .intPtr => .i
  | .uintPtr => .u
  | .object | .enum | .valueType | .isVolatile => .notPrimitive

def isIntegral : SpecialType → Bool
  | .sbyte | .byte | .int16 | .uint16 | .int32 | .uint32 | .int64 | .uint64 | .char | .boolean => true
  | _ => false

end SpecialType

end ClrTypes
