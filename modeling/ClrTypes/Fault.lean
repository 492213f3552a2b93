import ClrTypes.SpecialType
import ClrTypes.Token

/-!
# Faults

What can be wrong with metadata. A fault is a value: it is returned by the few operations that
refuse their input, and carried as the cause of a symbol that could not be built.
-/

namespace ClrTypes

inductive Defect where
  | reported (message file : String) (line : UInt32)
  | emptyAssemblyName
  | tooManyVersionComponents (version : String)
  | badVersionComponent (component : String) (reason : Text.NumeralError)
  | argumentCount (needed given : Nat)
  | rankZero (element : String)
  | notAType (token : Token)
  | parameterOutOfRange (index : UInt32) (available : Nat)
  | duplicateDefinition (token : Token)
  | containerRecorded (token : Token)
  | baseRecorded (token : Token)
  | underlyingRecorded (token : Token)
  | underlyingNotIntegral (token : Token) (underlying : String)
deriving DecidableEq, Repr

namespace Defect

def message : Defect → String
  | .reported message _ _ => message
  | .emptyAssemblyName => "Assembly name cannot be empty"
  | .tooManyVersionComponents version => "Too many version components in '" ++ version ++ "'"
  | .badVersionComponent component reason =>
    "Invalid version component '" ++ component ++ "': " ++ reason.text
  | .argumentCount needed given =>
    "Substitution needs " ++ toString needed ++ " arguments, got " ++ toString given
  | .rankZero element => "Array of " ++ element ++ " declares rank 0"
  | .notAType token =>
    "Token " ++ token.display ++ " does not reference a TypeDef, TypeRef or TypeSpec"
  | .parameterOutOfRange index available =>
    "Generic parameter !" ++ toString index.toNat ++ " out of range, context has " ++
      toString available
  | .duplicateDefinition token => "Duplicate type definition - " ++ token.display
  | .containerRecorded token => "Containing type of " ++ token.display ++ " already set"
  | .baseRecorded token => "Base type of " ++ token.display ++ " already set"
  | .underlyingRecorded token => "Enum underlying type of " ++ token.display ++ " already set"
  | .underlyingNotIntegral token underlying =>
    "Enum " ++ token.display ++ " declares non-integral underlying type " ++ underlying

def place : Defect → String
  | .reported _ file line => file ++ ":" ++ toString line.toNat
  | _ => "@"

end Defect

inductive Fault where
  | malformed (defect : Defect)
  | outOfBounds
  | notSupported
  | typeNotFound (token : Token)
  | specialTypeMissing (special : SpecialType)
  | typeError (text : String)
  | recursionLimit (limit : Nat)
deriving DecidableEq, Repr

def Fault.text : Fault → String
  | .malformed defect => "Malformed - " ++ defect.place ++ ": " ++ defect.message
  | .outOfBounds => "Out of Bound read would have occurred!"
  | .notSupported => "This construct is not supported"
  | .typeNotFound token => "Failed to find type - " ++ token.display
  | .specialTypeMissing special =>
    "Special type " ++ special.name ++ " is not defined by this module"
  | .typeError text => text
  | .recursionLimit limit => "Reach the maximum recursion level allowed - " ++ toString limit

end ClrTypes
