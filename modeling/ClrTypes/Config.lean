namespace ClrTypes

def namingDepth : Nat := 64

structure Config where
  checksInterop : Bool := true
  signatureDepth : Nat := 100
  nestingDepth : Nat := namingDepth
deriving DecidableEq, Repr

namespace Config

def minimal : Config := { checksInterop := false }

def strict : Config := { signatureDepth := 50, nestingDepth := 16 }

end Config

end ClrTypes
