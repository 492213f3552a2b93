import ClrTypes.Build
import ClrTypes.Symbol.Display

namespace ClrTypes

namespace Build

/-- An array with declared dimensions. Rank 1 cannot be told from an ordinary array and is refused
whatever the element is. -/
def array (h : Hierarchy) (element : Symbol) (rank : UInt32) (dimensions : List Dimension)
    (modifiers : List (Modifier Symbol)) : Build Symbol := do
  if rank = 1 then
    report (.rankOneArray (element.display h))
    unsupported none
  else if element.isUnsupported then
    return element
  else if rank = 0 then
    unsupported (some (.malformed (.rankZero (element.display h))))
  else
    return .array (← serial) element rank dimensions modifiers

def szArray (element : Symbol) (modifiers : List (Modifier Symbol)) : Build Symbol := do
  if element.isUnsupported then return element
  else return .szArray (← serial) element modifiers

def pointer (pointee : Symbol) (modifiers : List (Modifier Symbol)) : Build Symbol := do
  if pointee.isUnsupported then return pointee
  else return .pointer (← serial) pointee modifiers

def byRef (referenced : Symbol) : Build Symbol :=
  return .byRef (← serial) referenced

def wrap (h : Hierarchy) : Signature.Wrapping → Symbol → Build Symbol
  | .pointer, s => pointer s []
  | .szArray, s => szArray s []
  | .array, s => array h s 2 [] []
  | .byRef, s => byRef s

end Build

end ClrTypes
