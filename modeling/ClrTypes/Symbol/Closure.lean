import ClrTypes.Symbol.Basic

namespace ClrTypes.Symbol

mutual

def isClosedOver (assemblies : List Assembly) : Symbol → Bool
  | .array _ s .. => isClosedOver assemblies s
  | .szArray _ s _ => isClosedOver assemblies s
  | .pointer _ s _ => isClosedOver assemblies s
  | .byRef _ s => isClosedOver assemblies s
  | .named _ d => assemblies.contains d.assembly
  | .constructed _ d bs => assemblies.contains d.assembly || anyClosedOver assemblies bs
  | .parameter .. => false
  | .unsupported .. => false
  | .illegal _ s => isClosedOver assemblies s

def anyClosedOver (assemblies : List Assembly) : List (Binding Symbol) → Bool
  | [] => false
  | ⟨_, s⟩ :: bs => isClosedOver assemblies s || anyClosedOver assemblies bs

end

end ClrTypes.Symbol
