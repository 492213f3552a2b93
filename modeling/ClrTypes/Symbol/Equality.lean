import ClrTypes.Symbol.Basic

namespace ClrTypes.Symbol

mutual

def beq : Symbol → Symbol → Bool
  | .array _ s r ds ms, .array _ s' r' ds' ms' =>
    beq s s' && r == r' && ds == ds' && beqModifiers ms ms'
  | .szArray _ s ms, .szArray _ s' ms' => beq s s' && beqModifiers ms ms'
  | .pointer _ s ms, .pointer _ s' ms' => beq s s' && beqModifiers ms ms'
  | .byRef _ s, .byRef _ s' => beq s s'
  | .named _ d, .named _ d' => d == d'
  | .constructed _ d bs, .constructed _ d' bs' => d == d' && beqBindings bs bs'
  | .parameter _ p, .parameter _ p' => p == p'
  | .unsupported _ c, .unsupported _ c' => c == c'
  | .illegal _ s, .illegal _ s' => beq s s'
  | _, _ => false

def beqModifiers : List (Modifier Symbol) → List (Modifier Symbol) → Bool
  | [], [] => true
  | ⟨r, s⟩ :: ms, ⟨r', s'⟩ :: ms' => r == r' && beq s s' && beqModifiers ms ms'
  | _, _ => false

def beqBindings : List (Binding Symbol) → List (Binding Symbol) → Bool
  | [], [] => true
  | ⟨p, s⟩ :: bs, ⟨p', s'⟩ :: bs' => p == p' && beq s s' && beqBindings bs bs'
  | _, _ => false

end

instance : BEq Symbol := ⟨beq⟩

end ClrTypes.Symbol
