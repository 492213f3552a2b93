import ClrTypes.Nesting

namespace ClrTypes.Symbol

def commas (n : Nat) : String :=
  String.ofList (List.replicate (n - 1) ',')

mutual

def display (h : Hierarchy) : Symbol → String
  | .array _ s rank .. => display h s ++ "[" ++ commas rank.toNat ++ "]"
  | .szArray _ s _ => display h s ++ "[]"
  | .pointer _ s _ => display h s ++ "*"
  | .byRef _ s => display h s ++ "&"
  | .named _ d => h.fullName d ++ (if d.arity = 0 then "" else "<" ++ commas d.arity ++ ">")
  | .constructed _ d bs => h.fullName d ++ "<" ++ ", ".intercalate (displayArguments h bs) ++ ">"
  | .parameter _ p => p.name
  | .unsupported _ (some cause) => "<unsupported: " ++ cause.text ++ ">"
  | .unsupported _ none => "<unsupported>"
  | .illegal _ s => display h s

def displayArguments (h : Hierarchy) : List (Binding Symbol) → List String
  | [] => []
  | ⟨_, s⟩ :: bs => display h s :: displayArguments h bs

end

end ClrTypes.Symbol
