import ClrTypes.Config
import ClrTypes.Hierarchy
import ClrTypes.Text.Quoted

/-!
# Nesting

Walking from a definition to the definitions that contain it. Containers may form a cycle in
malformed metadata, so a walk carries the number of steps that it may still take.
-/

namespace ClrTypes.Hierarchy

/-- The definitions around `d`, innermost first, if there are at most `room` of them. -/
def outward? (h : Hierarchy) : (room : Nat) → Definition → Option (List Definition)
  | 0, d => if (h.container? d).isSome then none else some []
  | room + 1, d =>
    match h.container? d with
    | none => some []
    | some c => (outward? h room c).map (c :: ·)

def containers (h : Hierarchy) (limit : Nat) (d : Definition) : Except Fault (List Definition) :=
  match h.outward? (limit - 1) d with
  | some containers => .ok containers
  | none => .error (.recursionLimit limit)

def chain (h : Hierarchy) (limit : Nat) (d : Definition) : Except Fault (List Definition) := do
  return d :: (← h.containers limit d)

def formals (h : Hierarchy) (limit : Nat) (d : Definition) : Except Fault (List Parameter) := do
  return (← h.chain limit d).reverse.flatMap (·.parameters)

def nameWithin (d : Definition) (containers : List Definition) : String :=
  match containers.reverse with
  | [] => d.qualifiedName
  | outermost :: inner =>
    (inner ++ [d]).foldl (fun name nested => name ++ "+" ++ nested.name) outermost.qualifiedName

def fullName (h : Hierarchy) (d : Definition) : String :=
  match h.outward? (namingDepth - 1) d with
  | some containers => nameWithin d containers
  | none => d.name

def describe (h : Hierarchy) (d : Definition) : String :=
  "TypeDefinition \x7b token: " ++ d.token.describe ++
    ", fullname: " ++ Text.quote (h.fullName d) ++
    ", flags: " ++ d.flags.describe ++
    ", assembly: " ++ Text.quote d.assembly.name ++
    ", arity: " ++ toString d.arity ++
    ", special: " ++ (match d.special with
      | some special => "Some(" ++ special.name ++ ")"
      | none => "None") ++
    ", embedded_local: " ++ toString d.isLocal ++ " \x7d"

end ClrTypes.Hierarchy
