import ClrTypes.Version
import Std.Data.HashSet

namespace ClrTypes

structure Assembly where
  name : String
  version : Version
  culture : Option String
deriving Repr

namespace Assembly

def beq (a b : Assembly) : Bool :=
  Text.sameIgnoringCase a.name.toList b.name.toList && a.version == b.version &&
    a.culture == b.culture

instance : BEq Assembly := ⟨beq⟩

def key (a : Assembly) : String × Version × Option String :=
  (a.name.toLower, a.version, a.culture)

instance : Hashable Assembly := ⟨fun a => hash a.key⟩

def collect (items : List Assembly) : List Bool × Std.HashSet Assembly :=
  items.foldl (fun (news, seen) item =>
    let (found, seen) := seen.containsThenInsert item
    (news ++ [!found], seen)) ([], ∅)

def display (a : Assembly) : String :=
  a.name ++ ", Version=" ++ a.version.display ++ ", Culture=" ++ a.culture.getD "neutral"

def amend (a : Assembly) (component : List Char) : Except Fault Assembly :=
  match Text.after? "Version=".toList component with
  | some text => do
    let version ← Version.parse text
    return { a with version }
  | none =>
    match Text.after? "Culture=".toList component with
    | some text =>
      if text = "neutral".toList ∨ text = [] then return a
      else return { a with culture := some (String.ofList text) }
    | none => return a

def parse (text : List Char) : Except Fault Assembly :=
  match (Text.split ',' text).map Text.trim with
  | [] | [] :: _ => .error (.malformed .emptyAssemblyName)
  | name :: components =>
    components.foldlM amend { name := String.ofList name, version := .zero, culture := none }

end Assembly

end ClrTypes
