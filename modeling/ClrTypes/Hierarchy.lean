import ClrTypes.Symbol.Basic

/-!
# The hierarchy of definitions

What is recorded about a definition after it is declared: the definition that contains it, its base
type, the type that stores the values of an enum, and the interfaces. The first three are recorded
at most once, and interfaces are only ever added.

A definition does not keep its container alive. What is recorded stays recorded when the container
is dropped, but from then on the definition has no container.
-/

namespace ClrTypes

structure Relations where
  container : Option Definition := none
  base : Option Symbol := none
  underlying : Option Symbol := none
  interfaces : List Symbol := []

/-- What is recorded about all definitions, the latest entry of each first, and the serial numbers
of the definitions that were dropped. -/
structure Hierarchy where
  entries : List (Nat × Relations) := []
  gone : List Nat := []

namespace Hierarchy

def empty : Hierarchy := {}

def relations (h : Hierarchy) (d : Definition) : Relations :=
  (h.entries.lookup d.serial).getD {}

def update (h : Hierarchy) (d : Definition) (r : Relations) : Hierarchy :=
  { h with entries := (d.serial, r) :: h.entries }

def drop (h : Hierarchy) (d : Definition) : Hierarchy :=
  { h with gone := d.serial :: h.gone }

def existing? (h : Hierarchy) (d : Definition) : Option Definition :=
  if h.gone.contains d.serial then none else some d

/-- The container that is recorded, as long as it exists. -/
def container? (h : Hierarchy) (d : Definition) : Option Definition :=
  (h.relations d).container.bind h.existing?

def base? (h : Hierarchy) (d : Definition) : Option Symbol :=
  (h.relations d).base

def underlying? (h : Hierarchy) (d : Definition) : Option Symbol :=
  (h.relations d).underlying

def interfaces (h : Hierarchy) (d : Definition) : List Symbol :=
  (h.relations d).interfaces

/-- Fails if a container is recorded, whether or not it still exists. -/
def setContainer (h : Hierarchy) (d container : Definition) : Except Fault Hierarchy :=
  match (h.relations d).container with
  | some _ => .error (.malformed (.containerRecorded d.token))
  | none => .ok (h.update d { h.relations d with container := some container })

def setBase (h : Hierarchy) (d : Definition) (base : Symbol) : Except Fault Hierarchy :=
  match h.base? d with
  | some _ => .error (.malformed (.baseRecorded d.token))
  | none => .ok (h.update d { h.relations d with base := some base })

def addInterface (h : Hierarchy) (d : Definition) (interface : Symbol) : Nat × Hierarchy :=
  let r := h.relations d
  (r.interfaces.length, h.update d { r with interfaces := r.interfaces ++ [interface] })

theorem relations_update_of_ne (h : Hierarchy) {d e : Definition} (r : Relations)
    (distinct : e.serial ≠ d.serial) : (h.update d r).relations e = h.relations e := by
  have differs : (e.serial == d.serial) = false := by simpa using distinct
  simp [relations, update, List.lookup_cons, differs]

end Hierarchy

end ClrTypes
