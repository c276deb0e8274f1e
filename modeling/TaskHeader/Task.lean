import TaskHeader.ValueType

/-!
# Tasks

A task names a list of interfaces, in the order of their declaration, and one driver without a name. An interface
declares functions and callbacks; the driver declares functions. The module also holds the ways to build a task
step by step and to look into it.
-/

namespace TaskHeader

/-- One parameter of a function. -/
structure Parameter where
  name : String
  type : ValueType
  deriving DecidableEq, Repr

/-- One declared function. Without a return type it returns nothing. -/
structure Signature where
  name : String
  parameters : List Parameter := []
  returns : Option ScalarType := none
  deriving DecidableEq, Repr

/-- A named group of functions and callbacks. -/
structure Interface where
  name : String
  functions : List Signature := []
  callbacks : List Signature := []
  deriving DecidableEq, Repr

/-- The functions of the task itself. -/
structure Driver where
  functions : List Signature := []
  deriving DecidableEq, Repr, Inhabited

/-- One unit of header generation. -/
structure Task where
  name : String
  interfaces : List Interface := []
  driver : Driver := {}
  deriving DecidableEq, Repr

namespace Signature

/-- The function with one more parameter at the end. -/
def param (f : Signature) (name : String) (type : ValueType) : Signature :=
  { f with parameters := f.parameters ++ [⟨name, type⟩] }

/-- The function with the return type. -/
def returning (f : Signature) (type : ScalarType) : Signature :=
  { f with returns := some type }

end Signature

namespace Interface

/-- The interface with one more function at the end. -/
def addFunction (i : Interface) (f : Signature) : Interface :=
  { i with functions := i.functions ++ [f] }

/-- The interface with one more callback at the end. -/
def addCallback (i : Interface) (f : Signature) : Interface :=
  { i with callbacks := i.callbacks ++ [f] }

/-- Functions and callbacks in the order in which they are declared. -/
def declared (i : Interface) : List Signature :=
  i.functions ++ i.callbacks

/-- Whether the interface declares nothing. -/
def isEmpty (i : Interface) : Bool :=
  i.functions.isEmpty && i.callbacks.isEmpty

theorem isEmpty_iff {i : Interface} : i.isEmpty = true ↔ i.declared = [] := by
  simp [isEmpty, declared, List.isEmpty_iff]

end Interface

namespace Task

/-- The first interface of a name. -/
def interface? (t : Task) (name : String) : Option Interface :=
  t.interfaces.find? (·.name == name)

/-- The task without the interfaces of a name; the others keep their order. -/
def without (t : Task) (name : String) : Task :=
  { t with interfaces := t.interfaces.filter (·.name != name) }

/-- The task with one more interface at the end. -/
def addInterface (t : Task) (i : Interface) : Task :=
  { t with interfaces := t.interfaces ++ [i] }

/-- The task with the first interface of a name changed; none when no interface has the name. -/
def update? (t : Task) (name : String) (change : Interface → Interface) : Option Task :=
  let rec go : List Interface → Option (List Interface)
    | [] => none
    | i :: is => if i.name == name then some (change i :: is) else (go is).map (i :: ·)
  (go t.interfaces).map fun is => { t with interfaces := is }

/-- The task with one more function of the driver at the end. -/
def addDriverFunction (t : Task) (f : Signature) : Task :=
  { t with driver := { functions := t.driver.functions ++ [f] } }

end Task

end TaskHeader
