import TaskHeader.Yaml.Source

/-!
# YAML nodes

A document as a tree of scalars, sequences, mappings and aliases, each with its place and its tag. An alias carries a
number; the document says which node has the number.
-/

namespace TaskHeader.Yaml

/-- A node of a document. The place of a node is where its properties start, if it has any. -/
inductive Node where
  | scalar (mark : Mark) (tag : Option String) (plain : Bool) (text : String)
  | sequence (mark : Mark) (tag : Option String) (items : List Node)
  | mapping (mark : Mark) (tag : Option String) (entries : List (Node × Node))
  | reference (mark : Mark) (number : Nat)
  deriving Repr, Inhabited

namespace Node

/-- The place of a node. -/
def mark : Node → Mark
  | scalar m .. | sequence m .. | mapping m .. | reference m .. => m

/-- A node that the text leaves out. -/
def empty (m : Mark) : Node :=
  .scalar m none true ""

mutual

/-- The number of steps of a walk over the node that enters and leaves every collection. -/
def size : Node → Nat
  | scalar .. => 1
  | reference .. => 1
  | sequence _ _ items => sizeItems items + 2
  | mapping _ _ entries => sizeEntries entries + 2

/-- The steps for the items of a sequence. -/
def sizeItems : List Node → Nat
  | [] => 0
  | n :: rest => n.size + sizeItems rest

/-- The steps for the entries of a mapping. -/
def sizeEntries : List (Node × Node) → Nat
  | [] => 0
  | (k, v) :: rest => k.size + v.size + sizeEntries rest

end

end Node

/-- A document: its top node, and the nodes that aliases stand for. -/
structure Document where
  root : Node
  anchored : List (Nat × Node) := []
  deriving Repr

/-- The node that an alias with a number stands for. -/
def Document.target? (d : Document) (number : Nat) : Option Node :=
  (d.anchored.find? (·.1 == number)).map (·.2)

end TaskHeader.Yaml
