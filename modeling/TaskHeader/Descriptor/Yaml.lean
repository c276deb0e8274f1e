import TaskHeader.Descriptor.Record
import TaskHeader.Number.Shortest
import TaskHeader.Yaml.Document
import TaskHeader.Yaml.Plain

/-!
# Tasks in YAML documents

A record is a mapping, a list is a sequence, a text is any scalar, and a plain scalar without characters is an empty
record or an empty list. A return type is the word for a scalar or a tag with that word; a plain null is none.

Aliases are followed, at most a hundred times for each step of a walk over the document, so that an alias within its
own node ends the reading. A fault lies at the node where it arises; the faults of a mapping as a whole lie at its
start. Its path leads there from the top of the document.
-/

namespace TaskHeader.Descriptor.FromYaml

open Yaml (Node Mark Plain)

/-! ## Places -/

/-- One step from a collection to what it holds. -/
inductive Step where
  | field (name : String)
  | item (index : Nat)
  deriving DecidableEq, Repr

/-- The steps as they stand in messages. -/
def pathText : List Step → String
  | [] => ""
  | .item i :: rest => "[" ++ toString i ++ "]" ++ pathText rest
  | .field name :: rest => "." ++ name ++ pathText rest

/-- Where a fault lies. -/
structure Place where
  mark : Mark
  path : List Step := []
  deriving Repr

/-- The steps before a fault: nothing at the top. -/
def Place.before (p : Place) : String :=
  match p.path with
  | [] => ""
  | .field name :: rest => name ++ pathText rest ++ ": "
  | path => pathText path ++ ": "

/-- The line and the column after a fault, counted from one; nothing at the start of the text. -/
def Place.after (p : Place) : String :=
  if p.mark.line = 0 ∧ p.mark.column = 0 then ""
  else " at line " ++ toString (p.mark.line + 1) ++ " column " ++ toString (p.mark.column + 1)

/-- The message of a fault. Following too many aliases is a fault of the document and has no place. -/
def message (f : Fault Place) : String :=
  match f.cause, f.place with
  | .repetition, _ => f.cause.message
  | _, none => f.cause.message
  | _, some p => p.before ++ f.cause.message ++ p.after

/-! ## Nodes -/

/-- Reading counts the aliases that were followed. -/
abbrev Reading := StateT Nat (Except (Fault Place))

/-- A fault without a place. -/
def fail {α : Type} (c : Cause) : Reading α :=
  throw { cause := c }

/-- Changes the fault of a reading. -/
def onFault {α : Type} (change : Fault Place → Fault Place) (r : Reading α) : Reading α :=
  fun s => (r s).mapError change

/-- Places a fault at the start of a node. -/
def inNode {α : Type} (n : Node) (r : Reading α) : Reading α :=
  onFault (·.settle (some { mark := n.mark })) r

/-- Puts a step before the path of a fault that has a place. -/
def inside {α : Type} (step : Step) (r : Reading α) : Reading α :=
  onFault (fun f => { f with place := f.place.map fun p => { p with path := step :: p.path } }) r

/-- The node that a node stands for. -/
def resolve (d : Yaml.Document) : Node → Reading Node
  | .reference _ number => do
    let followed := (← get) + 1
    set followed
    match d.target? number with
    | some n => if 100 * d.root.size < followed then fail .repetition else return n
    | none => fail .repetition
  | n => return n

/-- What an integer is found as. -/
def foundInteger (n : Int) : Found :=
  if -(Nat.pow 2 63) ≤ n ∧ n < Nat.pow 2 64 then .integer n else .wideInteger n

/-- What a plain scalar is found as. -/
def foundPlain (text : String) : Found :=
  match Plain.ofString text with
  | .null => .unit
  | .boolean b => .boolean b
  | .integer n => foundInteger n
  | .real x => .real x.text
  | .text => .string text

/-- The tag of a standard type. -/
def standardTag (name : String) : String :=
  "tag:yaml.org,2002:" ++ name

/-- The name of a tag that the document defines for itself; a lone exclamation mark is a name. -/
def localTag? (tag : Option String) : Option String :=
  match tag.map String.toList with
  | some ['!'] => some "!"
  | some ('!' :: name) => some (String.ofList name)
  | _ => none

/-- The cause for a scalar where something else is expected. A tag of a standard type that does not suit the text is
the cause itself. -/
def unexpectedScalar (tag : Option String) (plain : Bool) (text expected : String) : Cause :=
  let typed (found : Option Found) (wanted : String) : Cause :=
    match found with
    | some f => .invalidType f expected
    | none => .invalidValue (.string text) wanted
  if tag == some (standardTag "bool") then typed ((Plain.boolean? text).map .boolean) "a boolean"
  else if tag == some (standardTag "int") then typed ((Plain.integer? text.toList).map foundInteger) "an integer"
  else if tag == some (standardTag "float") then
    typed ((Plain.real? text.toList).map fun x => .real x.text) "a float"
  else if tag == some (standardTag "null") then typed (if Plain.isNull text then some .unit else none) "null"
  else if plain && (tag.isNone || (localTag? tag).isSome) then .invalidType (foundPlain text) expected
  else .invalidType (.string text) expected

/-- The cause for a node where something else is expected. -/
def unexpected (expected : String) : Node → Cause
  | .scalar _ tag plain text => unexpectedScalar tag plain text expected
  | .sequence .. => .invalidType .sequence expected
  | .mapping .. => .invalidType .map expected
  | .reference .. => .repetition

/-- The text of a scalar. -/
def text (expected : String) : Node → Reading String
  | .scalar _ _ _ s => return s
  | n => fail (unexpected expected n)

/-- Whether a node is a plain scalar without characters. -/
def isVoid : Node → Bool
  | .scalar _ _ true s => s.isEmpty
  | _ => false

/-- The items of a sequence. -/
def items : Node → Reading (List Node)
  | .sequence _ _ items => return items
  | n => if isVoid n then return [] else fail (unexpected "a sequence" n)

/-- The fields of a mapping. -/
def fields (name : String) : Node → Reading (Fields Node Node)
  | .mapping _ _ entries => return .named entries
  | n => if isVoid n then return .named [] else fail (unexpected name n)

/-- The name that a key stands for. -/
def name (d : Yaml.Document) (key : Node) : Reading String := do
  let n ← resolve d key
  inNode n (text "field identifier" n)

/-- The step to the value of a key; the name of an alias is not looked up for it. -/
def stepTo : Node → Step
  | .scalar _ _ _ s => .field s
  | _ => .field "?"

/-! ## Return types -/

/-- The scalar that a word stands for. -/
def variant (word : String) : Reading ScalarType :=
  match ScalarType.ofKeyword? word with
  | some t => return t
  | none => fail (.unknownVariant word)

/-- A tag for a scalar stands before nothing. -/
def nothing : Node → Reading Unit
  | .scalar _ _ plain s =>
    if plain && (s.isEmpty || Plain.isNull s) then return () else fail (.invalidValue (.string s) "null")
  | n => fail (unexpected "unit" n)

/-- The scalar that a node stands for: by its tag, if that is one of the document, else by its text. -/
def scalarType (n : Node) : Reading ScalarType :=
  match n with
  | .scalar _ tag _ s =>
    match localTag? tag with
    | some word => tagged word
    | none => inNode n (variant s)
  | .sequence _ tag _ | .mapping _ tag _ =>
    match localTag? tag with
    | some word => tagged word
    | none => inNode n (fail (unexpected "a YAML tag starting with '!'" n))
  | .reference .. => fail .repetition
where
  /-- The scalar for the word of a tag. -/
  tagged (word : String) : Reading ScalarType := do
    let t ← variant word
    inNode n (nothing n)
    return t

/-- The return type that a node stands for. -/
def returnType (n : Node) : Reading (Option ScalarType) := do
  match n with
  | .scalar _ tag true s =>
    match tag with
    | none => if s.isEmpty || Plain.isNull s then return none else return some (← scalarType n)
    | some tag =>
      if tag == standardTag "null" then
        if Plain.isNull s then return none else fail (.invalidValue (.string s) "null")
      else return some (← scalarType n)
  | _ => return some (← scalarType n)

/-- How the nodes of a document are read. -/
def dialect (d : Yaml.Document) : Dialect Reading Node Node where
  resolve := resolve d
  fail
  inNode
  inField key _ r := inside (stepTo key) r
  inItem i r := inside (.item i) r
  name := name d
  text := text "a string"
  items
  fields
  returnType

end TaskHeader.Descriptor.FromYaml

namespace TaskHeader

/-- Reads a task from a YAML document. -/
def Task.ofYaml (d : Yaml.Document) : Except (Descriptor.Fault Descriptor.FromYaml.Place) Task :=
  (Descriptor.readTask (Descriptor.FromYaml.dialect d) d.root).run' 0

end TaskHeader
