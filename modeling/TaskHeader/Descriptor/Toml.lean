import TaskHeader.Descriptor.Record
import TaskHeader.Number.Shortest
import TaskHeader.Toml.Document

/-!
# Tasks in TOML documents

A record is a table or an array of its fields, a list is an array, a text is a string, and a date is a record without
any field that counts. A return type is the word for a scalar or a table whose only key is that word and whose value
is empty; there is no way to write that there is none.

A fault lies at the value where it arises. A table without a place of its own leaves its faults to the key that leads
to it. The message shows the line of the fault with the value marked in it.
-/

namespace TaskHeader.Descriptor.FromToml

open Toml (Key Value Span)

/-! ## Messages -/

/-- The text before a place that is given in bytes. -/
def before : Nat → List Char → List Char
  | _, [] => []
  | n, c :: rest => if c.utf8Size ≤ n then c :: before (n - c.utf8Size) rest else []

/-- A line of the text, counted from zero. -/
def lineAt (n : Nat) (text : String) : String :=
  (text.splitOn "\n")[n]?.getD ""

/-- The message of a fault in a text: the line and the column where it lies, the line itself with a mark under the
value, and the cause. The mark has the length of the value in bytes, but at least one and at most that of the line. -/
def message (content : String) (f : Fault Span) : String :=
  match f.place with
  | none => f.cause.message ++ "\n"
  | some span =>
    let head := before span.start content.toList
    let line := head.count '\n'
    let column := (head.reverse.takeWhile (· != '\n')).length
    let text := lineAt line content
    let number := toString (line + 1)
    let margin := String.ofList (List.replicate (number.length + 1) ' ') ++ "|"
    let width := max 1 (min (span.stop - span.start) text.utf8ByteSize)
    "TOML parse error at line " ++ number ++ ", column " ++ toString (column + 1) ++ "\n"
      ++ margin ++ "\n"
      ++ number ++ " | " ++ text ++ "\n"
      ++ margin ++ String.ofList (List.replicate (column + 1) ' ') ++ String.ofList (List.replicate width '^') ++ "\n"
      ++ f.cause.message ++ "\n"

/-! ## Values -/

/-- Reading stops at the first fault. -/
abbrev Reading := Except (Fault Span)

/-- A fault without a place. -/
def fail {α : Type} (c : Cause) : Reading α :=
  .error { cause := c }

/-- A fault at a place. -/
def failAt {α : Type} (place : Option Span) (c : Cause) : Reading α :=
  .error { cause := c, place }

/-- Places a fault. -/
def settle {α : Type} (place : Option Span) (r : Reading α) : Reading α :=
  r.mapError (·.settle place)

/-- What a value is. -/
def found : Value → Found
  | .string s _ => .string s
  | .integer n _ => .integer n
  | .real x _ => .real x.text
  | .boolean b _ => .boolean b
  | .moment _ => .map
  | .array .. => .sequence
  | .table .. => .map

/-- The text of a string. -/
def text : Value → Reading String
  | .string s _ => .ok s
  | v => fail (.invalidType (found v) "a string")

/-- The items of an array. -/
def items : Value → Reading (List Value)
  | .array items _ _ => .ok items
  | v => fail (.invalidType (found v) "a sequence")

/-- The fields of a table or an array. -/
def fields (name : String) : Value → Reading (Fields Key Value)
  | .table _ entries _ => .ok (.named entries)
  | .array items _ _ => .ok (.listed items false)
  | .moment _ => .ok (.named [])
  | v => fail (.invalidType (found v) name)

/-! ## Return types -/

/-- The scalar that a word stands for. -/
def variant (word : String) : Reading ScalarType :=
  match ScalarType.ofKeyword? word with
  | some t => .ok t
  | none => fail (.unknownVariant word)

/-- The word for the kind of a value that cannot be empty. -/
def kind : Value → String
  | .string .. => "string"
  | .integer .. => "integer"
  | .real .. => "float"
  | .boolean .. => "boolean"
  | .moment .. => "datetime"
  | .array .. => "array"
  | .table .. => "table"

/-- The word for a scalar stands before a value that holds nothing. -/
def nothing : Value → Reading Unit
  | .table _ [] _ => .ok ()
  | .array [] _ _ => .ok ()
  | .table _ _ span => failAt span (.wantedEmpty "table")
  | .array _ ofTables span => failAt span (.wantedEmpty (if ofTables then "array" else "table"))
  | v => failAt v.span (.wantedTable (kind v))

/-- The scalar that a value stands for. -/
def scalarType : Value → Reading ScalarType
  | .string s _ => variant s
  | .table _ [] span => failAt span (.wantedOneEntry true)
  | .table _ [(key, value)] _ => do
    let t ← settle (some key.span) (variant key.name)
    nothing value
    return t
  | .table _ _ span => failAt span (.wantedOneEntry false)
  | v => failAt v.span .wantedWordOrTable

/-- The return type that a value stands for. -/
def returnType (v : Value) : Reading (Option ScalarType) :=
  settle v.span ((scalarType v).map some)

/-- How the values of a document are read. -/
def dialect : Dialect Reading Key Value where
  resolve := .ok
  fail
  inNode v r := settle v.span r
  inField key v r := settle (v.span.or (some key.span)) r
  inItem _ r := r
  name key := .ok key.name
  text
  items
  fields
  returnType

end TaskHeader.Descriptor.FromToml

namespace TaskHeader

/-- Reads a task from a TOML document. -/
def Task.ofToml (v : Toml.Value) : Except (Descriptor.Fault Toml.Span) Task :=
  Descriptor.readTask Descriptor.FromToml.dialect v

end TaskHeader
