import TaskHeader.Descriptor.Record
import TaskHeader.Json

/-!
# Tasks in JSON values

A record is an object or an array of its fields, a list is an array, a text is a string; `null` stands for no return
type and for nothing else. A return type is the word for a scalar or an object whose only field has that word for its
name and `null` for its value. Faults have no place.
-/

namespace TaskHeader.Descriptor.FromJson

/-- What a value is. -/
def found : Json → Found
  | .null => .null
  | .bool b => .boolean b
  | .number (.natural n) => .integer n
  | .number (.negative n) => .integer (-n)
  | .number (.real x) => .real x.exponentText
  | .string s => .string s
  | .array _ => .sequence
  | .object _ => .map

/-- The text of a string. -/
def text : Json → Except Cause String
  | .string s => .ok s
  | j => .error (.invalidType (found j) "a string")

/-- The items of an array. -/
def items : Json → Except Cause (List Json)
  | .array items => .ok items
  | j => .error (.invalidType (found j) "a sequence")

/-- The fields of an object or an array. -/
def fields (name : String) : Json → Except Cause (Fields String Json)
  | .object entries => .ok (.named entries)
  | .array values => .ok (.listed values true)
  | j => .error (.invalidType (found j) name)

/-- The scalar that a word stands for. -/
def variant (s : String) : Except Cause ScalarType :=
  match ScalarType.ofKeyword? s with
  | some t => .ok t
  | none => .error (.unknownVariant s)

/-- The scalar that a value stands for. -/
def scalarType : Json → Except Cause ScalarType
  | .string s => variant s
  | .object [(name, value)] =>
    match variant name with
    | .error e => .error e
    | .ok t =>
      match value with
      | .null => .ok t
      | j => .error (.invalidType (found j) "unit")
  | .object _ => .error (.invalidValue .map "map with a single key")
  | j => .error (.invalidType (found j) "string or map")

/-- The return type that a value stands for. -/
def returnType : Json → Except Cause (Option ScalarType)
  | .null => .ok none
  | j => (scalarType j).map some

/-- How JSON values are read. -/
def dialect : Dialect (Except Cause) String Json where
  resolve := .ok
  fail := .error
  inNode _ r := r
  inField _ _ r := r
  inItem _ r := r
  name := .ok
  text
  items
  fields
  returnType

end TaskHeader.Descriptor.FromJson

namespace TaskHeader

open Descriptor (Cause FromJson.dialect)

/-- Reads a scalar from a JSON value. -/
def ScalarType.ofJson (j : Json) : Except Cause ScalarType :=
  Descriptor.FromJson.scalarType j

/-- Reads a type from a JSON value. -/
def ValueType.ofJson (j : Json) : Except Cause ValueType :=
  Descriptor.readType FromJson.dialect j

/-- Reads a parameter from a JSON value. -/
def Parameter.ofJson (j : Json) : Except Cause Parameter :=
  Descriptor.readParameter FromJson.dialect j

/-- Reads a function from a JSON value. -/
def Signature.ofJson (j : Json) : Except Cause Signature :=
  Descriptor.readSignature FromJson.dialect j

/-- Reads a list of functions from a JSON value. -/
def Signature.listOfJson (j : Json) : Except Cause (List Signature) :=
  Descriptor.readList FromJson.dialect Signature.ofJson j

/-- Reads an interface from a JSON value. -/
def Interface.ofJson (j : Json) : Except Cause Interface :=
  Descriptor.readInterface FromJson.dialect j

/-- Reads a driver from a JSON value. -/
def Driver.ofJson (j : Json) : Except Cause Driver :=
  Descriptor.readDriver FromJson.dialect j

/-- Reads a task from a JSON value. -/
def Task.ofJson (j : Json) : Except Cause Task :=
  Descriptor.readTask FromJson.dialect j

end TaskHeader
