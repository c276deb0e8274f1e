import TaskHeader.Json
import TaskHeader.Task

/-!
# Tasks as JSON

The JSON form of a task: an object for each record with its fields in the order of their declaration, every list
present even when it is empty, a parameter's type by its written form, and no return type where there is none.
-/

namespace TaskHeader

/-- A scalar is written as its keyword. -/
def ScalarType.toJson (t : ScalarType) : Json :=
  .string t.keyword

/-- A type is written as its text. -/
def ValueType.toJson (t : ValueType) : Json :=
  .string t.text

/-- A parameter as an object. -/
def Parameter.toJson (p : Parameter) : Json :=
  .object [("name", .string p.name), ("type", p.type.toJson)]

/-- The field for a return type, absent when there is none. -/
def Signature.returnsFields (f : Signature) : List (String × Json) :=
  match f.returns with
  | some t => [("returns", t.toJson)]
  | none => []

/-- A function as an object. -/
def Signature.toJson (f : Signature) : Json :=
  .object ([("name", .string f.name), ("parameters", .array (f.parameters.map (·.toJson)))] ++ f.returnsFields)

/-- A list of functions. -/
def Signature.listToJson (fs : List Signature) : Json :=
  .array (fs.map (·.toJson))

/-- An interface as an object. -/
def Interface.toJson (i : Interface) : Json :=
  .object
    [("name", .string i.name), ("functions", Signature.listToJson i.functions),
     ("callback_functions", Signature.listToJson i.callbacks)]

/-- The driver as an object. -/
def Driver.toJson (d : Driver) : Json :=
  .object [("functions", Signature.listToJson d.functions)]

/-- A task as an object. -/
def Task.toJson (t : Task) : Json :=
  .object
    [("name", .string t.name), ("interfaces", .array (t.interfaces.map (·.toJson))), ("driver", t.driver.toJson)]

end TaskHeader
