import TaskHeader.Number.Shortest

/-!
# JSON values

A JSON value as a tree. An object is a list of named values; the reader of texts keeps it sorted by name with each
name once (`Json.insert`), and a value built by hand may have any order.
-/

namespace TaskHeader

/-- A number as JSON texts carry it. -/
inductive Json.Number where
  /-- A whole number that is not below zero. -/
  | natural (n : Nat)
  /-- The whole number `-n`. -/
  | negative (n : Nat)
  /-- A number with a fraction or an exponent, or one beyond 64 bits. -/
  | real (x : Binary64)
  deriving DecidableEq, Repr

/-- A JSON value. -/
inductive Json where
  | null
  | bool (b : Bool)
  | number (n : Json.Number)
  | string (s : String)
  | array (items : List Json)
  | object (fields : List (String × Json))
  deriving Repr, Inhabited

namespace Json

/-- A natural number as a value. -/
def nat (n : Nat) : Json :=
  .number (.natural n)

/-- A list of texts as a value. -/
def strings (l : List String) : Json :=
  .array (l.map .string)

/-- Puts a field at its place by name; a field of that name gives way. -/
def insert (name : String) (value : Json) : List (String × Json) → List (String × Json)
  | [] => [(name, value)]
  | (k, v) :: rest =>
    if name < k then (name, value) :: (k, v) :: rest
    else if name = k then (name, value) :: rest
    else (k, v) :: insert name value rest

/-- The fields of an object, sorted by name; of two with one name the later stays. -/
def sortFields (fields : List (String × Json)) : List (String × Json) :=
  fields.foldl (fun sorted f => insert f.1 f.2 sorted) []

/-- The value of a field of an object. -/
def get? (name : String) : Json → Option Json
  | .object fields => (fields.find? (·.1 == name)).map (·.2)
  | _ => none

end Json

end TaskHeader
