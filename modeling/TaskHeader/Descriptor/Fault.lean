import TaskHeader.Text.Quoted
import TaskHeader.ValueType

/-!
# Faults of descriptors

Why a well-formed document is no task: what was found in place of what is wanted, with the wording of each cause in
one function. Where a fault lies is a matter of the format; a fault can be without a place until a node around it
gives it one.
-/

namespace TaskHeader.Descriptor

/-- What a document holds at some place, as messages name it. -/
inductive Found where
  | null
  | unit
  | boolean (b : Bool)
  | integer (n : Int)
  /-- An integer beyond 64 bits. -/
  | wideInteger (n : Int)
  /-- A number with a fraction or an exponent, by its text. -/
  | real (text : String)
  | string (s : String)
  | sequence
  | map
  deriving DecidableEq, Repr

/-- The words for what was found. -/
def Found.message : Found → String
  | .null => "null"
  | .unit => "unit value"
  | .boolean b => "boolean `" ++ (if b then "true" else "false") ++ "`"
  | .integer n => "integer `" ++ toString n ++ "`"
  | .wideInteger n => "integer `" ++ toString n ++ "` as " ++ (if 0 ≤ n then "u128" else "i128")
  | .real text => "floating point `" ++ text ++ "`"
  | .string s => "string " ++ Text.quoted s
  | .sequence => "sequence"
  | .map => "map"

/-- Why a document is no task. -/
inductive Cause where
  | invalidType (found : Found) (expected : String)
  | invalidValue (found : Found) (expected : String)
  | invalidLength (length : Nat) (expected : String)
  | missingField (name : String)
  | duplicateField (name : String)
  /-- The word for a return type is none of the scalars. -/
  | unknownVariant (name : String)
  | badType (error : TypeError)
  /-- A return type is neither a word nor a table. -/
  | wantedWordOrTable
  /-- A return type is a table with no entry or with several. -/
  | wantedOneEntry (isEmpty : Bool)
  /-- The entry of a table for a return type is no table itself. -/
  | wantedTable (found : String)
  /-- The entry of a table for a return type is a table or an array that is not empty. -/
  | wantedEmpty (what : String)
  /-- Aliases were followed too often. -/
  | repetition
  deriving DecidableEq, Repr

/-- The words for the scalars, as messages list them. -/
def scalarWords : String :=
  ", ".intercalate (ScalarType.all.map fun t => "`" ++ t.keyword ++ "`")

/-- The message of a cause. -/
def Cause.message : Cause → String
  | .invalidType found expected => "invalid type: " ++ found.message ++ ", expected " ++ expected
  | .invalidValue found expected => "invalid value: " ++ found.message ++ ", expected " ++ expected
  | .invalidLength length expected => "invalid length " ++ toString length ++ ", expected " ++ expected
  | .missingField name => "missing field `" ++ name ++ "`"
  | .duplicateField name => "duplicate field `" ++ name ++ "`"
  | .unknownVariant name => "unknown variant `" ++ name ++ "`, expected one of " ++ scalarWords
  | .badType error => error.message
  | .wantedWordOrTable => "wanted string or table"
  | .wantedOneEntry isEmpty =>
    "wanted exactly 1 element, " ++ (if isEmpty then "found 0 elements" else "more than 1 element")
  | .wantedTable found => "expected table, found " ++ found
  | .wantedEmpty what => "expected empty " ++ what
  | .repetition => "repetition limit exceeded"

/-- A cause with its place, if it has one yet. -/
structure Fault (π : Type) where
  cause : Cause
  place : Option π := none
  deriving Repr

/-- The fault at a place, unless it has a place already. -/
def Fault.settle {π : Type} (p : Option π) (f : Fault π) : Fault π :=
  { f with place := f.place.or p }

end TaskHeader.Descriptor
