import TaskHeader.Number.Binary64
import TaskHeader.Toml.Source

/-!
# TOML values

A document as a tree of values with their places. A table knows how it came about, because that decides what may be
added to it later: only the tables that were made on the way to another one may still grow.
-/

namespace TaskHeader.Toml

/-- A key, or one part of a dotted key. -/
structure Key where
  name : String
  span : Span
  deriving DecidableEq, Repr

/-- How a table came about. -/
inductive Origin where
  /-- It has a header, or it is the document itself. -/
  | header
  /-- It was made on the way to the table of a header. -/
  | path
  /-- It was made on the way to the value of a dotted key. -/
  | dotted
  /-- It stands between braces. -/
  | inline
  /-- It was made on the way to the value of a dotted key between braces. -/
  | inlineDotted
  deriving DecidableEq, Repr

namespace Origin

/-- Whether the table lies between braces. -/
def isInline : Origin → Bool
  | inline | inlineDotted => true
  | _ => false

/-- Whether the table was made on the way to another value. -/
def isImplicit : Origin → Bool
  | path | dotted | inlineDotted => true
  | _ => false

/-- Whether the table was made for a dotted key. -/
def isDotted : Origin → Bool
  | dotted | inlineDotted => true
  | _ => false

end Origin

/-- A value. Tables that were made on the way to others have no place. -/
inductive Value where
  | string (s : String) (span : Span)
  | integer (n : Int) (span : Span)
  | real (x : Binary64) (span : Span)
  | boolean (b : Bool) (span : Span)
  | moment (span : Span)
  /-- `ofTables` is set for the tables of a header between double brackets. -/
  | array (items : List Value) (ofTables : Bool) (span : Option Span)
  | table (origin : Origin) (entries : List (Key × Value)) (span : Option Span)
  deriving Repr

/-- The place of a value. -/
def Value.span : Value → Option Span
  | string _ s | integer _ s | real _ s | boolean _ s | moment s => some s
  | array _ _ s | table _ _ s => s

/-- What a table holds, in order. -/
abbrev Entries := List (Key × Value)

namespace Entries

/-- The value of a name. -/
def get? (name : String) (entries : Entries) : Option Value :=
  (entries.find? (·.1.name == name)).map (·.2)

/-- Puts another value in the place of the value of a name. -/
def replace (name : String) (value : Value) (entries : Entries) : Entries :=
  entries.map fun e => if e.1.name == name then (e.1, value) else e

/-- The entries without a name. -/
def erase (name : String) (entries : Entries) : Entries :=
  entries.filter (·.1.name != name)

/-- Changes the table that a path leads to, and gives back what the change says. Tables that are missing on the way are
made with the origin `made`; a path leads into the last table of an array of tables, and never into another value. A
dotted key does not lead into a table that has a header. -/
def alter {α : Type} (made : Origin) (change : Origin → Entries → Option (α × Entries)) :
    List Key → Origin → Entries → Option (α × Entries)
  | [], origin, entries => change origin entries
  | k :: path, _, entries =>
    match get? k.name entries with
    | none => (alter made change path made []).map fun r => (r.1, entries ++ [(k, .table made r.2 none)])
    | some (.table origin inner span) =>
      if origin.isInline != made.isInline || (made.isDotted && !origin.isImplicit) then none
      else (alter made change path origin inner).map fun r => (r.1, replace k.name (.table origin r.2 span) entries)
    | some (.array items true span) =>
      match items.getLast? with
      | some (.table origin inner last) =>
        (alter made change path origin inner).map fun r =>
          (r.1, replace k.name (.array (items.dropLast ++ [.table origin r.2 last]) true span) entries)
      | _ => none
    | some _ => none

/-- Adds the value of a key; `made` is the origin of the tables on the way of a dotted key. A name is given a value
once, and a table that was made for dotted keys takes only values of dotted keys. -/
def add (made : Origin) (path : List Key) (key : Key) (value : Value) (origin : Origin) (entries : Entries) :
    Option Entries :=
  let put (origin : Origin) (inner : Entries) : Option (Unit × Entries) :=
    if origin.isDotted == path.isEmpty || (get? key.name inner).isSome then none else some ((), inner ++ [(key, value)])
  (alter made put path origin entries).map (·.2)

end Entries

end TaskHeader.Toml
