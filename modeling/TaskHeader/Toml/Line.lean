import TaskHeader.Toml.Moment
import TaskHeader.Toml.Number
import TaskHeader.Toml.Text
import TaskHeader.Toml.Value

/-!
# The lines of a TOML document

A document is a list of keys with their values and of headers, each at the end of its line; a value may itself take
several lines. A dotted key has fewer than 80 parts, and arrays and tables in braces lie fewer than 80 deep.
-/

namespace TaskHeader.Toml

/-- The keys that lead to a table, and the last one. -/
structure Path where
  outer : List Key
  last : Key
  deriving Repr

/-- What a line says. -/
inductive Line where
  | entry (path : Path) (value : Value)
  /-- `ofTables` is set for a header between double brackets. -/
  | header (path : Path) (ofTables : Bool) (span : Span)
  deriving Repr

/-- The bound on the parts of a key and on the depth of values. -/
def depthLimit : Nat := 80

/-! ## Keys -/

/-- The characters of a key without quotes. -/
def isBare (c : Char) : Bool :=
  c.isAlphanum || c == '-' || c == '_'

/-- One part of a key, and the cursor after it. -/
def simpleKey? (c : Cursor) : Option (Key × Cursor) :=
  let run := c.rest.takeWhile isBare
  let named (name : List Char) (stop : Cursor) : Key × Cursor := (⟨String.ofList name, c.spanTo stop⟩, stop)
  if run.isEmpty then (lineString? c.rest).map fun r => named r.1 (c.upTo r.2) else some (named run (c.skip run.length))

/-- The cursor after blanks. -/
def Cursor.skipBlanks (c : Cursor) : Cursor :=
  c.upTo (Toml.skipBlanks c.rest)

/-- The parts of a key, the last one first. -/
def keyParts : Nat → List Key → Cursor → Option (List Key × Cursor)
  | 0, _, _ => none
  | fuel + 1, parts, c =>
    match simpleKey? c.skipBlanks with
    | none => none
    | some (k, c) =>
      let c := c.skipBlanks
      if c.at? '.' then keyParts fuel (k :: parts) (c.skip 1) else some (k :: parts, c)

/-- A key with blanks around it, and the cursor after it. -/
def path? (c : Cursor) : Option (Path × Cursor) :=
  match keyParts (c.rest.length + 1) [] c with
  | some (last :: outer, c) => if outer.length + 1 < depthLimit then some (⟨outer.reverse, last⟩, c) else none
  | _ => none

/-! ## Values -/

/-- The cursor after a gap between the items of an array. -/
def Cursor.skipGap (c : Cursor) : Cursor :=
  c.upTo (Toml.skipGap false c.rest)

/-- A truth value, and what follows it. -/
def boolean? : List Char → Option (Bool × List Char)
  | 't' :: 'r' :: 'u' :: 'e' :: rest => some (true, rest)
  | 'f' :: 'a' :: 'l' :: 's' :: 'e' :: rest => some (false, rest)
  | _ => none

/-- A value that is neither an array nor a table, and the cursor after it. -/
def leaf? (c : Cursor) : Option (Value × Cursor) :=
  let place {α : Type} (build : α → Span → Value) (r : α × List Char) : Value × Cursor :=
    let stop := c.upTo r.2
    (build r.1 (c.spanTo stop), stop)
  match string? c.rest with
  | some r => some (place (fun s span => .string (String.ofList s) span) r)
  | none =>
    match boolean? c.rest with
    | some r => some (place .boolean r)
    | none =>
      match skipMoment? c.rest with
      | some rest => some (place (fun _ span => .moment span) ((), rest))
      | none =>
        match numeral? c.rest with
        | some (.integer n, rest) => some (place .integer (n, rest))
        | some (.real x, rest) => some (place .real (x, rest))
        | none => none

mutual

/-- A value at a depth, and the cursor after it. -/
def value? (depth : Nat) : Nat → Cursor → Option (Value × Cursor)
  | 0, _ => none
  | fuel + 1, c =>
    if c.at? '[' then
      if depth + 1 < depthLimit then
        (items? (depth + 1) fuel (c.skip 1)).map fun r => (.array r.1 false (some (c.spanTo r.2)), r.2)
      else none
    else if c.at? '\x7b' then
      if depth + 1 < depthLimit then
        (entries? (depth + 1) true fuel [] (c.skip 1)).map fun r => (.table .inline r.1 (some (c.spanTo r.2)), r.2)
      else none
    else leaf? c

/-- The items of an array up to its closing bracket; a comma may follow the last one. -/
def items? (depth : Nat) : Nat → Cursor → Option (List Value × Cursor)
  | 0, _ => none
  | fuel + 1, c =>
    let c := c.skipGap
    if c.at? ']' then some ([], c.skip 1)
    else
      match value? depth fuel c with
      | none => none
      | some (v, c) =>
        let c := c.skipGap
        if c.at? ',' then (items? depth fuel (c.skip 1)).map fun r => (v :: r.1, r.2)
        else if c.at? ']' then some ([v], c.skip 1)
        else none

/-- The entries of a table in braces up to its closing brace; no comma follows the last one. -/
def entries? (depth : Nat) (first : Bool) : Nat → Entries → Cursor → Option (Entries × Cursor)
  | 0, _, _ => none
  | fuel + 1, entries, c =>
    if first && c.skipBlanks.at? '\x7d' then some (entries, c.skipBlanks.skip 1)
    else
      match path? c with
      | none => none
      | some (path, c) =>
        if !c.at? '=' then none
        else
          match value? depth fuel (c.skip 1).skipBlanks with
          | none => none
          | some (v, c) =>
            match Entries.add .inlineDotted path.outer path.last v .inline entries with
            | none => none
            | some entries =>
              let c := c.skipBlanks
              if c.at? ',' then entries? depth false fuel entries (c.skip 1)
              else if c.at? '\x7d' then some (entries, c.skip 1)
              else none

end

/-! ## Lines -/

/-- The cursor after the rest of a line. -/
def Cursor.lineEnd? (c : Cursor) : Option Cursor :=
  (Toml.lineEnd? c.rest).map c.upTo

/-- A header, and the cursor after its line. -/
def header? (c : Cursor) : Option (Line × Cursor) := do
  let ofTables := c.rest.take 2 == ['[', '[']
  let brackets := if ofTables then 2 else 1
  let (path, stop) ← path? (c.skip brackets)
  if stop.rest.take brackets != List.replicate brackets ']' then none
  let stop := stop.skip brackets
  return (.header path ofTables (c.spanTo stop), ← stop.lineEnd?)

/-- A key with its value, and the cursor after its line. -/
def entry? (c : Cursor) : Option (Line × Cursor) := do
  let (path, c) ← path? c
  if !c.at? '=' then none
  let c := (c.skip 1).skipBlanks
  let (v, c) ← value? 0 (2 * c.rest.length + 2) c
  return (.entry path v, ← c.lineEnd?)

/-- Reads the lines of a document. -/
def readLines : Nat → Cursor → Option (List Line)
  | 0, _ => none
  | fuel + 1, c =>
    let c := c.skipGap
    match c.rest with
    | [] => some []
    | d :: _ =>
      match if d == '[' then header? c else entry? c with
      | none => none
      | some (line, c) => (readLines fuel c).map (line :: ·)

/-- The lines of a text; none if it is malformed. -/
def lines? (s : String) : Option (List Line) :=
  let c := Cursor.ofString s
  readLines (c.rest.length + 1) c

end TaskHeader.Toml
