import TaskHeader.Toml.Line

/-!
# TOML documents

The tree that the lines of a text denote. A header opens a table, and the keys after it belong to that table; it joins
the tree when the next header comes. A table that was made on the way to another one may be opened later by its own
header; then it keeps what it holds and moves behind its neighbours. The place of a table reaches from its header to
its last value.
-/

namespace TaskHeader.Toml

/-- A document under construction. -/
structure Draft where
  /-- The tables that are complete. -/
  root : Entries := []
  rootSpan : Span := ⟨0, 0⟩
  /-- Where the open table belongs; nowhere while that is the document itself. -/
  path : Option Path := none
  ofTables : Bool := false
  entries : Entries := []
  span : Span := ⟨0, 0⟩
  deriving Repr

namespace Draft

/-- An array of tables with one more table. -/
def pushTable (table : Value) (items : List Value) : Value :=
  let items := items ++ [table]
  let span :=
    match items.head?.bind (·.span), table.span with
    | some first, some last => some ⟨first.start, last.stop⟩
    | _, _ => none
  .array items true span

/-- Puts the open table where it belongs. -/
def close (d : Draft) : Option Draft :=
  match d.path with
  | none => some { d with root := d.entries, rootSpan := d.span, entries := [] }
  | some path =>
    let table := Value.table .header d.entries (some d.span)
    let name := path.last.name
    let put (_ : Origin) (entries : Entries) : Option (Unit × Entries) :=
      match Entries.get? name entries with
      | none =>
        some ((), entries ++ [(path.last, if d.ofTables then pushTable table [] else table)])
      | some (.array items true _) =>
        if d.ofTables then some ((), Entries.replace name (pushTable table items) entries) else none
      | some _ => none
    (Entries.alter .path put path.outer .header d.root).map fun r => { d with root := r.2, entries := [] }

/-- Opens the table of a header. -/
def openTable (path : Path) (ofTables : Bool) (span : Span) (d : Draft) : Option Draft :=
  let name := path.last.name
  let take (_ : Origin) (entries : Entries) : Option (Entries × Entries) :=
    match Entries.get? name entries, ofTables with
    | none, false => some ([], entries)
    | none, true => some ([], entries ++ [(path.last, .array [] true none)])
    | some (.table .path inner _), false => some (inner, Entries.erase name entries)
    | some (.array _ true _), true => some ([], entries)
    | _, _ => none
  (Entries.alter .path take path.outer .header d.root).map fun r =>
    { d with root := r.2, path := some path, ofTables, entries := r.1, span }

/-- Adds a value to the open table. -/
def addEntry (path : Path) (value : Value) (d : Draft) : Option Draft :=
  let span := (value.span.map fun s => ⟨d.span.start, s.stop⟩).getD d.span
  (Entries.add .dotted path.outer path.last value .header d.entries).map fun entries => { d with entries, span }

/-- Takes a line. -/
def step (d : Draft) : Line → Option Draft
  | .entry path value => d.addEntry path value
  | .header path ofTables span => d.close.bind (openTable path ofTables span)

end Draft

/-- Reads a text as a document; none if it is malformed or gives a name two values. -/
def document? (s : String) : Option Value := do
  let lines ← lines? s
  let draft ← lines.foldlM Draft.step {}
  let draft ← draft.close
  return .table .header draft.root (some draft.rootSpan)

end TaskHeader.Toml
