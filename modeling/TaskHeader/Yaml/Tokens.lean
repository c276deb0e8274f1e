import TaskHeader.Yaml.Property
import TaskHeader.Yaml.Scalar

/-!
# The tokens of a YAML text

Reading goes from token to token. What cannot be known at once is whether a node is the key of a mapping: only the
colon after it shows that. So the place of a node that may be a key is remembered, one for each level of flow
collections, and when the colon comes a `key` token is put in front of it. Such a key is forgotten at the end of its
line or after 1024 characters; forgetting one that must be a key, because it stands at the indentation of a mapping, is
an error.
-/

namespace TaskHeader.Yaml

/-- A node that may turn out to be a key: the number of its first token and its place. -/
structure SimpleKey where
  required : Bool
  number : Nat
  mark : Mark
  deriving Repr

/-- The reading of tokens under way. -/
structure Scanner where
  cursor : Cursor
  /-- The tokens so far, the last one first. -/
  tokens : List Token := []
  count : Nat := 0
  /-- The columns of the open block collections, each counted from one; zero stands for the top. -/
  indent : Nat := 0
  outer : List Nat := []
  /-- The possible key of the innermost flow collection, then those of the collections around it. -/
  simpleKey : Option SimpleKey := none
  outerKeys : List (Option SimpleKey) := []
  /-- Whether a node that starts here may be a key. -/
  keyAllowed : Bool := true
  deriving Repr

namespace Scanner

/-- Whether a flow collection is open. -/
def inFlow (s : Scanner) : Bool :=
  !s.outerKeys.isEmpty

/-- Adds a token. -/
def push (s : Scanner) (kind : TokenKind) (start stop : Mark) : Scanner :=
  { s with tokens := ⟨kind, start, stop⟩ :: s.tokens, count := s.count + 1 }

/-- Adds a token without extent in front of the token of a number. -/
def insert (s : Scanner) (number : Nat) (kind : TokenKind) (mark : Mark) : Scanner :=
  let later := s.count - number
  { s with tokens := s.tokens.take later ++ ⟨kind, mark, mark⟩ :: s.tokens.drop later, count := s.count + 1 }

/-! ## Possible keys -/

/-- Forgets the innermost possible key; an error if it must be a key. -/
def dropKey (s : Scanner) : Option Scanner :=
  match s.simpleKey with
  | some k => if k.required then none else some { s with simpleKey := none }
  | none => some s

/-- A key, unless it has come out of reach. -/
def freshKey (m : Mark) : Option SimpleKey → Option (Option SimpleKey)
  | some k =>
    if k.mark.line < m.line || k.mark.index + 1024 < m.index then (if k.required then none else some none)
    else some (some k)
  | none => some none

/-- Forgets the possible keys that have come out of reach. -/
def dropStaleKeys (s : Scanner) : Option Scanner := do
  let simpleKey ← freshKey s.cursor.mark s.simpleKey
  let outerKeys ← s.outerKeys.mapM (freshKey s.cursor.mark)
  return { s with simpleKey, outerKeys }

/-- Remembers that the next token may start a key, where that is allowed. -/
def saveKey (s : Scanner) : Option Scanner :=
  if s.keyAllowed then do
    let s ← s.dropKey
    let required := !s.inFlow && s.indent == s.cursor.mark.column + 1
    return { s with simpleKey := some ⟨required, s.count, s.cursor.mark⟩ }
  else some s

/-! ## Indentation -/

/-- Opens a block collection at a column if it lies right of the open one. Its token goes in front of the token
`number`, or at the end. -/
def openBlock (s : Scanner) (column : Nat) (number : Option Nat) (kind : TokenKind) (mark : Mark) : Scanner :=
  if s.inFlow || column + 1 ≤ s.indent then s
  else
    let s := { s with outer := s.indent :: s.outer, indent := column + 1 }
    match number with
    | some n => s.insert n kind mark
    | none => s.push kind mark mark

/-- Closes open block collections while the innermost one lies at `indent` or right of it; both are counted from one. -/
def closeFrom (mark : Mark) (limit : Nat) : Nat → List Nat → List Token → Nat → Nat × List Nat × List Token × Nat
  | indent, [], tokens, count => (indent, [], tokens, count)
  | indent, next :: outer, tokens, count =>
    if limit < indent then closeFrom mark limit next outer (⟨.blockEnd, mark, mark⟩ :: tokens) (count + 1)
    else (indent, next :: outer, tokens, count)

/-- Closes the block collections that lie right of a place; zero closes all, and `n + 1` stands for the column `n`. -/
def closeBlocks (s : Scanner) (limit : Nat) : Scanner :=
  if s.inFlow then s
  else
    let (indent, outer, tokens, count) := closeFrom s.cursor.mark limit s.indent s.outer s.tokens s.count
    { s with indent, outer, tokens, count }

/-! ## Tokens -/

/-- Skips blanks, comments and line breaks. A tab counts as a blank inside flow collections and where no key can
start, a byte order mark at the start of a line; after a line break of a block collection a key may start. -/
def skipFrom (flow : Bool) : Bool → Bool → List Char → Mark → Bool × Cursor
  | keyAllowed, _, '\r' :: '\n' :: rest, m =>
    skipFrom flow (keyAllowed || !flow) false rest (m.newLine 2)
  | keyAllowed, inComment, c :: rest, m =>
    if isBreak c then skipFrom flow (keyAllowed || !flow) false rest (m.newLine 1)
    else if inComment then skipFrom flow keyAllowed true rest (m.forward 1)
    else if c == ' ' || (c == '\t' && (flow || !keyAllowed)) || (c == '\ufeff' && m.column == 0) then
      skipFrom flow keyAllowed false rest (m.forward 1)
    else if c == '#' then skipFrom flow keyAllowed true rest (m.forward 1)
    else (keyAllowed, ⟨c :: rest, m⟩)
  | keyAllowed, _, [], m => (keyAllowed, ⟨[], m⟩)

/-- Skips to the next token. -/
def skipToToken (s : Scanner) : Scanner :=
  let (keyAllowed, cursor) := skipFrom s.inFlow s.keyAllowed false s.cursor.rest s.cursor.mark
  { s with keyAllowed, cursor }

/-- Adds a token of `n` characters and moves on behind it. -/
def advance (s : Scanner) (kind : TokenKind) (n : Nat) : Scanner :=
  let stop := s.cursor.skip n
  { s.push kind s.cursor.mark stop.mark with cursor := stop }

/-- Adds a token that ends at a cursor and moves on to it. -/
def advanceTo (s : Scanner) (kind : TokenKind) (stop : Cursor) : Scanner :=
  { s.push kind s.cursor.mark stop.mark with cursor := stop }

/-- The end of the text closes every block; it stands at the start of a line. -/
def streamEnd (s : Scanner) : Option Scanner := do
  let mark := s.cursor.mark
  let mark := if mark.column = 0 then mark else { mark with line := mark.line + 1, column := 0 }
  let s := { s with cursor := { s.cursor with mark } }
  let s ← (s.closeBlocks 0).dropKey
  return { s with keyAllowed := false }.push .streamEnd mark mark

/-- A directive or the boundary of a document closes every block. -/
def beforeDocument (s : Scanner) : Option Scanner := do
  let s ← (s.closeBlocks 0).dropKey
  return { s with keyAllowed := false }

/-- A directive with its line. -/
def directiveLine (s : Scanner) : Option Scanner := do
  let s ← s.beforeDocument
  let (kind, stop) ← directive s.cursor
  return s.advanceTo kind stop

/-- The start of a flow collection may itself be part of a key. -/
def openFlow (s : Scanner) (kind : TokenKind) : Option Scanner := do
  let s ← s.saveKey
  return { s with outerKeys := s.simpleKey :: s.outerKeys, simpleKey := none, keyAllowed := true }.advance kind 1

/-- The end of a flow collection. -/
def closeFlow (s : Scanner) (kind : TokenKind) : Option Scanner := do
  let s ← s.dropKey
  let s :=
    match s.outerKeys with
    | k :: outerKeys => { s with simpleKey := k, outerKeys }
    | [] => s
  return { s with keyAllowed := false }.advance kind 1

/-- A comma of a flow collection. -/
def flowEntry (s : Scanner) : Option Scanner := do
  let s ← s.dropKey
  return { s with keyAllowed := true }.advance .flowEntry 1

/-- A dash of a block sequence. -/
def blockEntry (s : Scanner) : Option Scanner := do
  if !s.inFlow && !s.keyAllowed then none
  let s := s.openBlock s.cursor.mark.column none .blockSequenceStart s.cursor.mark
  let s ← s.dropKey
  return { s with keyAllowed := true }.advance .blockEntry 1

/-- A question mark before a key. -/
def explicitKey (s : Scanner) : Option Scanner := do
  if !s.inFlow && !s.keyAllowed then none
  let s := s.openBlock s.cursor.mark.column none .blockMappingStart s.cursor.mark
  let s ← s.dropKey
  return { s with keyAllowed := !s.inFlow }.advance .key 1

/-- A colon after a key, or before a value whose key is empty or was marked with a question mark. -/
def value (s : Scanner) : Option Scanner :=
  match s.simpleKey with
  | some k =>
    let s := s.insert k.number .key k.mark
    let s := s.openBlock k.mark.column (some k.number) .blockMappingStart k.mark
    some ({ s with simpleKey := none, keyAllowed := false }.advance .value 1)
  | none =>
    if !s.inFlow && !s.keyAllowed then none
    else
      let s := s.openBlock s.cursor.mark.column none .blockMappingStart s.cursor.mark
      some ({ s with keyAllowed := !s.inFlow }.advance .value 1)

/-- A token of a node that may be a key. -/
def property (s : Scanner) (read : Cursor → Option (TokenKind × Cursor)) : Option Scanner := do
  let s ← s.saveKey
  let (kind, stop) ← read s.cursor
  return { s with keyAllowed := false }.advanceTo kind stop

/-- A plain or quoted scalar. After a line break at its end a key may start. -/
def flowScalar (s : Scanner) (plain : Bool) (read : Cursor → Option ScannedScalar) : Option Scanner := do
  let s ← s.saveKey
  let r ← read s.cursor
  return { s with keyAllowed := r.folded }.advanceTo (.scalar (String.ofList r.text) plain) r.cursor

/-- A block scalar, after which a key may start. -/
def blockScalar (s : Scanner) (literal : Bool) : Option Scanner := do
  let s ← s.dropKey
  let r ← Yaml.blockScalar literal s.indent s.cursor
  return { s with keyAllowed := true }.advanceTo (.scalar (String.ofList r.text) false) r.cursor

/-- Whether a plain scalar may start with `c` before `rest`. -/
def startsPlain (flow : Bool) (c : Char) (rest : List Char) : Bool :=
  !(isSpace c || "-?:,[]\x7b\x7d#&*!|>'\"%@`".toList.contains c)
    || (c == '-' && !(rest.head?.any isBlank))
    || (!flow && (c == '?' || c == ':') && !atSpace rest)

/-- Reads the token that starts with `c` before `rest`. -/
def tokenAt (s : Scanner) (c : Char) (rest : List Char) : Option Scanner :=
  let flow := s.inFlow
  if s.cursor.mark.column == 0 && c == '%' then s.directiveLine
  else if s.cursor.atDocumentMarker '-' then do return (← s.beforeDocument).advance .documentStart 3
  else if s.cursor.atDocumentMarker '.' then do return (← s.beforeDocument).advance .documentEnd 3
  else if c == '[' then s.openFlow .flowSequenceStart
  else if c == '\x7b' then s.openFlow .flowMappingStart
  else if c == ']' then s.closeFlow .flowSequenceEnd
  else if c == '\x7d' then s.closeFlow .flowMappingEnd
  else if c == ',' then s.flowEntry
  else if c == '-' && atSpace rest then s.blockEntry
  else if c == '?' && (flow || atSpace rest) then s.explicitKey
  else if c == ':' && (flow || atSpace rest) then s.value
  else if c == '*' then s.property fun c => (anchorName c).map fun r => (.reference r.1, r.2)
  else if c == '&' then s.property fun c => (anchorName c).map fun r => (.anchor r.1, r.2)
  else if c == '!' then s.property (takeTag flow)
  else if c == '|' && !flow then s.blockScalar true
  else if c == '>' && !flow then s.blockScalar false
  else if c == '\'' then s.flowScalar false (quotedScalar true)
  else if c == '"' then s.flowScalar false (quotedScalar false)
  else if startsPlain flow c rest then s.flowScalar true (plainScalar flow s.indent)
  else none

/-- Reads tokens to the end of the text. -/
def run : Nat → Scanner → Option Scanner
  | 0, _ => none
  | fuel + 1, s =>
    match s.skipToToken.dropStaleKeys with
    | none => none
    | some s =>
      let s := s.closeBlocks (s.cursor.mark.column + 1)
      match s.cursor.rest with
      | [] => s.streamEnd
      | c :: rest =>
        match s.tokenAt c rest with
        | none => none
        | some s => run fuel s

end Scanner

/-- The tokens of a text; none if the text is malformed. Every token but the last takes a character. -/
def tokens? (s : String) : Option (List Token) :=
  let cursor := Cursor.ofString s
  if cursor.rest.all isAllowed then
    (Scanner.run (cursor.rest.length + 1) { cursor }).map fun s => s.tokens.reverse
  else none

end TaskHeader.Yaml
