import TaskHeader.Number.Digits
import TaskHeader.Yaml.Source

/-!
# YAML scalars

How the text of a scalar is found in the source. Plain and quoted scalars are words with gaps between them: a gap
without a line break stays as it is, one line break becomes a blank, and of more than one all but the first stay
(`Gap.text`). Block scalars are lines below an indentation; the literal style keeps their breaks, the folded style
treats them like gaps.
-/

namespace TaskHeader.Yaml

/-! ## Gaps -/

/-- Blanks and line breaks between two words: the blanks before the first break, and the text of each break. -/
structure Gap where
  blanks : List Char := []
  breaks : List (List Char) := []
  deriving Repr

/-- What stands for a gap in the text of the scalar. -/
def Gap.text (g : Gap) : List Char :=
  match g.breaks with
  | [] => g.blanks
  | first :: more =>
    if first == ['\n'] then (if more.isEmpty then [' '] else more.flatten) else first ++ more.flatten

/-- Whether the gap holds a line break. -/
def Gap.isFolded (g : Gap) : Bool :=
  !g.breaks.isEmpty

/-- Reads on through blanks and breaks. A tab left of the column `limit`, in a line after the first, is an error. -/
def Gap.extend (limit : Nat) : List Char → Mark → Gap → Option (Gap × Cursor)
  | '\r' :: '\n' :: rest, m, g => extend limit rest (m.newLine 2) { g with breaks := g.breaks ++ [['\n']] }
  | c :: rest, m, g =>
    if isBlank c then
      if g.isFolded then
        if c == '\t' && m.column < limit then none else extend limit rest (m.forward 1) g
      else extend limit rest (m.forward 1) { g with blanks := g.blanks ++ [c] }
    else if isBreak c then extend limit rest (m.newLine 1) { g with breaks := g.breaks ++ [breakText c] }
    else some (g, ⟨c :: rest, m⟩)
  | [], m, g => some (g, ⟨[], m⟩)

/-! ## Plain scalars -/

/-- The characters that end a word inside a flow collection. -/
def isFlowIndicator (c : Char) : Bool :=
  c == ',' || c == '[' || c == ']' || c == '\x7b' || c == '\x7d'

/-- A word of a plain scalar and what follows it. A colon before a space ends it; inside a flow collection so does an
indicator, and a colon right before an indicator or a question mark is an error. -/
def plainWord (flow : Bool) : List Char → Option (List Char × List Char)
  | [] => some ([], [])
  | c :: rest =>
    let more := (plainWord flow rest).map fun r => (c :: r.1, r.2)
    if isSpace c then some ([], c :: rest)
    else if c == ':' then
      if flow && (rest.head?.any fun d => isFlowIndicator d || d == '?') then none
      else if atSpace rest then some ([], c :: rest)
      else more
    else if flow && isFlowIndicator c then some ([], c :: rest)
    else more

/-- A scalar that was read: its text, the cursor after it, and whether a line break stands right before the cursor. -/
structure ScannedScalar where
  text : List Char
  cursor : Cursor
  folded : Bool := false
  deriving Repr

/-- Reads words and gaps. Outside flow collections a line that starts left of the column `indent` ends the scalar, and
so does a comment or the boundary of a document. -/
def plainFrom (flow : Bool) (indent : Nat) : Nat → List Char → Gap → Cursor → Option ScannedScalar
  | 0, _, _, _ => none
  | fuel + 1, text, gap, c =>
    if c.atDocumentBoundary || c.at? '#' then some ⟨text, c, gap.isFolded⟩
    else
      match plainWord flow c.rest with
      | none => none
      | some (word, _) =>
        let c' := c.skip word.length
        let text' := if word.isEmpty then text else text ++ gap.text ++ word
        let gap := if word.isEmpty then gap else {}
        if c'.rest.isEmpty || !atSpace c'.rest then some ⟨text', c', gap.isFolded⟩
        else
          match Gap.extend indent c'.rest c'.mark gap with
          | none => none
          | some (gap, c'') =>
            if !flow && c''.mark.column < indent then some ⟨text', c'', gap.isFolded⟩
            else plainFrom flow indent fuel text' gap c''

/-- A plain scalar; `indent` is the least column of its later lines. -/
def plainScalar (flow : Bool) (indent : Nat) (c : Cursor) : Option ScannedScalar :=
  plainFrom flow indent (c.rest.length + 1) [] {} c

/-! ## Quoted scalars -/

/-- A character given by exactly `n` hexadecimal digits. -/
def hexEscape? (n : Nat) (cs : List Char) : Option Char :=
  if cs.length < n then none
  else
    match Digits.natural? 16 (cs.take n) with
    | some v => if h : v.isValidChar then some (Char.ofNatAux v h) else none
    | none => none

/-- The character that the text after a backslash stands for, and how many characters it takes. -/
def escape? : List Char → Option (Char × Nat)
  | [] => none
  | c :: rest =>
    match c with
    | '0' => some ('\x00', 1)
    | 'a' => some ('\x07', 1)
    | 'b' => some ('\x08', 1)
    | 't' => some ('\t', 1)
    | '\t' => some ('\t', 1)
    | 'n' => some ('\n', 1)
    | 'v' => some ('\x0b', 1)
    | 'f' => some ('\x0c', 1)
    | 'r' => some ('\r', 1)
    | 'e' => some ('\x1b', 1)
    | ' ' => some (' ', 1)
    | '"' => some ('"', 1)
    | '/' => some ('/', 1)
    | '\\' => some ('\\', 1)
    | 'N' => some ('\x85', 1)
    | '_' => some ('\xa0', 1)
    | 'L' => some ('\u2028', 1)
    | 'P' => some ('\u2029', 1)
    | 'x' => (hexEscape? 2 rest).map (·, 3)
    | 'u' => (hexEscape? 4 rest).map (·, 5)
    | 'U' => (hexEscape? 8 rest).map (·, 9)
    | _ => none

/-- Part of a quoted scalar without a gap: its text, the cursor after it, and whether it ends with a line break that
is escaped and so leaves nothing in the text. -/
structure QuotedRun where
  text : List Char := []
  cursor : Cursor
  escapedBreak : Bool := false
  deriving Repr

/-- The run with a character before it. -/
def QuotedRun.cons (c : Char) (r : QuotedRun) : QuotedRun :=
  { r with text := c :: r.text }

/-- Reads up to a space or the closing quote. Between single quotes two quotes stand for one; between double quotes a
backslash escapes. -/
def quotedRun (single : Bool) : Nat → Cursor → Option QuotedRun
  | 0, _ => none
  | fuel + 1, c =>
    match c.rest with
    | [] => some { cursor := c }
    | d :: rest =>
      if isSpace d then some { cursor := c }
      else if single then
        if d == '\'' then
          if rest.head? == some '\'' then (quotedRun single fuel (c.skip 2)).map (·.cons '\'')
          else some { cursor := c }
        else (quotedRun single fuel (c.skip 1)).map (·.cons d)
      else if d == '"' then some { cursor := c }
      else if d == '\\' then
        if !rest.isEmpty && atBreak rest then some { cursor := (c.skip 1).skipBreak, escapedBreak := true }
        else
          match escape? rest with
          | none => none
          | some (e, n) => (quotedRun single fuel (c.skip (n + 1))).map (·.cons e)
      else (quotedRun single fuel (c.skip 1)).map (·.cons d)

/-- Reads runs and gaps up to the closing quote. The boundary of a document inside the quotes is an error. -/
def quotedFrom (single : Bool) : Nat → List Char → Cursor → Option ScannedScalar
  | 0, _, _ => none
  | fuel + 1, text, c =>
    if c.atDocumentBoundary || c.rest.isEmpty then none
    else
      match quotedRun single (c.rest.length + 1) c with
      | none => none
      | some run =>
        if run.cursor.at? (if single then '\'' else '"') then some ⟨text ++ run.text, run.cursor.skip 1, false⟩
        else
          let gap : Gap := if run.escapedBreak then { breaks := [[]] } else {}
          match Gap.extend 0 run.cursor.rest run.cursor.mark gap with
          | none => none
          | some (gap, c') => quotedFrom single fuel (text ++ run.text ++ gap.text) c'

/-- A quoted scalar; the cursor stands at the opening quote. -/
def quotedScalar (single : Bool) (c : Cursor) : Option ScannedScalar :=
  quotedFrom single (c.rest.length + 1) [] (c.skip 1)

/-! ## Block scalars -/

/-- What becomes of the line breaks at the end of a block scalar. -/
inductive Chomping where
  | strip
  | clip
  | keep
  deriving DecidableEq, Repr

/-- Reads empty lines. With the indentation unknown (zero) every blank counts as indentation and the widest line is
remembered; a tab there is an error. -/
def blockBreaks (indent : Nat) : List Char → Mark → Nat → List Char → Option (Nat × List Char × Cursor)
  | '\r' :: '\n' :: rest, m, widest, breaks =>
    blockBreaks indent rest (m.newLine 2) (max widest m.column) (breaks ++ ['\n'])
  | c :: rest, m, widest, breaks =>
    let inIndent := indent == 0 || m.column < indent
    if c == ' ' && inIndent then blockBreaks indent rest (m.forward 1) widest breaks
    else if c == '\t' && inIndent then none
    else if isBreak c then blockBreaks indent rest (m.newLine 1) (max widest m.column) (breaks ++ breakText c)
    else some (max widest m.column, breaks, ⟨c :: rest, m⟩)
  | [], m, widest, breaks => some (max widest m.column, breaks, ⟨[], m⟩)

/-- The line break at the cursor as text, and the cursor after it. -/
def takeBreak (c : Cursor) : List Char × Cursor :=
  match c.rest with
  | d :: _ => if isBreak d then (breakText d, c.skipBreak) else ([], c)
  | [] => ([], c)

/-- The lines of a block scalar so far: its text, the break after its last line, the breaks of the empty lines after
that, and whether its last line starts with a blank. -/
structure BlockLines where
  text : List Char := []
  lastBreak : List Char := []
  breaks : List Char := []
  startsBlank : Bool := false
  deriving Repr

/-- Reads the lines that start at the column `indent`. In the folded style a break between two lines that do not start
with a blank becomes a blank, or nothing if empty lines follow. -/
def blockLines (literal : Bool) (indent : Nat) : Nat → BlockLines → Cursor → Option (BlockLines × Cursor)
  | 0, _, _ => none
  | fuel + 1, b, c =>
    if c.mark.column != indent || c.rest.isEmpty then some (b, c)
    else
      let blank := c.rest.head?.any isBlank
      let joint :=
        if !literal && b.lastBreak.head? == some '\n' && !b.startsBlank && !blank then
          (if b.breaks.isEmpty then [' '] else [])
        else b.lastBreak
      let (line, c) := c.takeWhile fun d => !isBreak d
      let (lastBreak, c) := takeBreak c
      match blockBreaks indent c.rest c.mark 0 [] with
      | none => none
      | some (_, breaks, c) =>
        blockLines literal indent fuel ⟨b.text ++ joint ++ b.breaks ++ line, lastBreak, breaks, blank⟩ c

/-- The digit that gives the indentation of a block scalar, if there is one. It cannot be zero. -/
def indentDigit (c : Cursor) : Option (Nat × Cursor) :=
  match c.rest with
  | d :: _ =>
    if d.isDigit then (if d == '0' then none else some (d.toNat - '0'.toNat, c.skip 1)) else some (0, c)
  | [] => some (0, c)

/-- The sign that gives the chomping of a block scalar, if there is one. -/
def chompingSign (c : Cursor) : Option (Chomping × Cursor) :=
  if c.at? '+' then some (.keep, c.skip 1) else if c.at? '-' then some (.strip, c.skip 1) else none

/-- What stands after the indicator of a block scalar: chomping and indentation in either order. -/
def blockHeader (c : Cursor) : Option (Chomping × Nat × Cursor) :=
  match chompingSign c with
  | some (chomping, c) => (indentDigit c).map fun r => (chomping, r.1, r.2)
  | none =>
    match indentDigit c with
    | none => none
    | some (n, c) =>
      if n = 0 then some (.clip, 0, c)
      else
        match chompingSign c with
        | some (chomping, c) => some (chomping, n, c)
        | none => some (.clip, n, c)

/-- A block scalar; the cursor stands at its indicator, and `parent` is the indentation around it, counted from one so
that zero stands for the top of a document. -/
def blockScalar (literal : Bool) (parent : Nat) (c : Cursor) : Option ScannedScalar := do
  let (chomping, increment, c) ← blockHeader (c.skip 1)
  let c := c.skipBlanks
  let c := if c.at? '#' then c.skipLine else c
  if !atBreak c.rest then none
  let c := c.skipBreak
  let known := if increment = 0 then 0 else (parent - 1) + increment
  let (widest, breaks, c) ← blockBreaks known c.rest c.mark 0 []
  let indent := if known = 0 then max (max widest parent) 1 else known
  let (b, c) ← blockLines literal indent (c.rest.length + 1) { breaks } c
  let tail :=
    match chomping with
    | .strip => []
    | .clip => b.lastBreak
    | .keep => b.lastBreak ++ b.breaks
  return ⟨b.text ++ tail, c, false⟩

end TaskHeader.Yaml
