/-!
# YAML source text

A place in the text with what follows it. Lines end with a line feed, a carriage return, both together, or one of
the Unicode characters NEL, LS and PS; columns count characters.
-/

namespace TaskHeader.Yaml

/-- A place in the text, counted from zero: characters before it, lines before it, characters before it in its line. -/
structure Mark where
  index : Nat := 0
  line : Nat := 0
  column : Nat := 0
  deriving DecidableEq, Repr, Inhabited

/-- The place after some characters of the same line. -/
def Mark.forward (m : Mark) (n : Nat) : Mark :=
  { m with index := m.index + n, column := m.column + n }

/-- The place after a line break of some characters. -/
def Mark.newLine (m : Mark) (n : Nat) : Mark :=
  { index := m.index + n, line := m.line + 1, column := 0 }

/-! ## Characters -/

/-- Blank and tab. -/
def isBlank (c : Char) : Bool :=
  c == ' ' || c == '\t'

/-- The characters that end a line. -/
def isBreak (c : Char) : Bool :=
  c == '\n' || c == '\r' || c == '\x85' || c == '\u2028' || c == '\u2029'

/-- A blank or a line break. -/
def isSpace (c : Char) : Bool :=
  isBlank c || isBreak c

/-- The characters of anchors, handles and directive names. -/
def isWord (c : Char) : Bool :=
  c.isAlphanum || c == '_' || c == '-'

/-- The characters that a text may hold. -/
def isAllowed (c : Char) : Bool :=
  let n := c.toNat
  n == 0x09 || n == 0x0A || n == 0x0D || (0x20 ≤ n && n ≤ 0x7E) || n == 0x85 || (0xA0 ≤ n && n ≤ 0xD7FF)
    || (0xE000 ≤ n && n ≤ 0xFFFD) || 0x10000 ≤ n

/-- Whether the text is at its end, or at a blank or a line break. -/
def atSpace : List Char → Bool
  | [] => true
  | c :: _ => isSpace c

/-- Whether the text is at its end or at a line break. -/
def atBreak : List Char → Bool
  | [] => true
  | c :: _ => isBreak c

/-- What a line break leaves in a text that keeps it: LS and PS stay, every other break becomes a line feed. -/
def breakText (c : Char) : List Char :=
  if c == '\u2028' || c == '\u2029' then [c] else ['\n']

/-! ## Cursors -/

/-- The rest of the text and the place where it starts. -/
structure Cursor where
  rest : List Char
  mark : Mark := {}
  deriving Repr, Inhabited

namespace Cursor

/-- The start of a text. -/
def ofString (s : String) : Cursor :=
  { rest := s.toList }

/-- The cursor after some characters, none of them a line break. -/
def skip (c : Cursor) (n : Nat) : Cursor :=
  ⟨c.rest.drop n, c.mark.forward n⟩

/-- The cursor after a line break, if it is at one. -/
def skipBreak (c : Cursor) : Cursor :=
  match c.rest with
  | '\r' :: '\n' :: rest => ⟨rest, c.mark.newLine 2⟩
  | d :: rest => if isBreak d then ⟨rest, c.mark.newLine 1⟩ else c
  | [] => c

/-- The longest run of characters of a class without line breaks, and the cursor after it. -/
def takeWhile (p : Char → Bool) (c : Cursor) : List Char × Cursor :=
  let run := c.rest.takeWhile p
  (run, c.skip run.length)

/-- The cursor after blanks and tabs. -/
def skipBlanks (c : Cursor) : Cursor :=
  (c.takeWhile isBlank).2

/-- The cursor at the end of the line. -/
def skipLine (c : Cursor) : Cursor :=
  (c.takeWhile fun d => !isBreak d).2

/-- Whether the cursor stands at the given character. -/
def at? (c : Cursor) (d : Char) : Bool :=
  c.rest.head? == some d

/-- Whether the cursor stands at the start of a line with three of the given characters and a space after them. -/
def atDocumentMarker (c : Cursor) (d : Char) : Bool :=
  c.mark.column == 0 && c.rest.take 3 == [d, d, d] && atSpace (c.rest.drop 3)

/-- Whether the cursor stands where a document starts or ends. -/
def atDocumentBoundary (c : Cursor) : Bool :=
  c.atDocumentMarker '-' || c.atDocumentMarker '.'

end Cursor

end TaskHeader.Yaml
