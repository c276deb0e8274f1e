/-!
# TOML source

The text of a document with places in it, counted in bytes, and the parts of it that mean nothing: blanks, comments
and the ends of lines. A line ends with a line feed, which a carriage return may precede.
-/

namespace TaskHeader.Toml

/-- The bytes from one place of the text up to another. -/
structure Span where
  start : Nat
  stop : Nat
  deriving DecidableEq, Repr, Inhabited

/-- The rest of the text and the place where it starts. -/
structure Cursor where
  rest : List Char
  offset : Nat := 0
  deriving Repr, Inhabited

namespace Cursor

/-- The number of bytes that characters take. -/
def bytes (cs : List Char) : Nat :=
  cs.foldl (fun n c => n + c.utf8Size) 0

/-- The start of a text; a byte order mark before it takes its bytes but means nothing. -/
def ofString (s : String) : Cursor :=
  match s.toList with
  | c :: rest => if c == '\ufeff' then ⟨rest, c.utf8Size⟩ else ⟨c :: rest, 0⟩
  | [] => ⟨[], 0⟩

/-- The cursor after some characters. -/
def skip (c : Cursor) (n : Nat) : Cursor :=
  ⟨c.rest.drop n, c.offset + bytes (c.rest.take n)⟩

/-- The cursor at what is left of the text. -/
def upTo (c : Cursor) (rest : List Char) : Cursor :=
  c.skip (c.rest.length - rest.length)

/-- Whether the cursor stands at the given character. -/
def at? (c : Cursor) (d : Char) : Bool :=
  c.rest.head? == some d

/-- The bytes from the cursor up to a later one. -/
def spanTo (c stop : Cursor) : Span :=
  ⟨c.offset, stop.offset⟩

end Cursor

/-! ## What means nothing -/

/-- Blank and tab. -/
def isBlank (c : Char) : Bool :=
  c == ' ' || c == '\t'

/-- The characters that may stand in a comment or a string: all but the controls, with the tab. -/
def isText (c : Char) : Bool :=
  c == '\t' || (0x20 ≤ c.toNat && c.toNat != 0x7F)

/-- The text after its leading blanks. -/
def skipBlanks (cs : List Char) : List Char :=
  cs.dropWhile isBlank

/-- The text after the end of a line, if one stands here. -/
def newline? : List Char → Option (List Char)
  | '\n' :: rest => some rest
  | '\r' :: '\n' :: rest => some rest
  | _ => none

/-- The text after a comment, if one stands here. -/
def skipComment : List Char → List Char
  | '#' :: rest => rest.dropWhile isText
  | cs => cs

/-- The text after the rest of a line that holds nothing but blanks and a comment. -/
def lineEnd? (cs : List Char) : Option (List Char) :=
  match skipComment (skipBlanks cs) with
  | [] => some []
  | rest => newline? rest

/-- The text after blanks, comments and ends of lines; `inComment` says whether it starts within a comment. -/
def skipGap : Bool → List Char → List Char
  | _, '\r' :: '\n' :: rest => skipGap false rest
  | _, '\n' :: rest => skipGap false rest
  | true, c :: rest => if isText c then skipGap true rest else c :: rest
  | false, c :: rest =>
    if isBlank c then skipGap false rest else if c == '#' then skipGap true rest else c :: rest
  | _, [] => []

end TaskHeader.Toml
