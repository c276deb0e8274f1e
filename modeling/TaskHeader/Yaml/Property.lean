import TaskHeader.Number.Digits
import TaskHeader.Yaml.Token

/-!
# YAML properties and directives

Anchors, aliases and tags, which stand before a node, and the directives, which stand before a document. A tag is a
handle with a suffix; a suffix may hold bytes in hexadecimal digits.
-/

namespace TaskHeader.Yaml

/-- An anchor or an alias after its indicator: its name and the cursor after it. -/
def anchorName (c : Cursor) : Option (String × Cursor) :=
  let (name, c) := (c.skip 1).takeWhile isWord
  let ends := atSpace c.rest || (c.rest.head?.any fun d => "?:,]\x7d%@`".toList.contains d)
  if name.isEmpty || !ends then none else some (String.ofList name, c)

/-! ## Tags -/

/-- The characters of the address of a tag. Within angle brackets the indicators of flow sequences belong to them. -/
def isAddress (inBrackets : Bool) (c : Char) : Bool :=
  isWord c || ";/?:@&=+$.%!~*'()".toList.contains c || (inBrackets && ",[]".toList.contains c)

/-- The byte that a percent sign and two hexadecimal digits stand for. -/
def escapedByte? : List Char → Option Nat
  | '%' :: a :: b :: _ => Digits.natural? 16 [a, b]
  | _ => none

/-- How many bytes a character takes whose first byte is given, and the bits that this byte carries. -/
def leadingByte? (b : Nat) : Option (Nat × Nat) :=
  if b < 0x80 then some (1, b)
  else if 0xC0 ≤ b ∧ b < 0xE0 then some (2, b - 0xC0)
  else if 0xE0 ≤ b ∧ b < 0xF0 then some (3, b - 0xE0)
  else if 0xF0 ≤ b ∧ b < 0xF8 then some (4, b - 0xF0)
  else none

/-- Reads `n` further escaped bytes of a character. -/
def continuationBytes : Nat → Nat → List Char → Option (Nat × List Char)
  | 0, v, cs => some (v, cs)
  | n + 1, v, cs =>
    match escapedByte? cs with
    | none => none
    | some b => if 0x80 ≤ b ∧ b < 0xC0 then continuationBytes n (64 * v + (b - 0x80)) (cs.drop 3) else none

/-- A character given by escaped bytes, and what follows it. -/
def escapedChar? (cs : List Char) : Option (Char × List Char) :=
  match escapedByte? cs with
  | none => none
  | some b =>
    match leadingByte? b with
    | none => none
    | some (width, v) => (continuationBytes (width - 1) v (cs.drop 3)).map fun r => (Char.ofNat r.1, r.2)

/-- The address of a tag and what follows it. -/
def address (inBrackets : Bool) : Nat → List Char → Option (List Char × List Char)
  | 0, cs => some ([], cs)
  | _ + 1, [] => some ([], [])
  | fuel + 1, c :: rest =>
    if !isAddress inBrackets c then some ([], c :: rest)
    else if c == '%' then
      match escapedChar? (c :: rest) with
      | none => none
      | some (d, rest') => (address inBrackets fuel rest').map fun r => (d :: r.1, r.2)
    else (address inBrackets fuel rest).map fun r => (c :: r.1, r.2)

/-- The address at the cursor, and the cursor after it. -/
def takeAddress (inBrackets : Bool) (c : Cursor) : Option (List Char × Cursor) :=
  (address inBrackets c.rest.length c.rest).map fun r => (r.1, c.skip (c.rest.length - r.2.length))

/-- An exclamation mark, word characters, and a second exclamation mark if one follows. -/
def takeHandle (c : Cursor) : Option (List Char × Cursor) :=
  if c.at? '!' then
    let (name, c) := (c.skip 1).takeWhile isWord
    if c.at? '!' then some ('!' :: name ++ ['!'], c.skip 1) else some ('!' :: name, c)
  else none

/-- A tag and the cursor after it. A tag in angle brackets has no handle; a handle that does not end with an
exclamation mark is the start of the suffix of the handle `!`; and a lone `!` is a suffix without a handle. -/
def takeTag (flow : Bool) (c : Cursor) : Option (TokenKind × Cursor) := do
  let (kind, c) ←
    if c.rest.drop 1 |>.head?.any (· == '<') then
      let (suffix, c) ← takeAddress true (c.skip 2)
      if suffix.isEmpty || !c.at? '>' then none
      else some (TokenKind.tag "" (String.ofList suffix), c.skip 1)
    else
      let (handle, c) ← takeHandle c
      if handle.length ≥ 2 && handle.getLast? == some '!' then
        let (suffix, c) ← takeAddress false c
        if suffix.isEmpty then none else some (TokenKind.tag (String.ofList handle) (String.ofList suffix), c)
      else
        let (more, c) ← takeAddress false c
        let suffix := handle.drop 1 ++ more
        if suffix.isEmpty then some (TokenKind.tag "" "!", c)
        else some (TokenKind.tag "!" (String.ofList suffix), c)
  if atSpace c.rest || (flow && c.at? ',') then some (kind, c) else none

/-! ## Directives -/

/-- A version number: up to nine digits. -/
def versionNumber (c : Cursor) : Option (Nat × Cursor) :=
  let (ds, c) := c.takeWhile Char.isDigit
  if ds.isEmpty || 9 < ds.length then none else some (ds.foldl (fun n d => 10 * n + (d.toNat - '0'.toNat)) 0, c)

/-- What a version directive says. -/
def versionDirective (c : Cursor) : Option (TokenKind × Cursor) := do
  let (major, c) ← versionNumber c.skipBlanks
  if !c.at? '.' then none
  let (minor, c) ← versionNumber (c.skip 1)
  return (.version major minor, c)

/-- What a directive for a handle says. -/
def handleDirective (c : Cursor) : Option (TokenKind × Cursor) := do
  let (handle, c) ← takeHandle c.skipBlanks
  if handle != ['!'] && handle.getLast? != some '!' then none
  if !(c.rest.head?.any isBlank) then none
  let (expansion, c) ← takeAddress true c.skipBlanks
  if expansion.isEmpty || !atSpace c.rest then none
  return (.tagHandle (String.ofList handle) (String.ofList expansion), c)

/-- A directive with its line. -/
def directive (c : Cursor) : Option (TokenKind × Cursor) := do
  let (name, c) := (c.skip 1).takeWhile isWord
  if name.isEmpty || !atSpace c.rest then none
  let (kind, c) ←
    if name == "YAML".toList then versionDirective c else if name == "TAG".toList then handleDirective c else none
  let c := c.skipBlanks
  let c := if c.at? '#' then c.skipLine else c
  if !atBreak c.rest then none
  return (kind, c.skipBreak)

end TaskHeader.Yaml
