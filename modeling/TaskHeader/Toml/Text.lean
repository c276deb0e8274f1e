import TaskHeader.Number.Digits
import TaskHeader.Toml.Source

/-!
# TOML strings

A string stands between quotes or between apostrophes, on one line between single ones and on several between triple
ones. Between quotes a backslash escapes; between apostrophes every character stands for itself. A line break in a
string is a line feed, and one right after the opening quotes does not count.
-/

namespace TaskHeader.Toml

/-- The character that digits in base sixteen stand for. -/
def codePoint? (ds : List Char) : Option Char :=
  match Digits.natural? 16 ds with
  | some v => if h : v.isValidChar then some (Char.ofNatAux v h) else none
  | none => none

/-- The character that a letter after a backslash stands for. -/
def unescape? : Char → Option Char
  | 'b' => some '\x08'
  | 't' => some '\t'
  | 'n' => some '\n'
  | 'f' => some '\x0c'
  | 'r' => some '\r'
  | '"' => some '"'
  | '\\' => some '\\'
  | _ => none

/-- Puts a character before a text that was read. -/
def consText (c : Option Char) (r : Option (List Char × List Char)) : Option (List Char × List Char) :=
  match c, r with
  | some c, some (text, rest) => some (c :: text, rest)
  | _, _ => none

/-- The text up to the closing quote, and what follows the quote. -/
def quotedLine : List Char → Option (List Char × List Char)
  | [] => none
  | '"' :: rest => some ([], rest)
  | '\\' :: 'u' :: a :: b :: c :: d :: rest => consText (codePoint? [a, b, c, d]) (quotedLine rest)
  | '\\' :: 'U' :: a :: b :: c :: d :: e :: f :: g :: h :: rest =>
    consText (codePoint? [a, b, c, d, e, f, g, h]) (quotedLine rest)
  | '\\' :: c :: rest => consText (unescape? c) (quotedLine rest)
  | c :: rest => if isText c then consText (some c) (quotedLine rest) else none

/-- The text up to the closing apostrophe, and what follows it. -/
def literalLine : List Char → Option (List Char × List Char)
  | [] => none
  | '\'' :: rest => some ([], rest)
  | c :: rest => if isText c then consText (some c) (literalLine rest) else none

/-- Up to two quotes right before the closing ones belong to the text. -/
def surplus (quote : Char) : List Char → List Char × List Char
  | a :: b :: rest =>
    if a == quote then (if b == quote then ([a, b], rest) else ([a], b :: rest)) else ([], a :: b :: rest)
  | [a] => if a == quote then ([a], []) else ([], [a])
  | [] => ([], [])

/-- What a backslash at the end of a line leaves out: blanks up to the end of the line, then all blanks and line
breaks. -/
inductive Trim where
  | nothing
  | toLineEnd
  | toText
  deriving DecidableEq

/-- The text up to three closing quotes, and what follows them. -/
def quotedLines : Trim → List Char → Option (List Char × List Char)
  | .toLineEnd, '\r' :: '\n' :: rest => quotedLines .toText rest
  | .toLineEnd, '\n' :: rest => quotedLines .toText rest
  | .toLineEnd, c :: rest => if isBlank c then quotedLines .toLineEnd rest else none
  | .toText, '\r' :: '\n' :: rest => quotedLines .toText rest
  | .toText, '\n' :: rest => quotedLines .toText rest
  | .toText, ' ' :: rest => quotedLines .toText rest
  | .toText, '\t' :: rest => quotedLines .toText rest
  | _, '"' :: '"' :: '"' :: rest => some (surplus '"' rest)
  | _, '\\' :: 'u' :: a :: b :: c :: d :: rest => consText (codePoint? [a, b, c, d]) (quotedLines .nothing rest)
  | _, '\\' :: 'U' :: a :: b :: c :: d :: e :: f :: g :: h :: rest =>
    consText (codePoint? [a, b, c, d, e, f, g, h]) (quotedLines .nothing rest)
  | _, '\\' :: c :: rest =>
    if isBlank c then quotedLines .toLineEnd rest
    else if c == '\n' then quotedLines .toText rest
    else if c == '\r' then
      match rest with
      | '\n' :: rest => quotedLines .toText rest
      | _ => none
    else consText (unescape? c) (quotedLines .nothing rest)
  | _, '\r' :: '\n' :: rest => consText (some '\n') (quotedLines .nothing rest)
  | _, '\n' :: rest => consText (some '\n') (quotedLines .nothing rest)
  | _, c :: rest => if isText c then consText (some c) (quotedLines .nothing rest) else none
  | _, [] => none

/-- The text up to three closing apostrophes, and what follows them. -/
def literalLines : List Char → Option (List Char × List Char)
  | '\'' :: '\'' :: '\'' :: rest => some (surplus '\'' rest)
  | '\r' :: '\n' :: rest => consText (some '\n') (literalLines rest)
  | '\n' :: rest => consText (some '\n') (literalLines rest)
  | c :: rest => if isText c then consText (some c) (literalLines rest) else none
  | [] => none

/-- The text after a line break right behind the opening quotes. -/
def dropNewline (cs : List Char) : List Char :=
  (newline? cs).getD cs

/-- A string of one line, and what follows it. -/
def lineString? : List Char → Option (List Char × List Char)
  | '"' :: rest => quotedLine rest
  | '\'' :: rest => literalLine rest
  | _ => none

/-- A string, and what follows it. -/
def string? : List Char → Option (List Char × List Char)
  | '"' :: '"' :: '"' :: rest => quotedLines .nothing (dropNewline rest)
  | '\'' :: '\'' :: '\'' :: rest => literalLines (dropNewline rest)
  | cs => lineString? cs

end TaskHeader.Toml
