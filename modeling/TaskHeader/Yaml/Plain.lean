import TaskHeader.Number.Numeral

/-!
# What plain scalars stand for

A plain scalar is nothing, a truth value, an integer, a number with a fraction, or else a text. Integers may be
written in base 16, 8 or 2 and have up to 128 bits; a row of decimal digits that starts with a needless zero is a text.
-/

namespace TaskHeader.Yaml

/-- What a plain scalar stands for. -/
inductive Plain where
  | null
  | boolean (b : Bool)
  | integer (n : Int)
  | real (x : Binary64)
  | text
  deriving DecidableEq, Repr

namespace Plain

/-- The words for nothing. -/
def isNull (s : String) : Bool :=
  s == "null" || s == "Null" || s == "NULL" || s == "~"

/-- The truth value that a word stands for. -/
def boolean? (s : String) : Option Bool :=
  if s == "true" || s == "True" || s == "TRUE" then some true
  else if s == "false" || s == "False" || s == "FALSE" then some false
  else none

/-- Whether decimal digits start with a zero that they do not need. -/
def startsWithZero : List Char → Bool
  | '0' :: d :: ds => (d :: ds).all Char.isDigit
  | _ => false

/-- The size of an integer, with the base in front of its digits. -/
def magnitude? : List Char → Option Nat
  | '0' :: 'x' :: ds => Digits.natural? 16 ds
  | '0' :: 'o' :: ds => Digits.natural? 8 ds
  | '0' :: 'b' :: ds => Digits.natural? 2 ds
  | ds => if startsWithZero ds then none else Digits.natural? 10 ds

/-- The integer that a text stands for, if it lies within 128 bits. -/
def integer? : List Char → Option Int
  | '-' :: ds => ((magnitude? ds).filter (· ≤ Nat.pow 2 127)).map fun n => -(n : Int)
  | '+' :: ds => ((magnitude? ds).filter (· < Nat.pow 2 128)).map fun n => (n : Int)
  | ds => ((magnitude? ds).filter (· < Nat.pow 2 128)).map fun n => (n : Int)

/-- Whether a text without its sign stands for infinity. -/
def isInfinity (cs : List Char) : Bool :=
  cs == ".inf".toList || cs == ".Inf".toList || cs == ".INF".toList

/-- The number that a text stands for; a numeral that is out of range stands for none. -/
def real? (cs : List Char) : Option Binary64 :=
  let (negative, magnitude) :=
    match cs with
    | '-' :: rest => (true, rest)
    | '+' :: rest => (false, rest)
    | rest => (false, rest)
  if isInfinity magnitude then some (.infinite negative)
  else if cs == ".nan".toList || cs == ".NaN".toList || cs == ".NAN".toList then some .nan
  else (Binary64.ofNumeral? negative magnitude).filter (·.isFinite)

/-- What a plain scalar stands for. -/
def ofString (s : String) : Plain :=
  if s.isEmpty || isNull s then .null
  else
    match boolean? s, integer? s.toList with
    | some b, _ => .boolean b
    | none, some n => .integer n
    | none, none =>
      let digits :=
        match s.toList with
        | '-' :: ds => ds
        | '+' :: ds => ds
        | ds => ds
      match if startsWithZero digits then none else real? s.toList with
      | some x => .real x
      | none => .text

end Plain

end TaskHeader.Yaml
