import TaskHeader.Number.Numeral

/-!
# TOML numbers

Integers of 64 bits in base 10, 16, 8 or 2, and numbers with a fraction, an exponent or both. An underscore may stand
between two digits. A decimal integer does not start with a needless zero, and only decimals have a sign.
-/

namespace TaskHeader.Toml

/-- A number as a document holds it. -/
inductive Numeral where
  | integer (n : Int)
  | real (x : Binary64)
  deriving DecidableEq, Repr

/-- The digits after a digit without their underscores, and what follows them. -/
def moreDigits (base : Nat) : List Char → Option (List Char × List Char)
  | [] => some ([], [])
  | ['_'] => none
  | '_' :: c :: rest =>
    if (Digits.value? base c).isSome then (moreDigits base rest).map fun r => (c :: r.1, r.2) else none
  | c :: rest =>
    if (Digits.value? base c).isSome then (moreDigits base rest).map fun r => (c :: r.1, r.2) else some ([], c :: rest)

/-- A row of digits without its underscores, and what follows it. -/
def digitRow (base : Nat) : List Char → Option (List Char × List Char)
  | c :: rest =>
    if (Digits.value? base c).isSome then (moreDigits base rest).map fun r => (c :: r.1, r.2) else none
  | [] => none

/-- The digits of a decimal integer, and what follows them: zero alone, or a row that does not start with it. -/
def wholeDigits : List Char → Option (List Char × List Char)
  | '0' :: rest => some (['0'], rest)
  | cs => digitRow 10 cs

/-- A sign, and what follows it. -/
def sign : List Char → Option Bool × List Char
  | '+' :: rest => (some false, rest)
  | '-' :: rest => (some true, rest)
  | cs => (none, cs)

/-- The exponent of a number without its underscores, and what follows it; nothing where there is none. -/
def exponentPart : List Char → Option (List Char × List Char)
  | c :: rest =>
    if c == 'e' || c == 'E' then
      let (negative, rest) := sign rest
      (digitRow 10 rest).map fun r => ('e' :: (if negative == some true then '-' :: r.1 else r.1), r.2)
    else some ([], c :: rest)
  | [] => some ([], [])

/-- The fraction of a number with its point and without its underscores, and what follows it; nothing where there is
none. -/
def fractionPart : List Char → Option (List Char × List Char)
  | '.' :: rest => (digitRow 10 rest).map fun r => ('.' :: r.1, r.2)
  | cs => some ([], cs)

/-- Infinity or no number by name, and what follows. -/
def namedReal? (negative : Bool) : List Char → Option (Binary64 × List Char)
  | 'i' :: 'n' :: 'f' :: rest => some (.infinite negative, rest)
  | 'n' :: 'a' :: 'n' :: rest => some (.nan, rest)
  | _ => none

/-- An integer in a base other than ten, if its digits fit. -/
def basedInteger? (base : Nat) (cs : List Char) : Option (Numeral × List Char) :=
  match digitRow base cs with
  | none => none
  | some (ds, rest) =>
    match (Digits.natural? base ds).filter (· < Nat.pow 2 63) with
    | some n => some (.integer n, rest)
    | none => none

/-- The integer of decimal digits, if it fits. -/
def decimalInteger? (negative : Bool) (ds : List Char) : Option Int :=
  let n := Digits.decimal ds
  if negative then (if n ≤ Nat.pow 2 63 then some (-(n : Int)) else none)
  else if n < Nat.pow 2 63 then some n else none

/-- The number of a decimal with a fraction or an exponent. One too great is none, unless it is negative. -/
def decimalReal? (negative : Bool) (text : List Char) : Option Binary64 :=
  (Binary64.ofNumeral? negative text).filter (· != .infinite false)

/-- A decimal number after its sign, and what follows it. -/
def decimal? (negative : Bool) (cs : List Char) : Option (Numeral × List Char) := do
  let (whole, rest) ← wholeDigits cs
  let (fraction, rest) ← fractionPart rest
  let (exponent, rest) ← exponentPart rest
  if fraction.isEmpty && exponent.isEmpty then return (.integer (← decimalInteger? negative whole), rest)
  else return (.real (← decimalReal? negative (whole ++ fraction ++ exponent)), rest)

/-- A number, and what follows it. -/
def numeral? : List Char → Option (Numeral × List Char)
  | '0' :: 'x' :: rest => basedInteger? 16 rest
  | '0' :: 'o' :: rest => basedInteger? 8 rest
  | '0' :: 'b' :: rest => basedInteger? 2 rest
  | cs =>
    let (negative, rest) := sign cs
    match namedReal? (negative == some true) rest with
    | some (x, rest) => some (.real x, rest)
    | none => decimal? (negative == some true) rest

end TaskHeader.Toml
