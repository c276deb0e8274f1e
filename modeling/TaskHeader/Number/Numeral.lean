import TaskHeader.Number.Binary64
import TaskHeader.Number.Digits

/-!
# Decimal numerals

A row of digits with an optional point in it, before it or after it, and an optional exponent. The number that a
numeral stands for is the one nearest to it.
-/

namespace TaskHeader.Binary64

/-- The exponent at the end of a numeral: zero if there is none, else a letter `e`, a sign and at least one digit. -/
def exponentOf? : List Char → Option Int
  | [] => some 0
  | c :: rest =>
    if c = 'e' ∨ c = 'E' then
      match rest with
      | '-' :: ds => (Digits.natural? 10 ds).map fun n => -(n : Int)
      | '+' :: ds => (Digits.natural? 10 ds).map fun n => (n : Int)
      | ds => (Digits.natural? 10 ds).map fun n => (n : Int)
    else none

/-- The number that a numeral without a sign stands for. -/
def ofNumeral? (negative : Bool) (cs : List Char) : Option Binary64 :=
  let (whole, rest) := Digits.split cs
  let (fraction, rest) :=
    match rest with
    | '.' :: rest => Digits.split rest
    | rest => ([], rest)
  if whole.isEmpty && fraction.isEmpty then none
  else
    (exponentOf? rest).map fun exponent =>
      ofDecimal negative (Digits.decimal (whole ++ fraction)) (exponent - fraction.length)

end TaskHeader.Binary64
