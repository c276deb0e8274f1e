import TaskHeader.Number.Binary64

/-!
# The shortest decimal of a number

The decimal with the fewest digits that still rounds to the number, and of these the nearest one. The reals that
round to `m * 2 ^ e` are those between the midpoints to its two neighbours, the midpoints included iff `m` is even.
For one digit, two digits and so on the two decimals around the number are tried, in exact arithmetic, until one
lies between the midpoints.
-/

namespace TaskHeader.Binary64

/-- A decimal: its digits and the place of its point, counted from the first digit. -/
structure Decimal where
  digits : List Char
  point : Int
  deriving DecidableEq, Repr

/-- The midpoints to the neighbours of `m * 2 ^ e`, over a common denominator: below, the number itself, above.
Below a power of two the gap is half as wide. -/
structure Interval where
  low : Nat
  value : Nat
  high : Nat
  den : Nat
  closed : Bool

/-- The reals that round to the number. -/
def interval (m : Nat) (e : Int) : Interval :=
  let (scale, den) := if 0 ≤ e then (Nat.pow 2 e.toNat, 1) else (1, Nat.pow 2 (-e).toNat)
  let below := if m = Nat.pow 2 52 ∧ leastExponent < e then 1 else 2
  { low := (4 * m - below) * scale, value := 4 * m * scale, high := (4 * m + 2) * scale, den := 4 * den,
    closed := m % 2 = 0 }

/-- Whether the real `num / den` rounds to the number. -/
def Interval.holds (i : Interval) (num den : Nat) : Bool :=
  if i.closed then i.low * den ≤ num * i.den && num * i.den ≤ i.high * den
  else i.low * den < num * i.den && num * i.den < i.high * den

/-- The place of the point of the number: the least `k` with the number below `10 ^ k`. -/
def pointOf (num den : Nat) : Int :=
  if den ≤ num then (Nat.toDigits 10 (num / den)).length
  else
    let rec go : Nat → Nat → Int
      | 0, _ => 0
      | fuel + 1, n => if den ≤ n * 10 then 0 else go fuel (n * 10) - 1
    go 400 num

/-- The decimals with digits up to the place `unit` that lie around the number: the one below, and its successor. -/
def around (i : Interval) (unit : Int) : Nat :=
  if 0 ≤ unit then i.value / (i.den * Nat.pow 10 unit.toNat) else i.value * Nat.pow 10 (-unit).toNat / i.den

/-- `d * 10 ^ unit` as a quotient of naturals. -/
def decimalRatio (d : Nat) (unit : Int) : Nat × Nat :=
  if 0 ≤ unit then (d * Nat.pow 10 unit.toNat, 1) else (d, Nat.pow 10 (-unit).toNat)

/-- Of the two decimals around the number the one that rounds to it, the nearer one if both do. -/
def candidate (i : Interval) (unit : Int) : Option Nat :=
  let d := around i unit
  let (a, b) := decimalRatio d unit
  let (a', b') := decimalRatio (d + 1) unit
  match i.holds a b, i.holds a' b' with
  | true, true => if a' * i.den - i.value * b' < i.value * b - a * i.den then some (d + 1) else some d
  | true, false => some d
  | false, true => some (d + 1)
  | false, false => none

/-- The shortest decimal of the positive number `m * 2 ^ e`. -/
def shortest (m : Nat) (e : Int) : Decimal :=
  let i := interval m e
  let k := pointOf i.value i.den
  let rec go : Nat → Nat → Nat × Int
    | 0, n => (around i (k - n), k - n)
    | fuel + 1, n =>
      match candidate i (k - n) with
      | some d => (d, k - n)
      | none => go fuel (n + 1)
  let (d, unit) := go 17 1
  let digits := Nat.toDigits 10 d
  { digits := (digits.reverse.dropWhile (· == '0')).reverse, point := unit + digits.length }

/-- The decimal without an exponent, with a point and a digit on each side of it. -/
def Decimal.positional (d : Decimal) : List Char :=
  if d.point ≤ 0 then '0' :: '.' :: List.replicate (-d.point).toNat '0' ++ d.digits
  else if d.digits.length ≤ d.point.toNat then
    d.digits ++ List.replicate (d.point.toNat - d.digits.length) '0' ++ ['.', '0']
  else d.digits.take d.point.toNat ++ '.' :: d.digits.drop d.point.toNat

/-- The decimal with one digit before the point and an exponent; without a point if it has only that digit. -/
def Decimal.scientific (d : Decimal) : List Char :=
  let mantissa :=
    match d.digits with
    | c :: e :: more => c :: '.' :: e :: more
    | short => short
  mantissa ++ 'e' :: (toString (d.point - 1)).toList

/-- The number with the layout that `layout` gives to its shortest decimal. -/
def write (layout : Decimal → List Char) : Binary64 → String
  | .nan => "NaN"
  | .infinite negative => if negative then "-inf" else "inf"
  | .finite negative m e =>
    let magnitude := if m = 0 then ['0', '.', '0'] else layout (shortest m e)
    String.ofList (if negative then '-' :: magnitude else magnitude)

/-- The number without an exponent, however many zeros that takes. -/
def text (x : Binary64) : String :=
  x.write Decimal.positional

/-- The number with an exponent where the point lies more than four places before or 16 places after the first
digit. -/
def exponentText (x : Binary64) : String :=
  x.write fun d => if -5 < d.point ∧ d.point ≤ 16 then d.positional else d.scientific

end TaskHeader.Binary64
