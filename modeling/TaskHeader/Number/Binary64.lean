/-!
# Binary floating-point numbers of 64 bits

A finite number is a mantissa below `2 ^ 53` times a power of two that is at least `2 ^ -1074`; its mantissa is at
least `2 ^ 52` unless the power is the least one, so every number has one form. `nearestRatio` rounds a quotient of
naturals to the nearest such number, a tie to the even mantissa, and `ofDecimal` reads a decimal with it.
-/

namespace TaskHeader

/-- A number of the binary format with 64 bits. -/
inductive Binary64 where
  | finite (negative : Bool) (mantissa : Nat) (exponent : Int)
  | infinite (negative : Bool)
  | nan
  deriving DecidableEq, Repr, Inhabited

namespace Binary64

/-- The zero of the given sign. -/
def zero (negative : Bool) : Binary64 :=
  .finite negative 0 (-1074)

/-- The exponent of the least power of two. -/
def leastExponent : Int := -1074

/-- The exponent of the greatest power of two. -/
def greatestExponent : Int := 971

/-- `num / den`, rounded to the nearest natural, a tie to the even one. -/
def roundDiv (num den : Nat) : Nat :=
  let q := num / den
  let r := num % den
  if 2 * r < den then q else if den < 2 * r then q + 1 else if q % 2 = 0 then q else q + 1

/-- `num / den / 2 ^ e` as a quotient of naturals. -/
def scaled (num den : Nat) (e : Int) : Nat × Nat :=
  if 0 ≤ e then (num, den * Nat.pow 2 e.toNat) else (num * Nat.pow 2 (-e).toNat, den)

/-- The exponent at which the whole part of the quotient has 53 binary digits; at least the least exponent. -/
def fittingExponent (num den : Nat) : Int :=
  let e := (Nat.log2 num : Int) - (Nat.log2 den : Int) - 52
  let (a, b) := scaled num den e
  max (if a / b < Nat.pow 2 52 then e - 1 else e) leastExponent

/-- The number nearest to `num / den`, a tie to the even mantissa; infinite beyond the greatest finite number. -/
def nearestRatio (negative : Bool) (num den : Nat) : Binary64 :=
  if num = 0 then zero negative
  else
    let e := fittingExponent num den
    let (a, b) := scaled num den e
    let m := roundDiv a b
    let (m, e) := if m = Nat.pow 2 53 then (Nat.pow 2 52, e + 1) else (m, e)
    if greatestExponent < e then .infinite negative else .finite negative m e

/-- The number nearest to `digits * 10 ^ exponent`. A decimal whose first digit stands beyond the range of the
format is infinite or zero, whatever follows. -/
def ofDecimal (negative : Bool) (digits : Nat) (exponent : Int) : Binary64 :=
  if digits = 0 then zero negative
  else
    let places := (Nat.toDigits 10 digits).length + exponent
    if 310 < places then .infinite negative
    else if places < -330 then zero negative
    else if 0 ≤ exponent then nearestRatio negative (digits * Nat.pow 10 exponent.toNat) 1
    else nearestRatio negative digits (Nat.pow 10 (-exponent).toNat)

/-- The value as a quotient of naturals, without its sign. -/
def ratio (mantissa : Nat) (exponent : Int) : Nat × Nat :=
  if 0 ≤ exponent then (mantissa * Nat.pow 2 exponent.toNat, 1) else (mantissa, Nat.pow 2 (-exponent).toNat)

/-- Whether the number is neither infinite nor undefined. -/
def isFinite : Binary64 → Bool
  | .finite .. => true
  | _ => false

/-- The quotient or the product of two finite magnitudes, rounded; the sign is the given one. -/
def combine (negative : Bool) (x y : Nat × Int) (divide : Bool) : Binary64 :=
  let (a, b) := ratio x.1 x.2
  let (c, d) := ratio y.1 y.2
  if divide then nearestRatio negative (a * d) (b * c) else nearestRatio negative (a * c) (b * d)

end Binary64

end TaskHeader
