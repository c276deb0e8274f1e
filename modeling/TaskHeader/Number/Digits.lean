/-!
# Digits

Numbers as rows of digits in a base of up to 16. The letters of the bases beyond ten count in either case.
-/

namespace TaskHeader.Digits

/-- The value of a digit in base sixteen. -/
def hexadecimal? (c : Char) : Option Nat :=
  if '0' ≤ c ∧ c ≤ '9' then some (c.toNat - '0'.toNat)
  else if 'a' ≤ c ∧ c ≤ 'f' then some (c.toNat - 'a'.toNat + 10)
  else if 'A' ≤ c ∧ c ≤ 'F' then some (c.toNat - 'A'.toNat + 10)
  else none

/-- The value of a digit in a base. -/
def value? (base : Nat) (c : Char) : Option Nat :=
  (hexadecimal? c).filter (· < base)

/-- The number that a row of digits stands for; none if there is no digit or a character that is none. -/
def natural? (base : Nat) (cs : List Char) : Option Nat :=
  if cs.isEmpty then none else cs.foldlM (fun n c => (value? base c).map (base * n + ·)) 0

/-- The number that a row of decimal digits stands for, zero if it is empty. -/
def decimal (ds : List Char) : Nat :=
  ds.foldl (fun n c => 10 * n + (c.toNat - '0'.toNat)) 0

/-- The leading decimal digits and what follows them. -/
def split (cs : List Char) : List Char × List Char :=
  (cs.takeWhile Char.isDigit, cs.dropWhile Char.isDigit)

end TaskHeader.Digits
