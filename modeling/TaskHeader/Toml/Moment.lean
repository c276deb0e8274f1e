import TaskHeader.Number.Digits

/-!
# TOML dates and times

A date, a time, or a date with a time and perhaps an offset. Only whether a text is one matters here: a month has its
days, those of February by the year, and a minute may have a leap second.
-/

namespace TaskHeader.Toml

/-- A number of exactly `n` decimal digits within bounds, and what follows it. -/
def fixedNumber? (n least most : Nat) (cs : List Char) : Option (Nat × List Char) :=
  let ds := cs.take n
  if ds.length = n ∧ ds.all Char.isDigit then
    let v := Digits.decimal ds
    if least ≤ v ∧ v ≤ most then some (v, cs.drop n) else none
  else none

/-- The text after a character that must stand here. -/
def after? (c : Char) : List Char → Option (List Char)
  | d :: rest => if d == c then some rest else none
  | [] => none

/-- Whether a year has a day more. -/
def isLeapYear (year : Nat) : Bool :=
  year % 4 == 0 && (year % 100 != 0 || year % 400 == 0)

/-- The number of days of a month. -/
def daysOf (year month : Nat) : Nat :=
  if month = 2 then (if isLeapYear year then 29 else 28)
  else if month = 4 ∨ month = 6 ∨ month = 9 ∨ month = 11 then 30
  else 31

/-- The text after a date. -/
def skipDate? (cs : List Char) : Option (List Char) := do
  let (year, rest) ← fixedNumber? 4 0 9999 cs
  let (month, rest) ← fixedNumber? 2 1 12 (← after? '-' rest)
  let (_, rest) ← fixedNumber? 2 1 (daysOf year month) (← after? '-' rest)
  return rest

/-- The text after the fraction of a second, if there is one. -/
def skipFraction : List Char → List Char
  | '.' :: d :: rest => if d.isDigit then rest.dropWhile Char.isDigit else '.' :: d :: rest
  | cs => cs

/-- The text after a time. -/
def skipTime? (cs : List Char) : Option (List Char) := do
  let (_, rest) ← fixedNumber? 2 0 23 cs
  let (_, rest) ← fixedNumber? 2 0 59 (← after? ':' rest)
  let (_, rest) ← fixedNumber? 2 0 60 (← after? ':' rest)
  return skipFraction rest

/-- The text after an offset, if there is one. -/
def skipOffset? : List Char → Option (List Char)
  | c :: rest =>
    if c == 'Z' || c == 'z' then some rest
    else if c == '+' || c == '-' then do
      let (_, rest) ← fixedNumber? 2 0 23 rest
      let (_, rest) ← fixedNumber? 2 0 59 (← after? ':' rest)
      return rest
    else some (c :: rest)
  | [] => some []

/-- The text after a date or a time or both. A blank after a date belongs to it only if a time follows. -/
def skipMoment? (cs : List Char) : Option (List Char) :=
  match skipDate? cs with
  | none => skipTime? cs
  | some rest =>
    match rest with
    | c :: more =>
      if c == 'T' || c == 't' || c == ' ' then
        match skipTime? more with
        | some rest => skipOffset? rest
        | none => some rest
      else some rest
    | [] => some []

end TaskHeader.Toml
