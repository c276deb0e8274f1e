import TaskHeader.Json
import TaskHeader.Number.Digits

/-!
# JSON texts, read

`Json.read` takes a text that is one JSON value with blanks around it. Each part of the grammar is a function from
the rest of the text to a value and the text after it. A whole number of up to 64 bits stays whole; any other number
is read with the leading digits that fit 64 bits and then scaled by a power of ten, each step rounded.
-/

namespace TaskHeader.Json

/-- The blanks of JSON. -/
def isBlank (c : Char) : Bool :=
  c == ' ' || c == '\n' || c == '\t' || c == '\r'

/-- The text after its leading blanks. -/
def skipBlanks (cs : List Char) : List Char :=
  cs.dropWhile isBlank

/-! ## Strings -/

/-- The unit that four hexadecimal digits stand for. -/
def unit? (a b c d : Char) : Option Nat :=
  Digits.natural? 16 [a, b, c, d]

/-- The character that a letter after a backslash stands for. -/
def unescape? : Char → Option Char
  | '"' => some '"'
  | '\\' => some '\\'
  | '/' => some '/'
  | 'b' => some '\x08'
  | 'f' => some '\x0c'
  | 'n' => some '\n'
  | 'r' => some '\r'
  | 't' => some '\t'
  | _ => none

/-- The characters of a string up to its closing quote, and what follows the quote. A unit of the upper half of a
pair must be followed by one of the lower half. -/
def readChars : List Char → Option (List Char × List Char)
  | [] => none
  | '"' :: rest => some ([], rest)
  | '\\' :: 'u' :: a :: b :: c :: d :: rest =>
    match unit? a b c d with
    | none => none
    | some u =>
      if u < 0xD800 ∨ 0xDFFF < u then (readChars rest).map fun r => (Char.ofNat u :: r.1, r.2)
      else if 0xDBFF < u then none
      else
        match rest with
        | '\\' :: 'u' :: e :: f :: g :: h :: rest' =>
          match unit? e f g h with
          | none => none
          | some l =>
            if l < 0xDC00 ∨ 0xDFFF < l then none
            else
              (readChars rest').map fun r =>
                (Char.ofNat (0x10000 + (u - 0xD800) * 0x400 + (l - 0xDC00)) :: r.1, r.2)
        | _ => none
  | '\\' :: c :: rest =>
    match unescape? c with
    | none => none
    | some c => (readChars rest).map fun r => (c :: r.1, r.2)
  | c :: rest => if c.toNat < 0x20 then none else (readChars rest).map fun r => (c :: r.1, r.2)

/-! ## Numbers -/

/-- The longest beginning of the digits that fits 64 bits after `n`, and how many digits it has. -/
def leading (n : Nat) : List Char → Nat × Nat
  | [] => (n, 0)
  | c :: rest =>
    let m := 10 * n + (c.toNat - '0'.toNat)
    if m < Nat.pow 2 64 then
      let (v, k) := leading m rest
      (v, k + 1)
    else (n, 0)

/-- `significand * 10 ^ exponent`: one rounding for the significand, one for the power, one for the result. Nothing
beyond the greatest finite number is a value. -/
def scaleDecimal (negative : Bool) (significand : Nat) (exponent : Int) : Option Binary64 :=
  let step (x : Binary64) (power : Int) (divide : Bool) : Binary64 :=
    match x, Binary64.ofDecimal false 1 power with
    | .finite _ m e, .finite _ m' e' => Binary64.combine negative (m, e) (m', e') divide
    | _, _ => x
  let start := Binary64.nearestRatio negative significand 1
  let result :=
    if significand = 0 then start
    else if 308 < exponent then .infinite negative
    else if 0 ≤ exponent then step start exponent false
    else if -308 ≤ exponent then step start (-exponent) true
    else if exponent < -616 then .zero negative
    else step (step start 308 true) (-(exponent + 308)) true
  if result.isFinite then some result else none

/-- The exponent after the letter `e`, if there is one, and what follows it. -/
def readExponent : List Char → Option (Int × List Char)
  | c :: rest =>
    if c = 'e' ∨ c = 'E' then
      let (negative, rest) :=
        match rest with
        | '+' :: r => (false, r)
        | '-' :: r => (true, r)
        | r => (false, r)
      let (ds, rest) := Digits.split rest
      if ds.isEmpty then none
      else
        let n : Int := Digits.decimal ds
        some (if negative then -n else n, rest)
    else some (0, c :: rest)
  | [] => some (0, [])

/-- A number without its sign. -/
def readMagnitude (negative : Bool) (cs : List Char) : Option (Number × List Char) :=
  let (whole, rest) := Digits.split cs
  match whole with
  | [] => none
  | '0' :: _ :: _ => none
  | _ =>
    let fraction :=
      match rest with
      | '.' :: r => some (Digits.split r)
      | _ => none
    match fraction with
    | some ([], _) => none
    | _ =>
      let after := (fraction.map (·.2)).getD rest
      match readExponent after with
      | none => none
      | some (exponent, rest') =>
        if fraction.isNone && rest'.length == after.length && Digits.decimal whole < Nat.pow 2 64
            && !(negative && (Digits.decimal whole = 0 || Nat.pow 2 63 < Digits.decimal whole)) then
          some (if negative then .negative (Digits.decimal whole) else .natural (Digits.decimal whole), rest')
        else
          let (v, k) := leading 0 whole
          let dropped := whole.length - k
          let (v, k) := if dropped = 0 then leading v ((fraction.map (·.1)).getD []) else leading v []
          (scaleDecimal negative v (dropped - k + exponent)).map fun x => (.real x, rest')

/-- A number. -/
def readNumber : List Char → Option (Number × List Char)
  | '-' :: rest => readMagnitude true rest
  | cs => readMagnitude false cs

/-! ## Values -/

mutual

/-- A value after blanks. -/
def readValue : Nat → List Char → Option (Json × List Char)
  | 0, _ => none
  | fuel + 1, cs =>
    match skipBlanks cs with
    | 'n' :: 'u' :: 'l' :: 'l' :: rest => some (.null, rest)
    | 't' :: 'r' :: 'u' :: 'e' :: rest => some (.bool true, rest)
    | 'f' :: 'a' :: 'l' :: 's' :: 'e' :: rest => some (.bool false, rest)
    | '"' :: rest => (readChars rest).map fun r => (.string (String.ofList r.1), r.2)
    | '[' :: rest =>
      match skipBlanks rest with
      | ']' :: rest' => some (.array [], rest')
      | rest' => (readItems fuel rest').map fun r => (.array r.1, r.2)
    | '\x7b' :: rest =>
      match skipBlanks rest with
      | '\x7d' :: rest' => some (.object [], rest')
      | rest' => (readFields fuel rest').map fun r => (.object (sortFields r.1), r.2)
    | rest => (readNumber rest).map fun r => (.number r.1, r.2)

/-- Items up to the closing bracket. -/
def readItems : Nat → List Char → Option (List Json × List Char)
  | 0, _ => none
  | fuel + 1, cs =>
    match readValue fuel cs with
    | none => none
    | some (v, rest) =>
      match skipBlanks rest with
      | ',' :: rest' => (readItems fuel rest').map fun r => (v :: r.1, r.2)
      | ']' :: rest' => some ([v], rest')
      | _ => none

/-- Fields up to the closing brace, in the order of the text. -/
def readFields : Nat → List Char → Option (List (String × Json) × List Char)
  | 0, _ => none
  | fuel + 1, cs =>
    match skipBlanks cs with
    | '"' :: rest =>
      match readChars rest with
      | none => none
      | some (k, rest) =>
        match skipBlanks rest with
        | ':' :: rest =>
          match readValue fuel rest with
          | none => none
          | some (v, rest) =>
            match skipBlanks rest with
            | ',' :: rest' => (readFields fuel rest').map fun r => ((String.ofList k, v) :: r.1, r.2)
            | '\x7d' :: rest' => some ([(String.ofList k, v)], rest')
            | _ => none
        | _ => none
    | _ => none

end

/-- Reads a text that is one value. Every step of the grammar takes a character, so the fuel lasts. -/
def read (s : String) : Option Json :=
  match readValue (2 * s.toList.length + 2) s.toList with
  | some (v, rest) => if (skipBlanks rest).isEmpty then some v else none
  | none => none

end TaskHeader.Json
