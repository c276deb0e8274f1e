import TaskHeader.Text.Blank

/-!
# Types of values

A function takes and returns scalars; a parameter may also be an array with up to 255 dimensions. A type is
written as the keyword of its scalar followed by one pair of brackets for each dimension, and read with blanks
allowed at both ends and before the brackets. Reading undoes writing (`ValueType.parse_text`).
-/

namespace TaskHeader

/-- The scalars that functions take and return. -/
inductive ScalarType where
  | int
  | int64
  | bool
  deriving DecidableEq, Repr, Inhabited

namespace ScalarType

/-- The word for the scalar in a descriptor. -/
def keyword : ScalarType → String
  | .int => "int"
  | .int64 => "int64"
  | .bool => "bool"

/-- All scalars, in the order in which messages list them. -/
def all : List ScalarType :=
  [.int, .int64, .bool]

/-- The scalar that a word stands for. -/
def ofKeyword? (s : String) : Option ScalarType :=
  all.find? (·.keyword == s)

@[simp]
theorem ofKeyword?_keyword (t : ScalarType) : ofKeyword? t.keyword = some t := by
  cases t <;> decide

theorem eq_keyword_of_ofKeyword? {s : String} {t : ScalarType} (h : ofKeyword? s = some t) : s = t.keyword := by
  have h := List.find?_some h
  exact (beq_iff_eq.1 h).symm

end ScalarType

/-- Why a text is no type. -/
inductive TypeError where
  /-- What stands before the brackets is no scalar. -/
  | unknownScalar (base : String)
  /-- What follows the scalar is not up to 255 pairs of brackets. -/
  | malformedArray (text : String)
  deriving DecidableEq, Repr

/-- The message for the reader of a descriptor. -/
def TypeError.message : TypeError → String
  | .unknownScalar base => "unknown scalar type '" ++ base ++ "' (expected int, int64 or bool)"
  | .malformedArray text => "malformed array suffix in type '" ++ text ++ "'"

/-- Reads a word as a scalar, with nothing around it. -/
def ScalarType.parse (s : String) : Except TypeError ScalarType :=
  match ofKeyword? s with
  | some t => .ok t
  | none => .error (.unknownScalar s)

/-- A scalar, or an array of a scalar. -/
structure ValueType where
  scalar : ScalarType
  /-- The number of dimensions, none for a scalar. -/
  dimensions : Fin 256
  deriving DecidableEq, Repr

namespace ValueType

/-- The type of a scalar. -/
def ofScalar (scalar : ScalarType) : ValueType :=
  ⟨scalar, 0⟩

/-- The type of an array with so many dimensions. -/
def array (scalar : ScalarType) (dimensions : UInt8) : ValueType :=
  ⟨scalar, dimensions.toFin⟩

/-- Whether the type has a dimension. -/
def isArray (t : ValueType) : Bool :=
  0 < t.dimensions.val

/-- One pair of brackets for each dimension. -/
def pairs : Nat → List Char
  | 0 => []
  | n + 1 => '[' :: ']' :: pairs n

/-- The written form: the keyword and the brackets. -/
def text (t : ValueType) : String :=
  t.scalar.keyword ++ String.ofList (pairs t.dimensions.val)

/-- Counts the pairs of brackets that a text consists of, on from `n`. Nothing else may stand in it, and a pair after
the 255th is one too many. -/
def countPairs (n : Fin 256) : List Char → Option (Fin 256)
  | [] => some n
  | '[' :: ']' :: rest => if n = Fin.last 255 then none else countPairs (n + 1) rest
  | _ => none

/-- What stands before the first bracket, without the blanks before the bracket. -/
def baseOf (cs : List Char) : List Char :=
  Text.trimEnd (cs.takeWhile (· != '['))

/-- What stands from the first bracket on. -/
def suffixOf (cs : List Char) : List Char :=
  cs.dropWhile (· != '[')

/-- Reads a type. An unknown scalar is reported whatever follows it. -/
def parse (s : String) : Except TypeError ValueType :=
  let cs := Text.trim s.toList
  match ScalarType.parse (String.ofList (baseOf cs)) with
  | .error e => .error e
  | .ok scalar =>
    match countPairs 0 (suffixOf cs) with
    | some n => .ok ⟨scalar, n⟩
    | none => .error (.malformedArray s)

/-- **The count never wraps around**: it grows by one for each pair, by induction on the text. -/
theorem countPairs_eq_some_iff {n m : Fin 256} {cs : List Char} :
    countPairs n cs = some m ↔ ∃ k, cs = pairs k ∧ n.val + k = m.val := by
  induction n, cs using countPairs.induct with
  | case1 n =>
    simp only [countPairs, Option.some.injEq, Fin.ext_iff]
    constructor
    · intro h
      exact ⟨0, rfl, h⟩
    · rintro ⟨k, hk, h⟩
      cases k with
      | zero => exact h
      | succ k => simp [pairs] at hk
  | case2 rest =>
    have hlast : (Fin.last 255).val = 255 := rfl
    simp only [countPairs, if_true, reduceCtorEq, false_iff, not_exists, not_and]
    intro k hk h
    cases k with
    | zero => simp [pairs] at hk
    | succ k => omega
  | case3 n rest hn ih =>
    have hne : n.val ≠ 255 := fun h => hn (Fin.ext h)
    have hlt : n < Fin.last 255 := Fin.lt_def.2 (by rw [Fin.val_last]; omega)
    have hnext : (n + 1).val = n.val + 1 := Fin.val_add_one_of_lt hlt
    simp only [countPairs, if_neg hn, ih, hnext]
    constructor
    · rintro ⟨k, rfl, h⟩
      exact ⟨k + 1, rfl, by omega⟩
    · rintro ⟨k, hk, h⟩
      cases k with
      | zero => simp [pairs] at hk
      | succ k =>
        simp only [pairs, List.cons.injEq, true_and] at hk
        exact ⟨k, hk, by omega⟩
  | case4 n cs hnil hpair =>
    rw [countPairs]
    · simp only [reduceCtorEq, false_iff, not_exists, not_and]
      intro k hk
      cases k with
      | zero => exact absurd hk hnil
      | succ k => exact absurd hk (hpair _)
    all_goals assumption

@[simp]
theorem countPairs_pairs (n : Fin 256) : countPairs 0 (pairs n.val) = some n :=
  countPairs_eq_some_iff.2 ⟨n.val, rfl, Nat.zero_add _⟩

theorem mem_pairs {c : Char} {n : Nat} (h : c ∈ pairs n) : c = '[' ∨ c = ']' := by
  induction n with
  | zero => simp [pairs] at h
  | succ n ih =>
    simp only [pairs, List.mem_cons] at h
    rcases h with h | h | h
    · exact .inl h
    · exact .inr h
    · exact ih h

theorem all_keyword (s : ScalarType) : s.keyword.toList.all (fun c => !Text.isBlank c) = true := by
  cases s <;> decide

theorem isBlank_of_mem_text {t : ValueType} {c : Char} (h : c ∈ t.text.toList) : Text.isBlank c = false := by
  simp only [text, String.toList_append, String.toList_ofList, List.mem_append] at h
  rcases h with h | h
  · simpa using List.all_eq_true.1 (all_keyword t.scalar) c h
  · rcases mem_pairs h with rfl | rfl <;> decide

theorem takeWhile_text (t : ValueType) : t.text.toList.takeWhile (· != '[') = t.scalar.keyword.toList := by
  obtain ⟨s, n, hn⟩ := t
  cases s <;> cases n <;>
    simp [text, ScalarType.keyword, pairs, List.takeWhile]

theorem suffixOf_text (t : ValueType) : suffixOf t.text.toList = pairs t.dimensions.val := by
  obtain ⟨s, n, hn⟩ := t
  cases s <;> cases n <;>
    simp [suffixOf, text, ScalarType.keyword, pairs, List.dropWhile]

theorem baseOf_text (t : ValueType) : baseOf t.text.toList = t.scalar.keyword.toList := by
  rw [baseOf, takeWhile_text]
  cases t.scalar <;> decide

@[simp]
theorem parse_text (t : ValueType) : parse t.text = .ok t := by
  have hb : String.ofList t.scalar.keyword.toList = t.scalar.keyword := String.ofList_toList
  unfold parse
  simp only [Text.trim_eq_self fun _ h => isBlank_of_mem_text h, baseOf_text, suffixOf_text, hb, ScalarType.parse,
    ScalarType.ofKeyword?_keyword, countPairs_pairs]

end ValueType

end TaskHeader
