import TaskHeader.Descriptor.Json
import TaskHeader.Proofs.Grammar

/-!
# Presentations of tasks in JSON

The JSON values that stand for a task are those that present it in the grammar of JSON values (`Json.grammar`): a text
is a string, a list is an array, a record is an object or an array of its fields (`Json.Gives`), and a return type is a
scalar or null. The dialect of JSON values reads this grammar (`Json.dialect_reads`), so a value is read as a task
exactly if it presents the task (`Task.ofJson_eq_ok_iff_presentedBy`).
-/

namespace TaskHeader

/-! ## The grammar -/

/-- A value gives values for fields of the given names, one or none for each: an object by their names, each of which
it has at most once beside any others, and an array by their places, with none beyond the last. -/
def Json.Gives (names : List String) (found : List (Option Json)) : Json → Prop
  | object entries => Grammar.ByName names found entries
  | array values => values.length ≤ names.length ∧ found = (List.range names.length).map fun i => values[i]?
  | _ => False

/-- A scalar is its keyword, or an object with the keyword for its only name and null for the value. -/
def ScalarType.PresentedBy (t : ScalarType) (j : Json) : Prop :=
  j = .string t.keyword ∨ j = .object [(t.keyword, .null)]

/-- A return type is a scalar; null stands for none. -/
def ScalarType.ReturnedBy (returns : Option ScalarType) (j : Json) : Prop :=
  match returns with
  | none => j = .null
  | some t => t.PresentedBy j

/-- What JSON values are. -/
def Json.grammar : Grammar Json where
  text := .string
  list := .array
  Gives := Json.Gives
  Returns := ScalarType.ReturnedBy

@[simp]
theorem Json.grammar_text (s : String) : grammar.text s = .string s := rfl

@[simp]
theorem Json.grammar_list (items : List Json) : grammar.list items = .array items := rfl

/-- A value presents a task. -/
def Task.PresentedBy (t : Task) (j : Json) : Prop :=
  t.PresentedIn Json.grammar j

/-! ## Reading -/

open Descriptor
open Descriptor.FromJson (dialect)

namespace Json

theorem text_eq_ok_iff {s : String} {j : Json} : dialect.text j = .ok s ↔ j = .string s := by
  have htext : dialect.text j = FromJson.text j := rfl
  rw [htext]
  cases j <;> simp [FromJson.text]

theorem items_eq_ok_iff {items : List Json} {j : Json} : dialect.items j = .ok items ↔ j = .array items := by
  have hitems : dialect.items j = FromJson.items j := rfl
  rw [hitems]
  cases j <;> simp [FromJson.items]

theorem gives_iff {record : String} {names : List String} {found : List (Option Json)} {j : Json} :
    dialect.Gives (fun name => name) record names found j ↔ j.Gives names found := by
  have hfields : dialect.Gives (fun name => name) record names found j ↔
      ∃ fields, FromJson.fields record j = .ok fields ∧ fields.Gives (fun name => name) names found := .rfl
  rw [hfields]
  cases j with
  | object entries => simp [FromJson.fields, Fields.Gives, Json.Gives, Grammar.ByName, valueOf]
  | array values => simp [FromJson.fields, Fields.Gives, Json.Gives]
  | null | bool | number | string => simp [FromJson.fields, Json.Gives]

end Json

theorem ScalarType.variant_eq_ok_iff {s : String} {t : ScalarType} : FromJson.variant s = .ok t ↔ s = t.keyword := by
  rw [FromJson.variant]
  constructor
  · intro h
    split at h
    · next t' ht' =>
      obtain rfl := Except.ok.inj h
      exact eq_keyword_of_ofKeyword? ht'
    · cases h
  · rintro rfl
    rw [ofKeyword?_keyword]

theorem ScalarType.scalar_eq_ok_iff {t : ScalarType} {j : Json} : FromJson.scalarType j = .ok t ↔ t.PresentedBy j := by
  cases j with
  | string s => simp [FromJson.scalarType, PresentedBy, variant_eq_ok_iff]
  | object entries =>
    match entries with
    | [] | _ :: _ :: _ => simp [FromJson.scalarType, PresentedBy]
    | [(name, value)] =>
      have hnull : FromJson.scalarType (.object [(name, value)]) = .ok t ↔
          FromJson.variant name = .ok t ∧ value = .null := by
        rw [FromJson.scalarType]
        cases FromJson.variant name with
        | error e => simp
        | ok t' => cases value <;> simp
      simp [hnull, PresentedBy, variant_eq_ok_iff]
  | null | bool | number | array => simp [FromJson.scalarType, PresentedBy]

theorem ScalarType.returnType_eq_ok_iff {returns : Option ScalarType} {j : Json} :
    dialect.returnType j = .ok returns ↔ ReturnedBy returns j := by
  have hdialect : dialect.returnType j = FromJson.returnType j := rfl
  rw [hdialect]
  by_cases hnull : j = .null
  · subst hnull
    cases returns <;> simp [FromJson.returnType, ReturnedBy, PresentedBy]
  · have hscalar : FromJson.returnType j = (FromJson.scalarType j).map some := by
      cases j with
      | null => exact absurd rfl hnull
      | bool | number | string | array | object => rfl
    rw [hscalar, Except.map_eq_ok_iff]
    cases returns <;> simp [scalar_eq_ok_iff, ReturnedBy, hnull]

/-- JSON values are read for what they are. -/
theorem Json.dialect_reads : dialect.Reads (fun name => name) grammar where
  resolve _ := rfl
  name _ := rfl
  fail _ _ := nofun
  inNode _ _ _ := .rfl
  inField _ _ _ _ := .rfl
  inItem _ _ _ := .rfl
  text := text_eq_ok_iff
  items := items_eq_ok_iff
  gives := gives_iff
  returnType := ScalarType.returnType_eq_ok_iff

/-- **A JSON value is read as a task exactly if it presents the task.** -/
theorem Task.ofJson_eq_ok_iff_presentedBy (j : Json) (t : Task) : Task.ofJson j = .ok t ↔ t.PresentedBy j :=
  Task.read_iff Json.dialect_reads

/-- Records by names and by places side by side, with a field that counts for nothing and without a driver. -/
example :
    Task.ofJson (.array
      [.string "t",
       .array
        [.object
          [("note", .null), ("name", .string "i"),
           ("callback_functions", .array [.array [.string "f", .array [], .object [("int64", .null)]]])]]])
      = .ok
        { name := "t"
          interfaces := [{ name := "i", callbacks := [{ name := "f", returns := some .int64 }] }] } := by
  decide

end TaskHeader
