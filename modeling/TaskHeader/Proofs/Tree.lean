import TaskHeader.Proofs.Grammar

/-!
# Trees of tasks

What a descriptor says without its format: a tree of texts, lists and records whose fields have names. The trees of a
task are those that present it in the grammar of trees (`Tree.grammar`): each node of the task chooses the order of its
fields, fields that do not count, and which of the fields that have their default it leaves out.

Trees are nodes of a dialect of their own (`Tree.dialect`), which reads this grammar (`Tree.dialect_reads`).
-/

namespace TaskHeader

/-- A tree of texts, lists and records, with leaves that say nothing. -/
inductive Tree where
  | any
  | text (s : String)
  | list (items : List Tree)
  | record (fields : List (String × Tree))

/-! ## The grammar -/

/-- A record gives values for fields of the given names, one or none for each; it has each of them at most once beside
any others, in any order. -/
def Tree.Gives (names : List String) (found : List (Option Tree)) : Tree → Prop
  | record fields => Grammar.ByName names found fields
  | _ => False

/-- A return type is the word for a scalar; there is no word for none. -/
def ScalarType.ReturnedAs (returns : Option ScalarType) (tree : Tree) : Prop :=
  ∃ t, returns = some t ∧ tree = .text t.keyword

/-- What trees are. -/
def Tree.grammar : Grammar Tree where
  text := .text
  list := .list
  Gives := Tree.Gives
  Returns := ScalarType.ReturnedAs

/-- A tree describes a task. -/
def Task.DescribedBy (t : Task) (tree : Tree) : Prop :=
  t.PresentedIn Tree.grammar tree

/-! ## Reading -/

open Descriptor

namespace Tree

/-- How trees are read. All faults are one. -/
def dialect : Dialect (Except Unit) String Tree where
  resolve := .ok
  fail _ := .error ()
  inNode _ r := r
  inField _ _ r := r
  inItem _ r := r
  name := .ok
  text
    | text s => .ok s
    | _ => .error ()
  items
    | list items => .ok items
    | _ => .error ()
  fields _
    | record fields => .ok (.named fields)
    | _ => .error ()
  returnType
    | text s =>
      match ScalarType.ofKeyword? s with
      | some t => .ok (some t)
      | none => .error ()
    | _ => .error ()

variable {tree : Tree}

theorem text_eq_ok_iff {s : String} : dialect.text tree = .ok s ↔ tree = .text s := by
  cases tree <;> simp [dialect]

theorem items_eq_ok_iff {items : List Tree} : dialect.items tree = .ok items ↔ tree = .list items := by
  cases tree <;> simp [dialect]

theorem fields_eq_ok_iff {record : String} {found : Fields String Tree} :
    dialect.fields record tree = .ok found ↔ ∃ fields, tree = .record fields ∧ found = .named fields := by
  cases tree <;> simp [dialect, eq_comm]

theorem returnType_eq_ok_iff {returns : Option ScalarType} :
    dialect.returnType tree = .ok returns ↔ ScalarType.ReturnedAs returns tree := by
  have hword : ∀ {s : String} {t : ScalarType}, ScalarType.ofKeyword? s = some t ↔ s = t.keyword :=
    ⟨ScalarType.eq_keyword_of_ofKeyword?, fun h => h ▸ ScalarType.ofKeyword?_keyword _⟩
  cases tree with
  | text s =>
    have hread : dialect.returnType (.text s) = .ok returns ↔
        ∃ t, returns = some t ∧ ScalarType.ofKeyword? s = some t := by
      simp only [dialect]
      cases ScalarType.ofKeyword? s <;> simp [eq_comm]
    rw [hread, ScalarType.ReturnedAs]
    simp only [hword, text.injEq]
  | any | list | record => simp [dialect, ScalarType.ReturnedAs]

theorem gives_iff {record : String} {names : List String} {found : List (Option Tree)} :
    dialect.Gives (fun name => name) record names found tree ↔ tree.Gives names found := by
  rw [Dialect.Gives]
  simp only [fields_eq_ok_iff]
  cases tree <;> simp [Fields.Gives, Gives, Grammar.ByName, valueOf]

/-- Trees are read for what they are. -/
theorem dialect_reads : dialect.Reads (fun name => name) grammar where
  resolve _ := rfl
  name _ := rfl
  fail _ _ := nofun
  inNode _ _ _ := .rfl
  inField _ _ _ _ := .rfl
  inItem _ _ _ := .rfl
  text := text_eq_ok_iff
  items := items_eq_ok_iff
  gives := gives_iff
  returnType := returnType_eq_ok_iff

end Tree

/-- **A tree is read as a task exactly if it describes the task.** -/
theorem Task.read_tree_iff {t : Task} {tree : Tree} : readTask Tree.dialect tree = .ok t ↔ t.DescribedBy tree :=
  read_iff Tree.dialect_reads

end TaskHeader
