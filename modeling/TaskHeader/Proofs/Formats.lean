import TaskHeader.Descriptor
import TaskHeader.Proofs.Denotation

/-!
# Formats that agree

A text of either format may denote a tree: it is a document of the format, and the document shows the tree. In YAML
texts are scalars that stand for a text, and aliases stand for their nodes as long as there are not too many of them;
in TOML texts are strings. What else a format allows, such as a record by the places of its fields or the same list
written in another way, denotes no tree.

The readings of both formats follow the trees (`FromYaml.dialect_shows`, `FromToml.dialect_shows`), so texts of both
formats that denote a tree of a task load as this task (`Task.ofDescriptor_of_denotes`).
-/

namespace TaskHeader

open Descriptor

/-! ## YAML -/

namespace Yaml

/-- Whether a scalar is a text: by its tag, else because it is quoted or its characters stand for nothing else. -/
def isText (tag : Option String) (plain : Bool) (s : String) : Bool :=
  match tag with
  | some tag => tag == FromYaml.standardTag "str"
  | none => !plain || Plain.ofString s == .text

/-- The text that a node shows. -/
def text? : Node → Option String
  | .scalar _ tag plain s => if isText tag plain s then some s else none
  | _ => none

/-- The node that a node stands for: an alias for the node of its number, any other for itself. -/
def Document.follow? (d : Document) : Node → Option (Node × Nat)
  | .reference _ number => (d.target? number).map fun n => (n, 1)
  | n => some (n, 0)

/-- What the nodes of a document show. -/
def Document.view (d : Document) : View Node Node where
  follow := d.follow?
  name key := (d.follow? key).bind fun r => (text? r.1).map fun s => (s, r.2)
  text := text?
  items
    | .sequence _ _ items => some items
    | _ => none
  fields
    | .mapping _ _ entries => some entries
    | _ => none

/-- A document denotes a tree if it shows the tree with a hundred aliases for each of its steps at most. -/
def Document.Denotes (d : Document) (tree : Tree) : Prop :=
  ∃ k ∈ d.view.cost? tree d.root, k ≤ 100 * d.root.size

end Yaml

namespace Descriptor.FromYaml

open Yaml (Document Node)

/-- A reading gives a result wherever so many more aliases may be followed, and it follows no more than these. -/
def Gives (d : Document) {α : Type} (k : Nat) (r : Reading α) (a : α) : Prop :=
  ∀ followed, followed + k ≤ 100 * d.root.size →
    ∃ followed', followed' ≤ followed + k ∧ r followed = .ok (a, followed')

variable {d : Document} {α β : Type} {r : Reading α} {k : Nat} {a : α}

theorem gives_pure (a : α) : Gives d 0 (pure a) a :=
  fun followed _ => ⟨followed, Nat.le_refl _, rfl⟩

theorem Gives.bind {f : α → Reading β} {j : Nat} {b : β} (hr : Gives d j r a) (hf : Gives d k (f a) b) :
    Gives d (j + k) (r >>= f) b := by
  intro followed hlimit
  obtain ⟨s, hs, hread⟩ := hr followed (by omega)
  obtain ⟨s', hs', hread'⟩ := hf s (by omega)
  refine ⟨s', by omega, ?_⟩
  have hbind : (r >>= f) followed = r followed >>= fun p => f p.1 p.2 := rfl
  rw [hbind, hread]
  exact hread'

theorem Gives.mono {j : Nat} (h : Gives d j r a) (hle : j ≤ k) : Gives d k r a := by
  intro followed hlimit
  obtain ⟨s, hs, hread⟩ := h followed (by omega)
  exact ⟨s, by omega, hread⟩

/-- The place of a fault does not matter where there is none. -/
theorem Gives.onFault (h : Gives d k r a) (change : Fault Place → Fault Place) : Gives d k (onFault change r) a := by
  intro followed hlimit
  obtain ⟨s, hs, hread⟩ := h followed hlimit
  refine ⟨s, hs, ?_⟩
  rw [FromYaml.onFault, hread]
  rfl

/-- An alias is followed for one of those that may be. -/
theorem gives_resolve {n n' : Node} {j : Nat} (h : d.follow? n = some (n', j)) : Gives d j (resolve d n) n' := by
  cases n with
  | reference mark number =>
    obtain ⟨target, htarget, heq⟩ := Option.map_eq_some_iff.1 h
    cases heq
    intro followed hlimit
    refine ⟨followed + 1, Nat.le_refl _, ?_⟩
    have hresolve : resolve d (.reference mark number) followed =
        (if 100 * d.root.size < followed + 1 then fail .repetition else pure n' : Reading Node) (followed + 1) := by
      simp only [resolve, htarget]
      rfl
    rw [hresolve, if_neg (Nat.not_lt.2 hlimit)]
    rfl
  | scalar | sequence | mapping =>
    cases h
    exact gives_pure _

theorem text?_eq_some_iff {n : Node} {s : String} :
    Yaml.text? n = some s ↔ ∃ mark tag plain, n = .scalar mark tag plain s ∧ Yaml.isText tag plain s = true := by
  cases n with
  | scalar mark tag plain s' =>
    rw [Yaml.text?]
    constructor
    · intro h
      split at h
      · next htext =>
        cases h
        exact ⟨mark, tag, plain, rfl, htext⟩
      · cases h
    · rintro ⟨_, _, _, ⟨⟩, htext⟩
      exact if_pos htext
  | sequence | mapping | reference => exact ⟨nofun, fun ⟨_, _, _, h, _⟩ => nomatch h⟩

/-- Every scalar that shows a text is read as the text. -/
theorem gives_text {n : Node} {s : String} (expected : String) (h : Yaml.text? n = some s) :
    Gives d 0 (text expected n) s := by
  obtain ⟨mark, tag, plain, rfl, -⟩ := text?_eq_some_iff.1 h
  exact gives_pure s

theorem gives_name {key : Node} {s : String} {j : Nat} (h : d.view.name key = some (s, j)) :
    Gives d j (name d key) s := by
  obtain ⟨⟨n, i⟩, hfollow, h⟩ := Option.bind_eq_some_iff.1 h
  obtain ⟨s', htext, heq⟩ := Option.map_eq_some_iff.1 h
  cases heq
  have hread : Gives d 0 (inNode n (text "field identifier" n)) s := (gives_text _ htext).onFault _
  exact Gives.bind (k := 0) (gives_resolve hfollow) hread

/-- The tag of a text is none that a document makes up. -/
theorem localTag?_of_isText {tag : Option String} {plain : Bool} {s : String} (h : Yaml.isText tag plain s = true) :
    localTag? tag = none := by
  cases tag with
  | none => rfl
  | some tag =>
    obtain rfl : tag = standardTag "str" := beq_iff_eq.1 h
    decide

/-- The word for a scalar is a return type: it is neither nothing nor behind a tag for one. -/
theorem gives_returnType {n : Node} {t : ScalarType} (h : Yaml.text? n = some t.keyword) :
    Gives d 0 (returnType n) (some t) := by
  obtain ⟨mark, tag, plain, rfl, htext⟩ := text?_eq_some_iff.1 h
  have hword : variant t.keyword = pure t := by
    rw [variant, ScalarType.ofKeyword?_keyword]
  have hscalar : Gives d 0 (scalarType (.scalar mark tag plain t.keyword)) t := by
    simp only [scalarType, localTag?_of_isText htext, hword]
    exact (gives_pure t).onFault _
  have hsome : Gives d 0 (do return some (← scalarType (.scalar mark tag plain t.keyword))) (some t) :=
    hscalar.bind (k := 0) (gives_pure (some t))
  have hreturn : returnType (.scalar mark tag plain t.keyword)
      = (do return some (← scalarType (.scalar mark tag plain t.keyword))) := by
    cases plain with
    | false => rfl
    | true =>
      cases tag with
      | none =>
        have hword : (t.keyword.isEmpty || Yaml.Plain.isNull t.keyword) = false := by cases t <;> decide
        simp only [returnType, hword, Bool.false_eq_true, if_false]
      | some tag =>
        obtain rfl : tag = standardTag "str" := beq_iff_eq.1 htext
        have htag : (standardTag "str" == standardTag "null") = false := by decide
        simp only [returnType, htag, Bool.false_eq_true, if_false]
  rw [hreturn]
  exact hsome

/-- **YAML is read as its nodes show.** -/
theorem dialect_shows (d : Document) : (dialect d).Shows d.view (Gives d) where
  pure := gives_pure
  bind := Gives.bind
  mono := Gives.mono
  inNode _ _ _ _ h := h.onFault _
  inField _ _ _ _ _ h := h.onFault _
  inItem _ _ _ _ h := h.onFault _
  resolve := gives_resolve
  name := gives_name
  text := gives_text "a string"
  items := by
    intro n ns h
    cases n with
    | sequence mark tag items =>
      cases h
      exact gives_pure _
    | scalar | mapping | reference => cases h
  fields := by
    intro record n es h
    cases n with
    | mapping mark tag entries =>
      cases h
      exact gives_pure _
    | scalar | sequence | reference => cases h
  returnType := gives_returnType

/-- A document is read as the task of a tree that it denotes. -/
theorem ofYaml_of_denotes {t : Task} {tree : Tree} (ht : t.DescribedBy tree) (hd : d.Denotes tree) :
    Task.ofYaml d = .ok t := by
  obtain ⟨k, hk, hlimit⟩ := hd
  have hread := readTask_follows (dialect_shows d) hk (Task.read_tree_iff.2 ht)
  rw [← Nat.zero_add k] at hlimit
  obtain ⟨followed, -, hread⟩ := hread 0 hlimit
  have hrun : Task.ofYaml d = (readTask (dialect d) d.root 0).map (·.1) := rfl
  rw [hrun, hread]
  rfl

end Descriptor.FromYaml

/-! ## TOML -/

namespace Toml

/-- What values show. -/
def view : View Key Value where
  follow v := some (v, 0)
  name key := some (key.name, 0)
  text
    | .string s _ => some s
    | _ => none
  items
    | .array items _ _ => some items
    | _ => none
  fields
    | .table _ entries _ => some entries
    | _ => none

/-- A value denotes a tree if it shows the tree. -/
def Value.Denotes (v : Value) (tree : Tree) : Prop :=
  (view.cost? tree v).isSome = true

end Toml

namespace Descriptor.FromToml

open Toml (Value)

/-- **TOML is read as its values show.** There are no aliases to count. -/
theorem dialect_shows : dialect.Shows Toml.view fun _ r a => r = .ok a where
  pure _ := rfl
  bind hx hf := by
    rw [hx]
    exact hf
  mono h _ := h
  inNode _ _ _ _ h := by
    rw [h]
    rfl
  inField _ _ _ _ _ h := by
    rw [h]
    rfl
  inItem _ _ _ _ h := h
  resolve h := by
    cases h
    rfl
  name h := by
    cases h
    rfl
  text := by
    intro v s h
    cases v with
    | string s' span =>
      cases h
      rfl
    | integer | real | boolean | moment | array | table => cases h
  items := by
    intro v vs h
    cases v with
    | array items ofTables span =>
      cases h
      rfl
    | string | integer | real | boolean | moment | table => cases h
  fields := by
    intro record v es h
    cases v with
    | table origin entries span =>
      cases h
      rfl
    | string | integer | real | boolean | moment | array => cases h
  returnType := by
    intro v t h
    cases v with
    | string s span =>
      cases h
      have hread : dialect.returnType (.string t.keyword span) = settle (some span) ((variant t.keyword).map some) := rfl
      rw [hread, variant, ScalarType.ofKeyword?_keyword]
      rfl
    | integer | real | boolean | moment | array | table => cases h

/-- A value is read as the task of a tree that it denotes. -/
theorem ofToml_of_denotes {t : Task} {tree : Tree} {v : Value} (ht : t.DescribedBy tree) (hv : v.Denotes tree) :
    Task.ofToml v = .ok t := by
  obtain ⟨k, hk⟩ := Option.isSome_iff_exists.1 hv
  exact readTask_follows dialect_shows hk (Task.read_tree_iff.2 ht)

end Descriptor.FromToml

/-! ## Texts -/

/-- A text of a format denotes a tree: it is a document of the format that does. -/
def Format.Denotes (content : String) (tree : Tree) : Format → Prop
  | yaml => ∃ d ∈ Yaml.Document.parse? content, d.Denotes tree
  | toml => ∃ v ∈ Toml.document? content, v.Denotes tree

instance Format.decidableDenotes (content : String) (tree : Tree) (format : Format) :
    Decidable (format.Denotes content tree) :=
  match format with
  | yaml => inferInstanceAs (Decidable (∃ d ∈ Yaml.Document.parse? content,
      ∃ k ∈ d.view.cost? tree d.root, k ≤ 100 * d.root.size))
  | toml => inferInstanceAs (Decidable (∃ v ∈ Toml.document? content, (Toml.view.cost? tree v).isSome = true))

/-- **Texts that denote a tree of a task load as the task**, in either format. The tree chooses the order of fields,
fields that do not count, spellings of types and which defaults are left out, so texts in which these differ, of one
format or of both, load alike. -/
theorem Task.ofDescriptor_of_denotes (t : Task) (tree : Tree) (ht : t.DescribedBy tree) (format : Format)
    (content : String) (hcontent : format.Denotes content tree) : Task.ofDescriptor format content = .ok t := by
  cases format with
  | yaml =>
    obtain ⟨d, hd, hdenotes⟩ := hcontent
    have hparse : Yaml.Document.parse? content = some d := hd
    simp only [ofDescriptor, hparse, Descriptor.FromYaml.ofYaml_of_denotes ht hdenotes]
    rfl
  | toml =>
    obtain ⟨v, hv, hdenotes⟩ := hcontent
    have hparse : Toml.document? content = some v := hv
    simp only [ofDescriptor, hparse, Descriptor.FromToml.ofToml_of_denotes ht hdenotes]
    rfl

/-- A task with an interface of the same name. -/
def sampleTask : Task :=
  { name := "t"
    interfaces := [{ name := "t", functions := [{ name := "f", parameters := [⟨"a", .array .int 1⟩] }] }] }

/-- The task with a field that does not count, without the fields that have their default, with the fields of the
parameter in another order and with a blank in its type. -/
def sampleTree : Tree :=
  .record
    [("note", .any), ("name", .text "t"),
     ("interfaces",
      .list
        [.record
          [("name", .text "t"),
           ("functions",
            .list
              [.record
                [("name", .text "f"),
                 ("parameters", .list [.record [("type", .text "int []"), ("name", .text "a")]])]])]])]

/-- The name of the interface is an alias. -/
def sampleYaml : String :=
  "note: 1\n" ++
    "name: &t t\n" ++
    "interfaces:\n" ++
    "- name: *t\n" ++
    "  functions:\n" ++
    "  - name: 'f'\n" ++
    "    parameters:\n" ++
    "    - type: int []\n" ++
    "      name: a\n"

def sampleToml : String :=
  "note = 1\n" ++
    "name = 't'\n" ++
    "[[interfaces]]\n" ++
    "name = 't'\n" ++
    "[[interfaces.functions]]\n" ++
    "name = 'f'\n" ++
    "parameters = [\x7btype = 'int []', name = 'a'\x7d]\n"

theorem Task.ofDescriptor_of_denotes_samples :
    sampleTask.DescribedBy sampleTree ∧ Format.yaml.Denotes sampleYaml sampleTree ∧
      Format.toml.Denotes sampleToml sampleTree ∧ Task.ofDescriptor .yaml sampleYaml = .ok sampleTask ∧
      Task.ofDescriptor .toml sampleToml = .ok sampleTask := by
  have htree : sampleTask.DescribedBy sampleTree := Task.read_tree_iff.1 (by decide +kernel)
  have hyaml : Format.yaml.Denotes sampleYaml sampleTree := by decide +kernel
  have htoml : Format.toml.Denotes sampleToml sampleTree := by decide +kernel
  exact ⟨htree, hyaml, htoml, ofDescriptor_of_denotes _ _ htree .yaml _ hyaml,
    ofDescriptor_of_denotes _ _ htree .toml _ htoml⟩

end TaskHeader
