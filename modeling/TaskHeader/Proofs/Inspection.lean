import TaskHeader.Proofs.Acceptance
import TaskHeader.Proofs.JsonText
import TaskHeader.Proofs.Presentation

/-!
# A task that is shown is read back

`inspect` shows a task as JSON. The text gives the task back: a task is written without numbers, so its value is read
back from its lines (`Json.read_of_pretty`) with the fields of each object sorted. Sorting makes no difference to what
an object gives, since no object that is written has a name twice (`Json.gives_sorted`), so every record is read as a
presentation of itself (`presentedIn_toJson` of each record). Hence reading undoes writing, two tasks with one text are
one task, and what `inspect` shows is what was loaded (`Task.text_reads_back`).
-/

namespace TaskHeader

/-- Reads the text of a JSON value as a task. -/
def Task.ofText? (text : String) : Option Task :=
  (Json.read text).bind fun j => (Task.ofJson j).toOption

/-! ## Lists -/

namespace Json

variable {α : Type} {write : α → Json} {as : List α}

theorem sortedItems_map : sortedItems (as.map write) = as.map fun a => (write a).sorted := by
  induction as with
  | nil => rfl
  | cons a as ih => rw [List.map_cons, sortedItems, ih, List.map_cons]

/-- A list is written as an array that presents it, if its items are. -/
theorem lists_map {present : α → Json → Prop} (h : ∀ a, present a (write a).sorted) :
    grammar.Lists present as (Json.array (as.map write)).sorted := by
  refine ⟨as.map fun a => (write a).sorted, ?_, ?_⟩
  · rw [sorted, sortedItems_map, grammar_list]
  · rw [List.forall₂_map_right_iff, List.forall₂_same]
    intro a _
    exact h a

theorem numberlessItems_map (h : ∀ a, (write a).Numberless) : NumberlessItems (as.map write) := by
  induction as with
  | nil => trivial
  | cons a as ih => exact ⟨h a, ih⟩

/-! ## Sorted fields -/

@[simp]
theorem sorted_string (s : String) : (string s).sorted = string s := rfl

/-- A field of a new name stands beside the others, wherever its place is. -/
theorem insert_perm {name : String} {value : Json} :
    ∀ {fields : List (String × Json)}, name ∉ fields.map (·.1) →
      (insert name value fields).Perm ((name, value) :: fields)
  | [], _ => .refl _
  | (k, v) :: rest, h => by
    rw [List.map_cons, List.mem_cons, not_or] at h
    obtain ⟨hne, hrest⟩ := h
    rw [insert]
    by_cases hlt : name < k
    · rw [if_pos hlt]
    · rw [if_neg hlt, if_neg hne]
      exact ((insert_perm hrest).cons (k, v)).trans (.swap _ _ _)

/-- Sorting keeps the fields of an object that has no name twice. -/
theorem sortFields_perm {fields : List (String × Json)} (h : (fields.map (·.1)).Nodup) :
    (sortFields fields).Perm fields := by
  have hfold : ∀ (fields before : List (String × Json)), ((before ++ fields).map (·.1)).Nodup →
      (fields.foldl (fun sorted f => insert f.1 f.2 sorted) before).Perm (before ++ fields) := by
    intro fields
    induction fields with
    | nil =>
      intro before _
      rw [List.append_nil]
      exact .refl _
    | cons f fields ih =>
      intro before hnodup
      have hmiddle : (before ++ f :: fields).Perm ((f :: before) ++ fields) := List.perm_middle
      have hfresh : (((f :: before) ++ fields).map (·.1)).Nodup := (hmiddle.map _).nodup_iff.1 hnodup
      have hinsert : (insert f.1 f.2 before).Perm (f :: before) := by
        refine insert_perm fun hmem => ?_
        rw [List.cons_append, List.map_cons, List.nodup_cons, List.map_append] at hfresh
        exact hfresh.1 (List.mem_append_left _ hmem)
      have hall := hinsert.append_right fields
      exact ((ih _ ((hall.map _).nodup_iff.2 hfresh)).trans hall).trans hmiddle.symm
  exact hfold fields [] h

/-- In an object that has no name twice, a field has the value that stands beside its name. -/
theorem get?_eq_some_iff {name : String} {value : Json} : ∀ {fields : List (String × Json)},
    (fields.map (·.1)).Nodup → ((object fields).get? name = some value ↔ (name, value) ∈ fields)
  | [], _ => by simp [get?]
  | (k, v) :: rest, h => by
    rw [List.map_cons, List.nodup_cons] at h
    obtain ⟨hfresh, hrest⟩ := h
    have ih : (object rest).get? name = some value ↔ (name, value) ∈ rest := get?_eq_some_iff hrest
    by_cases hk : k = name
    · subst hk
      have hother : (k, value) ∉ rest := fun hmem => hfresh (List.mem_map.2 ⟨_, hmem, rfl⟩)
      simp [get?, hother, eq_comm]
    · have hskip : (object ((k, v) :: rest)).get? name = (object rest).get? name := by
        simp [get?, hk]
      rw [hskip, ih]
      simp [Ne.symm hk]

variable {names : List String} {found : List (Option Json)} {fields : List (String × Json)}

/-- **An object gives the same values when its fields are sorted.** -/
theorem gives_sorted (h : ((sortedFields fields).map (·.1)).Nodup)
    (hgives : (object (sortedFields fields)).Gives names found) : (object fields).sorted.Gives names found := by
  obtain ⟨hcount, rfl⟩ := hgives
  have hperm := sortFields_perm h
  have hsorted := (hperm.map (·.1)).nodup_iff.2 h
  rw [sorted]
  refine ⟨fun name hname => ?_, List.map_congr_left fun name _ => ?_⟩
  · rw [(hperm.map (·.1)).count_eq]
    exact hcount name hname
  · have hget : (object (sortedFields fields)).get? name = (object (sortFields (sortedFields fields))).get? name :=
      Option.ext fun value => by rw [get?_eq_some_iff h, get?_eq_some_iff hsorted, hperm.mem_iff]
    exact hget

end Json

/-! ## Records -/

/-- A scalar is written as its keyword. -/
theorem ScalarType.presentedBy_toJson (t : ScalarType) : t.PresentedBy t.toJson.sorted :=
  .inl rfl

/-- A type is written as its text. -/
theorem ValueType.presentedIn_toJson (t : ValueType) : t.PresentedIn Json.grammar t.toJson.sorted :=
  ⟨t.text, rfl, parse_text t⟩

theorem Parameter.presentedIn_toJson (p : Parameter) : p.PresentedIn Json.grammar p.toJson.sorted := by
  refine ⟨p.type.toJson.sorted, ?_, p.type.presentedIn_toJson⟩
  exact Json.gives_sorted (by simp [Json.sortedFields]) (by simp [Json.sortedFields, Json.Gives, Grammar.ByName])

theorem Signature.presentedIn_toJson (f : Signature) : f.PresentedIn Json.grammar f.toJson.sorted := by
  have hparameters : Json.grammar.Lists (Parameter.PresentedIn Json.grammar) f.parameters
      (Json.array (f.parameters.map Parameter.toJson)).sorted :=
    Json.lists_map Parameter.presentedIn_toJson
  obtain ⟨name, parameters, returns⟩ := f
  cases returns with
  | none =>
    refine ⟨some (Json.array (parameters.map Parameter.toJson)).sorted, none, ?_, hparameters, rfl⟩
    exact Json.gives_sorted (by simp [returnsFields, Json.sortedFields])
      (by simp [returnsFields, Json.sortedFields, Json.Gives, Grammar.ByName])
  | some t =>
    refine ⟨some (Json.array (parameters.map Parameter.toJson)).sorted, some t.toJson.sorted, ?_, hparameters,
      t.presentedBy_toJson⟩
    exact Json.gives_sorted (by simp [returnsFields, Json.sortedFields])
      (by simp [returnsFields, Json.sortedFields, Json.Gives, Grammar.ByName])

theorem Signature.lists_listToJson (fs : List Signature) :
    Json.grammar.Lists (PresentedIn Json.grammar) fs (listToJson fs).sorted :=
  Json.lists_map presentedIn_toJson

theorem Interface.presentedIn_toJson (i : Interface) : i.PresentedIn Json.grammar i.toJson.sorted := by
  refine ⟨some (Signature.listToJson i.functions).sorted, some (Signature.listToJson i.callbacks).sorted, ?_,
    Signature.lists_listToJson i.functions, Signature.lists_listToJson i.callbacks⟩
  exact Json.gives_sorted (by simp [Json.sortedFields]) (by simp [Json.sortedFields, Json.Gives, Grammar.ByName])

theorem Driver.presentedIn_toJson (d : Driver) : d.PresentedIn Json.grammar d.toJson.sorted := by
  refine ⟨some (Signature.listToJson d.functions).sorted, ?_, Signature.lists_listToJson d.functions⟩
  exact Json.gives_sorted (by simp [Json.sortedFields]) (by simp [Json.sortedFields, Json.Gives, Grammar.ByName])

theorem Task.presentedIn_toJson (t : Task) : t.PresentedIn Json.grammar t.toJson.sorted := by
  have hinterfaces : Json.grammar.Lists (Interface.PresentedIn Json.grammar) t.interfaces
      (Json.array (t.interfaces.map Interface.toJson)).sorted :=
    Json.lists_map Interface.presentedIn_toJson
  refine ⟨some (Json.array (t.interfaces.map Interface.toJson)).sorted, some t.driver.toJson.sorted, ?_, hinterfaces,
    t.driver.presentedIn_toJson⟩
  exact Json.gives_sorted (by simp [Json.sortedFields]) (by simp [Json.sortedFields, Json.Gives, Grammar.ByName])

/-- **A task is written as a value that is read as the task.** -/
theorem Task.ofJson_toJson (t : Task) : Task.ofJson t.toJson.sorted = .ok t :=
  (read_iff Json.dialect_reads).2 t.presentedIn_toJson

/-! ## Texts -/

theorem Signature.numberless_toJson (f : Signature) : f.toJson.Numberless := by
  have hparameters : Json.NumberlessItems (f.parameters.map Parameter.toJson) :=
    Json.numberlessItems_map fun p => ⟨trivial, trivial, trivial⟩
  obtain ⟨name, parameters, returns⟩ := f
  cases returns with
  | none => exact ⟨trivial, hparameters, trivial⟩
  | some t => exact ⟨trivial, hparameters, trivial, trivial⟩

theorem Signature.numberless_listToJson (fs : List Signature) : (listToJson fs).Numberless :=
  Json.numberlessItems_map numberless_toJson

theorem Interface.numberless_toJson (i : Interface) : i.toJson.Numberless :=
  ⟨trivial, Signature.numberless_listToJson i.functions, Signature.numberless_listToJson i.callbacks, trivial⟩

theorem Task.numberless_toJson (t : Task) : t.toJson.Numberless :=
  ⟨trivial, Json.numberlessItems_map Interface.numberless_toJson,
    ⟨Signature.numberless_listToJson t.driver.functions, trivial⟩, trivial⟩

/-- The text of a task is read back as the task, with or without blanks behind it. -/
theorem Task.read_of_pretty {t : Task} {text : String} {bs : List Char} (hbs : Json.Blank bs)
    (htext : text.toList = Json.prettyAt 0 t.toJson ++ bs) : ofText? text = some t := by
  rw [ofText?, Json.read_of_pretty t.numberless_toJson hbs htext, Option.bind_some, ofJson_toJson]
  rfl

theorem Task.ofText?_toJson (t : Task) : ofText? t.toJson.pretty = some t := by
  have htext : t.toJson.pretty.toList = Json.prettyAt 0 t.toJson ++ [] := by
    rw [Json.pretty, String.toList_ofList, List.append_nil]
  exact read_of_pretty (List.forall_mem_nil _) htext

/-- `inspect` shows a task that is loaded, and nothing if there is none. -/
theorem Command.results_inspect {σ : Type} (files : Files (StateM σ)) (s : σ) (order : List Nat) (path : String) :
    (outcome files order (.inspect path) s).results
      = match files.loading s path with
        | .ok t => t.toJson.pretty ++ "\n"
        | .error _ => "" := by
  have hjob : ((loadJob files path).run s).1 = (files.loading s path).mapError (.load path) := rfl
  rw [outcome, runInOrder, runInspect, run_bind, hjob]
  cases files.loading s path with
  | ok t =>
    have hshown : ∀ text, Outcome.results ⟨[.result text], 0⟩ = text := by simp [Outcome.results]
    exact hshown _
  | error e => rfl

/-- **A task is read back from its text**; so reading, writing and reading again is reading, two tasks with one text
are one task, and what `inspect` shows for a path is read as the task that the path is loaded as, if there is one. -/
theorem Task.text_reads_back :
    (∀ t : Task, ∃ j, Json.read t.toJson.pretty = some j ∧ Task.ofJson j = .ok t) ∧
      (∀ j : Json, (Task.ofJson j).toOption.bind (fun t => ofText? t.toJson.pretty) = (Task.ofJson j).toOption) ∧
      (∀ t₁ t₂ : Task, t₁.toJson.pretty = t₂.toJson.pretty ↔ t₁ = t₂) ∧
      ∀ {σ : Type} (files : Files (StateM σ)) (s : σ) (order : List Nat) (path : String),
        ofText? (Command.outcome files order (.inspect path) s).results = (files.loading s path).toOption := by
  refine ⟨?_, ?_, ?_, ?_⟩
  · intro t
    have htext : t.toJson.pretty.toList = Json.prettyAt 0 t.toJson ++ [] := by simp [Json.pretty]
    exact ⟨_, Json.read_of_pretty t.numberless_toJson (List.forall_mem_nil _) htext, ofJson_toJson t⟩
  · intro j
    cases Task.ofJson j with
    | ok t => simp only [Except.toOption, Option.bind_some, ofText?_toJson]
    | error e => rfl
  · intro t₁ t₂
    constructor
    · intro h
      have hread := ofText?_toJson t₁
      rw [h, ofText?_toJson t₂] at hread
      exact (Option.some.inj hread).symm
    · intro h
      rw [h]
  · intro σ files s order path
    rw [Command.results_inspect]
    cases files.loading s path with
    | ok t =>
      have htext : (t.toJson.pretty ++ "\n").toList = Json.prettyAt 0 t.toJson ++ Json.newline 0 := by
        simp [Json.pretty, Json.newline]
      simp only [Except.toOption, read_of_pretty (Json.blank_newline 0) htext]
    | error e => rfl

/-- A name with a quote, a backslash, a control character and a letter beyond ASCII. -/
example :
    ({ name := "\"\\\x01é" } : Task).toJson.pretty
      = "\x7b\n  \"name\": \"\\\"\\\\\\u0001é\",\n  \"interfaces\": [],\n"
        ++ "  \"driver\": \x7b\n    \"functions\": []\n  \x7d\n\x7d" := by
  decide +kernel

end TaskHeader
