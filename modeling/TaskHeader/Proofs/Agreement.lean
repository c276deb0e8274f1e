import TaskHeader.Proofs.Line
import TaskHeader.Proofs.Violation

/-!
# Validation and the C++ backend agree

A report walks over the names of a task to the end and names each place in its own words; the backend stops at the
first unusable name and knows three kinds of places. Both visit the same names in the same order
(`mentions_eq_occurrences`), so the backend refuses a task exactly when the report complains of a name below the task,
and it refuses the first one (`cpp_agrees`).
-/

namespace TaskHeader

/-! ## Places in the words of the backend -/

namespace Place

/-- The word of the backend for a place. It never looks at the name of a task. -/
def role : Place → String
  | task => "task"
  | interface => "interface"
  | function _ => "function"
  | callback _ => "function"
  | parameter _ => "parameter"

/-- Whether a text starts with another one. -/
def starts (start s : String) : Bool :=
  start.toList.isPrefixOf s.toList

/-- The word of the backend for what a report calls a place below a task. -/
def roleOf? (context : String) : Option String :=
  if context = "interface" then some "interface"
  else if starts "function in " context || starts "callback in " context then some "function"
  else if starts "parameter of " context then some "parameter"
  else none

theorem context_eq_task_iff {p : Place} : p.context = "task" ↔ p = task := by
  cases p <;> simp [← String.toList_inj]

/-- The words of a report for a place determine the word of the backend. -/
theorem roleOf?_context {p : Place} (h : p ≠ task) : roleOf? p.context = some p.role := by
  cases p with
  | task => exact absurd rfl h
  | interface => rfl
  | function scope =>
    have hne : context (function scope) ≠ "interface" := by simp [← String.toList_inj]
    rw [roleOf?, if_neg hne]
    simp [starts, role]
  | callback scope =>
    have hne : context (callback scope) ≠ "interface" := by simp [← String.toList_inj]
    rw [roleOf?, if_neg hne]
    simp [starts, role]
  | parameter f =>
    have hne : context (parameter f) ≠ "interface" := by simp [← String.toList_inj]
    rw [roleOf?, if_neg hne]
    simp [starts, role, List.isPrefixOf]

end Place

/-! ## The same names in the same order -/

/-- An occurrence in the words of the backend. -/
def Occurrence.mention (o : Occurrence) : Mention :=
  ⟨o.place.role, o.name⟩

theorem Signature.mentions_eq (place : Place) (f : Signature) (h : place.role = "function") :
    f.mentions = (f.occurrences place).map (·.mention) := by
  have hname : Occurrence.mention ⟨place, f.name⟩ = ⟨"function", f.name⟩ := by rw [Occurrence.mention, h]
  rw [mentions, occurrences, List.map_cons, hname, List.map_map]
  rfl

theorem Signature.flatMap_mentions_eq (place : Place) (fs : List Signature) (h : place.role = "function") :
    fs.flatMap (·.mentions) = (fs.flatMap (·.occurrences place)).map (·.mention) := by
  simp only [Signature.mentions_eq place _ h, List.map_flatMap]

theorem Interface.mentions_eq (i : Interface) : i.request.mentions = i.occurrences.map (·.mention) := by
  have hf := Signature.flatMap_mentions_eq (.function i.name) i.functions rfl
  have hc := Signature.flatMap_mentions_eq (.callback i.name) i.callbacks rfl
  simp [BlockRequest.mentions, request, occurrences, hf, hc, Occurrence.mention, Place.role]

/-- **The backend meets the names of a task in the order of their declaration.** -/
theorem Task.mentions_eq_occurrences (t : Task) : t.mentions = t.occurrences.map (·.mention) := by
  have hd : t.driver.request.mentions
      = (t.driver.functions.flatMap (·.occurrences (.function Validation.driverScope))).map (·.mention) := by
    rw [← Signature.flatMap_mentions_eq (.function Validation.driverScope) _ rfl]
    simp [BlockRequest.mentions, Driver.request]
  simp only [mentions, Header.requests, List.flatMap_append, List.flatMap_map, List.flatMap_singleton, occurrences,
    List.map_append, List.map_flatMap, Interface.mentions_eq, hd]

/-! ## The first name refused -/

/-- What a finding says of a name below a task that is no identifier: the words for its place, and the name. -/
def Finding.refused? : Finding → Option (String × String)
  | .invalidIdentifier context name => if context = "task" then none else some (context, name)
  | _ => none

/-- The names below a task that a report complains of, in its order. -/
def Task.refusals (t : Task) : List (String × String) :=
  t.validate.findings.filterMap (·.refused?)

theorem Task.place_ne_task (t : Task) : ∀ o ∈ t.occurrences, o.place ≠ .task := by
  have hsignature : ∀ (place : Place) (f : Signature), place ≠ .task → ∀ o ∈ f.occurrences place, o.place ≠ .task := by
    intro place f h
    simp [Signature.occurrences, h]
  simp only [occurrences, Interface.occurrences, List.forall_mem_append, List.forall_mem_flatMap, List.forall_mem_cons]
  exact ⟨fun i _ => ⟨by simp, fun f _ => hsignature _ f (by simp), fun f _ => hsignature _ f (by simp)⟩,
    fun f _ => hsignature _ f (by simp)⟩

theorem Occurrence.filterMap_illegal {os : List Occurrence} (h : ∀ o ∈ os, o.place ≠ .task) :
    (illegal os).filterMap (·.refused?)
      = (os.filter fun o => ¬ Identifier.Legal o.name).map fun o => (o.place.context, o.name) := by
  induction os with
  | nil => rfl
  | cons o os ih =>
    obtain ⟨ho, hos⟩ := List.forall_mem_cons.1 h
    have hplace : o.place.context ≠ "task" := mt Place.context_eq_task_iff.1 ho
    have hrest := ih hos
    rw [illegal] at hrest ⊢
    by_cases hlegal : Identifier.Legal o.name
    · simpa [hlegal] using hrest
    · simpa [hlegal, Finding.refused?, hplace] using hrest

/-- The names that a report complains of are those that are no identifiers: its other findings say nothing of them. -/
theorem Task.refusals_eq (t : Task) :
    t.refusals = (t.occurrences.filter fun o => ¬ Identifier.Legal o.name).map fun o => (o.place.context, o.name) := by
  have htask : (Occurrence.illegal [⟨.task, t.name⟩]).filterMap (·.refused?) = [] := by
    simp [Occurrence.illegal, List.filterMap_eq_nil_iff, Finding.refused?]
  have hcons : Occurrence.illegal (⟨.task, t.name⟩ :: t.occurrences)
      = Occurrence.illegal [⟨.task, t.name⟩] ++ Occurrence.illegal t.occurrences :=
    Validation.illegal_append [_] _
  simp only [refusals, Validation.validate_findings, violations, hcons, List.filterMap_append, htask,
    Occurrence.filterMap_illegal t.place_ne_task]
  simp [Signature.repeatedIn, Signature.repeatedParameters, List.filterMap_flatMap, Finding.refused?]

/-- The backend refuses the first name that is no identifier, by induction on the names. -/
theorem Occurrence.findSome?_refusal? (os : List Occurrence) :
    (os.map (·.mention)).findSome? Mention.refusal?
      = (os.find? fun o => ¬ Identifier.Legal o.name).map fun o => .invalidIdentifier o.place.role o.name := by
  induction os with
  | nil => rfl
  | cons o os ih =>
    rw [List.map_cons, List.findSome?_cons, ih, List.find?_cons]
    by_cases h : Identifier.usable o.name
    · simp [Mention.refusal?, mention, h, Identifier.usable_iff_legal.1 h]
    · simp [Mention.refusal?, mention, h, mt Identifier.usable_iff_legal.2 h]

/-- **The backend refuses the first name that a report complains of**, and renders a task without such a name. -/
theorem Header.cpp_agrees (t : Task) :
    (t.refusals = [] → ∃ text, cpp t = .ok text) ∧
      (∀ context name rest, t.refusals = (context, name) :: rest →
        ∃ role, Place.roleOf? context = some role ∧ cpp t = .error (.invalidIdentifier role name)) ∧
      (t.validate.findings = [] → ∃ text, cpp t = .ok text) := by
  have hcpp : cpp t = Mention.guarded (t.occurrences.map (·.mention)) (Line.written t.lines) := by
    rw [cpp_eq, Task.mentions_eq_occurrences]
  have haccepted : t.refusals = [] → ∃ text, cpp t = .ok text := by
    intro h
    rw [Task.refusals_eq, List.map_eq_nil_iff, List.filter_eq_nil_iff] at h
    refine ⟨Line.written t.lines, ?_⟩
    rw [hcpp, Mention.guarded, Occurrence.findSome?_refusal?, List.find?_eq_none.2 h]
    rfl
  refine ⟨haccepted, ?_, ?_⟩
  · intro context name rest h
    rw [Task.refusals_eq, List.map_eq_cons_iff] at h
    obtain ⟨o, os, hfilter, ho, -⟩ := h
    obtain ⟨rfl, rfl⟩ := Prod.mk.inj ho
    have hfind := List.head?_filter .. ▸ congrArg List.head? hfilter
    have hmem : o ∈ t.occurrences := List.mem_of_find?_eq_some hfind
    refine ⟨o.place.role, Place.roleOf?_context (t.place_ne_task o hmem), ?_⟩
    rw [hcpp, Mention.guarded, Occurrence.findSome?_refusal?, hfind]
    rfl
  · intro h
    apply haccepted
    rw [Task.refusals, h, List.filterMap_nil]

/-- A task that repeats an interface and has a parameter and a callback that are no identifiers. -/
def Task.refusedSample : Task :=
  { name := "sample"
    interfaces := [{ name := "a", functions := [{ name := "f", parameters := [⟨"2x", .array .int 255⟩] }] },
      { name := "a", callbacks := [{ name := "new" }] }] }

theorem Header.cpp_agrees_samples :
    (Task.refusedSample.refusals = [("parameter of 'f'", "2x"), ("callback in 'a'", "new")] ∧
        cpp Task.refusedSample = .error (.invalidIdentifier "parameter" "2x")) ∧
      (({ name := "class" } : Task).refusals = [] ∧ ∃ text, cpp { name := "class" } = .ok text) ∧
      (({ name := "sum" } : Task).validate.findings = [] ∧ ∃ text, cpp { name := "sum" } = .ok text) := by
  have hrefused : Task.refusedSample.refusals = [("parameter of 'f'", "2x"), ("callback in 'a'", "new")] := by
    decide +kernel
  have hnone : ({ name := "class" } : Task).refusals = [] := by decide +kernel
  have hvalid : ({ name := "sum" } : Task).validate.findings = [] := by decide +kernel
  obtain ⟨role, hrole, hcpp⟩ := (cpp_agrees Task.refusedSample).2.1 _ _ _ hrefused
  have hparameter : Place.roleOf? "parameter of 'f'" = some "parameter" := by decide +kernel
  rw [hparameter, Option.some.injEq] at hrole
  exact ⟨⟨hrefused, hrole ▸ hcpp⟩, ⟨hnone, (cpp_agrees _).1 hnone⟩, ⟨hvalid, (cpp_agrees _).2.2 hvalid⟩⟩

end TaskHeader
