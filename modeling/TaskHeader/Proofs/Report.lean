import TaskHeader.Proofs.Violation

/-!
# The events of a report

A report has findings and events. A finding of a repeated name leaves one event and no other finding leaves any
(`Report.Told`): the checks put down both at once and joining reports keeps the property, so the report of a task has it
(`Task.told_validate`). The event for an interface names the task as its scope, which the finding does not.

So each repeated name of a task is reported once (`Task.repetitions_reported`), and a task leaves no event exactly when
no scope of it declares a name twice (`Task.Distinct`).
-/

namespace TaskHeader

/-! ## Events of findings -/

/-- The event that a finding leaves; none for a name that is no identifier. -/
def Finding.event? (taskName : String) : Finding → Option Event
  | duplicateInterface name => some (.duplicateName "interface" taskName name)
  | duplicateFunction scope name => some (.duplicateName "function" scope name)
  | duplicateParameter function name => some (.duplicateName "parameter" function name)
  | _ => none

/-- Whether a finding is about a repeated name. -/
def Finding.isRepetition : Finding → Bool
  | duplicateInterface _ | duplicateFunction .. | duplicateParameter .. => true
  | _ => false

/-- Each event that a finding leaves is about a repeated name. -/
theorem Finding.of_event? {taskName : String} {f : Finding} {e : Event} (h : f.event? taskName = some e) :
    ∃ kind scope name, e = .duplicateName kind scope name := by
  cases f with
  | duplicateInterface name => exact ⟨_, _, _, (Option.some.inj h).symm⟩
  | duplicateFunction scope name => exact ⟨_, _, _, (Option.some.inj h).symm⟩
  | duplicateParameter function name => exact ⟨_, _, _, (Option.some.inj h).symm⟩
  | invalidIdentifier context name => cases h
  | emptyInterface name => cases h

theorem Finding.isSome_event? (taskName : String) (f : Finding) : (f.event? taskName).isSome = f.isRepetition := by
  cases f <;> rfl

/-- The events of a report are those of its findings. -/
def Report.Told (taskName : String) (r : Report) : Prop :=
  r.events = r.findings.filterMap (·.event? taskName)

namespace Report.Told

variable {taskName : String}

theorem append {r₁ r₂ : Report} (h₁ : r₁.Told taskName) (h₂ : r₂.Told taskName) : (r₁ ++ r₂).Told taskName := by
  rw [Told] at h₁ h₂ ⊢
  rw [events_append, findings_append, List.filterMap_append, h₁, h₂]

theorem concat {α : Type} {check : α → Report} (h : ∀ a, (check a).Told taskName) (as : List α) :
    (Report.concat check as).Told taskName := by
  induction as with
  | nil => rfl
  | cons a as ih => exact (h a).append ih

theorem checkName (context name : String) : (Validation.checkName context name).Told taskName := by
  rw [Validation.checkName]
  split <;> rfl

theorem checkSignature (context : String) (f : Signature) : (Validation.checkSignature context f).Told taskName :=
  (checkName _ _).append (concat (fun _ => checkName _ _) _)

theorem repeated {kind scope : String} {finding : String → Finding}
    (h : ∀ name, (finding name).event? taskName = some (.duplicateName kind scope name)) (names : List String) :
    (Validation.repeated kind scope finding [] names).Told taskName := by
  have hevent : (·.event? taskName) ∘ finding = some ∘ Event.duplicateName kind scope := funext h
  rw [Validation.repeated_eq, Told, Validation.repetitions, List.filterMap_map, hevent, List.filterMap_eq_map]

end Report.Told

namespace Task

/-- **The report of a task tells each repeated name**, in the order of the findings, and nothing else. -/
theorem told_validate (t : Task) : t.validate.Told t.name := by
  have hidentifiers : (Validation.identifiers t).Told t.name := by
    refine ((Report.Told.checkName _ _).append (.concat (fun i => ?_) _)).append
      (.concat (fun f => .checkSignature _ f) _)
    exact ((Report.Told.checkName _ _).append (.concat (fun f => .checkSignature _ f) _)).append
      (.concat (fun f => .checkSignature _ f) _)
  have hinterfaces : (Validation.uniqueInterfaces t).Told t.name := .repeated (fun _ => rfl) _
  have hscope : ∀ scope fs, (Validation.uniqueInScope scope fs).Told t.name := fun _ _ => .repeated (fun _ => rfl) _
  have hsignature : ∀ f, (Validation.uniqueInSignature f).Told t.name := fun _ => .repeated (fun _ => rfl) _
  have hfunctions : (Validation.uniqueFunctions t).Told t.name :=
    (Report.Told.concat (fun _ => hscope _ _) _).append (hscope _ _)
  have hparameters : (Validation.uniqueParameters t).Told t.name :=
    (Report.Told.concat (fun _ => .concat hsignature _) _).append (.concat hsignature _)
  exact ((hidentifiers.append hinterfaces).append hfunctions).append hparameters

/-- The events of the report of a task are errors. -/
theorem level_of_mem_events {t : Task} {e : Event} (h : e ∈ t.validate.events) : e.level = .error := by
  rw [t.told_validate] at h
  obtain ⟨f, -, hf⟩ := List.mem_filterMap.1 h
  obtain ⟨kind, scope, name, rfl⟩ := Finding.of_event? hf
  rfl

/-! ## Tasks without events -/

/-- A task in which no scope declares a name twice. -/
structure Distinct (t : Task) : Prop where
  interfaces : (t.interfaces.map (·.name)).Nodup
  functions : ∀ i ∈ t.interfaces, ((i.functions ++ i.callbacks).map (·.name)).Nodup
  driver : (t.driver.functions.map (·.name)).Nodup
  parameters : ∀ f ∈ t.signatures, (f.parameters.map (·.name)).Nodup

/-- **A task leaves no event exactly when no scope of it declares a name twice.** -/
theorem events_eq_nil_iff {t : Task} : t.validate.events = [] ↔ t.Distinct := by
  have hnames : ∀ os : List Occurrence, ∀ f ∈ Occurrence.illegal os, f.event? t.name = none := by
    intro os
    rw [Occurrence.illegal, List.forall_mem_map]
    exact fun _ _ => rfl
  rw [t.told_validate, List.filterMap_eq_nil_iff, Validation.validate_findings]
  simp only [violations, Signature.repeatedIn, Signature.repeatedParameters, scopes, List.forall_mem_append,
    List.forall_mem_flatMap, List.forall_mem_map, List.mem_singleton, forall_eq]
  -- a repeated name leaves an event, so there is none
  simp only [Finding.event?, reduceCtorEq, imp_false, ← List.eq_nil_iff_forall_not_mem, repeats_eq_nil_iff]
  constructor
  · rintro ⟨⟨⟨-, hinterfaces⟩, hfunctions, hdriver⟩, hparameters⟩
    exact ⟨hinterfaces, hfunctions, hdriver, hparameters⟩
  · rintro ⟨hinterfaces, hfunctions, hdriver, hparameters⟩
    exact ⟨⟨⟨hnames _, hinterfaces⟩, hfunctions, hdriver⟩, hparameters⟩

/-- **Each repeated name is reported once.** The events of a report are errors, one for each finding of a repeated name,
in the order of the findings: its kind, its scope, which for an interface is the task, and the name. There are none
exactly when no scope of the task declares a name twice, as in a task in which nothing is found. -/
theorem repetitions_reported (t : Task) :
    t.validate.events = t.validate.findings.filterMap (·.event? t.name) ∧
      t.validate.events.length = t.validate.findings.countP (·.isRepetition) ∧
      (∀ e ∈ t.validate.events, e.level = .error) ∧
      (t.validate.events = [] ↔ t.Distinct) ∧
      (t.validate.findings = [] → t.validate.events = []) := by
  have htold : t.validate.events = t.validate.findings.filterMap (·.event? t.name) := t.told_validate
  refine ⟨htold, ?_, fun e => level_of_mem_events, events_eq_nil_iff, fun hnothing => ?_⟩
  · rw [htold, List.length_filterMap_eq_countP]
    simp only [Finding.isSome_event?]
  · rw [htold, hnothing, List.filterMap_nil]

/-- A task that repeats a name in a scope of each kind, among names that are no identifiers. -/
def repeatingSample : Task :=
  { name := "t"
    interfaces :=
      [{ name := "a"
         functions :=
          [{ name := "f", parameters := [⟨"x", .ofScalar .int⟩, ⟨"0", .array .int 1⟩, ⟨"x", .ofScalar .bool⟩] }]
         callbacks := [{ name := "f" }] },
        { name := "a", functions := [{ name := "f" }] }]
    driver := { functions := [{ name := "h" }, { name := "new" }, { name := "h" }] } }

theorem repetitions_reported_samples :
    (repeatingSample.validate.events =
        [.duplicateName "interface" "t" "a", .duplicateName "function" "a" "f", .duplicateName "function" "driver" "h",
          .duplicateName "parameter" "f" "x"] ∧
      repeatingSample.validate.findings.countP (·.isRepetition) = 4 ∧ ¬ repeatingSample.Distinct) ∧
      ({ name := "t" } : Task).validate.findings = [] ∧ ({ name := "t" } : Task).validate.events = [] := by
  have hevents : repeatingSample.validate.events =
      [.duplicateName "interface" "t" "a", .duplicateName "function" "a" "f", .duplicateName "function" "driver" "h",
        .duplicateName "parameter" "f" "x"] := by
    decide +kernel
  have hnothing : ({ name := "t" } : Task).validate.findings = [] := by decide +kernel
  obtain ⟨-, hcount, -, hnone, -⟩ := repetitions_reported repeatingSample
  rw [hevents] at hcount hnone
  refine ⟨⟨hevents, hcount.symm, fun hdistinct => ?_⟩, hnothing, (repetitions_reported _).2.2.2.2 hnothing⟩
  exact absurd (hnone.2 hdistinct) (List.cons_ne_nil _ _)

end Task

end TaskHeader
