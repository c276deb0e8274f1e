import TaskHeader.Proofs.Violation

/-!
# Valid tasks

A task is valid when every name in it is an identifier and no scope declares a name twice (`Task.Valid`). Nothing is
found in a task exactly when it is valid, and otherwise what is found are its violations in the order of the four
checks (`findings_eq_nil_iff_valid`).
-/

namespace TaskHeader

/-- A task whose names can all be declared. -/
structure Task.Valid (t : Task) : Prop where
  task_legal : Identifier.Legal t.name
  interfaces_legal : ∀ i ∈ t.interfaces, Identifier.Legal i.name
  functions_legal : ∀ f ∈ t.signatures, Identifier.Legal f.name
  parameters_legal : ∀ f ∈ t.signatures, ∀ p ∈ f.parameters, Identifier.Legal p.name
  interfaces_nodup : (t.interfaces.map (·.name)).Nodup
  functions_nodup : ∀ i ∈ t.interfaces, ((i.functions ++ i.callbacks).map (·.name)).Nodup
  driver_nodup : (t.driver.functions.map (·.name)).Nodup
  parameters_nodup : ∀ f ∈ t.signatures, (f.parameters.map (·.name)).Nodup

theorem Occurrence.illegal_eq_nil_iff {os : List Occurrence} :
    illegal os = [] ↔ ∀ o ∈ os, Identifier.Legal o.name := by
  simp [illegal]

theorem Signature.forall_occurrences {P : String → Prop} {place : Place} {f : Signature} :
    (∀ o ∈ f.occurrences place, P o.name) ↔ P f.name ∧ ∀ p ∈ f.parameters, P p.name := by
  simp [occurrences]

/-- What holds of every name below a task holds of its interfaces, its functions and their parameters. -/
theorem Task.forall_occurrences {P : String → Prop} {t : Task} :
    (∀ o ∈ t.occurrences, P o.name) ↔
      (∀ i ∈ t.interfaces, P i.name) ∧ ∀ f ∈ t.signatures, P f.name ∧ ∀ p ∈ f.parameters, P p.name := by
  have hinterface : ∀ i : Interface, (∀ o ∈ i.occurrences, P o.name) ↔
      P i.name ∧ ∀ f ∈ i.declared, P f.name ∧ ∀ p ∈ f.parameters, P p.name := by
    intro i
    simp only [Interface.occurrences, Interface.declared, List.forall_mem_cons, List.forall_mem_append,
      List.forall_mem_flatMap, Signature.forall_occurrences]
  simp only [occurrences, signatures, List.forall_mem_append, List.forall_mem_flatMap, Signature.forall_occurrences,
    hinterface]
  constructor
  · rintro ⟨hi, hd⟩
    exact ⟨fun i h => (hi i h).1, fun i h => (hi i h).2, hd⟩
  · rintro ⟨hi, hs, hd⟩
    exact ⟨fun i h => ⟨hi i h, hs i h⟩, hd⟩

/-- A task has no violations exactly when it is valid. -/
theorem Task.violations_eq_nil_iff {t : Task} : t.violations = [] ↔ t.Valid := by
  simp only [violations, List.append_eq_nil_iff, Occurrence.illegal_eq_nil_iff, List.forall_mem_cons,
    Task.forall_occurrences, List.map_eq_nil_iff, repeats_eq_nil_iff, List.flatMap_eq_nil_iff, Signature.repeatedIn,
    Signature.repeatedParameters, scopes, List.forall_mem_append, List.forall_mem_map, List.mem_singleton,
    forall_eq]
  constructor
  · rintro ⟨⟨⟨⟨ht, hi, hs⟩, hin⟩, hfn, hdn⟩, hpn⟩
    exact ⟨ht, hi, fun f hf => (hs f hf).1, fun f hf => (hs f hf).2, hin, hfn, hdn, hpn⟩
  · rintro ⟨ht, hi, hf, hp, hin, hfn, hdn, hpn⟩
    exact ⟨⟨⟨⟨ht, hi, fun f h => ⟨hf f h, hp f h⟩⟩, hin⟩, hfn, hdn⟩, hpn⟩

/-- A task that is accepted is valid. -/
theorem Task.valid_of_findings {t : Task} (h : t.validate.findings = []) : t.Valid := by
  rw [Validation.validate_findings] at h
  exact violations_eq_nil_iff.1 h

/-- **Nothing is found in a task exactly when it is valid**, and what is found in general are its violations. -/
theorem Task.findings_eq_nil_iff_valid (t : Task) :
    (t.validate.findings = [] ↔ t.Valid) ∧ t.validate.findings = t.violations := by
  have hfindings := Validation.validate_findings t
  exact ⟨hfindings ▸ Task.violations_eq_nil_iff, hfindings⟩

end TaskHeader
