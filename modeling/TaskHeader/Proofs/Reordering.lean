import Mathlib.Data.List.Perm.Basic
import TaskHeader.Proofs.Violation

/-!
# The order of declarations

A task is reordered when interfaces, functions, callbacks or parameters are permuted within their lists, at any number
of places at once (`Task.Reordered`). Which occurrence of a repeated name is blamed depends on the order, but how often
the name is blamed does not: once less than it occurs (`count_repeats`). The other findings name the same things
wherever these stand. So a reordered task has the same findings and the same warnings up to their order
(`findings_perm_of_reordered`), shown level by level: parameters, functions, interfaces, the task.
-/

namespace TaskHeader

/-! ## Repeated names in another order -/

/-- A name is reported once for each occurrence after the first, by induction on the names to come; all occurrences
count when the name was seen earlier. -/
theorem count_repeatsAfter (n : String) : ∀ names earlier : List String,
    (repeatsAfter earlier names).count n = if n ∈ earlier then names.count n else names.count n - 1
  | [], earlier => by simp [repeatsAfter]
  | name :: rest, earlier => by
    rw [repeatsAfter_cons, List.count_append, count_repeatsAfter n rest, List.count_cons]
    by_cases h : name = n
    · subst h
      by_cases hearlier : name ∈ earlier
      · simp [hearlier, Nat.add_comm]
      · simp [hearlier]
    · have h' : n ≠ name := fun e => h e.symm
      have hhead : (if name ∈ earlier then [name] else []).count n = 0 := by
        split <;> simp [h]
      simp [hhead, h, h']

theorem count_repeats (n : String) (names : List String) : (repeats names).count n = names.count n - 1 := by
  simpa [repeatsAfter, repeats] using count_repeatsAfter n names []

/-- Names in another order repeat the same names. -/
theorem repeats_perm {names names' : List String} (h : names.Perm names') : (repeats names).Perm (repeats names') := by
  rw [List.perm_iff_count]
  intro n
  rw [count_repeats, count_repeats, h.count_eq]

/-! ## Reordered tasks -/

/-- A list in another order, with each member changed by `R`. -/
def Rearranged {α : Type} (R : α → α → Prop) (as bs : List α) : Prop :=
  ∃ cs, as.Perm cs ∧ List.Forall₂ R cs bs

/-- A function with its parameters in another order. -/
structure Signature.Reordered (f g : Signature) : Prop where
  name : f.name = g.name
  returns : f.returns = g.returns
  parameters : f.parameters.Perm g.parameters

/-- An interface with its functions and its callbacks in other orders, each of them reordered. -/
structure Interface.Reordered (i j : Interface) : Prop where
  name : i.name = j.name
  functions : Rearranged Signature.Reordered i.functions j.functions
  callbacks : Rearranged Signature.Reordered i.callbacks j.callbacks

/-- A task with its interfaces and the functions of its driver in other orders, each of them reordered. -/
structure Task.Reordered (t u : Task) : Prop where
  name : t.name = u.name
  interfaces : Rearranged Interface.Reordered t.interfaces u.interfaces
  functions : Rearranged Signature.Reordered t.driver.functions u.driver.functions

namespace Rearranged

variable {α β : Type} {R : α → α → Prop} {as bs : List α}

/-- What is collected from the members of a list keeps its members, if what one member gives does. -/
theorem flatMap_perm (h : Rearranged R as bs) {f : α → List β} (hf : ∀ a b, R a b → (f a).Perm (f b)) :
    (as.flatMap f).Perm (bs.flatMap f) := by
  obtain ⟨cs, hperm, hall⟩ := h
  refine (hperm.flatMap_right f).trans ?_
  clear hperm
  induction hall with
  | nil => exact .refl _
  | cons hab _ ih =>
    rw [List.flatMap_cons, List.flatMap_cons]
    exact (hf _ _ hab).append ih

theorem map_perm (h : Rearranged R as bs) {f : α → β} (hf : ∀ a b, R a b → f a = f b) :
    (as.map f).Perm (bs.map f) := by
  have hsingle := h.flatMap_perm (f := fun a => [f a]) fun a b hab => by rw [hf a b hab]
  rwa [← List.map_eq_flatMap, ← List.map_eq_flatMap] at hsingle

theorem eq_nil_iff (h : Rearranged R as bs) : as = [] ↔ bs = [] := by
  obtain ⟨cs, hperm, hall⟩ := h
  rw [← List.length_eq_zero_iff, hperm.length_eq, hall.length_eq, List.length_eq_zero_iff]

end Rearranged

/-! ## Findings of reordered tasks -/

theorem Occurrence.illegal_perm {os os' : List Occurrence} (h : os.Perm os') : (illegal os).Perm (illegal os') :=
  (h.filter _).map _

namespace Signature

variable {f g : Signature}

theorem Reordered.occurrences_perm (h : f.Reordered g) (place : Place) :
    (f.occurrences place).Perm (g.occurrences place) := by
  rw [occurrences, occurrences, h.name]
  exact (h.parameters.map _).cons _

theorem Reordered.repeatedParameters_perm (h : f.Reordered g) :
    f.repeatedParameters.Perm g.repeatedParameters := by
  rw [repeatedParameters, repeatedParameters, h.name]
  exact (repeats_perm (h.parameters.map _)).map _

variable {fs gs : List Signature}

theorem names_perm (h : Rearranged Reordered fs gs) : (fs.map (·.name)).Perm (gs.map (·.name)) :=
  h.map_perm fun _ _ hfg => hfg.name

theorem repeatedIn_perm (scope : String) {fs gs : List Signature} (h : (fs.map (·.name)).Perm (gs.map (·.name))) :
    (repeatedIn scope fs).Perm (repeatedIn scope gs) :=
  (repeats_perm h).map _

end Signature

namespace Interface

variable {i j : Interface}

theorem Reordered.occurrences_perm (h : i.Reordered j) : i.occurrences.Perm j.occurrences := by
  rw [occurrences, occurrences, h.name]
  exact ((h.functions.flatMap_perm fun _ _ hfg => hfg.occurrences_perm _).append
    (h.callbacks.flatMap_perm fun _ _ hfg => hfg.occurrences_perm _)).cons _

/-- Functions and callbacks share a scope, and none of them changes its list. -/
theorem Reordered.repeatedIn_perm (h : i.Reordered j) :
    (Signature.repeatedIn i.name i.declared).Perm (Signature.repeatedIn j.name j.declared) := by
  rw [h.name]
  apply Signature.repeatedIn_perm
  rw [declared, declared, List.map_append, List.map_append]
  exact (Signature.names_perm h.functions).append (Signature.names_perm h.callbacks)

theorem Reordered.repeatedParameters_perm (h : i.Reordered j) :
    (i.declared.flatMap (·.repeatedParameters)).Perm (j.declared.flatMap (·.repeatedParameters)) := by
  rw [declared, declared, List.flatMap_append, List.flatMap_append]
  exact (h.functions.flatMap_perm fun _ _ hfg => hfg.repeatedParameters_perm).append
    (h.callbacks.flatMap_perm fun _ _ hfg => hfg.repeatedParameters_perm)

theorem Reordered.isEmpty_eq (h : i.Reordered j) : i.isEmpty = j.isEmpty := by
  rw [Bool.eq_iff_iff, isEmpty_iff, isEmpty_iff, declared, declared, List.append_eq_nil_iff, List.append_eq_nil_iff,
    h.functions.eq_nil_iff, h.callbacks.eq_nil_iff]

end Interface

namespace Task

variable {t u : Task}

theorem Reordered.occurrences_perm (h : t.Reordered u) : t.occurrences.Perm u.occurrences :=
  (h.interfaces.flatMap_perm fun _ _ hij => hij.occurrences_perm).append
    (h.functions.flatMap_perm fun _ _ hfg => hfg.occurrences_perm _)

theorem Reordered.repeatedIn_perm (h : t.Reordered u) :
    (t.scopes.flatMap fun s => Signature.repeatedIn s.1 s.2).Perm
      (u.scopes.flatMap fun s => Signature.repeatedIn s.1 s.2) := by
  simp only [scopes, List.flatMap_append, List.flatMap_map, List.flatMap_singleton]
  exact (h.interfaces.flatMap_perm fun _ _ hij => hij.repeatedIn_perm).append
    (Signature.repeatedIn_perm _ (Signature.names_perm h.functions))

theorem Reordered.repeatedParameters_perm (h : t.Reordered u) :
    (t.signatures.flatMap (·.repeatedParameters)).Perm (u.signatures.flatMap (·.repeatedParameters)) := by
  simp only [signatures, List.flatMap_append, List.flatMap_assoc]
  exact (h.interfaces.flatMap_perm fun _ _ hij => hij.repeatedParameters_perm).append
    (h.functions.flatMap_perm fun _ _ hfg => hfg.repeatedParameters_perm)

/-- **A reordered task has the same violations**, each as often. -/
theorem Reordered.violations_perm (h : t.Reordered u) : t.violations.Perm u.violations := by
  have hinterfaces : (t.interfaces.map (·.name)).Perm (u.interfaces.map (·.name)) :=
    h.interfaces.map_perm fun _ _ hij => hij.name
  have hillegal : (Occurrence.illegal (⟨.task, t.name⟩ :: t.occurrences)).Perm
      (Occurrence.illegal (⟨.task, u.name⟩ :: u.occurrences)) := by
    rw [h.name]
    exact Occurrence.illegal_perm (h.occurrences_perm.cons _)
  exact ((hillegal.append ((repeats_perm hinterfaces).map _)).append h.repeatedIn_perm).append h.repeatedParameters_perm

/-- The interfaces that declare nothing declare nothing in another order. -/
theorem Reordered.warnings_perm (h : t.Reordered u) : t.warnings.Perm u.warnings := by
  have hempty : ∀ is : List Interface, (is.filter (·.isEmpty)).map (fun i => Finding.emptyInterface i.name)
      = is.flatMap fun i => if i.isEmpty then [.emptyInterface i.name] else [] := by
    intro is
    induction is with
    | nil => rfl
    | cons i is ih => by_cases hi : i.isEmpty <;> simp [hi, ih]
  rw [warnings, warnings, hempty, hempty]
  apply h.interfaces.flatMap_perm
  intro i j hij
  rw [hij.isEmpty_eq, hij.name]

/-- **The order of declarations changes only the order of the findings.** A reordered task has the same findings and the
same warnings, each as often, so it is accepted if and only if the task is. -/
theorem findings_perm_of_reordered {t u : Task} (h : t.Reordered u) :
    t.validate.findings.Perm u.validate.findings ∧ t.warnings.Perm u.warnings ∧
      (t.validate.findings = [] ↔ u.validate.findings = []) := by
  have hfindings : t.validate.findings.Perm u.validate.findings := by
    rw [Validation.validate_findings, Validation.validate_findings]
    exact h.violations_perm
  refine ⟨hfindings, h.warnings_perm, ?_⟩
  rw [← List.length_eq_zero_iff, hfindings.length_eq, List.length_eq_zero_iff]

/-- A task that repeats a name at every level. -/
def firstOrder : Task :=
  { name := "sample"
    interfaces :=
      [{ name := "a"
         functions :=
          [{ name := "f", parameters := [⟨"x", .ofScalar .int⟩, ⟨"new", .array .int 1⟩, ⟨"x", .ofScalar .bool⟩] },
           { name := "0" }]
         callbacks := [{ name := "f" }] },
        { name := "b" }, { name := "a" }]
    driver := { functions := [{ name := "h" }, { name := "2" }, { name := "h" }] } }

/-- The same task with another order at every level. -/
def secondOrder : Task :=
  { name := "sample"
    interfaces :=
      [{ name := "b" },
        { name := "a"
          functions :=
            [{ name := "0" },
             { name := "f", parameters := [⟨"x", .ofScalar .bool⟩, ⟨"x", .ofScalar .int⟩, ⟨"new", .array .int 1⟩] }]
          callbacks := [{ name := "f" }] },
        { name := "a" }]
    driver := { functions := [{ name := "2" }, { name := "h" }, { name := "h" }] } }

theorem findings_perm_of_reordered_samples :
    firstOrder.Reordered secondOrder ∧ firstOrder.validate.findings ≠ secondOrder.validate.findings ∧
      firstOrder.validate.findings.Perm secondOrder.validate.findings ∧
      firstOrder.warnings.Perm secondOrder.warnings ∧
      (firstOrder.validate.findings = [] ↔ secondOrder.validate.findings = []) := by
  have hsame : ∀ fs : List Signature, Rearranged Signature.Reordered fs fs := fun fs =>
    ⟨fs, .refl fs, List.forall₂_same.2 fun _ _ => ⟨rfl, rfl, .refl _⟩⟩
  have hempty : ∀ name, Interface.Reordered ⟨name, [], []⟩ ⟨name, [], []⟩ := fun _ => ⟨rfl, hsame [], hsame []⟩
  have hreordered : firstOrder.Reordered secondOrder :=
    { name := rfl
      interfaces :=
        have hfunctions := ⟨_, .swap .., .cons ⟨rfl, rfl, .refl _⟩ (.cons ⟨rfl, rfl, by decide⟩ .nil)⟩
        ⟨_, .swap .., .cons (hempty "b") (.cons ⟨rfl, hfunctions, hsame _⟩ (.cons (hempty "a") .nil))⟩
      functions := ⟨_, .swap .., List.forall₂_same.2 fun _ _ => ⟨rfl, rfl, .refl _⟩⟩ }
  exact ⟨hreordered, by decide +kernel, findings_perm_of_reordered hreordered⟩

end Task

end TaskHeader
