import Mathlib.Data.List.Flatten
import TaskHeader.Proofs.Report

/-!
# Fewer interfaces

A task with some of the interfaces of another one in the same order, and all else alike, is a part of it (`Task.PartOf`).
A part has no finding, no warning and no event that the whole does not have, and has them in the same order
(`Task.PartOf.violations_sublist`). This needs a look at the repeated names only: every name that occurs before in the
part occurs before in the whole, so by induction on what is left out the part repeats no other name
(`repeatsAfter_sublist`).

The task without the interfaces of a name is a part of the task. So removing interfaces never makes a task worse, and
it does nothing to the others (`Task.validate_without`).
-/

namespace TaskHeader

/-! ## Repeated names of fewer names -/

/-- Fewer names after fewer names repeat fewer names, by induction on what is left out. -/
theorem repeatsAfter_sublist {names names' : List String} (h : names'.Sublist names) :
    ∀ {earlier earlier' : List String}, earlier' ⊆ earlier →
      (repeatsAfter earlier' names').Sublist (repeatsAfter earlier names) := by
  induction h with
  | slnil => exact fun _ => .refl _
  | cons name _ ih =>
    -- a name that is left out is seen by the longer list only, which keeps the inclusion
    intro earlier earlier' hearlier
    rw [repeatsAfter_cons]
    exact (ih fun n hn => List.mem_append_left _ (hearlier hn)).trans (List.sublist_append_right _ _)
  | cons_cons name _ ih =>
    intro earlier earlier' hearlier
    rw [repeatsAfter_cons, repeatsAfter_cons]
    have hhead : (if name ∈ earlier' then [name] else []).Sublist (if name ∈ earlier then [name] else []) := by
      by_cases hname : name ∈ earlier'
      · simp [hname, hearlier hname]
      · rw [if_neg hname]
        exact List.nil_sublist _
    exact hhead.append (ih (List.append_subset.2 ⟨fun n hn => List.mem_append_left _ (hearlier hn),
      List.subset_append_right _ _⟩))

theorem repeats_sublist {names names' : List String} (h : names'.Sublist names) :
    (repeats names').Sublist (repeats names) := by
  simpa [repeatsAfter, repeats] using repeatsAfter_sublist h (List.Subset.refl [])

theorem Occurrence.illegal_sublist {os os' : List Occurrence} (h : os'.Sublist os) :
    (illegal os').Sublist (illegal os) :=
  (h.filter _).map _

namespace Task

/-! ## Parts of a task -/

/-- A task with some of the interfaces of another one. -/
structure PartOf (u t : Task) : Prop where
  name : u.name = t.name
  driver : u.driver = t.driver
  interfaces : u.interfaces.Sublist t.interfaces

variable {t u : Task}

/-- What is collected from a part, interface by interface and then from the driver, is collected from the task. -/
theorem PartOf.collected_sublist {α : Type} (h : u.PartOf t) (f : Interface → List α) (g : Driver → List α) :
    (u.interfaces.flatMap f ++ g u.driver).Sublist (t.interfaces.flatMap f ++ g t.driver) := by
  rw [h.driver]
  exact (h.interfaces.flatMap f).append (.refl _)

theorem PartOf.occurrences_sublist (h : u.PartOf t) : u.occurrences.Sublist t.occurrences := by
  rw [occurrences, occurrences]
  exact h.collected_sublist _ fun d => d.functions.flatMap (·.occurrences (.function Validation.driverScope))

theorem PartOf.scopes_sublist (h : u.PartOf t) : u.scopes.Sublist t.scopes := by
  rw [scopes, scopes, List.map_eq_flatMap, List.map_eq_flatMap]
  exact h.collected_sublist _ fun d => [(Validation.driverScope, d.functions)]

theorem PartOf.signatures_sublist (h : u.PartOf t) : u.signatures.Sublist t.signatures := by
  rw [signatures, signatures]
  exact h.collected_sublist _ (·.functions)

/-- **A part of a task has no violation that the task does not have.** -/
theorem PartOf.violations_sublist (h : u.PartOf t) : u.violations.Sublist t.violations := by
  have hnames : (Occurrence.illegal (⟨.task, u.name⟩ :: u.occurrences)).Sublist
      (Occurrence.illegal (⟨.task, t.name⟩ :: t.occurrences)) := by
    rw [h.name]
    exact Occurrence.illegal_sublist (h.occurrences_sublist.cons_cons _)
  have hinterfaces : ((repeats (u.interfaces.map (·.name))).map Finding.duplicateInterface).Sublist
      ((repeats (t.interfaces.map (·.name))).map Finding.duplicateInterface) :=
    (repeats_sublist (h.interfaces.map _)).map _
  exact ((hnames.append hinterfaces).append (h.scopes_sublist.flatMap _)).append (h.signatures_sublist.flatMap _)

theorem PartOf.findings_sublist (h : u.PartOf t) : u.validate.findings.Sublist t.validate.findings := by
  rw [Validation.validate_findings, Validation.validate_findings]
  exact h.violations_sublist

/-- The events of a part are those of its findings, and both tasks have one name. -/
theorem PartOf.events_sublist (h : u.PartOf t) : u.validate.events.Sublist t.validate.events := by
  rw [u.told_validate, t.told_validate, h.name]
  exact h.findings_sublist.filterMap _

theorem PartOf.warnings_sublist (h : u.PartOf t) : u.warnings.Sublist t.warnings :=
  (h.interfaces.filter _).map _

/-! ## Tasks without an interface -/

theorem without_partOf (t : Task) (n : String) : (t.without n).PartOf t :=
  ⟨rfl, rfl, List.filter_sublist⟩

theorem interface?_without_self (t : Task) (n : String) : (t.without n).interface? n = none := by
  rw [interface?, without, List.find?_eq_none]
  intro i hi
  simpa using (List.mem_filter.1 hi).2

/-- The first interface of another name is found as before. -/
theorem interface?_without_of_ne {m n : String} (h : m ≠ n) (t : Task) :
    (t.without n).interface? m = t.interface? m := by
  rw [interface?, without, List.find?_filter, interface?]
  congr 1
  funext i
  by_cases hi : i.name = m
  · simp [hi, h]
  · simp [hi]

theorem without_comm (t : Task) (m n : String) : (t.without m).without n = (t.without n).without m := by
  simp only [without, List.filter_filter, Bool.and_comm]

theorem without_without (t : Task) (n : String) : (t.without n).without n = t.without n := by
  simp only [without, List.filter_filter, Bool.and_self]

theorem without_eq_self_iff {n : String} : t.without n = t ↔ ∀ i ∈ t.interfaces, i.name ≠ n := by
  have hfilter : t.without n = t ↔ t.interfaces.filter (·.name != n) = t.interfaces := by
    constructor
    · exact congrArg Task.interfaces
    · intro h
      rw [without, h]
  rw [hfilter, List.filter_eq_self]
  simp only [bne_iff_ne]

/-- **Removing interfaces never makes a task worse.** Without the interfaces of a name a task has some of its findings,
warnings and events, in their order, so it stays accepted. The interfaces of other names are found as before, names can
be removed in any order and as often as one likes, and a task changes only if an interface has the name. -/
theorem validate_without (t : Task) (n : String) :
    (t.without n).validate.findings.Sublist t.validate.findings ∧
      (t.without n).warnings.Sublist t.warnings ∧
      (t.without n).validate.events.Sublist t.validate.events ∧
      (t.validate.findings = [] → (t.without n).validate.findings = []) ∧
      (t.without n).interface? n = none ∧
      (∀ m, m ≠ n → (t.without n).interface? m = t.interface? m) ∧
      (∀ m, (t.without n).without m = (t.without m).without n) ∧
      (t.without n).without n = t.without n ∧
      (t.without n = t ↔ ∀ i ∈ t.interfaces, i.name ≠ n) := by
  have hpart := t.without_partOf n
  refine ⟨hpart.findings_sublist, hpart.warnings_sublist, hpart.events_sublist, ?_, t.interface?_without_self n,
    fun m hm => interface?_without_of_ne hm t, fun m => t.without_comm n m, t.without_without n, without_eq_self_iff⟩
  intro haccepted
  exact List.sublist_nil.1 (haccepted ▸ hpart.findings_sublist)

/-- A task with two interfaces of one name around another one, whose driver repeats a function. -/
def aroundSample : Task :=
  { name := "t"
    interfaces := [{ name := "a", functions := [{ name := "f" }] }, { name := "b" }, { name := "a" }]
    driver := { functions := [{ name := "g" }, { name := "g" }] } }

/-- A task with two interfaces that is accepted. -/
def pairSample : Task :=
  { name := "t", interfaces := [{ name := "a", functions := [{ name := "f" }] }, { name := "b" }] }

theorem validate_without_samples :
    (aroundSample.validate.findings = [.duplicateInterface "a", .duplicateFunction "driver" "g"] ∧
        (aroundSample.without "a").validate.findings = [.duplicateFunction "driver" "g"] ∧
        (aroundSample.without "a").validate.findings.Sublist aroundSample.validate.findings) ∧
      (pairSample.validate.findings = [] ∧ (pairSample.without "a").validate.findings = []) ∧
      "b" ≠ "a" ∧ (aroundSample.without "a").interface? "b" = some { name := "b" } := by
  have hwhole : aroundSample.validate.findings = [.duplicateInterface "a", .duplicateFunction "driver" "g"] := by
    decide +kernel
  have hpart : (aroundSample.without "a").validate.findings = [.duplicateFunction "driver" "g"] := by decide +kernel
  have haccepted : pairSample.validate.findings = [] := by decide +kernel
  have hne : "b" ≠ "a" := by decide
  obtain ⟨hfindings, -, -, -, -, hother, -⟩ := validate_without aroundSample "a"
  obtain ⟨-, -, -, hstays, -⟩ := validate_without pairSample "a"
  exact ⟨⟨hwhole, hpart, hfindings⟩, ⟨haccepted, hstays haccepted⟩, hne, hother "b" hne⟩

end Task

end TaskHeader
