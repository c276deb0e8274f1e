import TaskHeader.Validation

/-!
# The violations of a task

What a report has to say, read off the task itself: which names are no identifiers, and which names of a scope have an
earlier occurrence there.

* `Task.occurrences` lists every name below the task with its place, in the order of declaration, and `repeats` the
  members of a list that occur before in it.
* `Task.violations` puts them together; a report finds these and no others, in this order (`validate_findings`).

The walk of a check carries the names seen so far; the invariant is that they are the names before the position
(`repeated_from`).
-/

namespace TaskHeader

/-! ## Repeated names -/

/-- The members of a list that occur before in it, or before it in `earlier`. -/
def repeatsAfter (earlier names : List String) : List String :=
  ((names.zipIdx earlier.length).filter fun n => n.1 ∈ (earlier ++ names).take n.2).map (·.1)

/-- The members of a list that occur before in it: one for each position whose name stands at an earlier one. -/
def repeats (names : List String) : List String :=
  (names.zipIdx.filter fun n => n.1 ∈ names.take n.2).map (·.1)

theorem repeatsAfter_cons (earlier : List String) (name : String) (rest : List String) :
    repeatsAfter earlier (name :: rest)
      = (if name ∈ earlier then [name] else []) ++ repeatsAfter (earlier ++ [name]) rest := by
  have hrest : earlier ++ name :: rest = earlier ++ [name] ++ rest := by simp
  by_cases h : name ∈ earlier <;> simp [repeatsAfter, List.zipIdx_cons, h, ← hrest]

theorem repeats_eq_nil_iff {names : List String} : repeats names = [] ↔ names.Nodup := by
  have hafter : ∀ names earlier : List String,
      repeatsAfter earlier names = [] ↔ names.Nodup ∧ ∀ n ∈ names, n ∉ earlier := by
    intro names
    induction names with
    | nil => simp [repeatsAfter]
    | cons n ns ih =>
      intro earlier
      rw [repeatsAfter_cons, List.append_eq_nil_iff, ih, List.nodup_cons]
      have hhead : (if n ∈ earlier then [n] else []) = [] ↔ n ∉ earlier := by split <;> simp_all
      rw [hhead]
      simp only [List.mem_append, List.mem_singleton, not_or, List.forall_mem_cons]
      constructor
      · rintro ⟨hn, hd, hns⟩
        exact ⟨⟨fun hm => (hns n hm).2 rfl, hd⟩, hn, fun m hm => (hns m hm).1⟩
      · rintro ⟨⟨hm, hd⟩, hn, hns⟩
        exact ⟨hn, hd, fun m hm' => ⟨hns m hm', fun e => hm (e ▸ hm')⟩⟩
  simpa [repeatsAfter, repeats] using hafter names []

example : repeats ["a", "b", "a", "a"] = ["a", "a"] := by decide

namespace Validation

/-- The report of repeated names. -/
def repetitions (kind scope : String) (finding : String → Finding) (names : List String) : Report :=
  { findings := names.map finding, events := names.map (.duplicateName kind scope) }

/-- The walk reports each name that occurs before it, by induction on the names to come. -/
theorem repeated_from (kind scope : String) (finding : String → Finding) :
    ∀ (names seen earlier : List String), (∀ n, n ∈ seen ↔ n ∈ earlier) →
      repeated kind scope finding seen names = repetitions kind scope finding (repeatsAfter earlier names)
  | [], _, _, _ => rfl
  | name :: rest, seen, earlier, hseen => by
    rw [repeatsAfter_cons, repeated]
    by_cases h : name ∈ seen
    · have hearlier : ∀ n, n ∈ seen ↔ n ∈ earlier ++ [name] := by
        intro n
        simp only [List.mem_append, List.mem_singleton, ← hseen]
        exact ⟨.inl, fun hn => hn.elim id fun e => e ▸ h⟩
      rw [if_pos h, if_pos ((hseen name).1 h), repeated_from kind scope finding rest seen _ hearlier]
      rfl
    · have hearlier : ∀ n, n ∈ name :: seen ↔ n ∈ earlier ++ [name] := by
        intro n
        simp only [List.mem_append, List.mem_cons, List.not_mem_nil, or_false, hseen]
        exact or_comm
      rw [if_neg h, if_neg (fun e => h ((hseen name).2 e)), repeated_from kind scope finding rest _ _ hearlier]
      rfl

theorem repeated_eq (kind scope : String) (finding : String → Finding) (names : List String) :
    repeated kind scope finding [] names = repetitions kind scope finding (repeats names) := by
  simpa [repeatsAfter, repeats] using repeated_from kind scope finding names [] [] (by simp)

end Validation

/-! ## Names and their places -/

/-- What a name is given to, with the name of what that belongs to. -/
inductive Place where
  | task
  | interface
  | function (scope : String)
  | callback (scope : String)
  | parameter (function : String)
  deriving DecidableEq, Repr

/-- The words for a place in a report. -/
def Place.context : Place → String
  | task => "task"
  | interface => "interface"
  | function scope => "function in '" ++ scope ++ "'"
  | callback scope => "callback in '" ++ scope ++ "'"
  | parameter f => "parameter of '" ++ f ++ "'"

@[simp]
theorem Place.context_task : task.context = "task" := rfl

@[simp]
theorem Place.context_interface : interface.context = "interface" := rfl

@[simp]
theorem Place.context_function (scope : String) : (function scope).context = "function in '" ++ scope ++ "'" := rfl

@[simp]
theorem Place.context_callback (scope : String) : (callback scope).context = "callback in '" ++ scope ++ "'" := rfl

@[simp]
theorem Place.context_parameter (f : String) : (parameter f).context = "parameter of '" ++ f ++ "'" := rfl

/-- A name at its place. -/
structure Occurrence where
  place : Place
  name : String
  deriving DecidableEq, Repr

/-- The names of a function and of its parameters. -/
def Signature.occurrences (place : Place) (f : Signature) : List Occurrence :=
  ⟨place, f.name⟩ :: f.parameters.map fun p => ⟨.parameter f.name, p.name⟩

/-- The names of an interface and of all that it declares. -/
def Interface.occurrences (i : Interface) : List Occurrence :=
  ⟨.interface, i.name⟩ :: (i.functions.flatMap (·.occurrences (.function i.name))
    ++ i.callbacks.flatMap (·.occurrences (.callback i.name)))

namespace Task

/-- Every name below a task, in the order of declaration. -/
def occurrences (t : Task) : List Occurrence :=
  t.interfaces.flatMap (·.occurrences)
    ++ t.driver.functions.flatMap (·.occurrences (.function Validation.driverScope))

/-- Every function of a task, callbacks included, in the order of declaration. -/
def signatures (t : Task) : List Signature :=
  t.interfaces.flatMap (·.declared) ++ t.driver.functions

/-- The scopes in which the names of functions must differ: each interface, then the driver. -/
def scopes (t : Task) : List (String × List Signature) :=
  t.interfaces.map (fun i => (i.name, i.declared)) ++ [(Validation.driverScope, t.driver.functions)]

end Task

/-! ## Violations -/

/-- The names of a list that are no identifiers, as findings. -/
def Occurrence.illegal (os : List Occurrence) : List Finding :=
  (os.filter fun o => ¬ Identifier.Legal o.name).map fun o => .invalidIdentifier o.place.context o.name

/-- The functions of a scope that repeat a name. -/
def Signature.repeatedIn (scope : String) (fs : List Signature) : List Finding :=
  (repeats (fs.map (·.name))).map (.duplicateFunction scope)

/-- The parameters of a function that repeat a name. -/
def Signature.repeatedParameters (f : Signature) : List Finding :=
  (repeats (f.parameters.map (·.name))).map (.duplicateParameter f.name)

/-- All that is wrong with a task. -/
def Task.violations (t : Task) : List Finding :=
  Occurrence.illegal (⟨.task, t.name⟩ :: t.occurrences)
    ++ (repeats (t.interfaces.map (·.name))).map .duplicateInterface
    ++ t.scopes.flatMap (fun s => Signature.repeatedIn s.1 s.2)
    ++ t.signatures.flatMap (·.repeatedParameters)

namespace Validation

open Occurrence

theorem illegal_append (as bs : List Occurrence) : illegal (as ++ bs) = illegal as ++ illegal bs := by
  simp [illegal]

theorem illegal_flatMap {α : Type} (names : α → List Occurrence) (as : List α) :
    illegal (as.flatMap names) = as.flatMap fun a => illegal (names a) := by
  simp [illegal, List.filter_flatMap, List.map_flatMap]

theorem illegal_cons (o : Occurrence) (os : List Occurrence) :
    illegal (o :: os) = (checkName o.place.context o.name).findings ++ illegal os := by
  by_cases h : Identifier.usable o.name
  · simp [checkName, illegal, h, Identifier.usable_iff_legal.1 h]
  · simp [checkName, illegal, h, mt Identifier.usable_iff_legal.2 h]

theorem illegal_map {α : Type} (place : α → Occurrence) (as : List α) :
    illegal (as.map place) = as.flatMap fun a => (checkName (place a).place.context (place a).name).findings := by
  induction as with
  | nil => rfl
  | cons a as ih => rw [List.map_cons, illegal_cons, ih, List.flatMap_cons]

theorem findings_checkSignature (place : Place) (f : Signature) :
    (checkSignature place.context f).findings = illegal (f.occurrences place) := by
  simp [checkSignature, Signature.occurrences, illegal_cons, illegal_map]

theorem findings_checkInterface (i : Interface) : (checkInterface i).findings = illegal i.occurrences := by
  have hf := findings_checkSignature (.function i.name)
  have hc := findings_checkSignature (.callback i.name)
  simp only [Place.context_function, Place.context_callback] at hf hc
  simp [checkInterface, Interface.occurrences, illegal_cons, illegal_append, illegal_flatMap, hf, hc]

theorem findings_identifiers (t : Task) :
    (identifiers t).findings = illegal (⟨.task, t.name⟩ :: t.occurrences) := by
  have hd := findings_checkSignature (.function driverScope)
  simp only [Place.context_function] at hd
  simp [identifiers, Task.occurrences, illegal_cons, illegal_append, illegal_flatMap, findings_checkInterface, hd]

/-- **A report finds the violations of the task**, no others, in this order. -/
theorem validate_findings (t : Task) : t.validate.findings = t.violations := by
  simp [Task.validate, Task.violations, findings_identifiers, uniqueInterfaces, uniqueFunctions, uniqueParameters,
    uniqueInScope, uniqueInSignature, repeated_eq, repetitions, Task.scopes, Task.signatures, Signature.repeatedIn,
    Signature.repeatedParameters, List.flatMap_map, List.flatMap_assoc]

end Validation

end TaskHeader
