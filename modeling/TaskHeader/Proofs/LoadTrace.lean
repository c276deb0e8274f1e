import Mathlib.Logic.ExistsUnique
import TaskHeader.Proofs.Completion
import TaskHeader.Proofs.Report

/-!
# The trace of loading

What is reported while a path is loaded and its task validated, beside what comes of it.

* The events of validation are those of what is found (`Task.told_validate`), so a task in which nothing is found leaves
  no event.
* A path is read as a task only through a format, a text and a descriptor (`Loader.ReadAs`), and each of the three
  steps has an error of its own.
* Loading ends in one of three ways, and the way tells the outcome and all events (`Loader.ends_in_one_way`).
-/

namespace TaskHeader

/-! ## Texts of files -/

/-- Bytes are read as a text exactly if they are the bytes of the text. -/
theorem fromUTF8?_eq_some_iff {content : ByteArray} {text : String} :
    String.fromUTF8? content = some text ↔ content = text.toUTF8 := by
  rw [String.fromUTF8?]
  constructor
  · intro h
    split at h
    · cases h
      rfl
    · cases h
  · rintro rfl
    exact dif_pos text.isValidUTF8

/-- A file can be read exactly if its bytes are those of a text. -/
theorem FileSystem.read_eq_ok_iff {fs : FileSystem} {path text : String} :
    fs.read path = .ok text ↔ ∃ l, fs.locate path = .ok l ∧ fs.get? l = some (.file text.toUTF8) := by
  rw [FileSystem.read]
  cases hlocate : fs.locate path with
  | error e =>
    constructor
    · nofun
    · rintro ⟨l, ⟨⟩, -⟩
  | ok l =>
    have hbind : ∀ rest : Location → Except FileError String, (Except.ok l >>= rest) = rest l := fun _ => rfl
    rw [hbind]
    constructor
    · intro h
      split at h
      · next content hget =>
        split at h
        · next text' htext =>
          cases h
          exact ⟨l, rfl, by rw [hget, fromUTF8?_eq_some_iff.1 htext]⟩
        · cases h
      · cases h
      · cases h
    · rintro ⟨_, ⟨⟩, hget⟩
      have htext : String.fromUTF8? text.toUTF8 = some text := fromUTF8?_eq_some_iff.2 rfl
      simp only [hget, htext]

namespace Loader

/-! ## From a path to a task -/

section

variable {σ : Type} (files : Files (StateM σ)) (s : σ) (path : String)

/-- What a path is read as: an error unless it has a format, its file a text and the text a task. -/
inductive ReadAs : Except LoadError Task → Prop
  | noFormat (hformat : Format.ofPath? path = none) : ReadAs (.error (.unsupportedFormat path))
  | noText {f : Format} {cause : FileError} (hformat : Format.ofPath? path = some f)
      (htext : ((files.read path).run s).1 = .error cause) : ReadAs (.error (.unreadable path cause))
  | noTask {f : Format} {content : String} {e : DescriptorError} (hformat : Format.ofPath? path = some f)
      (htext : ((files.read path).run s).1 = .ok content) (htask : Task.ofDescriptor f content = .error e) :
      ReadAs (.error (.descriptor e))
  | task {f : Format} {content : String} {t : Task} (hformat : Format.ofPath? path = some f)
      (htext : ((files.read path).run s).1 = .ok content) (htask : Task.ofDescriptor f content = .ok t) :
      ReadAs (.ok t)

/-- What comes of loading a path, without validation. -/
def unchecked : Loading :=
  ((load files path).run s).1

/-- What comes of loading a path with validation. -/
def checked : Loading :=
  ((loadValid files path).run s).1

end

variable {σ : Type} {files : Files (StateM σ)} {s : σ} {path : String}

/-- The way of a path through its format, its text and its task. -/
theorem readAs_readTask : ReadAs files s path ((readTask files path).run s).1 := by
  rw [readTask]
  cases hformat : Format.ofPath? path with
  | none => exact .noFormat hformat
  | some f =>
    simp only [run_bind]
    cases htext : ((files.read path).run s).1 with
    | error cause => exact .noText hformat htext
    | ok content =>
      simp only [run_pure]
      cases htask : Task.ofDescriptor f content with
      | error e => exact .noTask hformat htext htask
      | ok t => exact .task hformat htext htask

/-- Each step is told by what it finds. -/
theorem readTask_of_readAs {o : Except LoadError Task} (h : ReadAs files s path o) :
    ((readTask files path).run s).1 = o := by
  cases h with
  | noFormat hformat =>
    rw [readTask, hformat]
    rfl
  | noText hformat htext => simp only [readTask, hformat, run_bind, run_pure, htext]
  | noTask hformat htext htask =>
    simp only [readTask, hformat, run_bind, run_pure, htext, htask]
    rfl
  | task hformat htext htask =>
    simp only [readTask, hformat, run_bind, run_pure, htext, htask]
    rfl

/-- **What a path is loaded as** is what it is read as. -/
theorem outcome_unchecked_iff {o : Except LoadError Task} :
    (unchecked files s path).outcome = o ↔ ReadAs files s path o := by
  have hread : (unchecked files s path).outcome = ((readTask files path).run s).1 := rfl
  rw [hread]
  constructor
  · rintro rfl
    exact readAs_readTask
  · exact readTask_of_readAs

/-- A path that is loaded as a task has a format. -/
theorem format_of_loaded {t : Task} (h : (unchecked files s path).outcome = .ok t) :
    ∃ f, Format.ofPath? path = some f := by
  cases outcome_unchecked_iff.1 h with
  | task hformat => exact ⟨_, hformat⟩

/-! ## Endings -/

/-- Events with their levels. -/
def levelled (es : List Event) : List (Level × Event) :=
  es.map fun e => (e.level, e)

/-- The interfaces of a task that have neither functions nor callbacks. -/
def bare (t : Task) : List Interface :=
  t.interfaces.filter fun i => i.functions = [] ∧ i.callbacks = []

/-- The ways in which loading a path with validation ends. -/
inductive Ending where
  | unloaded (e : LoadError)
  | rejected (f : Format) (t : Task)
  | accepted (f : Format) (t : Task)

/-- The events of a path that is loaded, before its task is looked at. -/
def introduced (path : String) (f : Format) (t : Task) : List (Level × Event) :=
  [(.info, .taskLoaded path f.name t.name t.interfaces.length t.driver.functions.length),
    (.info, .validationStarted t.name t.interfaces.length)]

/-- The events of the warnings of a task. -/
def warned (t : Task) : List (Level × Event) :=
  (bare t).map fun i => (.warn, .emptyInterface i.name)

/-- A path that is not loaded: the error is the outcome, and it is all that is reported. -/
structure Unloaded (path : String) (unchecked checked : Loading) (e : LoadError) : Prop where
  loading : unchecked.outcome = .error e
  outcome : checked.outcome = .error e
  events : levelled checked.events = [(.error, .taskLoadFailed path e.message)]

/-- A task in which something is found: all findings are the outcome, each repeated name is reported, and their number
at the end. -/
structure Rejected (path : String) (unchecked checked : Loading) (f : Format) (t : Task) : Prop where
  format : Format.ofPath? path = some f
  loading : unchecked.outcome = .ok t
  outcome : checked.outcome = .error (.invalid t.validate.findings)
  events : levelled checked.events = introduced path f t ++ t.validate.events.map (.error, ·)
    ++ [(.error, .validationFailed t.name t.validate.findings.length)]
  repeated : t.validate.events = t.validate.findings.filterMap (·.event? t.name)
  counted : 1 ≤ t.validate.findings.length
  unwarned : ∀ e ∈ checked.events, e.level ≠ .warn

/-- The number of warnings among events. -/
def warnings (es : List Event) : Nat :=
  es.countP (·.level = .warn)

/-- A task in which nothing is found: it is the outcome as it was loaded, each bare interface is reported, and their
number at the end. -/
structure Accepted (path : String) (unchecked checked : Loading) (f : Format) (t : Task) : Prop where
  format : Format.ofPath? path = some f
  loading : unchecked.outcome = .ok t
  nothing : t.validate.findings = []
  outcome : checked.outcome = .ok t
  events : levelled checked.events = introduced path f t ++ warned t
    ++ [(.info, .validationCompleted t.name (warnings checked.events))]
  completed : checked.events.getLast?.map (·.fields) =
    some [("task_name", .text t.name), ("warning_count", .number (warnings checked.events)),
      ("has_warnings", .flag (0 < warnings checked.events))]

/-- What an ending says of loading a path without validation and with it. -/
def Ending.Tells (path : String) (unchecked checked : Loading) : Ending → Prop
  | unloaded e => Unloaded path unchecked checked e
  | rejected f t => Rejected path unchecked checked f t
  | accepted f t => Accepted path unchecked checked f t

/-- Validation comes after loading, and only for a task that is loaded. -/
theorem checked_eq (files : Files (StateM σ)) (s : σ) (path : String) :
    checked files s path =
      match (unchecked files s path).outcome with
      | .error _ => unchecked files s path
      | .ok t => { check t with events := (unchecked files s path).events ++ (check t).events } := by
  rw [checked, loadValid, run_bind, unchecked]
  cases ((load files path).run s).1.outcome <;> rfl

theorem events_unchecked : (unchecked files s path).events = [loaded path (unchecked files s path).outcome] := rfl

theorem filter_isEmpty (t : Task) : t.interfaces.filter (·.isEmpty) = bare t := by
  refine List.filter_congr fun i _ => ?_
  rw [Bool.eq_iff_iff]
  simp [Interface.isEmpty]

/-- A warning about each bare interface. -/
theorem warned_eq (t : Task) : levelled (t.warnings.filterMap warned?) = warned t := by
  have hwarned : warned? ∘ (fun i : Interface => Finding.emptyInterface i.name)
      = some ∘ fun i : Interface => Event.emptyInterface i.name := rfl
  rw [Task.warnings, filter_isEmpty, List.filterMap_map, hwarned, List.filterMap_eq_map, levelled, warned, List.map_map]
  rfl

/-- The events of a path that is loaded, whatever comes of its task. -/
theorem levelled_loaded {f : Format} {t : Task} (hformat : Format.ofPath? path = some f) :
    levelled [loaded path (.ok t), .validationStarted t.name t.interfaces.length] = introduced path f t := by
  simp [levelled, loaded, hformat, introduced, Event.level]

theorem unloaded_tells {e : LoadError} (h : (unchecked files s path).outcome = .error e) :
    Unloaded path (unchecked files s path) (checked files s path) e := by
  have hchecked : checked files s path = unchecked files s path := by
    rw [checked_eq, h]
  refine ⟨h, by rw [hchecked, h], ?_⟩
  rw [hchecked, events_unchecked, h]
  rfl

theorem levelled_append (es es' : List Event) : levelled (es ++ es') = levelled es ++ levelled es' :=
  List.map_append

/-- The levels of events tell how many warnings there are. -/
theorem warnings_eq (es : List Event) : warnings es = (levelled es).countP (·.1 = .warn) := by
  rw [warnings, levelled, List.countP_map]
  rfl

/-- The events of the report of a task are errors. -/
theorem levelled_validate (t : Task) : levelled t.validate.events = t.validate.events.map (.error, ·) := by
  refine List.map_congr_left fun e he => ?_
  rw [Task.level_of_mem_events he]

theorem rejected_tells {f : Format} {t : Task} (hformat : Format.ofPath? path = some f)
    (h : (unchecked files s path).outcome = .ok t) (hfound : t.validate.findings ≠ []) :
    Rejected path (unchecked files s path) (checked files s path) f t := by
  have hsome : t.validate.findings.isEmpty = false := by
    rw [List.isEmpty_eq_false_iff]
    exact hfound
  have hchecked : checked files s path =
      { outcome := .error (.invalid t.validate.findings)
        events := [loaded path (.ok t), .validationStarted t.name t.interfaces.length] ++ t.validate.events
          ++ [.validationFailed t.name t.validate.findings.length] } := by
    rw [checked_eq, h]
    simp [check, hsome, events_unchecked, h]
  have hevents : levelled (checked files s path).events = introduced path f t ++ t.validate.events.map (.error, ·)
      ++ [(.error, .validationFailed t.name t.validate.findings.length)] := by
    rw [hchecked, levelled_append, levelled_append, levelled_loaded hformat, levelled_validate]
    rfl
  refine ⟨hformat, h, by rw [hchecked], hevents, t.told_validate, List.length_pos_iff.2 hfound, ?_⟩
  have hnone : warnings (checked files s path).events = 0 := by
    rw [warnings_eq, hevents]
    simp [introduced]
  simpa [warnings] using hnone

theorem accepted_tells {f : Format} {t : Task} (hformat : Format.ofPath? path = some f)
    (h : (unchecked files s path).outcome = .ok t) (hnothing : t.validate.findings = []) :
    Accepted path (unchecked files s path) (checked files s path) f t := by
  -- no finding, no event about a repeated name
  have hquiet : t.validate.events = [] := by
    rw [t.told_validate, hnothing]
    rfl
  have hchecked : checked files s path =
      { outcome := .ok t
        events := [loaded path (.ok t), .validationStarted t.name t.interfaces.length] ++ t.warnings.filterMap warned?
          ++ [.validationCompleted t.name t.warnings.length] } := by
    rw [checked_eq, h]
    simp [check, hnothing, hquiet, events_unchecked, h]
  have hevents : levelled (checked files s path).events = introduced path f t ++ warned t
      ++ [(.info, .validationCompleted t.name t.warnings.length)] := by
    rw [hchecked, levelled_append, levelled_append, levelled_loaded hformat, warned_eq]
    rfl
  have hcount : warnings (checked files s path).events = t.warnings.length := by
    have hwarned : (warned t).countP (·.1 = .warn) = (warned t).length := by
      rw [List.countP_eq_length, warned, List.forall_mem_map]
      intro i _
      rfl
    have hlength : (warned t).length = t.warnings.length := by
      rw [warned, ← filter_isEmpty, Task.warnings, List.length_map, List.length_map]
    rw [warnings_eq, hevents, List.countP_append, List.countP_append, hwarned, hlength]
    simp [introduced]
  refine ⟨hformat, h, hnothing, by rw [hchecked], by rw [hcount, hevents], ?_⟩
  rw [hcount, hchecked, List.getLast?_concat]
  rfl

/-- The ending of a path, by what it is loaded as and what is found in its task. -/
def Ending.of (path : String) : Except LoadError Task → Option Ending
  | .error e => some (unloaded e)
  | .ok t => (Format.ofPath? path).map fun f => if t.validate.findings = [] then accepted f t else rejected f t

theorem Ending.Tells.eq_of {unchecked checked : Loading} {ending : Ending} (h : ending.Tells path unchecked checked) :
    Ending.of path unchecked.outcome = some ending := by
  cases ending with
  | unloaded e =>
    rw [h.loading]
    rfl
  | rejected f t =>
    rw [h.loading, Ending.of, h.format, Option.map_some, if_neg (List.length_pos_iff.1 h.counted)]
  | accepted f t =>
    rw [h.loading, Ending.of, h.format, Option.map_some, if_pos h.nothing]

/-- Each path has an ending. -/
theorem exists_ending (files : Files (StateM σ)) (s : σ) (path : String) :
    ∃ ending : Ending, ending.Tells path (unchecked files s path) (checked files s path) := by
  cases h : (unchecked files s path).outcome with
  | error e => exact ⟨.unloaded e, unloaded_tells h⟩
  | ok t =>
    obtain ⟨f, hformat⟩ := format_of_loaded h
    by_cases hfound : t.validate.findings = []
    · exact ⟨.accepted f t, accepted_tells hformat h hfound⟩
    · exact ⟨.rejected f t, rejected_tells hformat h hfound⟩

/-- **Loading a path with validation ends in one of three ways**, and the way tells the outcome and all events: the
path is not loaded, or its task is rejected with all that is found in it, or the task is the outcome. Whether and why a
path is not loaded depends on its format first, then on its file, whose bytes must be a text, and then on the text. -/
theorem ends_in_one_way (files : Files (StateM σ)) (s : σ) (path : String) :
    (∃! ending : Ending, ending.Tells path (unchecked files s path) (checked files s path)) ∧
      (∀ o, (unchecked files s path).outcome = o ↔ ReadAs files s path o) ∧
      ((∃ p, (unchecked files s path).outcome = .error (.unsupportedFormat p)) ↔ Format.ofPath? path = none) ∧
      ∀ (fs : FileSystem) (text : String), fs.read path = .ok text ↔
        ∃ l, fs.locate path = .ok l ∧ fs.get? l = some (.file text.toUTF8) := by
  refine ⟨?_, fun o => outcome_unchecked_iff, ?_, fun fs text => FileSystem.read_eq_ok_iff⟩
  · obtain ⟨ending, h⟩ := exists_ending files s path
    exact ⟨ending, h, fun _ h' => Option.some.inj (h'.eq_of.symm.trans h.eq_of)⟩
  · constructor
    · rintro ⟨p, h⟩
      cases outcome_unchecked_iff.1 h with
      | noFormat hformat => exact hformat
    · intro hformat
      exact ⟨path, outcome_unchecked_iff.2 (.noFormat hformat)⟩

end Loader

end TaskHeader
