import TaskHeader.Proofs.Agreement
import TaskHeader.Proofs.Completion
import TaskHeader.Proofs.Validity

/-!
# All commands accept the same descriptors

`check`, `render` and `inspect` each load and validate their tasks and report on their own. A task that is loaded and
valid always has a header (`Header.cpp_of_valid`), so `render` refuses what `check` refuses and nothing more.

* `Files.loading` is what a path loads as, `accepted` and `refused` are the paths of a batch with their tasks and
  with their errors.
* Both commands tell of each path in its turn, of the accepted ones in their own way and of the refused ones in the
  same words (`checked_eq`, `printed_eq`).
* So what they say on errors, how they end and which paths they report agree (`commands_accept_alike`).
-/

namespace TaskHeader

/-- **A valid task has a header.** -/
theorem Header.cpp_of_valid {t : Task} (h : t.Valid) : cpp t = .ok (Line.written t.lines) := by
  have hlegal : ∀ o ∈ t.occurrences, Identifier.Legal o.name :=
    Task.forall_occurrences.2 ⟨h.interfaces_legal, fun f hf => ⟨h.functions_legal f hf, h.parameters_legal f hf⟩⟩
  refine cpp_eq_ok_iff.2 ⟨?_, rfl⟩
  rw [Task.mentions_eq_occurrences, List.forall_mem_map]
  exact fun o ho => Identifier.usable_iff_legal.2 (hlegal o ho)

variable {σ : Type} (files : Files (StateM σ)) (s : σ)

/-- The task that a path is loaded as if it is valid, or why there is none. -/
def Files.loading (path : String) : Except LoadError Task :=
  ((Loader.loadValid files path).run s).1.outcome

variable {files s}

/-- Only valid tasks pass. -/
theorem Files.valid_of_loading {path : String} {t : Task} (h : files.loading s path = .ok t) : t.Valid := by
  simp only [loading, Loader.loadValid, run_bind] at h
  split at h
  · next e he => rw [run_pure, he] at h; cases h
  · next t' ht' =>
    rw [run_pure] at h
    simp only [Loader.check] at h
    split at h
    · next hfindings =>
      cases h
      have hnone := List.isEmpty_iff.1 hfindings
      rw [Validation.validate_findings] at hnone
      exact Task.violations_eq_nil_iff.1 hnone
    · cases h

namespace Command

variable (files s)

/-- The paths of a batch that are accepted, with their tasks. -/
def accepted (tasks : List String) : List (String × Task) :=
  tasks.filterMap fun path =>
    match files.loading s path with
    | .ok t => some (path, t)
    | .error _ => none

/-- The paths of a batch that are refused, with the reasons. -/
def refused (tasks : List String) : List (String × LoadError) :=
  tasks.filterMap fun path =>
    match files.loading s path with
    | .ok _ => none
    | .error e => some (path, e)

/-- What is told about a path: what `tell` says of its task, or why it is refused. -/
def told (tell : String → Task → String) (path : String) : Output :=
  match files.loading s path with
  | .ok t => .result (tell path t)
  | .error e => errorLine (path ++ ": " ++ (Failure.load path e).message)

/-- The last line about a batch, if some of its paths are refused. -/
def summary (failures : Nat) : List Output :=
  if failures = 0 then [] else [errorLine (toString failures ++ " task(s) failed")]

/-- The outcome of a batch where each path is told of in its turn. -/
def tellAll (tell : String → Task → String) (tasks : List String) : Outcome :=
  { outputs := tasks.map (told files s tell) ++ summary (refused files s tasks).length
    exit := if (refused files s tasks).length = 0 then 0 else 1 }

variable {files s}

/-- How a batch is reported: each path in its turn, then the number of failures if there are any. -/
theorem finish_eq (reports : List (String × Except Failure Output)) :
    finish reports =
      { outputs := reports.map (fun r => report r.1 r.2) ++ summary (reports.countP fun r => r.2 matches .error _)
        exit := if (reports.countP fun r => r.2 matches .error _) = 0 then 0 else 1 } := by
  have hfinish : finish reports =
      if (reports.countP fun r => r.2 matches .error _) = 0 then
        { outputs := reports.map fun r => report r.1 r.2, exit := 0 }
      else
        { outputs := reports.map (fun r => report r.1 r.2)
            ++ [errorLine (toString (reports.countP fun r => r.2 matches .error _) ++ " task(s) failed")]
          exit := 1 } := rfl
  rw [hfinish, summary]
  split
  · rw [List.append_nil]
  · rfl

/-- A command that goes by what its paths load as tells of each in its turn. -/
theorem finish_eq_tellAll {tell : String → Task → String} {tasks : List String}
    {result : String → Except Failure Output}
    (hok : ∀ path t, files.loading s path = .ok t → result path = .ok (.result (tell path t)))
    (herror : ∀ path e, files.loading s path = .error e → result path = .error (.load path e)) :
    finish (tasks.map fun path => (path, result path)) = tellAll files s tell tasks := by
  have hreport : ∀ path, report path (result path) = told files s tell path := by
    intro path
    cases h : files.loading s path with
    | ok t => rw [hok path t h, told, h, report]
    | error e => rw [herror path e h, told, h, report]
  have hcount : (tasks.map fun path => (path, result path)).countP (fun r => r.2 matches .error _)
      = (refused files s tasks).length := by
    induction tasks with
    | nil => rfl
    | cons path rest ih =>
      rw [List.map_cons, List.countP_cons, ih, refused, refused, List.filterMap_cons]
      cases h : files.loading s path with
      | ok t => rw [hok path t h]; rfl
      | error e => rw [herror path e h]; rfl
  rw [finish_eq, hcount, tellAll, List.map_map]
  simp only [Function.comp_def, hreport]

/-- **`check`** tells the lines of a task that is accepted. -/
theorem checked_eq (tasks : List String) :
    checked (tasks.map fun path => (path, ((loadJob files path).run s).1)) = tellAll files s validLines tasks := by
  have hjob : ∀ path, ((loadJob files path).run s).1 = (files.loading s path).mapError (.load path) := fun _ => rfl
  rw [checked, List.map_map]
  refine finish_eq_tellAll (fun path t h => ?_) fun path e h => ?_
  · simp only [hjob, h]; rfl
  · simp only [hjob, h]; rfl

/-- The job of `render` refuses what does not load, and nothing else. -/
theorem run_renderJob (path : String) :
    ((renderJob files path).run s).1
      = ((files.loading s path).mapError (.load path)).map fun t => (t, Line.written t.lines) := by
  have hjob : ((loadJob files path).run s).1 = (files.loading s path).mapError (.load path) := rfl
  cases h : files.loading s path with
  | error e =>
    have hload : ((loadJob files path).run s).1 = .error (.load path e) := by rw [hjob, h]; rfl
    simp only [renderJob, run_bind, run_pure, hload]
    rfl
  | ok t =>
    have hload : ((loadJob files path).run s).1 = .ok t := by rw [hjob, h]; rfl
    have hheader := Header.cpp_of_valid (Files.valid_of_loading h)
    simp only [renderJob, run_bind, run_pure, hload, hheader]
    rfl

/-- **`render`** tells the header of a task that is accepted. -/
theorem printed_eq (tasks : List String) :
    printed (tasks.map fun path => (path, ((renderJob files path).run s).1))
      = tellAll files s (fun _ t => Line.written t.lines) tasks := by
  rw [printed, List.map_map]
  refine finish_eq_tellAll (fun path t h => ?_) fun path e h => ?_
  · simp only [run_renderJob, h]; rfl
  · simp only [run_renderJob, h]; rfl

/-! ## What is told -/

/-- A line about a path that is refused. -/
def refusalLine (r : String × LoadError) : String :=
  "❌ " ++ r.1 ++ ": " ++ (Failure.load r.1 r.2).message ++ "\n"

/-- The texts of outputs are told one after the other. -/
theorem errors_append (as bs : List Output) (exit : Nat) :
    Outcome.errors ⟨as ++ bs, exit⟩ = Outcome.errors ⟨as, exit⟩ ++ Outcome.errors ⟨bs, exit⟩ := by
  rw [Outcome.errors, List.map_append, String.join_append]
  rfl

theorem results_append (as bs : List Output) (exit : Nat) :
    Outcome.results ⟨as ++ bs, exit⟩ = Outcome.results ⟨as, exit⟩ ++ Outcome.results ⟨bs, exit⟩ := by
  rw [Outcome.results, List.map_append, String.join_append]
  rfl

/-- What is said on errors does not depend on what is told of the accepted paths. -/
theorem errors_tellAll (tell : String → Task → String) (tasks : List String) :
    (tellAll files s tell tasks).errors
      = String.join ((refused files s tasks).map refusalLine)
        ++ if refused files s tasks = [] then ""
          else "❌ " ++ toString (refused files s tasks).length ++ " task(s) failed\n" := by
  have hpaths : ∀ exit, Outcome.errors ⟨tasks.map (told files s tell), exit⟩
      = String.join ((refused files s tasks).map refusalLine) := by
    intro exit
    induction tasks with
    | nil => rfl
    | cons path rest ih =>
      rw [List.map_cons, ← List.singleton_append, errors_append, ih, refused, refused, List.filterMap_cons]
      cases h : files.loading s path with
      | ok t => simp [told, h, Outcome.errors]
      | error e => simp [told, h, Outcome.errors, errorLine, refusalLine, String.append_assoc]
  have hsummary : ∀ exit, Outcome.errors ⟨summary (refused files s tasks).length, exit⟩
      = if refused files s tasks = [] then ""
        else "❌ " ++ toString (refused files s tasks).length ++ " task(s) failed\n" := by
    intro exit
    simp only [summary, List.length_eq_zero_iff]
    split
    · rfl
    · simp [Outcome.errors, errorLine, String.append_assoc]
  rw [tellAll, errors_append, hpaths, hsummary]

/-- The results are those of the accepted paths. -/
theorem results_tellAll (tell : String → Task → String) (tasks : List String) :
    (tellAll files s tell tasks).results = String.join ((accepted files s tasks).map fun a => tell a.1 a.2) := by
  have hpaths : ∀ exit, Outcome.results ⟨tasks.map (told files s tell), exit⟩
      = String.join ((accepted files s tasks).map fun a => tell a.1 a.2) := by
    intro exit
    induction tasks with
    | nil => rfl
    | cons path rest ih =>
      rw [List.map_cons, ← List.singleton_append, results_append, ih, accepted, accepted, List.filterMap_cons]
      cases h : files.loading s path with
      | ok t => simp [told, h, Outcome.results]
      | error e => simp [told, h, Outcome.results, errorLine]
  have hsummary : ∀ exit, Outcome.results ⟨summary (refused files s tasks).length, exit⟩ = "" := by
    intro exit
    simp only [summary]
    split <;> simp [Outcome.results, errorLine]
  rw [tellAll, results_append, hpaths, hsummary, String.append_empty]

/-- The path at a position is reported as failed exactly if it is refused. -/
theorem reported_iff {tell : String → Task → String} {tasks : List String} {i : Nat} {path : String}
    (h : tasks[i]? = some path) :
    (∃ text, (tellAll files s tell tasks).outputs[i]? = some (.error text)) ↔
      ∃ e, files.loading s path = .error e := by
  have hi : i < (tasks.map (told files s tell)).length := by
    rw [List.length_map]
    exact (List.getElem?_eq_some_iff.1 h).1
  have houtput : (tellAll files s tell tasks).outputs[i]? = some (told files s tell path) := by
    rw [tellAll, List.getElem?_append_left hi, List.getElem?_map, h, Option.map_some]
  rw [houtput]
  cases hload : files.loading s path with
  | ok t => simp [told, hload]
  | error e => simp [told, hload, errorLine]

/-- `inspect` ends as a batch of one path does. -/
theorem exit_runInspect (tell : String → Task → String) (path : String) :
    ((runInspect files path).run s).1.exit = (tellAll files s tell [path]).exit := by
  have hjob : ((loadJob files path).run s).1 = (files.loading s path).mapError (.load path) := rfl
  rw [runInspect, run_bind, hjob, tellAll, refused, List.filterMap_cons]
  cases files.loading s path with
  | ok t => rfl
  | error e => rfl

/-- The line about a task that is accepted. -/
def validLine (path : String) (t : Task) : String :=
  "✅ " ++ path ++ ": task '" ++ t.name ++ "' is valid (" ++ toString t.interfaces.length ++ " interfaces, "
    ++ toString t.warnings.length ++ " warnings)\n"

/-- The line about a warning. -/
def warningLine (w : Finding) : String :=
  "   ⚠️  " ++ w.message ++ "\n"

/-- **`check`, `render` and `inspect` accept the same descriptors**, whatever the order in which their jobs end. The
first two say the same on errors and end alike; they report the paths that are refused, in their order, and no others;
`render` gives the headers of the paths that are accepted, `check` a line for each of them and one for each warning;
and `inspect` ends as the others do for one path. -/
theorem commands_accept_alike {files : Files (StateM σ)} (hread : files.Steady) (s : σ) (tasks : List String)
    (order order' : List Nat) (horder : order.Perm (List.range tasks.length))
    (horder' : order'.Perm (List.range tasks.length)) :
    (outcome files order (.check tasks) s).errors = (outcome files order' (.render tasks none) s).errors ∧
      (outcome files order (.check tasks) s).exit = (outcome files order' (.render tasks none) s).exit ∧
      (outcome files order (.check tasks) s).errors
        = String.join ((refused files s tasks).map refusalLine)
          ++ (if refused files s tasks = [] then ""
            else "❌ " ++ toString (refused files s tasks).length ++ " task(s) failed\n") ∧
      ((outcome files order (.check tasks) s).exit = 0 ↔ refused files s tasks = []) ∧
      (∀ (i : Nat) (path : String), tasks[i]? = some path →
        ((∃ text, (outcome files order (.check tasks) s).outputs[i]? = some (.error text)) ↔
            ∃ e, files.loading s path = .error e) ∧
          ((∃ text, (outcome files order' (.render tasks none) s).outputs[i]? = some (.error text)) ↔
            ∃ e, files.loading s path = .error e)) ∧
      (∃ headers, (accepted files s tasks).map (fun a => Header.cpp a.2) = headers.map .ok ∧
        (outcome files order' (.render tasks none) s).results = String.join headers) ∧
      (outcome files order (.check tasks) s).results
        = String.join ((accepted files s tasks).map fun a =>
            validLine a.1 a.2 ++ String.join (a.2.warnings.map warningLine)) ∧
      ∀ path, tasks = [path] → ∀ order'',
        ((outcome files order'' (.inspect path) s).exit = 0 ↔ (outcome files order (.check tasks) s).exit = 0) ∧
          ((outcome files order'' (.inspect path) s).exit = 0 ↔
            (outcome files order' (.render tasks none) s).exit = 0) := by
  have hcheck : outcome files order (.check tasks) s = tellAll files s validLines tasks := by
    rw [outcome, runInOrder, runCheck_of_steady hread horder, checked_eq]
  have hrender : outcome files order' (.render tasks none) s
      = tellAll files s (fun _ t => Line.written t.lines) tasks := by
    rw [outcome, runInOrder, runRender_of_steady hread none horder', run_deliverAll_none, printed_eq]
  rw [hcheck, hrender]
  refine ⟨?_, rfl, errors_tellAll _ _, ?_, fun i path h => ⟨reported_iff h, reported_iff h⟩, ?_, ?_, ?_⟩
  · rw [errors_tellAll, errors_tellAll]
  · rw [tellAll, ← List.length_eq_zero_iff]
    split <;> simp_all
  · refine ⟨(accepted files s tasks).map fun a => Line.written a.2.lines, ?_, results_tellAll _ _⟩
    rw [List.map_map]
    refine List.map_congr_left fun a ha => ?_
    obtain ⟨path, -, hpath⟩ := List.mem_filterMap.1 ha
    split at hpath
    · next t ht =>
      cases hpath
      exact Header.cpp_of_valid (Files.valid_of_loading ht)
    · cases hpath
  · exact results_tellAll _ _
  · rintro path rfl order''
    rw [outcome, runInOrder, exit_runInspect validLines path]
    exact ⟨.rfl, .rfl⟩

/-- A tree with one descriptor, of a task with an empty interface. -/
def oneDescriptor : FileSystem :=
  { entries := [(["a.yaml"], .file "name: a\ninterfaces:\n  - name: i\n".toUTF8)] }

/-- A descriptor before a file of no format. -/
theorem commands_accept_alike_samples :
    FileSystem.files.Steady ∧ ([1, 0] : List Nat).Perm (List.range 2) ∧
      (accepted FileSystem.files oneDescriptor ["a.yaml", "b.json"]
          = [("a.yaml", { name := "a", interfaces := [{ name := "i" }] })] ∧
        refused FileSystem.files oneDescriptor ["a.yaml", "b.json"] = [("b.json", .unsupportedFormat "b.json")]) ∧
      (outcome FileSystem.files [1, 0] (.check ["a.yaml", "b.json"]) oneDescriptor).errors
        = "❌ b.json: failed to load b.json: unsupported task descriptor format for b.json"
          ++ " (expected .yaml, .yml or .toml)\n❌ 1 task(s) failed\n" ∧
      (outcome FileSystem.files [0] (.check ["a.yaml"]) oneDescriptor).exit = 0 ∧
      (outcome FileSystem.files [] (.inspect "a.yaml") oneDescriptor).exit = 0 := by
  have hread := FileSystem.files_steady
  have hswap : ([1, 0] : List Nat).Perm (List.range 2) := by decide
  have haccepted : accepted FileSystem.files oneDescriptor ["a.yaml", "b.json"]
      = [("a.yaml", { name := "a", interfaces := [{ name := "i" }] })] := by decide +kernel
  have hrefused : refused FileSystem.files oneDescriptor ["a.yaml", "b.json"]
      = [("b.json", .unsupportedFormat "b.json")] := by decide +kernel
  have hnone : refused FileSystem.files oneDescriptor ["a.yaml"] = [] := by decide +kernel
  obtain ⟨-, -, herrors, -⟩ :=
    commands_accept_alike hread oneDescriptor ["a.yaml", "b.json"] [1, 0] [0, 1] hswap (.refl _)
  obtain ⟨-, -, -, hexit, -, -, -, hinspect⟩ :=
    commands_accept_alike hread oneDescriptor ["a.yaml"] [0] [0] (.refl _) (.refl _)
  rw [hrefused] at herrors
  have hzero := hexit.2 hnone
  exact ⟨hread, hswap, ⟨haccepted, hrefused⟩, herrors.trans (by decide +kernel), hzero,
    (hinspect "a.yaml" rfl []).1.2 hzero⟩

end Command

end TaskHeader
