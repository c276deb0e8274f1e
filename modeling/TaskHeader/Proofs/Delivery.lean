import TaskHeader.Proofs.Conflict
import TaskHeader.Proofs.Refusal

/-!
# Headers written into a directory

`render` with a directory writes a header for each descriptor whose task has a name of its own in the batch, below the
directory and the name. The files may refuse each step for whatever reason; what does not get done is reported and
counted. To see what is asked of the files they note every call that may change them with its answer (`Files.noting`);
noting changes nothing else.

* One header is written at its place if both of its calls succeed (`run_writeHeader`).
* A batch writes one header after the other (`Delivered`, `run_deliver`), by induction on the batch. Each header stays
  as it was written, because the places are distinct (`Delivered.effects`).
* Which positions are written is decided before the first header is (`chosen_iff_sole`), by the files that the run
  starts from; how the run ends is decided by the answers of the files (`render_below_directory`).
-/

namespace TaskHeader

variable {σ : Type}

/-! ## Calls that may change files -/

/-- A call that may change files, with its answer. -/
inductive Note where
  | made (path : String) (answer : Except FileError Unit)
  | wrote (path content : String) (answer : Except FileError Unit)
  deriving DecidableEq

/-- The files that work like others and note the calls that may change them, in order. -/
def Files.noting (files : Files (StateM σ)) : Files (StateM (σ × List Note)) where
  read path := fun s =>
    let done := (files.read path).run s.1
    (done.1, done.2, s.2)
  makeDirectories path := fun s =>
    let done := (files.makeDirectories path).run s.1
    (done.1, done.2, s.2 ++ [.made path done.1])
  write path content := fun s =>
    let done := (files.write path content).run s.1
    (done.1, done.2, s.2 ++ [.wrote path content done.1])

/-- A call that is noted has the answer that it has anyway. -/
theorem Files.run_noting_make {files : Files (StateM σ)} {path : String} {answer : Except FileError Unit} {s s' : σ}
    (h : (files.makeDirectories path).run s = (answer, s')) (log : List Note) :
    (files.noting.makeDirectories path).run (s, log) = (answer, s', log ++ [.made path answer]) := by
  have hrun : (files.noting.makeDirectories path).run (s, log)
      = (((files.makeDirectories path).run s).1, ((files.makeDirectories path).run s).2,
          log ++ [.made path ((files.makeDirectories path).run s).1]) := rfl
  rw [hrun, h]

theorem Files.run_noting_write {files : Files (StateM σ)} {path content : String} {answer : Except FileError Unit}
    {s s' : σ} (h : (files.write path content).run s = (answer, s')) (log : List Note) :
    (files.noting.write path content).run (s, log) = (answer, s', log ++ [.wrote path content answer]) := by
  have hrun : (files.noting.write path content).run (s, log)
      = (((files.write path content).run s).1, ((files.write path content).run s).2,
          log ++ [.wrote path content ((files.write path content).run s).1]) := rfl
  rw [hrun, h]

theorem Files.Steady.noting {files : Files (StateM σ)} (h : files.Steady) : files.noting.Steady :=
  fun path s => Prod.ext (h path s.1) rfl

/-- Noting does not change what a path is loaded as. -/
theorem Files.loading_noting (files : Files (StateM σ)) (s : σ) (log : List Note) (path : String) :
    files.noting.loading (s, log) path = files.loading s path :=
  loading_congr rfl

namespace Command

/-! ## One header -/

/-- How the writing of a header ends. -/
inductive Ending where
  | noDirectory (e : FileError)
  | noFile (e : FileError)
  | written
  deriving DecidableEq

/-- The writing of a header for a position of a batch. -/
structure Writing where
  position : Nat
  task : Task
  header : String
  ending : Ending

namespace Writing

variable (directory : String) (w : Writing)

/-- The directory for the header. -/
def home : String :=
  Path.join directory w.task.name

/-- The file for the header. -/
def target : String :=
  Path.join (w.home directory) headerFile

/-- The place of the file, seen from a directory. -/
def place (base : Location) : Location :=
  FileSystem.place base (w.target directory)

/-- What is asked of the files: the directory and, once it is there, the file. -/
def notes : List Note :=
  match w.ending with
  | .noDirectory e => [.made (w.home directory) (.error e)]
  | .noFile e => [.made (w.home directory) (.ok ()), .wrote (w.target directory) w.header (.error e)]
  | .written => [.made (w.home directory) (.ok ()), .wrote (w.target directory) w.header (.ok ())]

/-- What is answered to who wants the header written. -/
def answer : Except Failure String :=
  match w.ending with
  | .noDirectory e => .error (.makeDirectory (w.home directory) e)
  | .noFile e => .error (.write (w.target directory) e)
  | .written => .ok (w.target directory)

end Writing

theorem headerFile_plain : Path.Plain headerFile := by
  refine ⟨?_, ?_, ?_⟩ <;> decide

/-- The file for a header lies two names below the directory. -/
theorem Writing.place_eq {directory : String} {w : Writing} (h : Identifier.Legal w.task.name) (base : Location) :
    w.place directory base = FileSystem.place base directory ++ [w.task.name, headerFile] := by
  rw [place, target, home, FileSystem.place_join headerFile_plain, FileSystem.place_join h.plain, List.append_assoc]
  rfl

/-- The writing of a header may change its file: where it is written, and where the attempt fails but files do not spare
what they fail to write. -/
def Writing.MayChange (sparing : Prop) (w : Writing) : Prop :=
  w.ending = .written ∨ (¬sparing ∧ ∃ e, w.ending = .noFile e)

/-- What the writing of a header does: if it succeeds the header is at its place, and nothing else changes but
directories that are made on the way. -/
structure Wrote (directory : String) (sparing : Prop) (w : Writing) (fs fs' : FileSystem) : Prop where
  base : fs'.workingDirectory = fs.workingDirectory
  written : w.ending = .written → fs'.get? (w.place directory fs.workingDirectory) = some (.file w.header.toUTF8)
  kept : ∀ l, (w.MayChange sparing → l ≠ w.place directory fs.workingDirectory) →
    FileSystem.Kept (FileSystem.OnWay fs.workingDirectory (w.home directory)) fs fs' l

section Files

variable {files : Files (StateM σ)} {tree : σ → FileSystem} {directory header : String} {t : Task} {s s₁ s₂ : σ}

/-- Without its directory a header is not written. -/
theorem run_writeHeader_of_error {e : FileError}
    (hmake : (files.makeDirectories (Path.join directory t.name)).run s = (.error e, s₁)) :
    (writeHeader files directory t header).run s = (.error (.makeDirectory (Path.join directory t.name) e), s₁) := by
  simp only [writeHeader, run_bind, hmake]
  rfl

/-- In its directory a header is written if the files let it. -/
theorem run_writeHeader_of_made {wrote : Except FileError Unit}
    (hmake : (files.makeDirectories (Path.join directory t.name)).run s = (.ok (), s₁))
    (hwrite : (files.write (Path.join (Path.join directory t.name) headerFile) header).run s₁ = (wrote, s₂)) :
    (writeHeader files directory t header).run s
      = ((wrote.mapError (.write (Path.join (Path.join directory t.name) headerFile))).map
          fun _ => Path.join (Path.join directory t.name) headerFile, s₂) := by
  simp only [writeHeader, run_bind, hmake, hwrite]
  cases wrote <;> rfl

/-- **A header is written at its place if the files let it**, and the answer is that of the files. -/
theorem run_writeHeader (hfiles : files.ActsOn tree) (directory : String) (k : Nat) (t : Task) (header : String)
    (s : σ) :
    ∃ w s', (∃ ending, w = ⟨k, t, header, ending⟩) ∧ Wrote directory (files.Spares tree) w (tree s) (tree s') ∧
      (writeHeader files directory t header).run s = (w.answer directory, s') ∧
      ∀ log, (writeHeader files.noting directory t header).run (s, log)
        = (w.answer directory, s', log ++ w.notes directory) := by
  rcases hmake : (files.makeDirectories (Path.join directory t.name)).run s with ⟨made, s₁⟩
  obtain ⟨hbase, hkept⟩ := hfiles.make hmake
  have hmade := Files.run_noting_make hmake
  cases made with
  | error e =>
    refine ⟨_, s₁, ⟨.noDirectory e, rfl⟩, ⟨hbase, nofun, fun l _ => hkept l⟩, ?_, fun log => ?_⟩
    · exact run_writeHeader_of_error hmake
    · exact run_writeHeader_of_error (hmade log)
  | ok _ =>
    rcases hwrite : (files.write (Path.join (Path.join directory t.name) headerFile) header).run s₁ with ⟨wrote, s₂⟩
    obtain ⟨hbase', hthere, hothers⟩ := hfiles.write hwrite
    rw [hbase] at hbase' hthere hothers
    have hwrote := Files.run_noting_write hwrite
    cases wrote with
    | error e =>
      refine ⟨_, s₂, ⟨.noFile e, rfl⟩, ⟨hbase', nofun, fun l hl => (hkept l).trans (.inl ?_)⟩, ?_, fun log => ?_⟩
      · by_cases hplace : l = FileSystem.place (tree s).workingDirectory
            (Path.join (Path.join directory t.name) headerFile)
        · -- the file itself is as it was only if it is spared
          have hspares : files.Spares tree := by_contra fun hspoilt => hl (.inr ⟨hspoilt, e, rfl⟩) hplace
          exact hspares _ _ _ _ _ hwrite l
        · exact hothers l hplace
      · exact run_writeHeader_of_made hmake hwrite
      · rw [run_writeHeader_of_made (hmade log) (hwrote _), List.append_assoc]
        rfl
    | ok _ =>
      refine ⟨_, s₂, ⟨.written, rfl⟩, ⟨hbase', fun _ => hthere rfl, fun l hl => ?_⟩, ?_, fun log => ?_⟩
      · exact (hkept l).trans (.inl (hothers l (hl (.inl rfl))))
      · exact run_writeHeader_of_made hmake hwrite
      · rw [run_writeHeader_of_made (hmade log) (hwrote _), List.append_assoc]
        rfl

end Files

/-! ## A batch of headers -/

/-- A position of a batch: its path, what its job gave and the conflict of its name. -/
abbrev Item := (String × Except Failure (Task × String)) × Option Batch.Conflict

/-- The task and the header of a position that has no conflict. -/
def Item.chosen (item : Item) : Option (Task × String) :=
  match item.1.2, item.2 with
  | .ok d, none => some d
  | _, _ => none

/-- What is told of a header that was to be written. -/
def Writing.report (directory path : String) (w : Writing) : Except Failure Output :=
  (w.answer directory).map fun target => .result ("✅ " ++ path ++ " → " ++ target ++ "\n")

/-- The delivery of a position. -/
def deliverItem {m : Type → Type} [Monad m] (files : Files m) (directory : String) (item : Item) :
    m (String × Except Failure Output) := do
  return (item.1.1, ← deliver files (some directory) item.1.1 item.1.2 item.2)

theorem deliverAll_eq {m : Type → Type} [Monad m] (files : Files m) (directory : String)
    (results : List (String × Except Failure (Task × String))) :
    deliverAll files (some directory) results = (do
      let reports ← (results.zip (conflictsOf (some directory) results)).mapM (deliverItem files directory)
      return finish reports) := rfl

/-- A position that is not chosen is reported as failed, and the files are left alone. -/
theorem run_deliverItem_of_none (directory : String) {item : Item} (h : item.chosen = none) :
    ∃ f, ∀ {τ : Type} (files : Files (StateM τ)) (s : τ),
      (deliverItem files directory item).run s = ((item.1.1, .error f), s) := by
  obtain ⟨⟨path, result⟩, conflict⟩ := item
  cases result with
  | error f => exact ⟨f, fun files s => rfl⟩
  | ok d =>
    cases conflict with
    | some c => exact ⟨.conflict c, fun files s => rfl⟩
    | none => cases h

/-- The header of a chosen position is written, and the answer is reported. -/
theorem run_deliverItem_of_some {τ : Type} {files : Files (StateM τ)} {directory : String} {item : Item} {t : Task}
    {header : String} (h : item.chosen = some (t, header)) {answer : Except Failure String} {s s' : τ}
    (hwrite : (writeHeader files directory t header).run s = (answer, s')) :
    (deliverItem files directory item).run s
      = ((item.1.1, answer.map fun target => .result ("✅ " ++ item.1.1 ++ " → " ++ target ++ "\n")), s') := by
  obtain ⟨⟨path, result⟩, conflict⟩ := item
  cases result with
  | error f => cases h
  | ok d =>
    cases conflict with
    | some c => cases h
    | none =>
      obtain rfl := Option.some.inj h
      simp only [deliverItem, deliver, run_bind, run_pure, hwrite]

/-- The positions of a batch are delivered one after the other, the first of them that of the given number: the chosen
ones are written, the others are reported and change nothing. -/
inductive Delivered (directory : String) (sparing : Prop) :
    Nat → List Item → FileSystem → List Writing → List (String × Except Failure Output) → FileSystem → Prop
  | nil (k : Nat) (fs : FileSystem) : Delivered directory sparing k [] fs [] [] fs
  | refused {k : Nat} {item : Item} {rest : List Item} {fs fs' : FileSystem} {ws : List Writing}
      {reports : List (String × Except Failure Output)} (f : Failure) : item.chosen = none →
      Delivered directory sparing (k + 1) rest fs ws reports fs' →
        Delivered directory sparing k (item :: rest) fs ws ((item.1.1, .error f) :: reports) fs'
  | wrote {item : Item} {rest : List Item} {fs fs₁ fs' : FileSystem} {w : Writing} {ws : List Writing}
      {reports : List (String × Except Failure Output)} : item.chosen = some (w.task, w.header) →
      Wrote directory sparing w fs fs₁ → Delivered directory sparing (w.position + 1) rest fs₁ ws reports fs' →
        Delivered directory sparing w.position (item :: rest) fs (w :: ws)
          ((item.1.1, w.report directory item.1.1) :: reports) fs'

/-- **A batch is delivered one position after the other**, by induction on its positions. -/
theorem run_deliver {files : Files (StateM σ)} {tree : σ → FileSystem} (hfiles : files.ActsOn tree)
    (directory : String) : ∀ (items : List Item) (k : Nat) (s : σ),
      ∃ ws reports s', Delivered directory (files.Spares tree) k items (tree s) ws reports (tree s') ∧
        (items.mapM (deliverItem files directory)).run s = (reports, s') ∧
        ∀ log, (items.mapM (deliverItem files.noting directory)).run (s, log)
          = (reports, s', log ++ ws.flatMap (·.notes directory))
  | [], k, s => ⟨[], [], s, .nil k (tree s), rfl, fun log => by rw [List.flatMap_nil, List.append_nil]; rfl⟩
  | item :: rest, k, s => by
    cases hchosen : item.chosen with
    | none =>
      obtain ⟨f, hrefused⟩ := run_deliverItem_of_none directory hchosen
      obtain ⟨ws, reports, s', hdelivered, hrun, hnoted⟩ := run_deliver hfiles directory rest (k + 1) s
      refine ⟨ws, _, s', .refused f hchosen hdelivered, ?_, fun log => ?_⟩
      · rw [run_mapM_cons, hrefused, hrun]
      · rw [run_mapM_cons, hrefused, hnoted]
    | some d =>
      obtain ⟨t, header⟩ := d
      obtain ⟨_, s₁, ⟨ending, rfl⟩, hwrote, hwrite, hnotes⟩ := run_writeHeader hfiles directory k t header s
      obtain ⟨ws, reports, s', hdelivered, hrun, hnoted⟩ := run_deliver hfiles directory rest (k + 1) s₁
      refine ⟨⟨k, t, header, ending⟩ :: ws, _, s', .wrote hchosen hwrote hdelivered, ?_, fun log => ?_⟩
      · rw [run_mapM_cons, run_deliverItem_of_some hchosen hwrite, hrun]
        rfl
      · rw [run_mapM_cons, run_deliverItem_of_some hchosen (hnotes log), hnoted, List.flatMap_cons, List.append_assoc]
        rfl

section Batch

variable {directory : String} {sparing : Prop} {k : Nat} {items : List Item} {fs fs' : FileSystem} {ws : List Writing}
  {reports : List (String × Except Failure Output)}

/-- **The chosen positions are written**, with their tasks and headers and in their order. -/
theorem Delivered.chosen_eq (h : Delivered directory sparing k items fs ws reports fs') :
    ws.map (fun w => (w.position, w.task, w.header))
      = (items.zipIdx k).filterMap fun p => p.1.chosen.map fun d => (p.2, d.1, d.2) := by
  induction h with
  | nil k fs => rfl
  | refused f hnone _ ih => rw [List.zipIdx_cons, List.filterMap_cons, hnone, ih]; rfl
  | wrote hsome _ _ ih => rw [List.zipIdx_cons, List.filterMap_cons, hsome, List.map_cons, ih]; rfl

theorem Delivered.le_position (h : Delivered directory sparing k items fs ws reports fs') :
    ∀ w ∈ ws, k ≤ w.position := by
  induction h with
  | nil k fs => exact nofun
  | refused f _ _ ih => exact fun w hw => Nat.le_of_succ_le (ih w hw)
  | wrote _ _ _ ih =>
    refine List.forall_mem_cons.2 ⟨Nat.le_refl _, fun w hw => Nat.le_of_succ_le (ih w hw)⟩

/-- The headers are written in the order of their positions. -/
theorem Delivered.rising (h : Delivered directory sparing k items fs ws reports fs') :
    ws.Pairwise (·.position < ·.position) := by
  induction h with
  | nil k fs => exact .nil
  | refused f _ _ ih => exact ih
  | wrote _ _ hrest ih => exact .cons hrest.le_position ih

/-- **What is written stays.** The places of a batch are distinct, so no later header takes the place of an earlier
one. -/
theorem Delivered.effects (h : Delivered directory sparing k items fs ws reports fs')
    (hnodup : (ws.map (·.place directory fs.workingDirectory)).Nodup) :
    (∀ w ∈ ws, w.ending = .written → fs'.get? (w.place directory fs.workingDirectory) = some (.file w.header.toUTF8)) ∧
      ∀ l, (∀ w ∈ ws, w.MayChange sparing → l ≠ w.place directory fs.workingDirectory) →
        FileSystem.Kept (fun l => ∃ w ∈ ws, FileSystem.OnWay fs.workingDirectory (w.home directory) l) fs fs' l := by
  induction h with
  | nil k fs => exact ⟨nofun, fun l _ => .inl rfl⟩
  | refused f _ _ ih => exact ih hnodup
  | @wrote item rest fs fs₁ fs' w ws reports _ hwrote _ ih =>
    rw [List.map_cons, List.nodup_cons] at hnodup
    obtain ⟨hnew, hnodup⟩ := hnodup
    rw [hwrote.base] at ih
    obtain ⟨hfiles, hkept⟩ := ih hnodup
    have hway : ∀ l, (∃ w ∈ ws, FileSystem.OnWay fs.workingDirectory (w.home directory) l) →
        ∃ w' ∈ w :: ws, FileSystem.OnWay fs.workingDirectory (w'.home directory) l :=
      fun l ⟨w', hw', hl⟩ => ⟨w', List.mem_cons_of_mem _ hw', hl⟩
    refine ⟨List.forall_mem_cons.2 ⟨fun hwritten => ?_, hfiles⟩, fun l hl => ?_⟩
    · -- the first header lies at no place of the rest
      refine (hkept _ fun w' hw' _ hplace => hnew ?_).get?_eq (hwrote.written hwritten)
      exact List.mem_map.2 ⟨w', hw', hplace.symm⟩
    · obtain ⟨hfirst, hrest⟩ := List.forall_mem_cons.1 hl
      exact ((hwrote.kept l hfirst).mono fun hl => ⟨w, List.mem_cons_self, hl⟩).trans ((hkept l hrest).mono (hway l))

theorem Writing.report_isError (path : String) (w : Writing) :
    (w.report directory path matches .error _) = true ↔ w.ending ≠ .written := by
  rw [report, answer]
  cases w.ending <;> simp [Except.map]

/-- **No report is a failure exactly if every position is written.** -/
theorem Delivered.failures_eq_zero_iff (h : Delivered directory sparing k items fs ws reports fs') :
    (reports.countP fun r => r.2 matches .error _) = 0 ↔
      ∀ i, k ≤ i → i < k + items.length → ∃ w ∈ ws, w.position = i ∧ w.ending = .written := by
  induction h with
  | nil k fs => exact ⟨fun _ i hi hlt => absurd hlt (Nat.not_lt.2 hi), fun _ => rfl⟩
  | @refused k item rest _ _ ws _ f _ hrest ih =>
    refine ⟨fun hnone => ?_, fun hall => ?_⟩
    · rw [List.countP_cons] at hnone
      exact absurd hnone (Nat.succ_ne_zero _)
    · obtain ⟨w, hw, hposition, -⟩ := hall k (Nat.le_refl k) (by simp)
      have hle := hrest.le_position w hw
      omega
  | @wrote item rest _ _ _ w ws _ _ _ hrest ih =>
    have hreport : (w.report directory item.1.1 matches .error _) = true ↔ w.ending ≠ .written :=
      Writing.report_isError _ _
    rw [List.countP_cons, Nat.add_eq_zero_iff, ih]
    constructor
    · rintro ⟨hall, hfirst⟩ i hle hlt
      rcases Nat.eq_or_lt_of_le hle with rfl | hle
      · have hwritten : w.ending = .written := by
          by_contra hne
          rw [if_pos (hreport.2 hne)] at hfirst
          cases hfirst
        exact ⟨w, List.mem_cons_self, rfl, hwritten⟩
      · obtain ⟨w', hw', h⟩ := hall i hle (by rw [List.length_cons] at hlt; omega)
        exact ⟨w', List.mem_cons_of_mem _ hw', h⟩
    · intro hall
      refine ⟨fun i hle hlt => ?_, ?_⟩
      · obtain ⟨w', hw', hposition, hwritten⟩ := hall i (by omega) (by rw [List.length_cons]; omega)
        rcases List.mem_cons.1 hw' with rfl | hw'
        · omega
        · exact ⟨w', hw', hposition, hwritten⟩
      · obtain ⟨w', hw', hposition, hwritten⟩ := hall w.position (Nat.le_refl _) (by simp)
        rcases List.mem_cons.1 hw' with rfl | hw'
        · exact if_neg fun herror => hreport.1 herror hwritten
        · have hle := hrest.le_position w' hw'
          omega

/-- What became of a header is told in the turn of its position. -/
theorem Delivered.told (h : Delivered directory sparing k items fs ws reports fs') :
    ∀ w ∈ ws, ∃ item, items[w.position - k]? = some item ∧
      reports[w.position - k]? = some (item.1.1, w.report directory item.1.1) := by
  have hbehind : ∀ {k i : Nat}, k + 1 ≤ i → i - k = i - (k + 1) + 1 := fun h => by omega
  induction h with
  | nil k fs => exact nofun
  | refused f _ hrest ih =>
    intro w hw
    obtain ⟨item, hitem, hreport⟩ := ih w hw
    rw [hbehind (hrest.le_position w hw), List.getElem?_cons_succ, List.getElem?_cons_succ]
    exact ⟨item, hitem, hreport⟩
  | @wrote item _ _ _ _ w _ _ _ _ hrest ih =>
    refine List.forall_mem_cons.2 ⟨?_, fun w' hw' => ?_⟩
    · rw [Nat.sub_self]
      exact ⟨item, rfl, rfl⟩
    · obtain ⟨item', hitem, hreport⟩ := ih w' hw'
      rw [hbehind (hrest.le_position w' hw'), List.getElem?_cons_succ, List.getElem?_cons_succ]
      exact ⟨item', hitem, hreport⟩

end Batch

/-! ## The chosen positions -/

variable (files : Files (StateM σ)) (s : σ) (tasks : List String)

/-- The descriptor at a position of a batch loads as a valid task that has a header. -/
def RendersAt (i : Nat) (t : Task) (header : String) : Prop :=
  ∃ path, tasks[i]? = some path ∧ files.loading s path = .ok t ∧ Header.cpp t = .ok header

/-- No other such position has a task of the name. -/
structure Sole (i : Nat) (t : Task) (header : String) : Prop where
  renders : RendersAt files s tasks i t header
  alone : ∀ j t' header', RendersAt files s tasks j t' header' → t'.name = t.name → j = i

/-- What the jobs of a batch give. -/
def renderings : List (String × Except Failure (Task × String)) :=
  tasks.map fun path => (path, ((renderJob files path).run s).1)

/-- The positions of a batch with the conflicts of their names. -/
def batch (directory : String) : List Item :=
  (renderings files s tasks).zip (conflictsOf (some directory) (renderings files s tasks))

variable {files s tasks}

theorem rendersAt_iff {i : Nat} {t : Task} {header : String} :
    RendersAt files s tasks i t header ↔ ∃ path, (renderings files s tasks)[i]? = some (path, .ok (t, header)) := by
  have hjob : ∀ path, ((renderJob files path).run s).1 = .ok (t, header) ↔
      files.loading s path = .ok t ∧ Header.cpp t = .ok header := by
    intro path
    cases hload : files.loading s path with
    | error e =>
      have hrun : ((renderJob files path).run s).1 = .error (.load path e) := by
        rw [run_renderJob, hload]
        rfl
      rw [hrun]
      exact ⟨nofun, nofun⟩
    | ok t' =>
      have hrun : ((renderJob files path).run s).1 = .ok (t', Line.written t'.lines) := by
        rw [run_renderJob, hload]
        rfl
      have hheader := Header.cpp_of_valid (Files.valid_of_loading hload)
      simp only [hrun, Except.ok.injEq, Prod.mk.injEq]
      constructor
      · rintro ⟨rfl, rfl⟩
        exact ⟨rfl, hheader⟩
      · rintro ⟨rfl, h⟩
        exact ⟨rfl, Except.ok.inj (hheader.symm.trans h)⟩
  simp only [renderings, List.getElem?_map, Option.map_eq_some_iff, Prod.mk.injEq, hjob, RendersAt]
  constructor
  · rintro ⟨path, hpath, h⟩
    exact ⟨path, path, hpath, rfl, h⟩
  · rintro ⟨-, path, hpath, -, h⟩
    exact ⟨path, hpath, h⟩

/-- **A position is chosen exactly if it is the sole one with a header for its name.** -/
theorem chosen_iff_sole (directory : String) {i : Nat} {t : Task} {header : String} :
    ((batch files s tasks directory)[i]?).bind Item.chosen = some (t, header) ↔ Sole files s tasks i t header := by
  have hconflicts : conflictsOf (some directory) (renderings files s tasks)
      = Batch.conflicts (namesOf (renderings files s tasks)) := rfl
  have hnone : ∀ path, (renderings files s tasks)[i]? = some (path, .ok (t, header)) →
      ((Batch.conflicts (namesOf (renderings files s tasks)))[i]? = some none ↔
        ∀ j t' header', RendersAt files s tasks j t' header' → t'.name = t.name → j = i) := by
    intro path hi
    rw [Batch.conflicts_none_iff (getElem?_namesOf.2 ⟨t, header, hi, rfl⟩)]
    constructor
    · intro honly j t' header' hj hname
      obtain ⟨path', hj⟩ := rendersAt_iff.1 hj
      exact honly j path' (getElem?_namesOf.2 ⟨t', header', hj, hname⟩)
    · intro honly j path' hj
      obtain ⟨t', header', hj, hname⟩ := getElem?_namesOf.1 hj
      exact honly j t' header' (rendersAt_iff.2 ⟨path', hj⟩) hname
  rw [batch, hconflicts, Option.bind_eq_some_iff]
  constructor
  · rintro ⟨⟨⟨path, result⟩, conflict⟩, hitem, hchosen⟩
    obtain ⟨hi, hconflict⟩ := List.getElem?_zip_eq_some.1 hitem
    cases result with
    | error f => cases hchosen
    | ok d =>
      cases conflict with
      | some c => cases hchosen
      | none =>
        obtain rfl := Option.some.inj hchosen
        exact ⟨rendersAt_iff.2 ⟨path, hi⟩, (hnone path hi).1 hconflict⟩
  · rintro ⟨hrenders, honly⟩
    obtain ⟨path, hi⟩ := rendersAt_iff.1 hrenders
    exact ⟨((path, .ok (t, header)), none), List.getElem?_zip_eq_some.2 ⟨hi, (hnone path hi).2 honly⟩, rfl⟩

/-- The path of a position in a batch is that on the command line. -/
theorem path_of_batch {directory : String} {i : Nat} {item : Item}
    (h : (batch files s tasks directory)[i]? = some item) : tasks[i]? = some item.1.1 := by
  obtain ⟨hitem, -⟩ := List.getElem?_zip_eq_some.1 h
  rw [renderings, List.getElem?_map] at hitem
  obtain ⟨path, hpath, heq⟩ := Option.map_eq_some_iff.1 hitem
  rw [hpath, ← heq]

theorem length_batch (directory : String) : (batch files s tasks directory).length = tasks.length := by
  have hconflicts : conflictsOf (some directory) (renderings files s tasks)
      = Batch.conflicts (namesOf (renderings files s tasks)) := rfl
  rw [batch, hconflicts, List.length_zip, Batch.length_conflicts, namesOf, List.length_map, Nat.min_self, renderings,
    List.length_map]

/-- The writings of a batch are those of its sole positions. -/
theorem Delivered.mem_iff_sole {directory : String} {sparing : Prop} {ws : List Writing}
    {reports : List (String × Except Failure Output)} {fs fs' : FileSystem}
    (h : Delivered directory sparing 0 (batch files s tasks directory) fs ws reports fs') {i : Nat} {t : Task}
    {header : String} :
    (∃ w ∈ ws, w.position = i ∧ w.task = t ∧ w.header = header) ↔ Sole files s tasks i t header := by
  have hmem : (∃ w ∈ ws, w.position = i ∧ w.task = t ∧ w.header = header) ↔
      (i, t, header) ∈ ws.map fun w => (w.position, w.task, w.header) := by
    simp only [List.mem_map, Prod.mk.injEq]
  rw [hmem, h.chosen_eq, List.mem_filterMap, ← chosen_iff_sole directory, Option.bind_eq_some_iff]
  constructor
  · rintro ⟨⟨item, j⟩, hitem, hchosen⟩
    obtain ⟨d, hd, heq⟩ := Option.map_eq_some_iff.1 hchosen
    obtain ⟨rfl, rfl⟩ : j = i ∧ d = (t, header) := Prod.mk.inj heq
    exact ⟨item, List.mem_zipIdx_iff_getElem?.1 hitem, hd⟩
  · rintro ⟨item, hitem, hchosen⟩
    exact ⟨(item, i), List.mem_zipIdx_iff_getElem?.2 hitem, by rw [hchosen]; rfl⟩

/-! ## The whole run -/

/-- What a run of `render` into a directory does, in terms of the tree that it starts from and of the answers of the
files. -/
structure Rendered (files : Files (StateM σ)) (tree : σ → FileSystem) (s : σ) (directory : String) (tasks : List String)
    (ws : List Writing) (out : Outcome) (s' : σ) : Prop where
  /-- The headers are written in the order of their positions. -/
  rising : ws.Pairwise (·.position < ·.position)
  /-- Written are exactly the tasks that no other position shares its name with. -/
  chosen : ∀ i t header, (∃ w ∈ ws, w.position = i ∧ w.task = t ∧ w.header = header) ↔ Sole files s tasks i t header
  /-- What is written is the header of a task as the tree has it when the run starts. -/
  loaded : ∀ w ∈ ws, ∃ path, tasks[w.position]? = some path ∧ FileSystem.files.loading (tree s) path = .ok w.task ∧
    Header.cpp w.task = .ok w.header
  /-- No file is written twice. -/
  targets_nodup : (ws.map (·.target directory)).Nodup
  places_nodup : (ws.map (·.place directory (tree s).workingDirectory)).Nodup
  /-- The name of a task is an identifier and one part of a path that leads into the directory. -/
  legal : ∀ w ∈ ws, Identifier.Legal w.task.name
  plain : ∀ w ∈ ws, Path.Plain w.task.name
  /-- Each header lies two names below the directory. -/
  below : ∀ w ∈ ws, w.place directory (tree s).workingDirectory
    = FileSystem.place (tree s).workingDirectory directory ++ [w.task.name, headerFile]
  /-- What was written is there in the end. -/
  written : ∀ w ∈ ws, w.ending = .written →
    (tree s').get? (w.place directory (tree s).workingDirectory) = some (.file w.header.toUTF8)
  /-- Nothing else changes but directories that are made on the way. -/
  kept : ∀ l, (∀ w ∈ ws, w.MayChange (files.Spares tree) → l ≠ w.place directory (tree s).workingDirectory) →
    FileSystem.Kept (fun l => ∃ w ∈ ws, FileSystem.OnWay (tree s).workingDirectory (w.home directory) l)
      (tree s) (tree s') l
  /-- What became of a header is told in the turn of its position, with the reason if it was not written. -/
  told : ∀ w ∈ ws, ∃ path, tasks[w.position]? = some path ∧
    out.outputs[w.position]? = some (report path (w.report directory path))
  /-- The run succeeds if every position was written. -/
  exit_iff : out.exit = 0 ↔ ∀ i < tasks.length, ∃ w ∈ ws, w.position = i ∧ w.ending = .written

theorem Sole.legal {i : Nat} {t : Task} {header : String} (h : Sole files s tasks i t header) :
    Identifier.Legal t.name := by
  obtain ⟨path, -, hload, -⟩ := h.renders
  exact (Files.valid_of_loading hload).task_legal

/-- A report is told in its turn. -/
theorem outputs_finish {reports : List (String × Except Failure Output)} {i : Nat} {path : String}
    {result : Except Failure Output} (h : reports[i]? = some (path, result)) :
    (finish reports).outputs[i]? = some (report path result) := by
  have hlt : i < (reports.map fun r => report r.1 r.2).length := by
    rw [List.length_map]
    exact (List.getElem?_eq_some_iff.1 h).1
  rw [finish_eq, List.getElem?_append_left hlt, List.getElem?_map, h, Option.map_some]

/-- A batch succeeds if no report is a failure. -/
theorem exit_finish {reports : List (String × Except Failure Output)} :
    (finish reports).exit = 0 ↔ (reports.countP fun r => r.2 matches .error _) = 0 := by
  rw [finish_eq]
  split
  · next hnone => exact ⟨fun _ => hnone, fun _ => rfl⟩
  · next hsome => exact ⟨nofun, fun hnone => absurd hnone hsome⟩

/-- A batch that is delivered leaves what it should. -/
theorem Delivered.rendered {tree : σ → FileSystem} (hfiles : files.ActsOn tree) {directory : String}
    {ws : List Writing} {reports : List (String × Except Failure Output)} {s' : σ}
    (h : Delivered directory (files.Spares tree) 0 (batch files s tasks directory) (tree s) ws reports (tree s')) :
    Rendered files tree s directory tasks ws (finish reports) s' := by
  have hsole : ∀ w ∈ ws, Sole files s tasks w.position w.task w.header :=
    fun w hw => h.mem_iff_sole.1 ⟨w, hw, rfl, rfl, rfl⟩
  have hloaded : ∀ w ∈ ws, ∃ path, tasks[w.position]? = some path ∧
      FileSystem.files.loading (tree s) path = .ok w.task ∧ Header.cpp w.task = .ok w.header := by
    intro w hw
    obtain ⟨path, hpath, hload, hheader⟩ := (hsole w hw).renders
    exact ⟨path, hpath, hfiles.loading hload, hheader⟩
  have hbelow : ∀ w ∈ ws, w.place directory (tree s).workingDirectory
      = FileSystem.place (tree s).workingDirectory directory ++ [w.task.name, headerFile] :=
    fun w hw => Writing.place_eq (hsole w hw).legal _
  have hplaces : (ws.map (·.place directory (tree s).workingDirectory)).Nodup := by
    refine List.pairwise_map.2 (h.rising.imp_of_mem fun {w w'} hw hw' hlt heq => ?_)
    rw [hbelow w hw, hbelow w' hw'] at heq
    have hname : w.task.name = w'.task.name := (List.cons.inj (List.append_cancel_left heq)).1
    exact absurd ((hsole w' hw').alone _ _ _ (hsole w hw).renders hname) (Nat.ne_of_lt hlt)
  have htargets : (ws.map (·.target directory)).Nodup := by
    refine .of_map (FileSystem.place (tree s).workingDirectory) ?_
    rw [List.map_map]
    exact hplaces
  obtain ⟨hwritten, hkept⟩ := h.effects hplaces
  have htold : ∀ w ∈ ws, ∃ path, tasks[w.position]? = some path ∧
      (finish reports).outputs[w.position]? = some (report path (w.report directory path)) := by
    intro w hw
    obtain ⟨item, hitem, hreport⟩ := h.told w hw
    exact ⟨item.1.1, path_of_batch hitem, outputs_finish hreport⟩
  refine ⟨h.rising, fun i t header => h.mem_iff_sole, hloaded, htargets, hplaces, fun w hw => (hsole w hw).legal,
    fun w hw => (hsole w hw).legal.plain, hbelow, hwritten, hkept, htold, ?_⟩
  rw [exit_finish, h.failures_eq_zero_iff, length_batch]
  simp

/-- **`render` writes below its directory, and no file twice.** Whatever the order in which the jobs end and whatever
the files refuse, the headers that it asks the files to write are those of the tasks that are valid and have their names
for themselves among the valid tasks of the batch. -/
theorem render_below_directory {files : Files (StateM σ)} {tree : σ → FileSystem} (hfiles : files.ActsOn tree) (s : σ)
    (directory : String) (tasks : List String) (order : List Nat) (horder : order.Perm (List.range tasks.length)) :
    ∃ ws out s', Rendered files tree s directory tasks ws out s' ∧
      (runInOrder files order (.render tasks (some directory))).run s = (out, s') ∧
      (runInOrder files.noting order (.render tasks (some directory))).run (s, [])
        = (out, s', ws.flatMap (·.notes directory)) := by
  have hread := hfiles.steady
  obtain ⟨ws, reports, s', hdelivered, hrun, hnoted⟩ :=
    run_deliver hfiles directory (batch files s tasks directory) 0 s
  -- the jobs read the same whether or not the calls are noted
  have hsame : (tasks.map fun path => (path, ((renderJob files.noting path).run (s, [])).1))
      = renderings files s tasks := by
    refine List.map_congr_left fun path _ => ?_
    rw [run_renderJob, run_renderJob, Files.loading_noting]
  refine ⟨ws, finish reports, s', hdelivered.rendered hfiles, ?_, ?_⟩
  · rw [runInOrder, runRender_of_steady hread (some directory) horder, deliverAll_eq]
    simp only [batch, renderings] at hrun
    simp only [run_bind, run_pure, hrun]
  · rw [runInOrder, runRender_of_steady hread.noting (some directory) horder, hsame, deliverAll_eq]
    simp only [batch] at hnoted
    simp only [run_bind, run_pure, hnoted, List.nil_append]

/-- A tree with three descriptors. -/
def threeDescriptors : FileSystem :=
  { entries :=
      [(["a.yaml"], .file "name: a\n".toUTF8), (["b.yaml"], .file "name: b\n".toUTF8),
       (["c.yaml"], .file "name: c\n".toUTF8)] }

/-- The header of a task that declares nothing. -/
def emptyHeader : String :=
  "#include \"support_proto.h\"\n\n// protocol: driver\n"

/-- Why the machine refuses to write a file. -/
def diskFull : FileError :=
  .other "No space left on device (os error 28)"

/-- The descriptor that is named twice shares its name with itself. Of the other two the machine refuses one: its
directory is made, its header is not written, and the run fails. -/
theorem render_below_directory_samples :
    FileSystem.refusing.ActsOn Prod.fst ∧ FileSystem.refusing.Spares Prod.fst ∧
      ([1, 3, 2, 0] : List Nat).Perm (List.range 4) ∧
      ∃ ws out s', Rendered FileSystem.refusing Prod.fst (threeDescriptors, [none, some diskFull]) "out"
          ["a.yaml", "b.yaml", "a.yaml", "c.yaml"] ws out s' ∧
        ws.flatMap (·.notes "out")
          = [.made "out/b" (.ok ()), .wrote "out/b/driver.h" emptyHeader (.error diskFull),
             .made "out/c" (.ok ()), .wrote "out/c/driver.h" emptyHeader (.ok ())] ∧
        s'.1.get? ["out", "b", "driver.h"] = none ∧
        s'.1.get? ["out", "c", "driver.h"] = some (.file emptyHeader.toUTF8) ∧
        out.outputs[1]? = some (.error
          "❌ b.yaml: failed to write out/b/driver.h: No space left on device (os error 28)\n") ∧
        out.exit = 1 := by
  have hfiles := FileSystem.refusing_actsOn
  have horder : ([1, 3, 2, 0] : List Nat).Perm (List.range 4) := by decide
  obtain ⟨ws, out, s', hrendered, hrun, hnoted⟩ :=
    render_below_directory hfiles (threeDescriptors, [none, some diskFull]) "out"
      ["a.yaml", "b.yaml", "a.yaml", "c.yaml"] [1, 3, 2, 0] horder
  have hnotes : ((runInOrder FileSystem.refusing.noting [1, 3, 2, 0]
      (.render ["a.yaml", "b.yaml", "a.yaml", "c.yaml"] (some "out"))).run
        ((threeDescriptors, [none, some diskFull]), [])).2.2
      = [.made "out/b" (.ok ()), .wrote "out/b/driver.h" emptyHeader (.error diskFull),
         .made "out/c" (.ok ()), .wrote "out/c/driver.h" emptyHeader (.ok ())] := by
    decide +kernel
  have hends : ∀ r, (runInOrder FileSystem.refusing [1, 3, 2, 0]
      (.render ["a.yaml", "b.yaml", "a.yaml", "c.yaml"] (some "out"))).run
        (threeDescriptors, [none, some diskFull]) = r →
      r.2.1.get? ["out", "b", "driver.h"] = none ∧
        r.2.1.get? ["out", "c", "driver.h"] = some (.file emptyHeader.toUTF8) ∧
        r.1.outputs[1]? = some (.error
          "❌ b.yaml: failed to write out/b/driver.h: No space left on device (os error 28)\n") ∧
        r.1.exit = 1 := by
    rintro _ rfl
    decide +kernel
  rw [hnoted] at hnotes
  exact ⟨hfiles, FileSystem.refusing_spares, horder, ws, out, s', hrendered, hnotes, hends _ hrun⟩

end Command

end TaskHeader
