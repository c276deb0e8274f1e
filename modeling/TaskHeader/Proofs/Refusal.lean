import TaskHeader.Proofs.Acceptance
import TaskHeader.Proofs.Place

/-!
# Files that may fail

The machine where the files are may refuse any operation for a reason of its own, such as a full disk. What is relied on
is only that an operation that succeeds has had its effect on a tree, and that one that fails has not touched more than
it was asked to touch (`Files.ActsOn`).

* The files of a tree are like this (`FileSystem.files_actsOn`), and so are those of a machine that refuses what it
  likes (`FileSystem.refusing`, `refusing_actsOn`).
* A task that is loaded from such files is loaded from the tree (`Files.ActsOn.loading`).
-/

namespace TaskHeader

variable {σ τ : Type}

/-! ## Effects on a tree -/

namespace FileSystem

/-- What an attempt to make a directory leaves of a tree: nothing changes but places on the way where nothing was. -/
structure Made (path : String) (fs fs' : FileSystem) : Prop where
  base : fs'.workingDirectory = fs.workingDirectory
  kept : ∀ l, Kept (OnWay fs.workingDirectory path) fs fs' l

/-- What an attempt to write a file leaves of a tree: the text is at its place if the attempt succeeds, and no other
place changes. -/
structure Put (path content : String) (answer : Except FileError Unit) (fs fs' : FileSystem) : Prop where
  base : fs'.workingDirectory = fs.workingDirectory
  there : answer = .ok () → fs'.get? (place fs.workingDirectory path) = some (.file content.toUTF8)
  others : ∀ l, l ≠ place fs.workingDirectory path → fs'.get? l = fs.get? l

theorem Made.refl (path : String) (fs : FileSystem) : Made path fs fs :=
  ⟨rfl, fun _ => .inl rfl⟩

theorem Put.of_error (path content : String) (e : FileError) (fs : FileSystem) : Put path content (.error e) fs fs :=
  ⟨rfl, nofun, fun _ _ => rfl⟩

end FileSystem

open FileSystem (Made Put)

/-- Files that act on a tree, which is what `tree` shows of a state. Each operation may fail for any reason. -/
structure Files.ActsOn (files : Files (StateM σ)) (tree : σ → FileSystem) : Prop where
  /-- Reading changes nothing. -/
  steady : files.Steady
  /-- A text that is read is that of the file. -/
  read : ∀ {s : σ} {path text : String}, ((files.read path).run s).1 = .ok text → (tree s).read path = .ok text
  /-- An attempt to make directories may end on the way. -/
  make : ∀ {s s' : σ} {path : String} {answer : Except FileError Unit},
    (files.makeDirectories path).run s = (answer, s') → Made path (tree s) (tree s')
  /-- A write that fails may have spoiled its own file. -/
  write : ∀ {s s' : σ} {path content : String} {answer : Except FileError Unit},
    (files.write path content).run s = (answer, s') → Put path content answer (tree s) (tree s')

/-- A write that fails leaves its file as it was. -/
def Files.Spares (files : Files (StateM σ)) (tree : σ → FileSystem) : Prop :=
  ∀ (s s' : σ) (path content : String) (e : FileError), (files.write path content).run s = (.error e, s') →
    ∀ l, (tree s').get? l = (tree s).get? l

/-! ## Loading -/

/-- What a path is loaded as depends on the answer to reading it alone. -/
theorem Files.loading_congr {files : Files (StateM σ)} {files' : Files (StateM τ)} {s : σ} {s' : τ} {path : String}
    (h : ((files.read path).run s).1 = ((files'.read path).run s').1) :
    files.loading s path = files'.loading s' path := by
  have hread : ((Loader.readTask files path).run s).1 = ((Loader.readTask files' path).run s').1 := by
    simp only [Loader.readTask]
    split
    · rfl
    · simp only [run_bind, h]
      split <;> rfl
  simp only [loading, Loader.loadValid, Loader.load, run_bind, run_pure, hread]
  split <;> rfl

/-- What is loaded has been read. -/
theorem Files.exists_read_of_loading {files : Files (StateM σ)} {s : σ} {path : String} {t : Task}
    (h : files.loading s path = .ok t) : ∃ text, ((files.read path).run s).1 = .ok text := by
  cases hread : ((files.read path).run s).1 with
  | ok text => exact ⟨text, rfl⟩
  | error e =>
    have htask : ∃ e, ((Loader.readTask files path).run s).1 = .error e := by
      simp only [Loader.readTask]
      split
      · exact ⟨_, rfl⟩
      · simp only [run_bind, hread]
        exact ⟨_, rfl⟩
    obtain ⟨e', htask⟩ := htask
    simp only [loading, Loader.loadValid, Loader.load, run_bind, run_pure, htask] at h
    cases h

/-- **A task that is loaded is loaded from the tree.** -/
theorem Files.ActsOn.loading {files : Files (StateM σ)} {tree : σ → FileSystem} (h : files.ActsOn tree) {s : σ}
    {path : String} {t : Task} (hload : files.loading s path = .ok t) :
    FileSystem.files.loading (tree s) path = .ok t := by
  obtain ⟨text, hread⟩ := exists_read_of_loading hload
  have htree : ((FileSystem.files.read path).run (tree s)).1 = .ok text := h.read hread
  rw [← hload]
  exact loading_congr (htree.trans hread.symm)

namespace FileSystem

/-! ## The files of a tree -/

theorem files_actsOn : files.ActsOn id where
  steady := files_steady
  read h := h
  make h := by
    obtain ⟨hbase, hkept⟩ := makeDirectories_kept h
    exact ⟨hbase, hkept⟩
  write {_ _ path content _} h := by
    rcases write_cases h with ⟨-, hbase, hthere, hothers⟩ | ⟨⟨e, rfl⟩, rfl⟩
    · exact ⟨hbase, fun _ => hthere, hothers⟩
    · exact .of_error path content e _

theorem files_spares : files.Spares id := by
  intro fs fs' path content e h l
  rcases write_cases h with ⟨herror, -⟩ | ⟨-, rfl⟩
  · cases herror
  · rfl

/-! ## A machine that refuses -/

/-- A tree on a machine that may refuse, with what it says to the calls to come: none where it lets a call pass, as it
does with all calls behind the last one. -/
abbrev Refusing := FileSystem × List (Option FileError)

/-- An operation that is refused if the machine says so. -/
def refusable (operation : FileSystem → Except FileError Unit × FileSystem) :
    StateM Refusing (Except FileError Unit) := fun s =>
  match s.2.head?.join with
  | some e => (.error e, s.1, s.2.tail)
  | none =>
    let done := operation s.1
    (done.1, done.2, s.2.tail)

/-- The files of a tree on a machine that may refuse each call that changes files. -/
def refusing : Files (StateM Refusing) where
  read path := fun s => (s.1.read path, s)
  makeDirectories path := refusable fun fs => fs.makeDirectories path
  write path content := refusable fun fs => fs.write path content

/-- A call that is refused changes nothing; any other does what it does to the tree. -/
theorem refusable_cases {operation : FileSystem → Except FileError Unit × FileSystem} {s s' : Refusing}
    {answer : Except FileError Unit} (h : (refusable operation).run s = (answer, s')) :
    operation s.1 = (answer, s'.1) ∨ (∃ e, answer = .error e) ∧ s'.1 = s.1 := by
  have hrun : refusable operation s = (answer, s') := h
  unfold refusable at hrun
  split at hrun
  · next e _ =>
    obtain ⟨rfl, rfl⟩ := Prod.mk.inj hrun
    exact .inr ⟨⟨e, rfl⟩, rfl⟩
  · obtain ⟨rfl, rfl⟩ := Prod.mk.inj hrun
    exact .inl rfl

/-- **Whatever the machine refuses, its files act on the tree.** -/
theorem refusing_actsOn : refusing.ActsOn Prod.fst where
  steady _ _ := rfl
  read h := h
  make {s _ path _} h := by
    rcases refusable_cases h with hdone | ⟨-, hsame⟩
    · exact files_actsOn.make hdone
    · rw [hsame]
      exact .refl path s.1
  write {s _ path content _} h := by
    rcases refusable_cases h with hdone | ⟨⟨e, rfl⟩, hsame⟩
    · exact files_actsOn.write hdone
    · rw [hsame]
      exact .of_error path content e s.1

theorem refusing_spares : refusing.Spares Prod.fst := by
  intro s s' path content e h l
  rcases refusable_cases h with hdone | ⟨-, hsame⟩
  · exact files_spares _ _ _ _ _ hdone l
  · rw [hsame]

end FileSystem

end TaskHeader
