import TaskHeader.Command.Run

/-!
# Jobs that end in any order

The jobs of a batch end in an order of their own. Each result goes to the slot of its job, so the results of a batch,
and with them all that a command tells, depend on the jobs and not on that order.

* `Done paths job result order s s'`: the jobs end in the order `order`, the job of number `i` with `result i`, and
  lead from the state `s` to the state `s'`.
* While they end, the slots are those of the jobs that have ended (`filled`). One more result finds its slot there and
  empty (`fill?_filled`), so by induction on the order the slots end up with all results (`gather?_of_perm`).
* So each path is paired with the result of its job (`forEach_of_done`), and a command whose jobs give the same results
  in another order has the same outcome (`outcome_any_order`).
-/

namespace TaskHeader

/-! ## Running with a state -/

section Running

variable {σ α β : Type}

theorem run_pure (a : α) (s : σ) : (pure a : StateM σ α).run s = (a, s) := rfl

theorem run_bind (x : StateM σ α) (f : α → StateM σ β) (s : σ) :
    (x >>= f).run s = (f (x.run s).1).run (x.run s).2 := rfl

theorem run_map (f : α → β) (x : StateM σ α) (s : σ) : (f <$> x).run s = (f (x.run s).1, (x.run s).2) := rfl

/-- A list is worked off from the front. -/
theorem run_mapM_cons (f : α → StateM σ β) (a : α) (as : List α) (s : σ) :
    ((a :: as).mapM f).run s
      = (((f a).run s).1 :: ((as.mapM f).run ((f a).run s).2).1, ((as.mapM f).run ((f a).run s).2).2) := by
  rw [List.mapM_cons]
  rfl

/-- An action that leaves the state as it is. -/
def Steady (x : StateM σ α) : Prop :=
  ∀ s, (x.run s).2 = s

/-- Files that reading does not change. -/
def Files.Steady (files : Files (StateM σ)) : Prop :=
  ∀ path, TaskHeader.Steady (files.read path)

theorem FileSystem.files_steady : FileSystem.files.Steady := fun _ _ => rfl

end Running

namespace Batch

variable {σ α : Type}

/-! ## Slots -/

/-- Puts a result into the slot of its job; none if there is no such slot or it holds a result already. -/
def fill? (slots : List (Option α)) (a : Nat × α) : Option (List (Option α)) :=
  match slots[a.1]? with
  | some none => some (slots.set a.1 (some a.2))
  | _ => none

/-- The slots with all results, if each result finds its slot there and empty. -/
def gather? (count : Nat) (arrivals : List (Nat × α)) : Option (List (Option α)) :=
  arrivals.foldlM fill? (List.replicate count none)

theorem eq_set_of_fill? {slots slots' : List (Option α)} {a : Nat × α} (h : fill? slots a = some slots') :
    slots' = slots.set a.1 (some a.2) := by
  unfold fill? at h
  split at h
  · exact (Option.some.inj h).symm
  · cases h

/-- Where every result finds its slot, looking for it makes no difference. -/
theorem gather_eq_of_gather? {count : Nat} {arrivals : List (Nat × α)} {slots : List (Option α)}
    (h : gather? count arrivals = some slots) : gather count arrivals = slots := by
  have hfold : ∀ (as : List (Nat × α)) (start : List (Option α)), as.foldlM fill? start = some slots →
      as.foldl (fun slots a => slots.set a.1 (some a.2)) start = slots := by
    intro as
    induction as with
    | nil => intro start h; exact Option.some.inj h
    | cons a as ih =>
      intro start h
      rw [List.foldlM_cons] at h
      obtain ⟨next, hnext, hrest⟩ := Option.bind_eq_some_iff.1 h
      rw [List.foldl_cons, ← eq_set_of_fill? hnext]
      exact ih next hrest
  exact hfold arrivals _ h

/-- The slots when the jobs of `done` have ended. -/
def filled (count : Nat) (result : Nat → α) (done : List Nat) : List (Option α) :=
  (List.range count).map fun i => if i ∈ done then some (result i) else none

theorem filled_nil (count : Nat) (result : Nat → α) : filled count result [] = List.replicate count none := by
  simp [filled, List.map_const']

theorem filled_of_perm {count : Nat} {order : List Nat} (h : order.Perm (List.range count)) (result : Nat → α) :
    filled count result order = (List.range count).map fun i => some (result i) := by
  apply List.map_congr_left
  intro i hi
  exact if_pos (h.mem_iff.2 hi)

/-- One more job ends: its slot is there and empty. -/
theorem fill?_filled {count i : Nat} {done : List Nat} (result : Nat → α) (hi : i < count) (hdone : i ∉ done) :
    fill? (filled count result done) (i, result i) = some (filled count result (done ++ [i])) := by
  have hslot : (filled count result done)[i]? = some none := by simp [filled, hi, hdone]
  have hset : (filled count result done).set i (some (result i)) = filled count result (done ++ [i]) := by
    apply List.ext_getElem
    · simp [filled]
    · intro k hk hk'
      by_cases h : i = k
      · subst h; simp [filled]
      · have h' : ¬k = i := fun e => h e.symm
        simp [filled, h, h']
  rw [fill?, hslot, hset]

/-- **The jobs end one after the other**, by induction on those that have not ended. -/
theorem foldlM_fill? {count : Nat} (result : Nat → α) :
    ∀ order done : List Nat, (∀ i ∈ order, i < count) → (done ++ order).Nodup →
      (order.map fun i => (i, result i)).foldlM fill? (filled count result done)
        = some (filled count result (done ++ order))
  | [], done, _, _ => by simp
  | i :: rest, done, hlt, hnodup => by
    obtain ⟨hi, hrest⟩ := List.forall_mem_cons.1 hlt
    have hdone : i ∉ done := fun hmem => (List.nodup_append.1 hnodup).2.2 i hmem i List.mem_cons_self rfl
    have hstep := fill?_filled result hi hdone
    have hnodup' : (done ++ [i] ++ rest).Nodup := by simpa using hnodup
    have hih := foldlM_fill? result rest (done ++ [i]) hrest hnodup'
    rw [List.map_cons, List.foldlM_cons, hstep, Option.bind_eq_bind, Option.bind_some, hih, List.append_assoc]
    rfl

/-- **All results find their slots**, whatever the order. -/
theorem gather?_of_perm {count : Nat} {order : List Nat} (h : order.Perm (List.range count)) (result : Nat → α) :
    gather? count (order.map fun i => (i, result i)) = some ((List.range count).map fun i => some (result i)) := by
  have hlt : ∀ i ∈ order, i < count := fun i hi => List.mem_range.1 (h.mem_iff.1 hi)
  have hnodup : ([] ++ order).Nodup := h.nodup_iff.2 List.nodup_range
  rw [gather?, ← filled_nil count result, foldlM_fill? result order [] hlt hnodup, List.nil_append,
    filled_of_perm h]

/-! ## Jobs -/

/-- The jobs of some numbers end one after the other, that of the number `i` with `result i`. -/
inductive Done (paths : List String) (job : String → StateM σ α) (result : Nat → α) : List Nat → σ → σ → Prop
  | nil (s : σ) : Done paths job result [] s s
  | cons {i : Nat} {path : String} {rest : List Nat} {s s₁ s₂ : σ} :
      paths[i]? = some path → (job path).run s = (result i, s₁) → Done paths job result rest s₁ s₂ →
        Done paths job result (i :: rest) s s₂

theorem Done.congr {paths : List String} {job : String → StateM σ α} {result result' : Nat → α} {order : List Nat}
    {s s' : σ} (h : Done paths job result order s s') (hresult : ∀ i ∈ order, result i = result' i) :
    Done paths job result' order s s' := by
  induction h with
  | nil s => exact .nil s
  | cons hpath hjob _ ih =>
    obtain ⟨hi, hrest⟩ := List.forall_mem_cons.1 hresult
    exact .cons hpath (hi ▸ hjob) (ih hrest)

/-- Jobs always give results, in any order and from any state. -/
theorem Done.exists [Inhabited α] (paths : List String) (job : String → StateM σ α) :
    ∀ (order : List Nat) (s : σ), order.Nodup → (∀ i ∈ order, i < paths.length) →
      ∃ result s', Done paths job result order s s'
  | [], s, _, _ => ⟨fun _ => default, s, .nil s⟩
  | i :: rest, s, hnodup, hlt => by
    obtain ⟨hi, hnodup'⟩ := List.nodup_cons.1 hnodup
    obtain ⟨hlt', hrest⟩ := List.forall_mem_cons.1 hlt
    rcases hjob : (job paths[i]).run s with ⟨answer, s₁⟩
    obtain ⟨result, s', hdone⟩ := Done.exists paths job rest s₁ hnodup' hrest
    let result' : Nat → α := fun k => if k = i then answer else result k
    have hself : result' i = answer := if_pos rfl
    have hother : ∀ k ∈ rest, result k = result' k := by
      intro k hk
      have hne : k ≠ i := fun e => hi (e ▸ hk)
      exact (if_neg hne).symm
    exact ⟨result', s', .cons (List.getElem?_eq_getElem hlt') (hself ▸ hjob) (hdone.congr hother)⟩

/-- **Each path is paired with the result of its job**, whatever the order. -/
theorem forEach_of_done {paths : List String} {job : String → StateM σ α} {result : Nat → α} {order : List Nat}
    {s s' : σ} (hperm : order.Perm (List.range paths.length)) (h : Done paths job result order s s') :
    (forEach order paths job).run s = (paths.zipIdx.map fun p => (p.1, some (result p.2)), s') := by
  have harrivals : ∀ {order : List Nat} {s s' : σ}, Done paths job result order s s' →
      (order.mapM fun i => do
        let result ← (paths[i]?).mapM job
        return result.map (i, ·) : StateM σ (List (Option (Nat × α)))).run s
        = (order.map fun i => some (i, result i), s') := by
    intro order s s' h
    induction h with
    | nil s => rfl
    | cons hpath hjob _ ih =>
      rw [run_mapM_cons, hpath]
      simp only [Option.mapM_some, run_bind, run_map, run_pure, hjob, ih]
      rfl
  have hfilter : (order.map fun i => some (i, result i)).filterMap id = order.map fun i => (i, result i) := by
    rw [List.filterMap_map]
    exact congrFun List.filterMap_eq_map order
  have hgather := gather_eq_of_gather? (gather?_of_perm hperm result)
  have hzip : paths.zip ((List.range paths.length).map fun i => some (result i))
      = paths.zipIdx.map fun p => (p.1, some (result p.2)) := by
    apply List.ext_getElem
    · simp
    · intro k hk hk'
      simp
  simp only [forEach, run_bind, run_pure, harrivals h, hfilter, hgather, hzip]

/-- Jobs that leave the state as it is give the same results in any order. -/
theorem Done.of_steady {paths : List String} {job : String → StateM σ α} (h : ∀ path, Steady (job path)) (s : σ) :
    ∀ {order : List Nat}, (∀ i ∈ order, i < paths.length) →
      Done paths job (fun i => ((job (paths[i]?.getD "")).run s).1) order s s
  | [], _ => .nil s
  | i :: rest, hlt => by
    obtain ⟨hi, hrest⟩ := List.forall_mem_cons.1 hlt
    have hjob : (job paths[i]).run s = (((job (paths[i]?.getD "")).run s).1, s) := by
      rw [List.getElem?_eq_getElem hi, Option.getD_some]
      exact Prod.ext rfl (h paths[i] s)
    exact .cons (List.getElem?_eq_getElem hi) hjob (Done.of_steady h s hrest)

/-- What is found at the position of a path is what is found of the path. -/
theorem zipIdx_map_eq {β : Type} (paths : List String) (of : String → β) :
    paths.zipIdx.map (fun p => (p.1, of (paths[p.2]?.getD ""))) = paths.map fun path => (path, of path) := by
  apply List.ext_getElem
  · simp
  · intro k hk hk'
    have hlt : k < paths.length := by simpa using hk'
    simp [List.getElem?_eq_getElem hlt]

end Batch

namespace Command

open Batch (Done)

/-! ## Commands -/

section Delivery

variable {m : Type → Type} [Monad m] (files : Files m)

/-- Delivers the headers of a batch in its order. -/
def deliverAll (outDir : Option String) (results : List (String × Except Failure (Task × String))) : m Outcome := do
  let reports ← (results.zip (conflictsOf outDir results)).mapM fun r => do
    return (r.1.1, ← deliver files outDir r.1.1 r.1.2 r.2)
  return finish reports

theorem runRender_eq (order : List Nat) (tasks : List String) (outDir : Option String) :
    runRender files order tasks outDir = (do
      let results ← Batch.forEach order tasks (renderJob files)
      deliverAll files outDir (results.map fun r => (r.1, finished r.2))) := rfl

end Delivery

variable {σ : Type} (files : Files (StateM σ))

/-- The outcome of a command from a state, if its jobs end in the given order. -/
def outcome (order : List Nat) (c : Command) (s : σ) : Outcome :=
  ((runInOrder files order c).run s).1

/-- The outcome of `check` for the results of its jobs. -/
def checked (results : List (String × Except Failure Task)) : Outcome :=
  finish (results.map fun r => (r.1, r.2.map fun t => .result (validLines r.1 t)))

/-- The outcome of `render` without a directory for the results of its jobs. -/
def printed (results : List (String × Except Failure (Task × String))) : Outcome :=
  finish (results.map fun r => (r.1, r.2.map fun d => .result d.2))

/-- Without a directory the headers go to the reader and no file is looked at. -/
theorem run_deliverAll_none (results : List (String × Except Failure (Task × String))) (s : σ) :
    (deliverAll files none results).run s = (printed results, s) := by
  have hdeliver : ∀ (path : String) (result : Except Failure (Task × String)),
      deliver files none path result none = pure (result.map fun d => .result d.2) := by
    intro path result
    cases result <;> rfl
  have hreports : ∀ results : List (String × Except Failure (Task × String)),
      ((results.zip (results.map fun _ => (none : Option Batch.Conflict))).mapM fun r => (do
        return (r.1.1, ← deliver files none r.1.1 r.1.2 r.2) : StateM σ (String × Except Failure Output))).run s
        = (results.map fun r => (r.1, r.2.map fun d => Output.result d.2), s) := by
    intro results
    induction results with
    | nil => rfl
    | cons r rest ih =>
      rw [List.map_cons, List.zip_cons_cons, run_mapM_cons]
      simp only [run_bind, run_pure, hdeliver, List.map_cons] at ih ⊢
      rw [ih]
  simp only [deliverAll, conflictsOf, run_bind, run_pure, hreports, printed]

/-- **`check` tells of the results of its jobs** in the order of the paths. -/
theorem runCheck_of_done {tasks : List String} {order : List Nat} {result : Nat → Except Failure Task} {s s' : σ}
    (hperm : order.Perm (List.range tasks.length)) (h : Done tasks (loadJob files) result order s s') :
    (runCheck files order tasks).run s = (checked (tasks.zipIdx.map fun p => (p.1, result p.2)), s') := by
  have hresults := Batch.forEach_of_done hperm h
  simp only [runCheck, run_bind, run_pure, hresults, checked, List.map_map]
  rfl

/-- **`render` delivers the results of its jobs** in the order of the paths, when all of them have ended. -/
theorem runRender_of_done {tasks : List String} {order : List Nat} {result : Nat → Except Failure (Task × String)}
    {s s' : σ} (outDir : Option String) (hperm : order.Perm (List.range tasks.length))
    (h : Done tasks (renderJob files) result order s s') :
    (runRender files order tasks outDir).run s
      = (deliverAll files outDir (tasks.zipIdx.map fun p => (p.1, result p.2))).run s' := by
  have hresults := Batch.forEach_of_done hperm h
  simp only [runRender_eq, run_bind, hresults, List.map_map]
  rfl

/-! ## Jobs that only read -/

variable {files}

theorem loadJob_steady (h : files.Steady) (path : String) : Steady (loadJob files path) := by
  have hread : Steady (Loader.readTask files path) := by
    intro s
    simp only [Loader.readTask]
    split
    · rfl
    · rw [run_bind]
      split
      · exact h path s
      · exact h path s
  intro s
  simp only [loadJob, Loader.loadValid, Loader.load, run_bind, run_pure]
  split
  · exact hread s
  · exact hread s

theorem renderJob_steady (h : files.Steady) (path : String) : Steady (renderJob files path) := by
  intro s
  rw [renderJob, run_bind]
  split
  · exact loadJob_steady h path s
  · exact loadJob_steady h path s

/-- The outcome of `check` for jobs that only read: each result is that of its path alone. -/
theorem runCheck_of_steady (h : files.Steady) {tasks : List String} {order : List Nat}
    (hperm : order.Perm (List.range tasks.length)) (s : σ) :
    (runCheck files order tasks).run s
      = (checked (tasks.map fun path => (path, ((loadJob files path).run s).1)), s) := by
  have hlt : ∀ i ∈ order, i < tasks.length := fun i hi => List.mem_range.1 (hperm.mem_iff.1 hi)
  rw [runCheck_of_done files hperm (Done.of_steady (loadJob_steady h) s hlt)]
  rw [Batch.zipIdx_map_eq tasks fun path => ((loadJob files path).run s).1]

/-- The outcome of `render` for jobs that only read. -/
theorem runRender_of_steady (h : files.Steady) {tasks : List String} {order : List Nat} (outDir : Option String)
    (hperm : order.Perm (List.range tasks.length)) (s : σ) :
    (runRender files order tasks outDir).run s
      = (deliverAll files outDir (tasks.map fun path => (path, ((renderJob files path).run s).1))).run s := by
  have hlt : ∀ i ∈ order, i < tasks.length := fun i hi => List.mem_range.1 (hperm.mem_iff.1 hi)
  rw [runRender_of_done files outDir hperm (Done.of_steady (renderJob_steady h) s hlt)]
  rw [Batch.zipIdx_map_eq tasks fun path => ((renderJob files path).run s).1]

/-! ## The order makes no difference -/

/-- **The order in which the jobs end makes no difference.** Jobs may change a state, so jobs of one path may differ.
Each result finds its own slot, there and empty; each path is paired with the result of its job; and jobs with the same
results in another order lead to the same outcome, for `render` into a directory from the same files. Jobs that read
from a tree of files have the same results in any order. -/
theorem outcome_any_order {σ α : Type} [Inhabited α] (paths : List String) (order order' : List Nat)
    (horder : order.Perm (List.range paths.length)) (horder' : order'.Perm (List.range paths.length)) :
    (∀ result : Nat → α,
        Batch.gather? paths.length (order.map fun i => (i, result i))
          = some (Batch.gather paths.length (order.map fun i => (i, result i))) ∧
        Batch.gather paths.length (order.map fun i => (i, result i))
          = (List.range paths.length).map fun i => some (result i)) ∧
      (∀ (job : String → StateM σ α) (s : σ), ∃ result s', Done paths job result order s s' ∧
        (Batch.forEach order paths job).run s = (paths.zipIdx.map fun p => (p.1, some (result p.2)), s')) ∧
      (∀ (files : Files (StateM σ)) (result : Nat → Except Failure Task) (s₁ s₂ s₁' s₂' : σ),
        Done paths (loadJob files) result order s₁ s₁' → Done paths (loadJob files) result order' s₂ s₂' →
          outcome files order (.check paths) s₁ = outcome files order' (.check paths) s₂) ∧
      (∀ (files : Files (StateM σ)) (result : Nat → Except Failure (Task × String)) (s₁ s₂ s₁' s₂' : σ),
        Done paths (renderJob files) result order s₁ s₁' → Done paths (renderJob files) result order' s₂ s₂' →
          outcome files order (.render paths none) s₁ = outcome files order' (.render paths none) s₂ ∧
            (s₁' = s₂' → ∀ outDir, (runInOrder files order (.render paths outDir)).run s₁
              = (runInOrder files order' (.render paths outDir)).run s₂)) ∧
      ∀ fs : FileSystem,
        (runInOrder FileSystem.files order (.check paths)).run fs = (run FileSystem.files (.check paths)).run fs ∧
          ∀ outDir, (runInOrder FileSystem.files order (.render paths outDir)).run fs
            = (run FileSystem.files (.render paths outDir)).run fs := by
  refine ⟨fun result => ?_, fun job s => ?_, fun files result s₁ s₂ s₁' s₂' h h' => ?_,
    fun files result s₁ s₂ s₁' s₂' h h' => ⟨?_, fun hs outDir => ?_⟩, fun fs => ⟨?_, fun outDir => ?_⟩⟩
  · have hslots := Batch.gather?_of_perm horder result
    rw [Batch.gather_eq_of_gather? hslots]
    exact ⟨hslots, rfl⟩
  · have hlt : ∀ i ∈ order, i < paths.length := fun i hi => List.mem_range.1 (horder.mem_iff.1 hi)
    obtain ⟨result, s', hdone⟩ := Done.exists paths job order s (horder.nodup_iff.2 List.nodup_range) hlt
    exact ⟨result, s', hdone, Batch.forEach_of_done horder hdone⟩
  · have hrun := runCheck_of_done files horder h
    have hrun' := runCheck_of_done files horder' h'
    rw [outcome, outcome, runInOrder, runInOrder, hrun, hrun']
  · have hrun := runRender_of_done files none horder h
    have hrun' := runRender_of_done files none horder' h'
    rw [outcome, outcome, runInOrder, runInOrder, hrun, hrun', run_deliverAll_none, run_deliverAll_none]
  · subst hs
    rw [runInOrder, runInOrder, runRender_of_done files outDir horder h, runRender_of_done files outDir horder' h']
  · have hread := FileSystem.files_steady
    have hcount : (check paths).taskCount = paths.length := rfl
    rw [run, hcount, runInOrder, runInOrder, runCheck_of_steady hread horder, runCheck_of_steady hread (.refl _)]
  · have hread := FileSystem.files_steady
    have hcount : (render paths outDir).taskCount = paths.length := rfl
    rw [run, hcount, runInOrder, runInOrder, runRender_of_steady hread outDir horder,
      runRender_of_steady hread outDir (.refl _)]

/-- A job that gives the path and a number that counts up. -/
def numberJob (path : String) : StateM Nat String :=
  modifyGet fun n => (path ++ Nat.repr n, n + 1)

/-- A file that is named twice: its second job ends first and gets the number 7, its first job then gets 8. -/
theorem outcome_any_order_samples :
    ([1, 0] : List Nat).Perm (List.range 2) ∧
      Batch.gather? 2 [(1, "second"), (0, "first")] = some [some "first", some "second"] ∧
      (∃ s', (Batch.forEach [1, 0] ["a.yaml", "a.yaml"] numberJob).run 7
        = ([("a.yaml", some "a.yaml8"), ("a.yaml", some "a.yaml7")], s')) ∧
      outcome FileSystem.files [1, 0] (.check ["a.yaml", "a.yaml"]) {}
        = outcome FileSystem.files [0, 1] (.check ["a.yaml", "a.yaml"]) {} ∧
      outcome FileSystem.files [1, 0] (.render ["a.yaml", "a.yaml"] none) {}
        = outcome FileSystem.files [0, 1] (.render ["a.yaml", "a.yaml"] none) {} := by
  have hswap : ([1, 0] : List Nat).Perm (List.range 2) := by decide
  have hsame : ([0, 1] : List Nat).Perm (List.range 2) := by decide
  have hlt : ∀ order : List Nat, order.Perm (List.range 2) → ∀ i ∈ order, i < ["a.yaml", "a.yaml"].length :=
    fun order h i hi => List.mem_range.1 (h.mem_iff.1 hi)
  obtain ⟨hslots, hjobs, -⟩ :=
    outcome_any_order (σ := Nat) (α := String) ["a.yaml", "a.yaml"] [1, 0] [0, 1] hswap hsame
  obtain ⟨-, -, hcheck, hrender, -⟩ :=
    outcome_any_order (σ := FileSystem) (α := Nat) ["a.yaml", "a.yaml"] [1, 0] [0, 1] hswap hsame
  have hread := FileSystem.files_steady
  have hload := loadJob_steady hread
  have hrendered := renderJob_steady hread
  refine ⟨hswap, (hslots fun i => if i = 0 then "first" else "second").1, ?_, ?_, ?_⟩
  · obtain ⟨result, s', hdone, hpairs⟩ := hjobs numberJob 7
    obtain ⟨h₁, h₀⟩ : "a.yaml7" = result 1 ∧ "a.yaml8" = result 0 := by
      cases hdone with
      | cons hpath hjob hrest =>
        cases hrest with
        | cons hpath' hjob' _ =>
          obtain rfl := Option.some.inj hpath
          obtain rfl := Option.some.inj hpath'
          obtain ⟨h₁, rfl⟩ := Prod.mk.inj hjob
          exact ⟨h₁, (Prod.mk.inj hjob').1⟩
    refine ⟨s', hpairs.trans ?_⟩
    simp [← h₁, ← h₀]
  · exact hcheck FileSystem.files _ {} {} {} {} (.of_steady hload {} (hlt _ hswap)) (.of_steady hload {} (hlt _ hsame))
  · exact (hrender FileSystem.files _ {} {} {} {} (.of_steady hrendered {} (hlt _ hswap))
      (.of_steady hrendered {} (hlt _ hsame))).1

end Command

end TaskHeader
