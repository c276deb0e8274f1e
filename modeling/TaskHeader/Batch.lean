import TaskHeader.Validation

/-!
# Batches

Several jobs are done together, one for each path of a list. They may end in any order: each result comes with the
number of its job and goes to the slot of that number, so that the results stand in the order of the paths
(`Batch.gather`). The headers of a batch are written below the names of their tasks, so no two tasks of a batch may
share a name (`Batch.conflicts`).
-/

namespace TaskHeader.Batch

/-- The results by the numbers of their jobs; a slot without a result is empty, and of two results the later stays. -/
def gather {α : Type} (count : Nat) (arrivals : List (Nat × α)) : List (Option α) :=
  arrivals.foldl (fun slots a => slots.set a.1 (some a.2)) (List.replicate count none)

/-- Does a job for each path, in the order of the given numbers, and pairs each path with its result. -/
def forEach {m : Type → Type} [Monad m] {α : Type} (order : List Nat) (paths : List String) (job : String → m α) :
    m (List (String × Option α)) := do
  let arrivals ← order.mapM fun i => do
    let result ← (paths[i]?).mapM job
    return result.map (i, ·)
  return paths.zip (gather paths.length (arrivals.filterMap id))

/-- The names of the tasks of a batch; a job that failed has none. -/
def names (results : List (String × Option String)) : List String :=
  results.filterMap (·.2)

/-- The paths of the results with a name, except the one at a position. -/
def others (name : String) (position : Nat) (results : List (String × Option String)) : List String :=
  (results.zipIdx.filter fun r => r.2 != position && r.1.2 == some name).map (·.1.1)

/-- A name that several tasks of a batch have, and the paths of the other ones. -/
structure Conflict where
  name : String
  others : List String
  deriving DecidableEq, Repr

/-- For each result the conflict of its name, if it has a name that another one has too. -/
def conflicts (results : List (String × Option String)) : List (Option Conflict) :=
  let shared := (Validation.sharedNames (names results)).names
  results.zipIdx.map fun r =>
    match r.1.2 with
    | none => none
    | some name => if name ∈ shared then some ⟨name, others name r.2 results⟩ else none

end TaskHeader.Batch
