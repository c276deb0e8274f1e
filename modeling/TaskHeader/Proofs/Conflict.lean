import Mathlib.Data.List.NodupEquivFin
import TaskHeader.Command.Run
import TaskHeader.Proofs.SecondUse

/-!
# Conflicts of a batch

A name is shared when it stands twice in the list of names (`Validation.mem_sharedNames`). Three kinds of positions are
kept apart here: those of the batch, those among the names of the tasks that have a header, and those among the shared
names; only the first appear in the statements.

* The rivals of a position are the other positions with its name, in order (`Batch.rivals`); being a rival is symmetric
  (`Batch.mem_rivals`). A result has a conflict when its position has rivals, and the conflict tells their paths
  (`Batch.conflict_iff`). Results without a name neither have a conflict nor are one.
* So of a batch of headers exactly the positions that clash have conflicts, and each lists all that it clashes with
  (`Command.conflicts_exact`).
-/

namespace TaskHeader

namespace Batch

/-- A name stands twice among the names of a batch if two results have it. -/
theorem duplicate_names {n : String} (results : List (String × Option String)) :
    (names results).Duplicate n ↔ (results.map (·.2)).Duplicate (some n) := by
  have hmem : ∀ results : List (String × Option String), n ∈ names results ↔ some n ∈ results.map (·.2) := by
    intro results
    simp [names]
  induction results with
  | nil => simp [names]
  | cons r rest ih =>
    obtain ⟨path, name?⟩ := r
    have hrest := hmem rest
    cases name? with
    | none =>
      have hnames : names ((path, none) :: rest) = names rest := rfl
      simp [hnames, ih, List.duplicate_cons_iff]
    | some name =>
      have hnames : names ((path, some name) :: rest) = name :: names rest := rfl
      simp only [hnames, List.map_cons, List.duplicate_cons_iff, ih, hrest, Option.some_inj]

/-- A member of a list stands twice in it if it stands at another position, too. -/
theorem duplicate_iff_of_getElem? {α : Type} {as : List α} {a : α} {i : Nat} (h : as[i]? = some a) :
    as.Duplicate a ↔ ∃ j, j ≠ i ∧ as[j]? = some a := by
  rw [List.duplicate_iff_exists_distinct_get]
  constructor
  · rintro ⟨j, k, hlt, hj, hk⟩
    by_cases hi : j.val = i
    · exact ⟨k.val, fun e => absurd (Fin.lt_def.1 hlt) (by omega), by rw [hk]; simp⟩
    · exact ⟨j.val, hi, by rw [hj]; simp⟩
  · rintro ⟨j, hne, hj⟩
    obtain ⟨hi', hia⟩ := List.getElem?_eq_some_iff.1 h
    obtain ⟨hj', hja⟩ := List.getElem?_eq_some_iff.1 hj
    rcases Nat.lt_or_gt_of_ne hne with hlt | hlt
    · exact ⟨⟨j, hj'⟩, ⟨i, hi'⟩, hlt, hja.symm, hia.symm⟩
    · exact ⟨⟨i, hi'⟩, ⟨j, hj'⟩, hlt, hia.symm, hja.symm⟩

theorem length_conflicts (results : List (String × Option String)) :
    (conflicts results).length = results.length := by
  simp [conflicts]

/-- The other positions of a batch that have the name of a position, in order. -/
def rivals (results : List (String × Option String)) (i : Nat) : List Nat :=
  match results[i]? with
  | some (_, some name) => (results.zipIdx.filter fun r => r.2 != i && r.1.2 == some name).map (·.2)
  | _ => []

variable {results : List (String × Option String)} {i j : Nat} {path name : String}

theorem rivals_eq (h : results[i]? = some (path, some name)) :
    rivals results i = (results.zipIdx.filter fun r => r.2 != i && r.1.2 == some name).map (·.2) := by
  rw [rivals, h]

theorem mem_rivals_of_name (h : results[i]? = some (path, some name)) :
    j ∈ rivals results i ↔ j ≠ i ∧ ∃ path', results[j]? = some (path', some name) := by
  rw [rivals_eq h, List.mem_map]
  constructor
  · rintro ⟨⟨⟨path', name?⟩, j⟩, hmem, rfl⟩
    obtain ⟨hj, hother⟩ := List.mem_filter.1 hmem
    rw [Bool.and_eq_true, bne_iff_ne, beq_iff_eq] at hother
    obtain ⟨hne, rfl⟩ := hother
    exact ⟨hne, path', List.mem_zipIdx_iff_getElem?.1 hj⟩
  · rintro ⟨hne, path', hj⟩
    refine ⟨((path', some name), j), List.mem_filter.2 ⟨List.mem_zipIdx_iff_getElem?.2 hj, ?_⟩, rfl⟩
    simp [hne]

/-- **Positions with one name are rivals of each other.** -/
theorem mem_rivals : j ∈ rivals results i ↔ i ≠ j ∧ ∃ name,
    (∃ path, results[i]? = some (path, some name)) ∧ ∃ path, results[j]? = some (path, some name) := by
  constructor
  · intro h
    rcases hi : results[i]? with _ | ⟨path, _ | name⟩
    · simp [rivals, hi] at h
    · simp [rivals, hi] at h
    · obtain ⟨hne, hj⟩ := (mem_rivals_of_name hi).1 h
      exact ⟨hne.symm, name, ⟨path, rfl⟩, hj⟩
  · rintro ⟨hne, name, ⟨path, hi⟩, hj⟩
    exact (mem_rivals_of_name hi).2 ⟨hne.symm, hj⟩

theorem rivals_rising : (rivals results i).Pairwise (· < ·) := by
  rw [rivals]
  split
  · exact ((Validation.zipIdx_rising results).filter _).map _ fun _ _ h => h
  · exact .nil

/-- The paths of a conflict are those of the rivals. -/
theorem map_others (h : results[i]? = some (path, some name)) :
    (others name i results).map some = (rivals results i).map fun j => (results[j]?).map (·.1) := by
  rw [rivals_eq h, others, List.map_map, List.map_map]
  refine List.map_congr_left fun r hr => ?_
  have hplace : results[r.2]? = some r.1 := List.mem_zipIdx_iff_getElem?.1 (List.mem_filter.1 hr).1
  simp [hplace]

/-- A name is shared if its position has rivals. -/
theorem mem_sharedNames_iff_rivals (h : results[i]? = some (path, some name)) :
    name ∈ (Validation.sharedNames (names results)).names ↔ rivals results i ≠ [] := by
  have hnames : (results.map (·.2))[i]? = some (some name) := by rw [List.getElem?_map, h]; rfl
  have hposition : ∀ j, (j ≠ i ∧ (results.map (·.2))[j]? = some (some name)) ↔ j ∈ rivals results i := by
    intro j
    rw [mem_rivals_of_name h]
    simp
  -- from the names that are shared to the positions of the batch, past those without a name
  rw [Validation.mem_sharedNames, duplicate_names, duplicate_iff_of_getElem? hnames]
  simp only [hposition]
  exact ⟨fun ⟨_, hj⟩ => List.ne_nil_of_mem hj, List.exists_mem_of_ne_nil _⟩

/-- **A result with a name has a conflict if its position has rivals.** -/
theorem getElem?_conflicts (h : results[i]? = some (path, some name)) : (conflicts results)[i]? =
    some (if rivals results i ≠ [] then some ⟨name, others name i results⟩ else none) := by
  simp only [← mem_sharedNames_iff_rivals h]
  simp [conflicts, h]

/-- A conflict is that of a result with a name whose position has rivals. -/
theorem conflict_iff {c : Conflict} : (conflicts results)[i]? = some (some c) ↔
    (∃ path, results[i]? = some (path, some c.name)) ∧ rivals results i ≠ [] ∧ c.others = others c.name i results := by
  constructor
  · intro h
    rcases hi : results[i]? with _ | ⟨path, _ | name⟩
    · simp [conflicts, hi] at h
    · simp [conflicts, hi] at h
    · rw [getElem?_conflicts hi, Option.some_inj, Option.ite_none_right_eq_some] at h
      obtain ⟨hrivals, hc⟩ := h
      obtain rfl := Option.some.inj hc
      exact ⟨⟨path, rfl⟩, hrivals, rfl⟩
  · rintro ⟨⟨path, hi⟩, hrivals, hothers⟩
    rw [getElem?_conflicts hi, if_pos hrivals, ← hothers]

/-- **A result with a name has no conflict if no other position has its name.** -/
theorem conflicts_none_iff (h : results[i]? = some (path, some name)) :
    (conflicts results)[i]? = some none ↔ ∀ j path', results[j]? = some (path', some name) → j = i := by
  have hnone : (if rivals results i ≠ [] then some (Conflict.mk name (others name i results)) else none) = none ↔
      ∀ j, j ∉ rivals results i := by
    rw [← List.eq_nil_iff_forall_not_mem, ite_eq_right_iff]
    exact ⟨fun h => not_ne_iff.1 fun hne => absurd (h hne) (Option.some_ne_none _), fun h hne => absurd h hne⟩
  rw [getElem?_conflicts h, Option.some_inj, hnone]
  refine forall_congr' fun j => ?_
  rw [mem_rivals_of_name h]
  constructor
  · intro hj path' hj'
    by_contra hne
    exact hj ⟨hne, path', hj'⟩
  · rintro hj ⟨hne, path', hj'⟩
    exact hne (hj path' hj')

end Batch

namespace Command

/-! ## Conflicts of headers -/

/-- The names in which conflicts are looked for. -/
def namesOf (results : List (String × Except Failure (Task × String))) : List (String × Option String) :=
  results.map fun r => (r.1, r.2.toOption.map (·.1.name))

/-- The names in which conflicts are looked for are those of the positions with a header. -/
theorem getElem?_namesOf {results : List (String × Except Failure (Task × String))} {i : Nat} {path name : String} :
    (namesOf results)[i]? = some (path, some name) ↔
      ∃ t header, results[i]? = some (path, .ok (t, header)) ∧ t.name = name := by
  rw [namesOf, List.getElem?_map, Option.map_eq_some_iff]
  constructor
  · rintro ⟨⟨path', result⟩, hi, heq⟩
    obtain ⟨rfl, hname⟩ := Prod.mk.inj heq
    cases result with
    | error f => cases hname
    | ok d => exact ⟨d.1, d.2, hi, Option.some.inj hname⟩
  · rintro ⟨t, header, hi, rfl⟩
    exact ⟨_, hi, rfl⟩

section

variable (results : List (String × Except Failure (Task × String)))

/-- The task at a position of a batch has a header and the name. -/
def NamedAt (i : Nat) (name : String) : Prop :=
  ∃ path t header, results[i]? = some (path, .ok (t, header)) ∧ t.name = name

/-- Two positions of a batch have headers for tasks of one name. -/
def Clash (i j : Nat) : Prop :=
  i ≠ j ∧ ∃ name, NamedAt results i name ∧ NamedAt results j name

/-- What the conflict of a position says: the name of its task, and the paths of the positions listed. These are all that
clash with it, in the order of the batch. -/
structure Blamed (i : Nat) (c : Batch.Conflict) (listed : List Nat) : Prop where
  named : NamedAt results i c.name
  rising : listed.Pairwise (· < ·)
  listed_iff : ∀ j, j ∈ listed ↔ Clash results i j
  paths : c.others.map some = listed.map fun j => (results[j]?).map (·.1)
  others_ne_nil : c.others ≠ []
  message : (Failure.conflict c).message = "task name '" ++ c.name ++ "' is also used by " ++ ", ".intercalate c.others
    ++ "; refusing to write " ++ c.name ++ "/driver.h"

end

variable {results : List (String × Except Failure (Task × String))}

theorem exists_path_iff {i : Nat} {name : String} :
    (∃ path, (namesOf results)[i]? = some (path, some name)) ↔ NamedAt results i name :=
  exists_congr fun _ => getElem?_namesOf

theorem mem_rivals_namesOf {i j : Nat} : j ∈ Batch.rivals (namesOf results) i ↔ Clash results i j := by
  simp only [Batch.mem_rivals, exists_path_iff]
  rfl

theorem clash_comm {i j : Nat} : Clash results i j ↔ Clash results j i := by
  have hswap : ∀ {i j : Nat}, Clash results i j → Clash results j i :=
    fun ⟨hne, name, hi, hj⟩ => ⟨hne.symm, name, hj, hi⟩
  exact ⟨hswap, hswap⟩

theorem message_conflict (c : Batch.Conflict) : (Failure.conflict c).message = "task name '" ++ c.name
    ++ "' is also used by " ++ ", ".intercalate c.others ++ "; refusing to write " ++ c.name ++ "/driver.h" := by
  have hfile : "/" ++ headerFile = "/driver.h" := by decide
  unfold Failure.message
  simp only [String.append_assoc, hfile]

/-- A conflict blames the rivals of its position. -/
theorem blamed_of_conflict {i : Nat} {c : Batch.Conflict} (h : (Batch.conflicts (namesOf results))[i]? = some (some c)) :
    Blamed results i c (Batch.rivals (namesOf results) i) := by
  obtain ⟨⟨path, hi⟩, hrivals, hothers⟩ := Batch.conflict_iff.1 h
  have hpaths : c.others.map some = (Batch.rivals (namesOf results) i).map fun j => (results[j]?).map (·.1) := by
    rw [hothers, Batch.map_others hi]
    refine List.map_congr_left fun j _ => ?_
    rw [namesOf, List.getElem?_map, Option.map_map]
    rfl
  refine ⟨exists_path_iff.1 ⟨path, hi⟩, Batch.rivals_rising, fun j => mem_rivals_namesOf, hpaths, fun hnil => hrivals ?_,
    message_conflict c⟩
  rw [hnil, List.map_nil, eq_comm, List.map_eq_nil_iff] at hpaths
  exact hpaths

/-- **Exactly the positions that clash have conflicts**, and each lists all that it clashes with, so of two that clash
each is listed for the other. -/
theorem conflicts_exact (directory : String) (results : List (String × Except Failure (Task × String))) :
    (conflictsOf (some directory) results).length = results.length ∧
      (∀ i, (∃ c, (conflictsOf (some directory) results)[i]? = some (some c)) ↔ ∃ j, Clash results i j) ∧
      ∃ listed : Nat → List Nat,
        (∀ i c, (conflictsOf (some directory) results)[i]? = some (some c) → Blamed results i c (listed i)) ∧
        ∀ i j, j ∈ listed i ↔ i ∈ listed j := by
  have hconflicts : conflictsOf (some directory) results = Batch.conflicts (namesOf results) := rfl
  rw [hconflicts]
  refine ⟨?_, fun i => ⟨?_, ?_⟩, Batch.rivals (namesOf results), fun i c => blamed_of_conflict, fun i j => ?_⟩
  · rw [Batch.length_conflicts, namesOf, List.length_map]
  · rintro ⟨c, h⟩
    obtain ⟨j, hj⟩ := List.exists_mem_of_ne_nil _ (Batch.conflict_iff.1 h).2.1
    exact ⟨j, mem_rivals_namesOf.1 hj⟩
  · rintro ⟨j, hclash⟩
    have hrivals := List.ne_nil_of_mem (mem_rivals_namesOf.2 hclash)
    obtain ⟨-, name, hi, -⟩ := hclash
    exact ⟨⟨name, Batch.others name i (namesOf results)⟩,
      Batch.conflict_iff.2 ⟨exists_path_iff.2 hi, hrivals, rfl⟩⟩
  · rw [mem_rivals_namesOf, mem_rivals_namesOf, clash_comm]

/-- A batch with a descriptor named twice, one that shares its task name, one that is broken and one that is alone. -/
def clashSample : List (String × Except Failure (Task × String)) :=
  [("a.yaml", .ok ({ name := "graph" }, "")), ("b.yaml", .ok ({ name := "sum" }, "")), ("c.yaml", .error .unfinished),
    ("a.yaml", .ok ({ name := "graph" }, "")), ("d.toml", .ok ({ name := "graph" }, ""))]

theorem conflicts_exact_samples :
    (conflictsOf (some "out") clashSample)[3]? = some (some ⟨"graph", ["a.yaml", "d.toml"]⟩) ∧
      (∃ listed, Blamed clashSample 3 ⟨"graph", ["a.yaml", "d.toml"]⟩ listed ∧ 0 ∈ listed ∧ 3 ∉ listed) ∧
      (conflictsOf (some "out") clashSample).length = 5 := by
  obtain ⟨hlength, -, listed, hblamed, -⟩ := conflicts_exact "out" clashSample
  have hconflict : (conflictsOf (some "out") clashSample)[3]? = some (some ⟨"graph", ["a.yaml", "d.toml"]⟩) := by
    decide +kernel
  have h := hblamed 3 _ hconflict
  refine ⟨hconflict, ⟨_, h, (h.listed_iff 0).2 ?_, fun hself => ((h.listed_iff 3).1 hself).1 rfl⟩, hlength⟩
  exact ⟨by decide, "graph", ⟨_, _, _, rfl, rfl⟩, ⟨_, _, _, rfl, rfl⟩⟩

end Command

end TaskHeader
