import Mathlib.Data.List.Duplicate
import Mathlib.Data.List.Induction
import TaskHeader.Validation

/-!
# Shared names and second uses

The walk over the names of a batch keeps two lists. After the names `before`, those seen are the names that stand in
`before` and those found are the names that stand there twice or more (`Walked`); each of the three ways to go on keeps
this (`Walked.again`, `Walked.second`, `Walked.first`). So a name is found exactly where it stands once before, and the
shared names are those at the positions of second uses (`names_sharedNames`).

A name has a second use if it stands twice, and then one only (`exists_secondUse_iff`, `SecondUse.unique`), and the
positions rise. So the names that stand twice are found (`mem_sharedNames`), each once and in the order of their second
uses (`sharedNames_exact`).
-/

namespace TaskHeader.Validation

/-! ## Second uses -/

/-- The second use of a name in a list of names is at a position. -/
def SecondUse (names : List String) (n : String) (i : Nat) : Prop :=
  names[i]? = some n ∧ (names.take i).count n = 1

/-- One name stands before another one in a list. -/
def Precedes (names : List String) (a b : String) : Prop :=
  ∃ i j : Nat, names[i]? = some a ∧ names[j]? = some b ∧ i < j

/-- The names of a list at their second uses, with the positions of these. -/
def secondUses (names : List String) : List (String × Nat) :=
  names.zipIdx.filter fun u => (names.take u.2).count u.1 == 1

theorem mem_secondUses {names : List String} {n : String} {i : Nat} :
    (n, i) ∈ secondUses names ↔ SecondUse names n i := by
  rw [secondUses, List.mem_filter, List.mem_zipIdx_iff_getElem?, beq_iff_eq]
  rfl

/-- Positions rise along a list. -/
theorem zipIdx_rising {α : Type} (as : List α) : as.zipIdx.Pairwise (·.2 < ·.2) := by
  rw [← List.pairwise_map (f := Prod.snd), List.zipIdx_map_snd]
  exact List.pairwise_lt_range'

theorem secondUses_rising (names : List String) : (secondUses names).Pairwise (·.2 < ·.2) :=
  (zipIdx_rising names).filter _

theorem pos_count_concat {before : List String} {name n : String} :
    0 < (before ++ [name]).count n ↔ n = name ∨ 0 < before.count n := by
  simp only [List.count_pos_iff, List.mem_append, List.mem_singleton]
  exact or_comm

theorem one_lt_count_concat {before : List String} {name n : String} :
    1 < (before ++ [name]).count n ↔ (n = name ∧ 0 < before.count n) ∨ 1 < before.count n := by
  rw [List.count_append, List.count_singleton]
  by_cases h : n = name
  · simp only [h, beq_self_eq_true, if_true, true_and]
    omega
  · have h' : (name == n) = false := beq_false_of_ne (Ne.symm h)
    simp [h, h']

/-- After its second use a name has been used more than once. -/
theorem SecondUse.lt_count {names : List String} {n : String} {i j : Nat} (h : SecondUse names n i) (hij : i < j) :
    1 < (names.take j).count n := by
  obtain ⟨hi, hcount⟩ := h
  have hnext : (names.take (i + 1)).count n = 2 := by
    rw [List.take_add_one, hi, List.count_append, hcount]
    simp
  have hprefix : names.take (i + 1) <+: names.take j := List.take_prefix_take_left hij
  have hle := hprefix.sublist.count_le n
  omega

/-- A name has one second use at most. -/
theorem SecondUse.unique {names : List String} {n : String} {i j : Nat} (hi : SecondUse names n i)
    (hj : SecondUse names n j) : i = j := by
  rcases Nat.lt_trichotomy i j with hlt | heq | hlt
  · have hcount := hi.lt_count hlt
    have hone := hj.2
    omega
  · exact heq
  · have hcount := hj.lt_count hlt
    have hone := hi.2
    omega

/-- A name that stands twice has a second use, by induction on the names from their end: the last of them is the second
use if the name stands once before. -/
theorem exists_secondUse {names : List String} {n : String} (h : 1 < names.count n) : ∃ i, SecondUse names n i := by
  induction names using List.reverseRecOn with
  | nil => simp at h
  | append_singleton before last ih =>
    by_cases hbefore : 1 < before.count n
    · obtain ⟨i, hi, hcount⟩ := ih hbefore
      obtain ⟨hlt, -⟩ := List.getElem?_eq_some_iff.1 hi
      refine ⟨i, ?_, ?_⟩
      · rw [List.getElem?_append_left hlt, hi]
      · rw [List.take_append_of_le_length (Nat.le_of_lt hlt), hcount]
    · rcases one_lt_count_concat.1 h with ⟨rfl, hpos⟩ | hmore
      · refine ⟨before.length, by simp, ?_⟩
        rw [List.take_left]
        omega
      · exact absurd hmore hbefore

/-- **A name has a second use if it stands twice.** -/
theorem exists_secondUse_iff {names : List String} {n : String} : (∃ i, SecondUse names n i) ↔ 1 < names.count n := by
  refine ⟨fun ⟨i, hi⟩ => ?_, exists_secondUse⟩
  obtain ⟨hlt, -⟩ := List.getElem?_eq_some_iff.1 hi.1
  simpa using hi.lt_count hlt

/-! ## The walk -/

/-- What the walk knows after the names `before`. -/
structure Walked (before seen shared : List String) : Prop where
  seen_iff : ∀ n, n ∈ seen ↔ 0 < before.count n
  shared_iff : ∀ n, n ∈ shared ↔ 1 < before.count n

theorem Walked.start : Walked [] [] [] :=
  ⟨fun n => by simp, fun n => by simp⟩

variable {before seen shared : List String} {name : String}

/-- A name that is seen stays so. -/
theorem Walked.seen_concat (h : Walked before seen shared) (hseen : name ∈ seen) (n : String) :
    n ∈ seen ↔ 0 < (before ++ [name]).count n := by
  rw [pos_count_concat, ← h.seen_iff]
  exact ⟨.inr, fun hn => hn.elim (fun e => e ▸ hseen) id⟩

/-- A third or later use changes nothing. -/
theorem Walked.again (h : Walked before seen shared) (hseen : name ∈ seen) (hshared : name ∈ shared) :
    Walked (before ++ [name]) seen shared := by
  refine ⟨h.seen_concat hseen, fun n => ?_⟩
  rw [one_lt_count_concat, ← h.shared_iff]
  exact ⟨.inr, fun hn => hn.elim (fun hn => hn.1 ▸ hshared) id⟩

/-- At its second use a name is found. -/
theorem Walked.second (h : Walked before seen shared) (hseen : name ∈ seen) :
    Walked (before ++ [name]) seen (name :: shared) := by
  refine ⟨h.seen_concat hseen, fun n => ?_⟩
  rw [one_lt_count_concat, ← h.shared_iff, ← h.seen_iff, List.mem_cons]
  exact or_congr_left ⟨fun e => ⟨e, e ▸ hseen⟩, And.left⟩

/-- At its first use a name is seen. -/
theorem Walked.first (h : Walked before seen shared) (hseen : name ∉ seen) :
    Walked (before ++ [name]) (name :: seen) shared := by
  refine ⟨fun n => ?_, fun n => ?_⟩
  · rw [pos_count_concat, ← h.seen_iff, List.mem_cons]
  · rw [one_lt_count_concat, ← h.shared_iff, ← h.seen_iff]
    exact ⟨.inr, fun hn => hn.elim (fun hn => absurd hn.2 (hn.1 ▸ hseen)) id⟩

/-- **The walk finds the names to come that stand once before**, by induction on the names to come. -/
theorem Walked.names_eq : ∀ {rest before seen shared : List String}, Walked before seen shared →
    (sharedNamesFrom seen shared rest).names = ((rest.zipIdx before.length).filter fun u =>
      ((before ++ rest).take u.2).count u.1 == 1).map (·.1)
  | [], _, _, _, _ => rfl
  | name :: rest, before, seen, shared, h => by
    have hlength : before.length + 1 = (before ++ [name]).length := by simp
    have htext : before ++ name :: rest = (before ++ [name]) ++ rest := by simp
    have hcount : ((before ++ name :: rest).take before.length).count name = before.count name := by
      rw [List.take_left]
    rw [List.zipIdx_cons, List.filter_cons, hcount, hlength, htext, sharedNamesFrom]
    by_cases hseen : name ∈ seen
    · have hpos := (h.seen_iff name).1 hseen
      rw [if_pos hseen]
      by_cases hshared : name ∈ shared
      · have hmore := (h.shared_iff name).1 hshared
        have hone : ¬(before.count name == 1) = true := by rw [beq_iff_eq]; omega
        rw [if_pos hshared, if_neg hone]
        exact (h.again hseen hshared).names_eq
      · have hmore := mt (h.shared_iff name).2 hshared
        have hone : (before.count name == 1) = true := by rw [beq_iff_eq]; omega
        rw [if_neg hshared, if_pos hone, List.map_cons]
        exact congrArg (name :: ·) (h.second hseen).names_eq
    · have hnone := mt (h.seen_iff name).2 hseen
      have hone : ¬(before.count name == 1) = true := by rw [beq_iff_eq]; omega
      rw [if_neg hseen, if_neg hone]
      exact (h.first hseen).names_eq

/-- **The shared names are those at the positions of second uses.** -/
theorem names_sharedNames (names : List String) : (sharedNames names).names = (secondUses names).map (·.1) :=
  Walked.start.names_eq

/-- **A name is shared if it stands twice.** -/
theorem mem_sharedNames {n : String} {names : List String} : n ∈ (sharedNames names).names ↔ names.Duplicate n := by
  rw [names_sharedNames, List.duplicate_iff_two_le_count, ← Nat.lt_iff_add_one_le, ← exists_secondUse_iff, List.mem_map]
  constructor
  · rintro ⟨⟨m, i⟩, hi, rfl⟩
    exact ⟨i, mem_secondUses.1 hi⟩
  · rintro ⟨i, hi⟩
    exact ⟨(n, i), mem_secondUses.2 hi, rfl⟩

/-- Each name found leaves one event, by induction on the names to come. -/
theorem events_sharedNamesFrom : ∀ names seen shared : List String,
    (sharedNamesFrom seen shared names).events
      = (sharedNamesFrom seen shared names).names.map (.duplicateName "task" "batch")
  | [], _, _ => rfl
  | name :: rest, seen, shared => by
    rw [sharedNamesFrom]
    split
    · split
      · exact events_sharedNamesFrom rest seen shared
      · exact congrArg (_ :: ·) (events_sharedNamesFrom rest seen (name :: shared))
    · exact events_sharedNamesFrom rest (name :: seen) shared

/-! ## Order -/

theorem nodup_sharedNames (names : List String) : (sharedNames names).names.Nodup := by
  rw [names_sharedNames, List.Nodup, List.pairwise_map]
  refine (secondUses_rising names).imp_of_mem ?_
  rintro ⟨a, i⟩ ⟨b, j⟩ ha hb hlt rfl
  exact absurd ((mem_secondUses.1 ha).unique (mem_secondUses.1 hb)) (Nat.ne_of_lt hlt)

/-- In a list of second uses one stands before another one if its position is lower. -/
theorem lt_iff_of_getElem? {names : List String} {u v : String × Nat} {p q : Nat} (hp : (secondUses names)[p]? = some u)
    (hq : (secondUses names)[q]? = some v) : p < q ↔ u.2 < v.2 := by
  obtain ⟨hp', rfl⟩ := List.getElem?_eq_some_iff.1 hp
  obtain ⟨hq', rfl⟩ := List.getElem?_eq_some_iff.1 hq
  have hrising := List.pairwise_iff_getElem.1 (secondUses_rising names)
  rcases Nat.lt_trichotomy p q with hlt | rfl | hlt
  · exact iff_of_true hlt (hrising p q hp' hq' hlt)
  · exact iff_of_false (Nat.lt_irrefl p) (Nat.lt_irrefl _)
  · exact iff_of_false (Nat.lt_asymm hlt) (Nat.lt_asymm (hrising q p hq' hp' hlt))

/-- The names found are in the order of their second uses. -/
theorem precedes_sharedNames {names : List String} {a b : String} : Precedes (sharedNames names).names a b ↔
    ∃ i j, SecondUse names a i ∧ SecondUse names b j ∧ i < j := by
  simp only [Precedes, names_sharedNames, List.getElem?_map, Option.map_eq_some_iff, ← mem_secondUses]
  constructor
  · rintro ⟨p, q, ⟨⟨a, i⟩, hp, rfl⟩, ⟨⟨b, j⟩, hq, rfl⟩, hlt⟩
    exact ⟨i, j, List.mem_of_getElem? hp, List.mem_of_getElem? hq, (lt_iff_of_getElem? hp hq).1 hlt⟩
  · rintro ⟨i, j, hi, hj, hlt⟩
    obtain ⟨p, hp⟩ := List.getElem?_of_mem hi
    obtain ⟨q, hq⟩ := List.getElem?_of_mem hj
    exact ⟨p, q, ⟨(a, i), hp, rfl⟩, ⟨(b, j), hq, rfl⟩, (lt_iff_of_getElem? hp hq).2 hlt⟩

/-- **A shared name is told once, in the order of second uses**, and each leaves one event. -/
theorem sharedNames_exact (names : List String) :
    (sharedNames names).names.Nodup ∧
      (∀ n, n ∈ (sharedNames names).names ↔ 2 ≤ names.count n) ∧
      (∀ a b, Precedes (sharedNames names).names a b ↔
        ∃ i j, SecondUse names a i ∧ SecondUse names b j ∧ i < j) ∧
      (sharedNames names).events = (sharedNames names).names.map (.duplicateName "task" "batch") ∧
      ∀ e ∈ (sharedNames names).events, e.level = .error := by
  have hevents : (sharedNames names).events = (sharedNames names).names.map (.duplicateName "task" "batch") :=
    events_sharedNamesFrom names [] []
  refine ⟨nodup_sharedNames names, fun n => ?_, fun a b => precedes_sharedNames, hevents, ?_⟩
  · rw [mem_sharedNames, List.duplicate_iff_two_le_count]
  · rw [hevents, List.forall_mem_map]
    exact fun _ _ => rfl

/-- A batch in which one name is used again before another one that was first. -/
def batchSample : List String :=
  ["sum", "path", "path", "sum", "path", "tree"]

theorem sharedNames_exact_samples :
    (sharedNames batchSample).names = ["path", "sum"] ∧
      (sharedNames batchSample).events = [.duplicateName "task" "batch" "path", .duplicateName "task" "batch" "sum"] ∧
      (∃ i j, SecondUse batchSample "path" i ∧ SecondUse batchSample "sum" j ∧ i < j) ∧
      Event.level (.duplicateName "task" "batch" "path") = .error := by
  have hnames : (sharedNames batchSample).names = ["path", "sum"] := by decide
  obtain ⟨-, -, horder, hevents, hlevels⟩ := sharedNames_exact batchSample
  rw [hnames] at horder hevents
  exact ⟨hnames, hevents, (horder "path" "sum").1 ⟨0, 1, rfl, rfl, by decide⟩,
    hlevels _ (by rw [hevents]; exact List.mem_cons_self)⟩

end TaskHeader.Validation
