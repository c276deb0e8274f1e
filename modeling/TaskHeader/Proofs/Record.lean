import Mathlib.Data.List.Count
import Mathlib.Data.List.Forall2
import Mathlib.Data.List.Pairwise
import TaskHeader.Descriptor.Record

/-!
# Reading records

Where a reading succeeds it does not matter in which order a document has the fields of a record, and whether they
have names at all. This holds in every dialect that hands results through unchanged (`Dialect.Transparent`).

* `Fields.Gives` says which values a node gives for the fields of a record, one or none for each field.
* `readFound` reads such values in the order of declaration. A value can be read before its turn, because the slots of
  a record do not get in each other's way (`Slot.Apart`, `readFound_set`).
* So fields under names are read as the values that they give (`readNamed_eq_ok_iff`), by induction on the document,
  and so are fields in order (`readListed_eq`). Together these settle every record (`readRecord_eq_ok_iff`).
-/

namespace TaskHeader

theorem Except.ok_bind {ε α β : Type} (a : α) (f : α → Except ε β) : (Except.ok a >>= f) = f a := rfl

theorem Except.bind_eq_ok_iff {ε α β : Type} {x : Except ε α} {f : α → Except ε β} {b : β} :
    (x >>= f) = .ok b ↔ ∃ a, x = .ok a ∧ f a = .ok b := by
  cases x with
  | error e => exact ⟨nofun, fun ⟨_, h, _⟩ => nomatch h⟩
  | ok a => exact ⟨fun h => ⟨a, rfl, h⟩, fun ⟨_, h, hb⟩ => Except.ok.inj h ▸ hb⟩

theorem Except.map_eq_ok_iff {ε α β : Type} {x : Except ε α} {f : α → β} {b : β} :
    x.map f = .ok b ↔ ∃ a, x = .ok a ∧ f a = b := by
  cases x with
  | error e => exact ⟨nofun, fun ⟨_, h, _⟩ => nomatch h⟩
  | ok a => exact ⟨fun h => ⟨a, rfl, Except.ok.inj h⟩, fun ⟨_, h, hb⟩ => Except.ok.inj h ▸ congrArg _ hb⟩

namespace Descriptor

variable {ε κ ν σ ρ α β : Type}

/-- A dialect that looks for no other node and hands results through: only faults depend on places. -/
structure Dialect.Transparent (D : Dialect (Except ε) κ ν) (key : κ → String) : Prop where
  resolve : ∀ n, D.resolve n = .ok n
  name : ∀ k, D.name k = .ok (key k)
  fail : ∀ {α : Type} (c : Cause) (a : α), D.fail c ≠ .ok a
  inNode : ∀ {α : Type} (n : ν) (r : Except ε α) (a : α), D.inNode n r = .ok a ↔ r = .ok a
  inField : ∀ {α : Type} (k : κ) (n : ν) (r : Except ε α) (a : α), D.inField k n r = .ok a ↔ r = .ok a
  inItem : ∀ {α : Type} (i : Nat) (r : Except ε α) (a : α), D.inItem i r = .ok a ↔ r = .ok a

section Simple

variable {D : Dialect (Except ε) κ ν} {key : κ → String}

theorem readText_eq_ok_iff (hD : D.Transparent key) {n : ν} {s : String} :
    readText D n = .ok s ↔ D.text n = .ok s := by
  rw [readText, hD.resolve, Except.bind_eq_ok_iff]
  simp [hD.inNode]

theorem readType_eq_ok_iff (hD : D.Transparent key) {n : ν} {t : ValueType} :
    readType D n = .ok t ↔ ∃ s, D.text n = .ok s ∧ ValueType.parse s = .ok t := by
  rw [readType, Except.bind_eq_ok_iff]
  simp only [readText_eq_ok_iff hD]
  refine exists_congr fun s => and_congr_right fun _ => ?_
  cases ValueType.parse s with
  | ok t' => simp [pure, Except.pure]
  | error e => exact ⟨fun h => absurd h (hD.fail _ _), nofun⟩

/-- The items of a list are read one by one. -/
theorem readItems_eq_ok_iff (hD : D.Transparent key) {item : ν → Except ε α} :
    ∀ {i : Nat} {ns : List ν} {as : List α},
      readItems D item i ns = .ok as ↔ List.Forall₂ (fun a n => item n = .ok a) as ns
  | _, [], as => by
    rw [readItems, List.forall₂_nil_right_iff]
    exact ⟨fun h => (Except.ok.inj h).symm, fun h => h ▸ rfl⟩
  | i, n :: ns, as => by
    rw [readItems, Except.bind_eq_ok_iff, List.forall₂_cons_right_iff]
    refine exists_congr fun a => ?_
    rw [hD.inItem, Except.bind_eq_ok_iff]
    simp only [readItems_eq_ok_iff hD]
    constructor
    · rintro ⟨ha, more, hmore, h⟩
      exact ⟨more, ha, hmore, (Except.ok.inj h).symm⟩
    · rintro ⟨more, ha, hmore, rfl⟩
      exact ⟨ha, more, hmore, rfl⟩

theorem readList_eq_ok_iff (hD : D.Transparent key) {item : ν → Except ε α} {n : ν} {as : List α} :
    readList D item n = .ok as ↔ ∃ ns, D.items n = .ok ns ∧ List.Forall₂ (fun a n => item n = .ok a) as ns := by
  rw [readList, hD.resolve, Except.bind_eq_ok_iff]
  simp [hD.inNode, Except.bind_eq_ok_iff, readItems_eq_ok_iff hD]

end Simple

/-! ## Which values a node gives for the fields -/

/-- The value of the first field of a name. -/
def valueOf (key : κ → String) (name : String) (entries : List (κ × ν)) : Option ν :=
  (entries.find? fun e => key e.1 == name).map (·.2)

/-- The values that a node gives for the fields of a record: by their names, each at most once, or by their places. -/
def Fields.Gives (key : κ → String) (names : List String) (found : List (Option ν)) : Fields κ ν → Prop
  | .named entries =>
    (∀ name ∈ names, (entries.map fun e => key e.1).count name ≤ 1) ∧
      found = names.map fun name => valueOf key name entries
  | .listed values exact =>
    (exact = true → values.length ≤ names.length) ∧ found = (List.range names.length).map fun i => values[i]?

theorem Fields.Gives.length_eq {key : κ → String} {names : List String} {found : List (Option ν)} {fields : Fields κ ν}
    (h : fields.Gives key names found) : found.length = names.length := by
  cases fields with
  | named entries => rw [h.2, List.length_map]
  | listed values exact => rw [h.2, List.length_map, List.length_range]

/-- The values that a node gives for the fields of the record of a name. -/
def Dialect.Gives (D : Dialect (Except ε) κ ν) (key : κ → String) (record : String) (names : List String)
    (found : List (Option ν)) (n : ν) : Prop :=
  ∃ fields, D.fields record n = .ok fields ∧ fields.Gives key names found

section Gives

variable {D : Dialect (Except ε) κ ν} {key : κ → String} {record : String} {names : List String} {n : ν}
  {P : List (Option ν) → Prop}

theorem Dialect.Gives.length_eq {found : List (Option ν)} (h : D.Gives key record names found n) :
    found.length = names.length := by
  obtain ⟨fields, -, hgives⟩ := h
  exact hgives.length_eq

/-- The only field may be left out. -/
theorem Dialect.exists_gives_one {Q : Option ν → Prop} (h : names.length = 1) (hP : ∀ a, P [a] ↔ Q a) :
    (∃ found, D.Gives key record names found n ∧ P found) ↔ ∃ a, D.Gives key record names [a] n ∧ Q a := by
  constructor
  · rintro ⟨found, hgives, hfound⟩
    obtain ⟨a, rfl⟩ := List.length_eq_one_iff.1 (hgives.length_eq.trans h)
    exact ⟨a, hgives, (hP a).1 hfound⟩
  · rintro ⟨a, hgives, h⟩
    exact ⟨_, hgives, (hP a).2 h⟩

/-- Both fields must be there. -/
theorem Dialect.exists_gives_two {Q : ν → ν → Prop} (h : names.length = 2)
    (hP : ∀ a b, P [a, b] ↔ ∃ v w, (a = some v ∧ b = some w) ∧ Q v w) :
    (∃ found, D.Gives key record names found n ∧ P found) ↔
      ∃ v w, D.Gives key record names [some v, some w] n ∧ Q v w := by
  constructor
  · rintro ⟨found, hgives, hfound⟩
    obtain ⟨a, b, rfl⟩ := List.length_eq_two.1 (hgives.length_eq.trans h)
    obtain ⟨v, w, ⟨rfl, rfl⟩, hQ⟩ := (hP a b).1 hfound
    exact ⟨v, w, hgives, hQ⟩
  · rintro ⟨v, w, hgives, hQ⟩
    exact ⟨_, hgives, (hP _ _).2 ⟨v, w, ⟨rfl, rfl⟩, hQ⟩⟩

/-- The first field must be there. -/
theorem Dialect.exists_gives_three {Q : ν → Option ν → Option ν → Prop} (h : names.length = 3)
    (hP : ∀ a b c, P [a, b, c] ↔ ∃ v, a = some v ∧ Q v b c) :
    (∃ found, D.Gives key record names found n ∧ P found) ↔
      ∃ v b c, D.Gives key record names [some v, b, c] n ∧ Q v b c := by
  constructor
  · rintro ⟨found, hgives, hfound⟩
    obtain ⟨a, b, c, rfl⟩ := List.length_eq_three.1 (hgives.length_eq.trans h)
    obtain ⟨v, rfl, hQ⟩ := (hP a b c).1 hfound
    exact ⟨v, b, c, hgives, hQ⟩
  · rintro ⟨v, b, c, hgives, hQ⟩
    exact ⟨_, hgives, (hP _ _ _).2 ⟨v, rfl, hQ⟩⟩

end Gives

theorem valueOf_cons_self {key : κ → String} {k : κ} {v : ν} {entries : List (κ × ν)} :
    valueOf key (key k) ((k, v) :: entries) = some v := by
  simp [valueOf]

theorem valueOf_cons_of_ne {key : κ → String} {name : String} {k : κ} {v : ν} {entries : List (κ × ν)}
    (h : name ≠ key k) : valueOf key name ((k, v) :: entries) = valueOf key name entries := by
  simp [valueOf, h.symm]

theorem valueOf_eq_none {key : κ → String} {name : String} {entries : List (κ × ν)}
    (h : (entries.map fun e => key e.1).count name = 0) : valueOf key name entries = none := by
  rw [List.count_eq_zero, List.mem_map] at h
  rw [valueOf, Option.map_eq_none_iff, List.find?_eq_none]
  exact fun e he heq => h ⟨e, he, beq_iff_eq.1 heq⟩

/-! ## Reading the values that were found -/

/-- Reads the values that were found for the fields, in the order of declaration. -/
def readFound : List (Slot (Except ε) ν σ) → List (Option ν) → σ → Except ε σ
  | slot :: slots, some v :: found, s => slot.read v s >>= readFound slots found
  | _ :: slots, none :: found, s => readFound slots found s
  | _, _, s => .ok s

/-- Two slots that do not get in each other's way. -/
structure Slot.Apart (a b : Slot (Except ε) ν σ) : Prop where
  name_ne : a.name ≠ b.name
  isSet_right : ∀ {v s s'}, a.read v s = .ok s' → b.isSet s' = b.isSet s
  isSet_left : ∀ {v s s'}, b.read v s = .ok s' → a.isSet s' = a.isSet s
  commute : ∀ {v w s r}, (a.read v s >>= b.read w) = .ok r ↔ (b.read w s >>= a.read v) = .ok r

theorem Slot.Apart.symm {a b : Slot (Except ε) ν σ} (h : Apart a b) : Apart b a where
  name_ne := h.name_ne.symm
  isSet_right := h.isSet_left
  isSet_left := h.isSet_right
  commute := h.commute.symm

instance Slot.apartSymm : Std.Symm (@Apart ε ν σ) where
  symm _ _ h := h.symm

/-- A slot knows that it is set once it was read. -/
def Slot.Sets (slot : Slot (Except ε) ν σ) : Prop :=
  ∀ v s s', slot.read v s = .ok s' → slot.isSet s' = true

/-- A record whose slots know when they are set and do not get in each other's way. -/
structure Shape.Orderly (shape : Shape (Except ε) ν σ ρ) : Prop where
  unset : ∀ slot ∈ shape.slots, slot.isSet shape.start = false
  sets : ∀ slot ∈ shape.slots, slot.Sets
  apart : shape.slots.Pairwise Slot.Apart

/-- **A value can be read before its turn**, by induction on the slots before its own. -/
theorem readFound_set {slot : Slot (Except ε) ν σ} {after : List (Slot (Except ε) ν σ)} {v : ν}
    {foundAfter : List (Option ν)} {r : σ} :
    ∀ {before : List (Slot (Except ε) ν σ)} {found : List (Option ν)} {s : σ},
      (∀ a ∈ before, Slot.Apart a slot) → found.length = before.length →
        (readFound (before ++ slot :: after) (found ++ some v :: foundAfter) s = .ok r ↔
          (slot.read v s >>= readFound (before ++ slot :: after) (found ++ none :: foundAfter)) = .ok r)
  | [], [], s, _, _ => .rfl
  | a :: before, none :: found, s, hapart, hlength => by
    have hrest : readFound (before ++ slot :: after) (found ++ some v :: foundAfter) s = .ok r ↔
        (slot.read v s >>= readFound (before ++ slot :: after) (found ++ none :: foundAfter)) = .ok r :=
      readFound_set (List.forall_mem_cons.1 hapart).2 (Nat.succ.inj hlength)
    exact hrest
  | a :: before, some w :: found, s, hapart, hlength => by
    obtain ⟨ha, hbefore⟩ := List.forall_mem_cons.1 hapart
    have hrest : ∀ s₁, readFound (before ++ slot :: after) (found ++ some v :: foundAfter) s₁ = .ok r ↔
        (slot.read v s₁ >>= readFound (before ++ slot :: after) (found ++ none :: foundAfter)) = .ok r :=
      fun s₁ => readFound_set hbefore (Nat.succ.inj hlength)
    -- the value passes the one that is read first
    have hswap : ∀ s₂, (∃ s₁, a.read w s = .ok s₁ ∧ slot.read v s₁ = .ok s₂) ↔
        ∃ s₁, slot.read v s = .ok s₁ ∧ a.read w s₁ = .ok s₂ := by
      intro s₂
      rw [← Except.bind_eq_ok_iff, ← Except.bind_eq_ok_iff]
      exact ha.commute
    simp only [List.cons_append, readFound, Except.bind_eq_ok_iff, hrest]
    constructor
    · rintro ⟨s₁, hs₁, s₂, hs₂, h⟩
      obtain ⟨s₁', hs₁', hs₂'⟩ := (hswap s₂).1 ⟨s₁, hs₁, hs₂⟩
      exact ⟨s₁', hs₁', s₂, hs₂', h⟩
    · rintro ⟨s₁, hs₁, s₂, hs₂, h⟩
      obtain ⟨s₁', hs₁', hs₂'⟩ := (hswap s₂).2 ⟨s₁, hs₁, hs₂⟩
      exact ⟨s₁', hs₁', s₂, hs₂', h⟩

/-- Values without names are found in the order of declaration. -/
theorem readListed_eq : ∀ (slots : List (Slot (Except ε) ν σ)) (values : List ν) (s : σ),
    readListed slots values s = readFound slots ((List.range slots.length).map fun i => values[i]?) s
  | [], _, _ => rfl
  | slot :: slots, [], s => by
    have hnone : readListed slots ([] : List ν) s = .ok s := by cases slots <;> rfl
    rw [List.length_cons, List.range_succ_eq_map, List.map_cons, List.map_map]
    exact hnone.symm.trans (readListed_eq slots [] s)
  | slot :: slots, v :: values, s => by
    rw [List.length_cons, List.range_succ_eq_map, List.map_cons, List.map_map, readListed]
    simp only [readListed_eq slots values]
    rfl

section Named

variable {D : Dialect (Except ε) κ ν} {key : κ → String} {slots : List (Slot (Except ε) ν σ)}

/-- How often a slot is set: by the record so far, and by the fields to come. -/
def timesSet (key : κ → String) (entries : List (κ × ν)) (s : σ) (slot : Slot (Except ε) ν σ) : Nat :=
  (slot.isSet s).toNat + (entries.map fun e => key e.1).count slot.name

/-- The values that fields under names give for slots. -/
def foundFor (key : κ → String) (entries : List (κ × ν)) (slots : List (Slot (Except ε) ν σ)) : List (Option ν) :=
  slots.map fun slot => valueOf key slot.name entries

variable {entries : List (κ × ν)} {k : κ} {v : ν} {s s' : σ} {slot : Slot (Except ε) ν σ}

/-- A field is found for slots of other names only if it is found behind the first one. -/
theorem foundFor_cons_of_ne (h : ∀ slot ∈ slots, slot.name ≠ key k) :
    foundFor key ((k, v) :: entries) slots = foundFor key entries slots :=
  List.map_congr_left fun slot hslot => valueOf_cons_of_ne (h slot hslot)

theorem timesSet_cons_of_ne (h : slot.name ≠ key k) (hset : slot.isSet s' = slot.isSet s) :
    timesSet key ((k, v) :: entries) s slot = timesSet key entries s' slot := by
  rw [timesSet, timesSet, List.map_cons, List.count_cons_of_ne h.symm, hset]

theorem timesSet_cons_self (h : slot.name = key k) :
    timesSet key ((k, v) :: entries) s slot = timesSet key entries s slot + 1 := by
  rw [timesSet, timesSet, List.map_cons, h, List.count_cons_self, Nat.add_assoc]

/-- A field that is the only one for its slot has no other of its name behind it. -/
theorem count_eq_zero_of_timesSet_le_one (h : slot.name = key k)
    (honce : timesSet key ((k, v) :: entries) s slot ≤ 1) : (entries.map fun e => key e.1).count slot.name = 0 := by
  rw [timesSet_cons_self h, timesSet] at honce
  omega

/-- A slot that is set now was to be set by the first of the fields to come. -/
theorem timesSet_read (hsets : slot.Sets) (hapart : slots.Pairwise Slot.Apart) (hslot : slot ∈ slots)
    (hname : slot.name = key k) (hset : slot.isSet s = false) (hread : slot.read v s = .ok s')
    {other : Slot (Except ε) ν σ} (hother : other ∈ slots) :
    timesSet key ((k, v) :: entries) s other = timesSet key entries s' other := by
  by_cases hsame : other = slot
  · subst hsame
    rw [timesSet_cons_self hname, timesSet, timesSet, hset, hsets v s s' hread, Bool.toNat_false, Bool.toNat_true]
    omega
  · have hslots : Slot.Apart slot other := hapart.forall hslot hother (Ne.symm hsame)
    exact timesSet_cons_of_ne (hname ▸ hslots.name_ne.symm) (hslots.isSet_right hread)

/-- The value of the first field can be read before the others, if no other field has its name. -/
theorem readFound_foundFor_cons (hapart : slots.Pairwise Slot.Apart) (hslot : slot ∈ slots) (hname : slot.name = key k)
    (hone : (entries.map fun e => key e.1).count slot.name = 0) {r : σ} :
    readFound slots (foundFor key ((k, v) :: entries) slots) s = .ok r ↔
      ∃ s', slot.read v s = .ok s' ∧ readFound slots (foundFor key entries slots) s' = .ok r := by
  obtain ⟨before, after, rfl⟩ := List.append_of_mem hslot
  obtain ⟨-, hcons, hbefore⟩ := List.pairwise_append.1 hapart
  have hafter := (List.pairwise_cons.1 hcons).1
  have hbefore' : ∀ a ∈ before, Slot.Apart a slot := fun a ha => hbefore a ha slot List.mem_cons_self
  have hfirst : foundFor key ((k, v) :: entries) (before ++ slot :: after)
      = foundFor key entries before ++ some v :: foundFor key entries after := by
    have hleft : foundFor key ((k, v) :: entries) before = foundFor key entries before :=
      foundFor_cons_of_ne fun a ha => hname ▸ (hbefore' a ha).name_ne
    have hright : foundFor key ((k, v) :: entries) after = foundFor key entries after :=
      foundFor_cons_of_ne fun a ha => hname ▸ (hafter a ha).name_ne.symm
    rw [foundFor, List.map_append, List.map_cons, hname, valueOf_cons_self, ← foundFor, ← foundFor, hleft, hright]
  have hrest : foundFor key entries (before ++ slot :: after)
      = foundFor key entries before ++ none :: foundFor key entries after := by
    rw [foundFor, List.map_append, List.map_cons, valueOf_eq_none hone]
    rfl
  have hlength : (foundFor key entries before).length = before.length := List.length_map _
  rw [hfirst, hrest, readFound_set hbefore' hlength, Except.bind_eq_ok_iff]

/-- **Fields under names are read as the values that they give**, whatever their order, by induction on the document. -/
theorem readNamed_eq_ok_iff (hD : D.Transparent key) (hsets : ∀ slot ∈ slots, slot.Sets)
    (hapart : slots.Pairwise Slot.Apart) : ∀ {entries : List (κ × ν)} {s r : σ},
      readNamed D slots entries s = .ok r ↔
        (∀ slot ∈ slots, timesSet key entries s slot ≤ 1) ∧ readFound slots (foundFor key entries slots) s = .ok r
  | [], s, r => by
    have hnone : ∀ slots : List (Slot (Except ε) ν σ),
        readFound slots (foundFor key ([] : List (κ × ν)) slots) s = .ok s := by
      intro slots
      induction slots with
      | nil => rfl
      | cons slot slots ih => exact ih
    rw [hnone]
    exact ⟨fun h => ⟨fun slot _ => Bool.toNat_le _, h⟩, fun h => h.2⟩
  | (k, v) :: entries, s, r => by
    cases hfind : slots.find? (·.name == key k) with
    | none =>
      have hne : ∀ slot ∈ slots, slot.name ≠ key k :=
        fun slot hslot => by simpa using List.find?_eq_none.1 hfind slot hslot
      have htimes : (∀ slot ∈ slots, timesSet key ((k, v) :: entries) s slot ≤ 1) ↔
          ∀ slot ∈ slots, timesSet key entries s slot ≤ 1 :=
        forall₂_congr fun slot hslot => by rw [timesSet_cons_of_ne (hne slot hslot) rfl]
      rw [foundFor_cons_of_ne hne, htimes, ← readNamed_eq_ok_iff hD hsets hapart]
      simp only [readNamed, hD.name, Except.ok_bind, hfind]
    | some slot =>
      have hname : slot.name = key k := by simpa using List.find?_some hfind
      have hslot : slot ∈ slots := List.mem_of_find?_eq_some hfind
      simp only [readNamed, hD.name, Except.ok_bind, hfind]
      by_cases hset : slot.isSet s = true
      · rw [if_pos hset]
        refine ⟨fun h => absurd h (hD.fail _ _), fun ⟨htimes, _⟩ => ?_⟩
        have htwice := htimes slot hslot
        rw [timesSet_cons_self hname, timesSet, hset, Bool.toNat_true] at htwice
        omega
      · rw [if_neg hset]
        simp only [Except.bind_eq_ok_iff, hD.inField, readNamed_eq_ok_iff hD hsets hapart]
        have hunset := eq_false_of_ne_true hset
        have htimes : ∀ s', slot.read v s = .ok s' →
            ((∀ other ∈ slots, timesSet key ((k, v) :: entries) s other ≤ 1) ↔
              ∀ other ∈ slots, timesSet key entries s' other ≤ 1) :=
          fun s' hread => forall₂_congr fun other hother => by
            rw [timesSet_read (hsets slot hslot) hapart hslot hname hunset hread hother]
        have hone : (∀ other ∈ slots, timesSet key ((k, v) :: entries) s other ≤ 1) →
            (entries.map fun e => key e.1).count slot.name = 0 :=
          fun hall => count_eq_zero_of_timesSet_le_one hname (hall slot hslot)
        constructor
        · rintro ⟨s', hread, hrest, hfound⟩
          have hall := (htimes s' hread).2 hrest
          exact ⟨hall, (readFound_foundFor_cons hapart hslot hname (hone hall)).2 ⟨s', hread, hfound⟩⟩
        · rintro ⟨hall, hfound⟩
          obtain ⟨s', hread, hfound⟩ := (readFound_foundFor_cons hapart hslot hname (hone hall)).1 hfound
          exact ⟨s', hread, (htimes s' hread).1 hall, hfound⟩

/-! ## Records -/

/-- Fields under names give values if each slot is set at most once. -/
theorem Shape.Orderly.gives_named_iff {shape : Shape (Except ε) ν σ ρ} (h : shape.Orderly) {found : List (Option ν)} :
    Fields.Gives key (shape.slots.map (·.name)) found (.named entries) ↔
      (∀ slot ∈ shape.slots, timesSet key entries shape.start slot ≤ 1) ∧ found = foundFor key entries shape.slots := by
  have htimes : ∀ slot ∈ shape.slots,
      timesSet key entries shape.start slot = (entries.map fun e => key e.1).count slot.name := by
    intro slot hslot
    rw [timesSet, h.unset slot hslot, Bool.toNat_false, Nat.zero_add]
  rw [Fields.Gives, List.forall_mem_map, List.map_map]
  exact and_congr (forall₂_congr fun slot hslot => by rw [htimes slot hslot]) .rfl

/-- **A record is read as the values that its node gives for the fields.** -/
theorem readRecord_eq_ok_iff (hD : D.Transparent key) {shape : Shape (Except ε) ν σ ρ} (hshape : shape.Orderly)
    {n : ν} {r : ρ} :
    readRecord D shape n = .ok r ↔
      ∃ found, D.Gives key shape.name (shape.slots.map (·.name)) found n ∧
        ∃ s, readFound shape.slots found shape.start = .ok s ∧ shape.finish s = .ok r := by
  have hgives : (∃ found, D.Gives key shape.name (shape.slots.map (·.name)) found n ∧
        ∃ s, readFound shape.slots found shape.start = .ok s ∧ shape.finish s = .ok r) ↔
      ∃ fields, D.fields shape.name n = .ok fields ∧ ∃ found, fields.Gives key (shape.slots.map (·.name)) found ∧
        ∃ s, readFound shape.slots found shape.start = .ok s ∧ shape.finish s = .ok r := by
    constructor
    · rintro ⟨found, ⟨fields, hfields, hgives⟩, h⟩
      exact ⟨fields, hfields, found, hgives, h⟩
    · rintro ⟨fields, hfields, found, hgives, h⟩
      exact ⟨found, ⟨fields, hfields, hgives⟩, h⟩
  rw [hgives, readRecord, hD.resolve, Except.ok_bind, hD.inNode, Except.bind_eq_ok_iff]
  refine exists_congr fun fields => and_congr_right fun _ => ?_
  cases fields with
  | named entries =>
    simp only [Except.bind_eq_ok_iff, readNamed_eq_ok_iff hD hshape.sets hshape.apart, hshape.gives_named_iff,
      and_assoc, exists_and_left, exists_eq_left]
    refine and_congr_right fun _ => exists_congr fun s => and_congr_right fun _ => ?_
    cases shape.finish s with
    | ok r' => simp [pure, Except.pure]
    | error i => simp [hD.fail]
  | listed values exact =>
    simp only [Except.bind_eq_ok_iff, readListed_eq, Fields.Gives, List.length_map, and_assoc, exists_and_left,
      exists_eq_left]
    rw [← exists_and_left]
    refine exists_congr fun s => ?_
    cases shape.finish s with
    | error i => simp [hD.fail]
    | ok r' =>
      by_cases hlong : exact = true ∧ shape.slots.length < values.length
      · simp [hlong, Nat.not_le.2 hlong.2, hD.fail]
      · have hfits : exact = true → values.length ≤ shape.slots.length :=
          fun h => Nat.not_lt.1 fun hlt => hlong ⟨h, hlt⟩
        have hif : (exact && decide (shape.slots.length < values.length)) = false := by simpa using hfits
        simp only [hif, pure, Except.pure, Bool.false_eq_true, if_false, Except.ok.injEq]
        exact ⟨fun h => ⟨hfits, h⟩, fun h => h.2⟩

end Named

end Descriptor

end TaskHeader
