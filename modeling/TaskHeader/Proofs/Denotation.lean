import TaskHeader.Proofs.Tree

/-!
# Nodes that denote trees

Which nodes of a format denote a tree, and why they are read as the tree is.

* A `View` says what the nodes of a format show: a node may stand for another one, and shows a text, a list or a
  record. `View.cost?` compares a node with a tree and counts the aliases that are followed on the way.
* A dialect that reads each node as a view shows it (`Dialect.Shows`) reads whole tasks as their trees are read
  (`readTask_follows`). What a reading gives may depend on the aliases that it follows, so each format has its own word
  for it (`gives`), with rules for joining readings; the walk over records and lists is the same for all.
-/

namespace TaskHeader

open Descriptor

/-! ## Views -/

/-- What the nodes of a format with keys `κ` and nodes `ν` show. -/
structure View (κ ν : Type) where
  /-- The node that a node stands for, and the number of aliases that lead to it. -/
  follow : ν → Option (ν × Nat)
  /-- The name that a key stands for, and the number of aliases that lead to it. -/
  name : κ → Option (String × Nat)
  text : ν → Option String
  items : ν → Option (List ν)
  fields : ν → Option (List (κ × ν))

namespace View

variable {κ ν : Type} (V : View κ ν)

mutual

/-- The number of aliases that are followed where a node denotes a tree. -/
def cost? : Tree → ν → Option Nat
  | .any, _ => some 0
  | .text s, n => (V.follow n).bind fun r => if V.text r.1 = some s then some r.2 else none
  | .list trees, n => (V.follow n).bind fun r => (V.items r.1).bind fun ns => (costs? trees ns).map (r.2 + ·)
  | .record fields, n => (V.follow n).bind fun r => (V.fields r.1).bind fun es => (fieldCosts? fields es).map (r.2 + ·)

/-- The number for the items of a list, one for each. -/
def costs? : List Tree → List ν → Option Nat
  | [], [] => some 0
  | tree :: trees, n :: ns => (cost? tree n).bind fun j => (costs? trees ns).map (j + ·)
  | _, _ => none

/-- The number for the fields of a record, in the order of both. -/
def fieldCosts? : List (String × Tree) → List (κ × ν) → Option Nat
  | [], [] => some 0
  | (name, tree) :: fields, (key, n) :: es =>
    (V.name key).bind fun r => if r.1 = name then
      (cost? tree n).bind fun j => (fieldCosts? fields es).map (r.2 + j + ·) else none
  | _, _ => none

end

variable {V} {n : ν} {k : Nat}

theorem cost?_text_iff {s : String} :
    V.cost? (.text s) n = some k ↔ ∃ n', V.follow n = some (n', k) ∧ V.text n' = some s := by
  rw [cost?, Option.bind_eq_some_iff]
  constructor
  · rintro ⟨⟨n', j⟩, hfollow, h⟩
    split at h
    · next htext =>
      cases h
      exact ⟨n', hfollow, htext⟩
    · cases h
  · rintro ⟨n', hfollow, htext⟩
    exact ⟨(n', k), hfollow, if_pos htext⟩

theorem cost?_list_iff {trees : List Tree} :
    V.cost? (.list trees) n = some k ↔ ∃ n' j, V.follow n = some (n', j) ∧ ∃ ns, V.items n' = some ns ∧
      ∃ i, V.costs? trees ns = some i ∧ j + i = k := by
  simp only [cost?, Option.bind_eq_some_iff, Option.map_eq_some_iff, Prod.exists]

theorem cost?_record_iff {fields : List (String × Tree)} :
    V.cost? (.record fields) n = some k ↔ ∃ n' j, V.follow n = some (n', j) ∧ ∃ es, V.fields n' = some es ∧
      ∃ i, V.fieldCosts? fields es = some i ∧ j + i = k := by
  simp only [cost?, Option.bind_eq_some_iff, Option.map_eq_some_iff, Prod.exists]

theorem fieldCosts?_cons_iff {name : String} {tree : Tree} {fields : List (String × Tree)} {key : κ}
    {es : List (κ × ν)} :
    V.fieldCosts? ((name, tree) :: fields) ((key, n) :: es) = some k ↔ ∃ i j l, V.name key = some (name, i) ∧
      V.cost? tree n = some j ∧ V.fieldCosts? fields es = some l ∧ i + j + l = k := by
  rw [fieldCosts?, Option.bind_eq_some_iff]
  constructor
  · rintro ⟨⟨name', i⟩, hname, h⟩
    split at h
    · next heq =>
      simp only [Option.bind_eq_some_iff, Option.map_eq_some_iff] at h
      obtain ⟨j, hj, l, hl, rfl⟩ := h
      exact ⟨i, j, l, heq ▸ hname, hj, hl, rfl⟩
    · cases h
  · rintro ⟨i, j, l, hname, hj, hl, rfl⟩
    refine ⟨(name, i), hname, ?_⟩
    rw [if_pos rfl, hj, Option.bind_some, hl, Option.map_some]

end View

/-! ## Readings that follow trees -/

namespace Descriptor

variable {m : Type → Type} [Monad m] {κ ν : Type}

/-- A dialect reads each node as a view shows it. `gives k r a` says that the reading `r` gives `a` where it may follow
`k` aliases. -/
structure Dialect.Shows (D : Dialect m κ ν) (V : View κ ν) (gives : {α : Type} → Nat → m α → α → Prop) : Prop where
  pure : ∀ {α : Type} (a : α), gives 0 (pure a) a
  bind : ∀ {α β : Type} {x : m α} {f : α → m β} {j k : Nat} {a : α} {b : β}, gives j x a → gives k (f a) b →
    gives (j + k) (x >>= f) b
  mono : ∀ {α : Type} {x : m α} {j k : Nat} {a : α}, gives j x a → j ≤ k → gives k x a
  inNode : ∀ {α : Type} (n : ν) {r : m α} {k : Nat} {a : α}, gives k r a → gives k (D.inNode n r) a
  inField : ∀ {α : Type} (key : κ) (n : ν) {r : m α} {k : Nat} {a : α}, gives k r a → gives k (D.inField key n r) a
  inItem : ∀ {α : Type} (i : Nat) {r : m α} {k : Nat} {a : α}, gives k r a → gives k (D.inItem i r) a
  resolve : ∀ {n n' : ν} {j : Nat}, V.follow n = some (n', j) → gives j (D.resolve n) n'
  name : ∀ {key : κ} {s : String} {j : Nat}, V.name key = some (s, j) → gives j (D.name key) s
  text : ∀ {n : ν} {s : String}, V.text n = some s → gives 0 (D.text n) s
  items : ∀ {n : ν} {ns : List ν}, V.items n = some ns → gives 0 (D.items n) ns
  fields : ∀ {record : String} {n : ν} {es : List (κ × ν)}, V.fields n = some es →
    gives 0 (D.fields record n) (.named es)
  returnType : ∀ {n : ν} {t : ScalarType}, V.text n = some t.keyword → gives 0 (D.returnType n) (some t)

variable {D : Dialect m κ ν} {V : View κ ν} {gives : {α : Type} → Nat → m α → α → Prop}

/-- What follows no alias may come last. -/
theorem Dialect.Shows.bind_free (hD : D.Shows V gives) {α β : Type} {x : m α} {f : α → m β} {k : Nat} {a : α} {b : β}
    (hx : gives k x a) (hf : gives 0 (f a) b) : gives k (x >>= f) b :=
  hD.bind hx hf

/-- What follows no alias may come first. -/
theorem Dialect.Shows.free_bind (hD : D.Shows V gives) {α β : Type} {x : m α} {f : α → m β} {k : Nat} {a : α} {b : β}
    (hx : gives 0 x a) (hf : gives k (f a) b) : gives k (x >>= f) b := by
  rw [← Nat.zero_add k]
  exact hD.bind hx hf

/-- A reading of nodes gives what trees are read as, from the nodes that denote them. -/
def Follows {α : Type} (V : View κ ν) (gives : {α : Type} → Nat → m α → α → Prop) (read : ν → m α)
    (spec : Tree → Except Unit α) : Prop :=
  ∀ ⦃tree : Tree⦄ ⦃n : ν⦄ ⦃k : Nat⦄ ⦃a : α⦄, V.cost? tree n = some k → spec tree = .ok a → gives k (read n) a

/-- A slot of a record follows a slot for trees of the same name. -/
structure Slot.Follows {σ : Type} (V : View κ ν) (gives : {α : Type} → Nat → m α → α → Prop) (slot : Slot m ν σ)
    (spec : Slot (Except Unit) Tree σ) : Prop where
  name_eq : slot.name = spec.name
  isSet_eq : slot.isSet = spec.isSet
  read : ∀ s, Descriptor.Follows V gives (slot.read · s) (spec.read · s)

theorem readText_follows (hD : D.Shows V gives) : Follows V gives (readText D) (readText Tree.dialect) := by
  intro tree n k s hk hs
  rw [readText_eq_ok_iff Tree.dialect_reads.toTransparent, Tree.text_eq_ok_iff] at hs
  subst hs
  obtain ⟨n', hfollow, htext⟩ := View.cost?_text_iff.1 hk
  rw [readText]
  exact hD.bind_free (hD.resolve hfollow) (hD.inNode n' (hD.text htext))

theorem readType_follows (hD : D.Shows V gives) : Follows V gives (readType D) (readType Tree.dialect) := by
  intro tree n k t hk ht
  obtain ⟨s, hs, hparse⟩ := (readType_eq_ok_iff Tree.dialect_reads.toTransparent).1 ht
  have htext := readText_follows hD hk ((readText_eq_ok_iff Tree.dialect_reads.toTransparent).2 hs)
  rw [readType]
  refine hD.bind_free htext ?_
  rw [hparse]
  exact hD.pure t

section Lists

variable {α : Type} {item : ν → m α} {spec : Tree → Except Unit α}

/-- The items of a list are read one by one. -/
theorem readItems_gives (hD : D.Shows V gives) (hitem : Follows V gives item spec) {trees : List Tree} {as : List α}
    (has : List.Forall₂ (fun a tree => spec tree = .ok a) as trees) :
    ∀ {i : Nat} {ns : List ν} {k : Nat}, V.costs? trees ns = some k → gives k (readItems D item i ns) as := by
  induction has with
  | nil =>
    intro i ns k hk
    cases ns with
    | nil =>
      cases hk
      exact hD.pure []
    | cons n ns => cases hk
  | @cons a tree as trees ha has ih =>
    intro i ns k hk
    cases ns with
    | nil => cases hk
    | cons n ns =>
      simp only [View.costs?, Option.bind_eq_some_iff, Option.map_eq_some_iff] at hk
      obtain ⟨j, hj, k, hk, rfl⟩ := hk
      rw [readItems]
      exact hD.bind (hD.inItem i (hitem hj ha)) (hD.bind_free (ih hk) (hD.pure (a :: as)))

theorem readList_follows (hD : D.Shows V gives) (hitem : Follows V gives item spec) :
    Follows V gives (readList D item) (readList Tree.dialect spec) := by
  intro tree n k as hk hread
  obtain ⟨trees, htrees, has⟩ := (readList_eq_ok_iff Tree.dialect_reads.toTransparent).1 hread
  rw [Tree.items_eq_ok_iff] at htrees
  subst htrees
  obtain ⟨n', j, hfollow, ns, hns, i, hi, rfl⟩ := View.cost?_list_iff.1 hk
  rw [readList]
  exact hD.bind (hD.resolve hfollow)
    (hD.inNode n' (hD.free_bind (hD.items hns) (readItems_gives hD hitem has hi)))

end Lists

section Records

variable {σ ρ : Type}

omit [Monad m] in
/-- The slot for a name follows the slot for trees of this name; there is none if there is none for trees. -/
theorem find?_follows {slots : List (Slot m ν σ)} {specs : List (Slot (Except Unit) Tree σ)} (name : String)
    (h : List.Forall₂ (Slot.Follows V gives) slots specs) :
    (slots.find? (·.name == name) = none ∧ specs.find? (·.name == name) = none) ∨
      ∃ slot spec, slots.find? (·.name == name) = some slot ∧ specs.find? (·.name == name) = some spec ∧
        slot.Follows V gives spec := by
  induction h with
  | nil => exact .inl ⟨rfl, rfl⟩
  | @cons slot spec slots specs hslot hslots ih =>
    rw [List.find?_cons, List.find?_cons, hslot.name_eq]
    cases spec.name == name with
    | true => exact .inr ⟨slot, spec, rfl, rfl, hslot⟩
    | false => exact ih

/-- Fields under names are read one by one; those without a slot follow no alias. -/
theorem readNamed_gives (hD : D.Shows V gives) {slots : List (Slot m ν σ)} {specs : List (Slot (Except Unit) Tree σ)}
    (h : List.Forall₂ (Slot.Follows V gives) slots specs) :
    ∀ {fields : List (String × Tree)} {es : List (κ × ν)} {k : Nat} {s r : σ}, V.fieldCosts? fields es = some k →
      readNamed Tree.dialect specs fields s = .ok r → gives k (readNamed D slots es s) r
  | [], [], k, s, r, hk, hr => by
    cases hk
    cases hr
    exact hD.pure s
  | [], e :: es, k, s, r, hk, hr => by cases hk
  | f :: fields, [], k, s, r, hk, hr => by cases hk
  | (name, tree) :: fields, (key, n) :: es, _, s, r, hk, hr => by
    obtain ⟨i, j, l, hname, hj, hl, rfl⟩ := View.fieldCosts?_cons_iff.1 hk
    have hread : Tree.dialect.name name = .ok name := rfl
    rw [readNamed, hread, Except.ok_bind] at hr
    rw [readNamed, Nat.add_assoc]
    refine hD.bind (hD.name hname) ?_
    obtain ⟨hslot, hspec⟩ | ⟨slot, spec, hslot, hspec, hfollows⟩ := find?_follows name h
    · -- the field is passed over, and aliases in its value are not followed
      simp only [hspec] at hr
      simp only [hslot]
      exact hD.mono (readNamed_gives hD h hl hr) (Nat.le_add_left l j)
    · simp only [hspec] at hr
      simp only [hslot, hfollows.isSet_eq]
      by_cases hset : spec.isSet s = true
      · -- a name that comes twice is a fault of the tree already
        rw [if_pos hset] at hr
        cases hr
      · rw [if_neg hset] at hr
        rw [if_neg hset]
        obtain ⟨s', hs', hr⟩ := Except.bind_eq_ok_iff.1 hr
        exact hD.bind (hD.inField key n (hfollows.read s hj hs')) (readNamed_gives hD h hl hr)

/-- A record follows a record of trees with the same fields. -/
structure Shape.Follows (V : View κ ν) (gives : {α : Type} → Nat → m α → α → Prop) (shape : Shape m ν σ ρ)
    (spec : Shape (Except Unit) Tree σ ρ) : Prop where
  start_eq : shape.start = spec.start
  finish_eq : shape.finish = spec.finish
  slots : List.Forall₂ (Slot.Follows V gives) shape.slots spec.slots

/-- A tree that is read as a record has fields that are read. -/
theorem exists_of_readRecord {spec : Shape (Except Unit) Tree σ ρ} {tree : Tree} {r : ρ}
    (h : readRecord Tree.dialect spec tree = .ok r) :
    ∃ fields s, tree = .record fields ∧ readNamed Tree.dialect spec.slots fields spec.start = .ok s ∧
      spec.finish s = .ok r := by
  obtain ⟨found, hfound, h⟩ := Except.bind_eq_ok_iff.1 (show Tree.dialect.fields spec.name tree >>= _ = .ok r from h)
  obtain ⟨fields, rfl, rfl⟩ := Tree.fields_eq_ok_iff.1 hfound
  obtain ⟨s, hs, h⟩ := Except.bind_eq_ok_iff.1 h
  refine ⟨fields, s, rfl, hs, ?_⟩
  cases hfinish : spec.finish s with
  | ok r' =>
    rw [hfinish] at h
    cases h
    rfl
  | error i =>
    rw [hfinish] at h
    cases h

theorem readRecord_follows (hD : D.Shows V gives) {shape : Shape m ν σ ρ} {spec : Shape (Except Unit) Tree σ ρ}
    (h : shape.Follows V gives spec) : Follows V gives (readRecord D shape) (readRecord Tree.dialect spec) := by
  intro tree n k r hk hr
  obtain ⟨fields, s, rfl, hs, hfinish⟩ := exists_of_readRecord hr
  obtain ⟨n', j, hfollow, es, hes, i, hi, rfl⟩ := View.cost?_record_iff.1 hk
  have hnamed := readNamed_gives hD h.slots hi hs
  rw [← h.start_eq] at hnamed
  rw [readRecord]
  refine hD.bind (hD.resolve hfollow) (hD.inNode n' (hD.free_bind (hD.fields hes) (hD.bind_free hnamed ?_)))
  rw [h.finish_eq, hfinish]
  exact hD.pure r

/-- A field that is kept in a record follows if its value does. -/
theorem field_follows (hD : D.Shows V gives) {α : Type} {read : ν → m α} {spec : Tree → Except Unit α}
    (h : Follows V gives read spec) (name : String) (isSet : σ → Bool) (put : α → σ → σ) :
    Slot.Follows V gives ⟨name, isSet, fun n s => read n >>= fun a => pure (put a s)⟩
      ⟨name, isSet, fun tree s => spec tree >>= fun a => pure (put a s)⟩ where
  name_eq := rfl
  isSet_eq := rfl
  read s := by
    intro tree n k s' hk hs
    obtain ⟨a, ha, hs⟩ := Except.bind_eq_ok_iff.1 hs
    cases hs
    exact hD.bind_free (h hk ha) (hD.pure (put a s))

end Records

/-! ## The records of a task -/

section Task

theorem readParameter_follows (hD : D.Shows V gives) :
    Follows V gives (readParameter D) (readParameter Tree.dialect) := by
  refine readRecord_follows hD ⟨rfl, rfl, ?_⟩
  exact .cons (field_follows hD (readText_follows hD) _ _ _)
    (.cons (field_follows hD (readType_follows hD) _ _ _) .nil)

/-- The slot of a return type reads its node in two steps. -/
theorem returns_follows (hD : D.Shows V gives) :
    Slot.Follows V gives (σ := SignatureDraft)
      ⟨"returns", (·.returns.isSome), fun n s => do
        let n ← D.resolve n
        pure { s with returns := some (← D.returnType n) }⟩
      ⟨"returns", (·.returns.isSome), fun tree s => do
        let tree ← Tree.dialect.resolve tree
        pure { s with returns := some (← Tree.dialect.returnType tree) }⟩ where
  name_eq := rfl
  isSet_eq := rfl
  read s := by
    intro tree n k s' hk hs
    have hresolve : Tree.dialect.resolve tree = .ok tree := rfl
    simp only [hresolve, Except.ok_bind] at hs
    obtain ⟨returns, hreturns, hs⟩ := Except.bind_eq_ok_iff.1 hs
    cases hs
    obtain ⟨t, rfl, rfl⟩ := Tree.returnType_eq_ok_iff.1 hreturns
    obtain ⟨n', hfollow, htext⟩ := View.cost?_text_iff.1 hk
    exact hD.bind_free (hD.resolve hfollow) (hD.bind_free (hD.returnType htext) (hD.pure _))

theorem readSignature_follows (hD : D.Shows V gives) :
    Follows V gives (readSignature D) (readSignature Tree.dialect) := by
  refine readRecord_follows hD ⟨rfl, rfl, ?_⟩
  exact .cons (field_follows hD (readText_follows hD) _ _ _)
    (.cons (field_follows hD (readList_follows hD (readParameter_follows hD)) _ _ _)
      (.cons (returns_follows hD) .nil))

theorem readInterface_follows (hD : D.Shows V gives) :
    Follows V gives (readInterface D) (readInterface Tree.dialect) := by
  have hfunctions := readList_follows hD (readSignature_follows hD)
  refine readRecord_follows hD ⟨rfl, rfl, ?_⟩
  exact .cons (field_follows hD (readText_follows hD) _ _ _)
    (.cons (field_follows hD hfunctions _ _ _) (.cons (field_follows hD hfunctions _ _ _) .nil))

theorem readDriver_follows (hD : D.Shows V gives) : Follows V gives (readDriver D) (readDriver Tree.dialect) := by
  refine readRecord_follows hD ⟨rfl, rfl, ?_⟩
  exact .cons (field_follows hD (readList_follows hD (readSignature_follows hD)) _ _ _) .nil

/-- **A task is read from every node that denotes one of its trees.** -/
theorem readTask_follows (hD : D.Shows V gives) : Follows V gives (readTask D) (readTask Tree.dialect) := by
  refine readRecord_follows hD ⟨rfl, rfl, ?_⟩
  exact .cons (field_follows hD (readText_follows hD) _ _ _)
    (.cons (field_follows hD (readList_follows hD (readInterface_follows hD)) _ _ _)
      (.cons (field_follows hD (readDriver_follows hD) _ _ _) .nil))

end Task

end Descriptor

end TaskHeader
