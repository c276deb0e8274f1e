import TaskHeader.Proofs.Shape

/-!
# Grammars of tasks

Which nodes present a task, for any kind of nodes. A `Grammar` says what the texts, the lists, the records and the
return types of a kind of nodes are; on these the presentations of a task are built (`PresentedIn`), and each node of
the task chooses its own: some fields may be left out where they have their default (`Grammar.Omissible`), and a list
presents its items one by one (`Grammar.Lists`).

A dialect reads a grammar if it takes each of the four for what it is (`Dialect.Reads`). Then it reads a node as a task
exactly if the node presents the task (`Task.read_iff`). The proof follows the grammar: each kind of node is read as
what it presents, by the lemma about reading it.
-/

namespace TaskHeader

/-- What the nodes `ν` of a kind are. -/
structure Grammar (ν : Type) where
  /-- The node that is a text. -/
  text : String → ν
  /-- The node that is a list of nodes. -/
  list : List ν → ν
  /-- The values that a record gives for fields of some names, one or none for each. -/
  Gives : List String → List (Option ν) → ν → Prop
  /-- The return type that a node stands for. -/
  Returns : Option ScalarType → ν → Prop

namespace Grammar

variable {ν α : Type}

/-- Fields give the values that stand under some names, one or none for each; they have each of the names at most once
beside any others, in any order. -/
def ByName (names : List String) (found : List (Option ν)) (fields : List (String × ν)) : Prop :=
  (∀ name ∈ names, (fields.map (·.1)).count name ≤ 1) ∧
    found = names.map fun name => (fields.find? (·.1 == name)).map (·.2)

/-- A field that may be left out exactly where it has its default. -/
def Omissible (present : α → ν → Prop) (default a : α) : Option ν → Prop
  | none => a = default
  | some n => present a n

/-- A list that presents its items one by one. -/
def Lists (G : Grammar ν) (present : α → ν → Prop) (as : List α) (n : ν) : Prop :=
  ∃ items, n = G.list items ∧ List.Forall₂ present as items

end Grammar

open Grammar (Omissible)

/-! ## Presentations -/

section Presentations

variable {ν : Type} (G : Grammar ν)

/-- A type is any text that is read as the type. -/
def ValueType.PresentedIn (t : ValueType) (n : ν) : Prop :=
  ∃ s, n = G.text s ∧ ValueType.parse s = .ok t

/-- A parameter has a name and a type. -/
def Parameter.PresentedIn (p : Parameter) (n : ν) : Prop :=
  ∃ type, G.Gives ["name", "type"] [some (G.text p.name), some type] n ∧ p.type.PresentedIn G type

/-- A function has a name, and may do without parameters and without a return type. -/
def Signature.PresentedIn (f : Signature) (n : ν) : Prop :=
  ∃ parameters returns, G.Gives ["name", "parameters", "returns"] [some (G.text f.name), parameters, returns] n ∧
    Omissible (G.Lists (Parameter.PresentedIn G)) [] f.parameters parameters ∧
    Omissible G.Returns none f.returns returns

/-- An interface has a name, and may do without functions and without callbacks. -/
def Interface.PresentedIn (i : Interface) (n : ν) : Prop :=
  ∃ functions callbacks,
    G.Gives ["name", "functions", "callback_functions"] [some (G.text i.name), functions, callbacks] n ∧
      Omissible (G.Lists (Signature.PresentedIn G)) [] i.functions functions ∧
      Omissible (G.Lists (Signature.PresentedIn G)) [] i.callbacks callbacks

/-- A driver may do without functions. -/
def Driver.PresentedIn (d : Driver) (n : ν) : Prop :=
  ∃ functions, G.Gives ["functions"] [functions] n ∧
    Omissible (G.Lists (Signature.PresentedIn G)) [] d.functions functions

/-- A task has a name, and may do without interfaces and without a driver. -/
def Task.PresentedIn (t : Task) (n : ν) : Prop :=
  ∃ interfaces driver, G.Gives ["name", "interfaces", "driver"] [some (G.text t.name), interfaces, driver] n ∧
    Omissible (G.Lists (Interface.PresentedIn G)) [] t.interfaces interfaces ∧
    Omissible (Driver.PresentedIn G) {} t.driver driver

end Presentations

/-! ## Reading -/

open Descriptor

/-- A dialect that takes the nodes of a grammar for what they are. -/
structure Descriptor.Dialect.Reads {ε κ ν : Type} (D : Dialect (Except ε) κ ν) (key : κ → String) (G : Grammar ν) :
    Prop extends D.Transparent key where
  text : ∀ {n : ν} {s : String}, D.text n = .ok s ↔ n = G.text s
  items : ∀ {n : ν} {ns : List ν}, D.items n = .ok ns ↔ n = G.list ns
  gives : ∀ {record : String} {names : List String} {found : List (Option ν)} {n : ν},
    D.Gives key record names found n ↔ G.Gives names found n
  returnType : ∀ {n : ν} {returns : Option ScalarType}, D.returnType n = .ok returns ↔ G.Returns returns n

section Reading

variable {ε κ ν α : Type} {D : Dialect (Except ε) κ ν} {key : κ → String} {G : Grammar ν} {n : ν}

/-- A list is read item by item. -/
theorem Grammar.readList_iff (hD : D.Reads key G) {item : ν → Except ε α} {present : α → ν → Prop}
    (h : ∀ {a n}, item n = .ok a ↔ present a n) {as : List α} :
    readList D item n = .ok as ↔ G.Lists present as n := by
  rw [readList_eq_ok_iff hD.toTransparent]
  simp only [hD.items, h, Lists]

/-- A field that is left out is read as its default. -/
theorem Grammar.readOr_iff {read : ν → Except ε α} {present : α → ν → Prop}
    (h : ∀ {a n}, read n = .ok a ↔ present a n) {default a : α} {o : Option ν} :
    readOr read default o = .ok a ↔ Omissible present default a o := by
  cases o with
  | none => simp [readOr, Omissible, eq_comm]
  | some n => exact h

theorem ValueType.read_iff (hD : D.Reads key G) {t : ValueType} : readType D n = .ok t ↔ t.PresentedIn G n := by
  rw [readType_eq_ok_iff hD.toTransparent]
  simp only [hD.text, PresentedIn]

theorem Parameter.read_iff (hD : D.Reads key G) {p : Parameter} :
    readParameter D n = .ok p ↔ p.PresentedIn G n := by
  rw [readParameter_eq_ok_iff hD.toTransparent]
  simp only [hD.gives, hD.text, ValueType.read_iff hD]
  constructor
  · rintro ⟨_, type, hgives, rfl, htype⟩
    exact ⟨type, hgives, htype⟩
  · rintro ⟨type, hgives, htype⟩
    exact ⟨_, type, hgives, rfl, htype⟩

theorem Signature.read_iff (hD : D.Reads key G) {f : Signature} :
    readSignature D n = .ok f ↔ f.PresentedIn G n := by
  have hparameters : ∀ {ps n}, readList D (readParameter D) n = .ok ps ↔ G.Lists (Parameter.PresentedIn G) ps n :=
    Grammar.readList_iff hD (Parameter.read_iff hD)
  rw [readSignature_eq_ok_iff hD.toTransparent]
  simp only [hD.gives, hD.text, Grammar.readOr_iff hD.returnType, Grammar.readOr_iff hparameters]
  exact exists_named_iff (G.Gives _ · n)

/-- Lists of functions. -/
theorem Signature.readList_iff (hD : D.Reads key G) {fs : List Signature} :
    readList D (readSignature D) n = .ok fs ↔ G.Lists (PresentedIn G) fs n :=
  Grammar.readList_iff hD (read_iff hD)

theorem Interface.read_iff (hD : D.Reads key G) {i : Interface} :
    readInterface D n = .ok i ↔ i.PresentedIn G n := by
  rw [readInterface_eq_ok_iff hD.toTransparent]
  simp only [hD.gives, hD.text, Grammar.readOr_iff (Signature.readList_iff hD)]
  exact exists_named_iff (G.Gives _ · n)

theorem Driver.read_iff (hD : D.Reads key G) {d : Driver} : readDriver D n = .ok d ↔ d.PresentedIn G n := by
  rw [readDriver_eq_ok_iff hD.toTransparent]
  simp only [hD.gives, Grammar.readOr_iff (Signature.readList_iff hD), PresentedIn]

/-- **A node is read as a task exactly if it presents the task.** -/
theorem Task.read_iff (hD : D.Reads key G) {t : Task} : readTask D n = .ok t ↔ t.PresentedIn G n := by
  have hinterfaces : ∀ {is n}, readList D (readInterface D) n = .ok is ↔ G.Lists (Interface.PresentedIn G) is n :=
    Grammar.readList_iff hD (Interface.read_iff hD)
  rw [readTask_eq_ok_iff hD.toTransparent]
  simp only [hD.gives, hD.text, Grammar.readOr_iff hinterfaces, Grammar.readOr_iff (Driver.read_iff hD)]
  exact exists_named_iff (G.Gives _ · n)

end Reading

end TaskHeader
