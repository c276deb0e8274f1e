import TaskHeader.Proofs.Record

/-!
# The records of a task, field by field

Each record of a task keeps what it reads for a field in a part of its own (`Slot.field`), so its fields do not get in
each other's way and its node can be read field by field: the name and, in a parameter, the type must be there, and
what is left out of the others stands for nothing (`readOr`).
-/

namespace TaskHeader.Descriptor

variable {ε κ ν σ α β : Type}

/-! ## Fields -/

/-- The slot for a field that is read in some way and kept in some part of a record. -/
def Slot.field (name : String) (get : σ → Option α) (put : α → σ → σ) (read : ν → Except ε α) :
    Slot (Except ε) ν σ where
  name
  isSet s := (get s).isSome
  read v s := (read v).map (put · s)

section Field

variable {name name' : String} {get : σ → Option α} {get' : σ → Option β} {put : α → σ → σ} {put' : β → σ → σ}
  {read : ν → Except ε α} {read' : ν → Except ε β}

theorem Slot.field_sets (h : ∀ a s, get (put a s) = some a) : (field name get put read).Sets := by
  intro v s s' hread
  obtain ⟨a, -, rfl⟩ := Except.map_eq_ok_iff.1 hread
  simp [field, h]

/-- Fields that are kept in different parts do not get in each other's way. -/
theorem Slot.field_apart (hname : name ≠ name') (hget' : ∀ a s, get' (put a s) = get' s)
    (hget : ∀ b s, get (put' b s) = get s) (hput : ∀ a b s, put' b (put a s) = put a (put' b s)) :
    Apart (field name get put read) (field name' get' put' read') where
  name_ne := hname
  isSet_right {v s s'} hread := by
    obtain ⟨a, -, rfl⟩ := Except.map_eq_ok_iff.1 hread
    simp [field, hget']
  isSet_left {v s s'} hread := by
    obtain ⟨b, -, rfl⟩ := Except.map_eq_ok_iff.1 hread
    simp [field, hget]
  commute {v w s r} := by
    simp only [field, Except.bind_eq_ok_iff, Except.map_eq_ok_iff]
    constructor
    · rintro ⟨-, ⟨a, ha, rfl⟩, b, hb, rfl⟩
      exact ⟨_, ⟨b, hb, rfl⟩, a, ha, (hput a b s).symm⟩
    · rintro ⟨-, ⟨b, hb, rfl⟩, a, ha, rfl⟩
      exact ⟨_, ⟨a, ha, rfl⟩, b, hb, hput a b s⟩

variable {slots : List (Slot (Except ε) ν σ)} {found : List (Option ν)} {slot : Slot (Except ε) ν σ} {v : ν} {s r : σ}

theorem readFound_field :
    readFound (.field name get put read :: slots) (some v :: found) s = .ok r ↔
      ∃ a, read v = .ok a ∧ readFound slots found (put a s) = .ok r := by
  simp [readFound, Slot.field, Except.bind_eq_ok_iff, Except.map_eq_ok_iff]

theorem readFound_none : readFound (slot :: slots) (none :: found) s = readFound slots found s := rfl

theorem readFound_nil : readFound ([] : List (Slot (Except ε) ν σ)) found s = .ok r ↔ s = r := by
  simp [readFound]

end Field

/-- Reads a field that may be left out. -/
def readOr (read : ν → Except ε α) (default : α) : Option ν → Except ε α
  | none => .ok default
  | some n => read n

/-- A record whose name is known to be some node has this node for its name. -/
theorem exists_named_iff (gives : List (Option ν) → Prop) {named : ν} {rest : Option ν → Option ν → Prop} :
    (∃ name a b, gives [some name, a, b] ∧ name = named ∧ rest a b) ↔ ∃ a b, gives [some named, a, b] ∧ rest a b := by
  constructor
  · rintro ⟨_, a, b, hgives, rfl, h⟩
    exact ⟨a, b, hgives, h⟩
  · rintro ⟨a, b, hgives, h⟩
    exact ⟨_, a, b, hgives, rfl, h⟩

/-! ## Records -/

section Records

variable (D : Dialect (Except ε) κ ν)

theorem parameterShape_slots : (parameterShape D).slots =
    [.field "name" (·.name) (fun a s => { s with name := some a }) (readText D),
     .field "type" (·.type) (fun a s => { s with type := some a }) (readType D)] := rfl

theorem parameterShape_orderly : (parameterShape D).Orderly where
  unset := by simp [parameterShape]
  sets := by simp [parameterShape_slots, Slot.field_sets]
  apart := by simp [parameterShape_slots, Slot.field_apart]

theorem signatureShape_slots : (signatureShape D).slots =
    [.field "name" (·.name) (fun a s => { s with name := some a }) (readText D),
     .field "parameters" (·.parameters) (fun a s => { s with parameters := some a }) (readList D (readParameter D)),
     .field "returns" (·.returns) (fun a s => { s with returns := some a }) fun n => D.resolve n >>= D.returnType] := by
  have hread : ∀ (n : ν) (s : SignatureDraft),
      (do
        let n ← D.resolve n
        pure { s with returns := some (← D.returnType n) } : Except ε SignatureDraft)
      = (D.resolve n >>= D.returnType).map fun a => { s with returns := some a } := by
    intro n s
    cases D.resolve n <;> rfl
  simp only [signatureShape, hread]
  rfl

theorem signatureShape_orderly : (signatureShape D).Orderly where
  unset := by simp [signatureShape]
  sets := by simp [signatureShape_slots, Slot.field_sets]
  apart := by simp [signatureShape_slots, Slot.field_apart]

theorem interfaceShape_slots : (interfaceShape D).slots =
    [.field "name" (·.name) (fun a s => { s with name := some a }) (readText D),
     .field "functions" (·.functions) (fun a s => { s with functions := some a }) (readList D (readSignature D)),
     .field "callback_functions" (·.callbacks) (fun a s => { s with callbacks := some a })
       (readList D (readSignature D))] := rfl

theorem interfaceShape_orderly : (interfaceShape D).Orderly where
  unset := by simp [interfaceShape]
  sets := by simp [interfaceShape_slots, Slot.field_sets]
  apart := by simp [interfaceShape_slots, Slot.field_apart]

theorem driverShape_slots : (driverShape D).slots =
    [.field "functions" (·.functions) (fun a s => { s with functions := some a }) (readList D (readSignature D))] := rfl

theorem driverShape_orderly : (driverShape D).Orderly where
  unset := by simp [driverShape]
  sets := by simp [driverShape_slots, Slot.field_sets]
  apart := by simp [driverShape_slots]

theorem taskShape_slots : (taskShape D).slots =
    [.field "name" (·.name) (fun a s => { s with name := some a }) (readText D),
     .field "interfaces" (·.interfaces) (fun a s => { s with interfaces := some a }) (readList D (readInterface D)),
     .field "driver" (·.driver) (fun a s => { s with driver := some a }) (readDriver D)] := rfl

theorem taskShape_orderly : (taskShape D).Orderly where
  unset := by simp [taskShape]
  sets := by simp [taskShape_slots, Slot.field_sets]
  apart := by simp [taskShape_slots, Slot.field_apart]

end Records

variable {D : Dialect (Except ε) κ ν} {key : κ → String} {n : ν}

/-- **A parameter is read from its name and its type.** -/
theorem readParameter_eq_ok_iff (hD : D.Transparent key) {p : Parameter} :
    readParameter D n = .ok p ↔
      ∃ name type, D.Gives key "struct Parameter" ["name", "type"] [some name, some type] n ∧
        D.text name = .ok p.name ∧ readType D type = .ok p.type := by
  rw [readParameter, readRecord_eq_ok_iff hD (parameterShape_orderly D)]
  refine Dialect.exists_gives_two rfl fun name type => ?_
  -- each field is there or left out
  obtain ⟨pname, ptype⟩ := p
  rw [parameterShape_slots]
  cases name <;> cases type <;>
    simp only [readFound_none, readFound_field, readFound_nil, readText_eq_ok_iff hD] <;>
    simp [parameterShape, and_assoc, and_comm, eq_comm]

/-- **A function is read from its name**, its parameters and its return type. -/
theorem readSignature_eq_ok_iff (hD : D.Transparent key) {f : Signature} :
    readSignature D n = .ok f ↔
      ∃ name parameters returns,
        D.Gives key "struct FunctionSignature" ["name", "parameters", "returns"] [some name, parameters, returns] n ∧
          D.text name = .ok f.name ∧ readOr (readList D (readParameter D)) [] parameters = .ok f.parameters ∧
          readOr D.returnType none returns = .ok f.returns := by
  rw [readSignature, readRecord_eq_ok_iff hD (signatureShape_orderly D)]
  refine Dialect.exists_gives_three rfl fun name parameters returns => ?_
  obtain ⟨fname, fparameters, freturns⟩ := f
  rw [signatureShape_slots]
  cases name <;> cases parameters <;> cases returns <;>
    simp only [readFound_none, readFound_field, readFound_nil, readText_eq_ok_iff hD, hD.resolve, Except.ok_bind] <;>
    simp [signatureShape, readOr, and_assoc, and_comm, and_left_comm, eq_comm]

/-- **An interface is read from its name**, its functions and its callbacks. -/
theorem readInterface_eq_ok_iff (hD : D.Transparent key) {i : Interface} :
    readInterface D n = .ok i ↔
      ∃ name functions callbacks,
        D.Gives key "struct Interface" ["name", "functions", "callback_functions"] [some name, functions, callbacks] n ∧
          D.text name = .ok i.name ∧ readOr (readList D (readSignature D)) [] functions = .ok i.functions ∧
          readOr (readList D (readSignature D)) [] callbacks = .ok i.callbacks := by
  rw [readInterface, readRecord_eq_ok_iff hD (interfaceShape_orderly D)]
  refine Dialect.exists_gives_three rfl fun name functions callbacks => ?_
  obtain ⟨iname, ifunctions, icallbacks⟩ := i
  rw [interfaceShape_slots]
  cases name <;> cases functions <;> cases callbacks <;>
    simp only [readFound_none, readFound_field, readFound_nil, readText_eq_ok_iff hD] <;>
    simp [interfaceShape, readOr, and_assoc, and_comm, eq_comm]

/-- **A driver is read from its functions.** -/
theorem readDriver_eq_ok_iff (hD : D.Transparent key) {d : Driver} :
    readDriver D n = .ok d ↔
      ∃ functions, D.Gives key "struct Driver" ["functions"] [functions] n ∧
        readOr (readList D (readSignature D)) [] functions = .ok d.functions := by
  rw [readDriver, readRecord_eq_ok_iff hD (driverShape_orderly D)]
  refine Dialect.exists_gives_one rfl fun functions => ?_
  obtain ⟨dfunctions⟩ := d
  rw [driverShape_slots]
  cases functions <;> simp only [readFound_none, readFound_field, readFound_nil] <;>
    simp [driverShape, readOr]

/-- **A task is read from its name**, its interfaces and its driver. -/
theorem readTask_eq_ok_iff (hD : D.Transparent key) {t : Task} :
    readTask D n = .ok t ↔
      ∃ name interfaces driver,
        D.Gives key "struct Task" ["name", "interfaces", "driver"] [some name, interfaces, driver] n ∧
          D.text name = .ok t.name ∧ readOr (readList D (readInterface D)) [] interfaces = .ok t.interfaces ∧
          readOr (readDriver D) {} driver = .ok t.driver := by
  rw [readTask, readRecord_eq_ok_iff hD (taskShape_orderly D)]
  refine Dialect.exists_gives_three rfl fun name interfaces driver => ?_
  obtain ⟨tname, tinterfaces, tdriver⟩ := t
  rw [taskShape_slots]
  cases name <;> cases interfaces <;> cases driver <;>
    simp only [readFound_none, readFound_field, readFound_nil, readText_eq_ok_iff hD] <;>
    simp [taskShape, readOr, and_assoc, and_comm, and_left_comm, eq_comm]

end TaskHeader.Descriptor
