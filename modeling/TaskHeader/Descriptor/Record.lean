import TaskHeader.Descriptor.Fault
import TaskHeader.Task

/-!
# Records of a document

One reading of tasks for all formats. A `Dialect` says how the nodes of a format show themselves: as a text, as a list,
as the fields of a record, as a return type, and where a fault inside a node is placed. The fields of a record are
visited in the order of the document: fields without a slot are passed over, a field that comes twice is a fault, and
so is, after the last field, one that is missing and has no default.
-/

namespace TaskHeader.Descriptor

/-- The fields of a record: under their names in any order, or without names in the order of declaration. -/
inductive Fields (κ ν : Type) where
  | named (entries : List (κ × ν))
  /-- `exact` refuses values beyond the last field. -/
  | listed (values : List ν) (exact : Bool)

/-- How a format with keys `κ` and nodes `ν` is read. -/
structure Dialect (m : Type → Type) (κ ν : Type) where
  /-- The node that a node stands for. -/
  resolve : ν → m ν
  /-- A fault without a place. -/
  fail : {α : Type} → Cause → m α
  /-- Gives faults inside a node a place. -/
  inNode : {α : Type} → ν → m α → m α
  /-- Gives faults inside the value of a field a place. -/
  inField : {α : Type} → κ → ν → m α → m α
  /-- Gives faults inside an item of a list a place. -/
  inItem : {α : Type} → Nat → m α → m α
  /-- The name that a key stands for. -/
  name : κ → m String
  text : ν → m String
  items : ν → m (List ν)
  /-- The fields of a node that should be the record of the given name. -/
  fields : String → ν → m (Fields κ ν)
  /-- The return type that a node stands for; none where it stands for nothing. -/
  returnType : ν → m (Option ScalarType)

/-- A field of the record that is under construction in `σ`. -/
structure Slot (m : Type → Type) (ν σ : Type) where
  name : String
  isSet : σ → Bool
  read : ν → σ → m σ

/-- What a record consists of. `finish` is the record, or the number of the first field that it still needs. -/
structure Shape (m : Type → Type) (ν σ ρ : Type) where
  name : String
  slots : List (Slot m ν σ)
  start : σ
  finish : σ → Except Nat ρ

section Reading

variable {m : Type → Type} [Monad m] {κ ν σ ρ α : Type} (D : Dialect m κ ν)

/-- Reads a text. -/
def readText (n : ν) : m String := do
  let n ← D.resolve n
  D.inNode n (D.text n)

/-- Reads the items of a list, the first of which has the given number. -/
def readItems (item : ν → m α) : Nat → List ν → m (List α)
  | _, [] => pure []
  | i, n :: rest => do
    let a ← D.inItem i (item n)
    let more ← readItems item (i + 1) rest
    pure (a :: more)

/-- Reads a list. -/
def readList (item : ν → m α) (n : ν) : m (List α) := do
  let n ← D.resolve n
  D.inNode n do
    let items ← D.items n
    readItems D item 0 items

/-- Reads fields under their names. -/
def readNamed (slots : List (Slot m ν σ)) : List (κ × ν) → σ → m σ
  | [], s => pure s
  | (k, v) :: rest, s => do
    let name ← D.name k
    match slots.find? (·.name == name) with
    | none => readNamed slots rest s
    | some slot =>
      if slot.isSet s then D.fail (.duplicateField name)
      else do
        let s ← D.inField k v (slot.read v s)
        readNamed slots rest s

/-- Reads fields in the order of declaration, as far as there are values. -/
def readListed : List (Slot m ν σ) → List ν → σ → m σ
  | slot :: slots, v :: rest, s => do
    let s ← slot.read v s
    readListed slots rest s
  | _, _, s => pure s

/-- Reads a record. -/
def readRecord (shape : Shape m ν σ ρ) (n : ν) : m ρ := do
  let n ← D.resolve n
  D.inNode n do
    match ← D.fields shape.name n with
    | .named entries =>
      match shape.finish (← readNamed D shape.slots entries shape.start) with
      | .ok r => pure r
      | .error i => D.fail (.missingField ((shape.slots[i]?.map (·.name)).getD ""))
    | .listed values exact =>
      match shape.finish (← readListed shape.slots values shape.start) with
      | .ok r =>
        if exact && shape.slots.length < values.length then
          D.fail (.invalidLength values.length "fewer elements in array")
        else pure r
      | .error i =>
        D.fail (.invalidLength i (shape.name ++ " with " ++ toString shape.slots.length ++ " elements"))

/-- Reads the type of a parameter. -/
def readType (n : ν) : m ValueType := do
  match ValueType.parse (← readText D n) with
  | .ok t => pure t
  | .error e => D.fail (.badType e)

end Reading

/-! ## The records of a task -/

/-- A parameter under construction. -/
structure ParameterDraft where
  name : Option String := none
  type : Option ValueType := none

/-- A function under construction. -/
structure SignatureDraft where
  name : Option String := none
  parameters : Option (List Parameter) := none
  returns : Option (Option ScalarType) := none

/-- An interface under construction. -/
structure InterfaceDraft where
  name : Option String := none
  functions : Option (List Signature) := none
  callbacks : Option (List Signature) := none

/-- A driver under construction. -/
structure DriverDraft where
  functions : Option (List Signature) := none

/-- A task under construction. -/
structure TaskDraft where
  name : Option String := none
  interfaces : Option (List Interface) := none
  driver : Option Driver := none

section Shapes

variable {m : Type → Type} [Monad m] {κ ν : Type} (D : Dialect m κ ν)

/-- A parameter needs a name and a type. -/
def parameterShape : Shape m ν ParameterDraft Parameter where
  name := "struct Parameter"
  slots :=
    [⟨"name", (·.name.isSome), fun n s => do pure { s with name := some (← readText D n) }⟩,
     ⟨"type", (·.type.isSome), fun n s => do pure { s with type := some (← readType D n) }⟩]
  start := {}
  finish
    | { name := none, .. } => .error 0
    | { type := none, .. } => .error 1
    | { name := some name, type := some type } => .ok { name, type }

/-- Reads a parameter. -/
def readParameter (n : ν) : m Parameter :=
  readRecord D (parameterShape D) n

/-- A function needs a name. -/
def signatureShape : Shape m ν SignatureDraft Signature where
  name := "struct FunctionSignature"
  slots :=
    [⟨"name", (·.name.isSome), fun n s => do pure { s with name := some (← readText D n) }⟩,
     ⟨"parameters", (·.parameters.isSome), fun n s => do
       pure { s with parameters := some (← readList D (readParameter D) n) }⟩,
     ⟨"returns", (·.returns.isSome), fun n s => do
       let n ← D.resolve n
       pure { s with returns := some (← D.returnType n) }⟩]
  start := {}
  finish
    | { name := none, .. } => .error 0
    | { name := some name, parameters, returns } =>
      .ok { name, parameters := parameters.getD [], returns := returns.getD none }

/-- Reads a function. -/
def readSignature (n : ν) : m Signature :=
  readRecord D (signatureShape D) n

/-- An interface needs a name. -/
def interfaceShape : Shape m ν InterfaceDraft Interface where
  name := "struct Interface"
  slots :=
    [⟨"name", (·.name.isSome), fun n s => do pure { s with name := some (← readText D n) }⟩,
     ⟨"functions", (·.functions.isSome), fun n s => do
       pure { s with functions := some (← readList D (readSignature D) n) }⟩,
     ⟨"callback_functions", (·.callbacks.isSome), fun n s => do
       pure { s with callbacks := some (← readList D (readSignature D) n) }⟩]
  start := {}
  finish
    | { name := none, .. } => .error 0
    | { name := some name, functions, callbacks } =>
      .ok { name, functions := functions.getD [], callbacks := callbacks.getD [] }

/-- Reads an interface. -/
def readInterface (n : ν) : m Interface :=
  readRecord D (interfaceShape D) n

/-- A driver needs nothing. -/
def driverShape : Shape m ν DriverDraft Driver where
  name := "struct Driver"
  slots :=
    [⟨"functions", (·.functions.isSome), fun n s => do
       pure { s with functions := some (← readList D (readSignature D) n) }⟩]
  start := {}
  finish s := .ok { functions := s.functions.getD [] }

/-- Reads a driver. -/
def readDriver (n : ν) : m Driver :=
  readRecord D (driverShape D) n

/-- A task needs a name. -/
def taskShape : Shape m ν TaskDraft Task where
  name := "struct Task"
  slots :=
    [⟨"name", (·.name.isSome), fun n s => do pure { s with name := some (← readText D n) }⟩,
     ⟨"interfaces", (·.interfaces.isSome), fun n s => do
       pure { s with interfaces := some (← readList D (readInterface D) n) }⟩,
     ⟨"driver", (·.driver.isSome), fun n s => do pure { s with driver := some (← readDriver D n) }⟩]
  start := {}
  finish
    | { name := none, .. } => .error 0
    | { name := some name, interfaces, driver } =>
      .ok { name, interfaces := interfaces.getD [], driver := driver.getD {} }

/-- Reads a task. -/
def readTask (n : ν) : m Task :=
  readRecord D (taskShape D) n

end Shapes

end TaskHeader.Descriptor
