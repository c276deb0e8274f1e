import TaskHeader.Event
import TaskHeader.Identifier
import TaskHeader.Task

/-!
# Validation

A task can be rendered and compiled only if its names are usable and no scope declares a name twice. `Task.validate`
looks for every violation and reports all of them: first the names that are no identifiers, then interfaces, then
functions and callbacks, then parameters that repeat a name of their scope. Each repeated name also leaves an event.
-/

namespace TaskHeader

/-- A violation, or something worth a warning. -/
inductive Finding where
  /-- A name is no usable identifier. -/
  | invalidIdentifier (context name : String)
  /-- An interface has the name of an earlier one. -/
  | duplicateInterface (name : String)
  /-- A function or callback has the name of an earlier one of its scope. -/
  | duplicateFunction (scope name : String)
  /-- A parameter has the name of an earlier one of its function. -/
  | duplicateParameter (function name : String)
  /-- An interface declares nothing. -/
  | emptyInterface (name : String)
  deriving DecidableEq, Repr

namespace Finding

/-- Whether a finding is only a warning. -/
def isWarning : Finding → Bool
  | emptyInterface _ => true
  | _ => false

/-- The line for the reader. -/
def message : Finding → String
  | invalidIdentifier context name => "Invalid " ++ context ++ " name: '" ++ name ++ "'"
  | duplicateInterface name => "Duplicate interface name: '" ++ name ++ "'"
  | duplicateFunction scope name => "Function '" ++ name ++ "' is declared more than once in '" ++ scope ++ "'"
  | duplicateParameter function name =>
    "Parameter '" ++ name ++ "' is declared more than once in function '" ++ function ++ "'"
  | emptyInterface name =>
    "Interface '" ++ name ++ "' declares no functions and no callbacks; its block will be empty"

end Finding

/-- What a check found and what it reported on the way. -/
structure Report where
  findings : List Finding := []
  events : List Event := []
  deriving DecidableEq, Repr

namespace Report

/-- One report after the other. -/
def append (r₁ r₂ : Report) : Report :=
  ⟨r₁.findings ++ r₂.findings, r₁.events ++ r₂.events⟩

instance : Append Report := ⟨append⟩

/-- The reports of the members of a list, one after the other. -/
def concat {α : Type} (check : α → Report) : List α → Report
  | [] => {}
  | a :: rest => check a ++ concat check rest

@[simp]
theorem findings_append (r₁ r₂ : Report) : (r₁ ++ r₂).findings = r₁.findings ++ r₂.findings := rfl

@[simp]
theorem events_append (r₁ r₂ : Report) : (r₁ ++ r₂).events = r₁.events ++ r₂.events := rfl

@[simp]
theorem findings_concat {α : Type} (check : α → Report) (as : List α) :
    (concat check as).findings = as.flatMap fun a => (check a).findings := by
  induction as with
  | nil => rfl
  | cons a as ih => simp [concat, ih]

@[simp]
theorem events_concat {α : Type} (check : α → Report) (as : List α) :
    (concat check as).events = as.flatMap fun a => (check a).events := by
  induction as with
  | nil => rfl
  | cons a as ih => simp [concat, ih]

end Report

namespace Validation

/-- The name of the scope of the driver's functions. -/
def driverScope : String := "driver"

/-! ## Identifiers -/

/-- Reports a name that is no usable identifier. -/
def checkName (context name : String) : Report :=
  if Identifier.usable name then {} else { findings := [.invalidIdentifier context name] }

/-- Checks the names of a function and its parameters. -/
def checkSignature (context : String) (f : Signature) : Report :=
  checkName context f.name
    ++ Report.concat (fun (p : Parameter) => checkName ("parameter of '" ++ f.name ++ "'") p.name) f.parameters

/-- Checks the names of an interface and all that it declares. -/
def checkInterface (i : Interface) : Report :=
  checkName "interface" i.name
    ++ Report.concat (checkSignature ("function in '" ++ i.name ++ "'")) i.functions
    ++ Report.concat (checkSignature ("callback in '" ++ i.name ++ "'")) i.callbacks

/-- Checks every name of a task. -/
def identifiers (t : Task) : Report :=
  checkName "task" t.name
    ++ Report.concat checkInterface t.interfaces
    ++ Report.concat (checkSignature ("function in '" ++ driverScope ++ "'")) t.driver.functions

/-! ## Repeated names -/

/-- Reports each name of a list that was seen before, as a finding and as an event. -/
def repeated (kind scope : String) (finding : String → Finding) : List String → List String → Report
  | _, [] => {}
  | seen, name :: rest =>
    if name ∈ seen then
      { findings := [finding name], events := [.duplicateName kind scope name] } ++ repeated kind scope finding seen rest
    else repeated kind scope finding (name :: seen) rest

/-- Interfaces that repeat a name. -/
def uniqueInterfaces (t : Task) : Report :=
  repeated "interface" t.name .duplicateInterface [] (t.interfaces.map (·.name))

/-- Functions that repeat a name of their scope. -/
def uniqueInScope (scope : String) (fs : List Signature) : Report :=
  repeated "function" scope (.duplicateFunction scope) [] (fs.map (·.name))

/-- Functions and callbacks of an interface share its scope; the driver is a scope of its own. -/
def uniqueFunctions (t : Task) : Report :=
  Report.concat (fun (i : Interface) => uniqueInScope i.name i.declared) t.interfaces
    ++ uniqueInScope driverScope t.driver.functions

/-- Parameters of one function that repeat a name. -/
def uniqueInSignature (f : Signature) : Report :=
  repeated "parameter" f.name (.duplicateParameter f.name) [] (f.parameters.map (·.name))

/-- Parameters that repeat a name of their function. -/
def uniqueParameters (t : Task) : Report :=
  Report.concat (fun (i : Interface) => Report.concat uniqueInSignature i.declared) t.interfaces
    ++ Report.concat uniqueInSignature t.driver.functions

end Validation

/-- All violations of a task, in the order of the four checks. -/
def Task.validate (t : Task) : Report :=
  Validation.identifiers t ++ Validation.uniqueInterfaces t ++ Validation.uniqueFunctions t
    ++ Validation.uniqueParameters t

/-- The interfaces that declare nothing. -/
def Task.warnings (t : Task) : List Finding :=
  (t.interfaces.filter (·.isEmpty)).map fun i => .emptyInterface i.name

/-- The names of a batch that more than one task has, each once, in the order of their second use. -/
structure SharedNames where
  names : List String := []
  events : List Event := []
  deriving DecidableEq, Repr

namespace Validation

/-- Walks over the names of a batch with those seen and those found to be shared so far. -/
def sharedNamesFrom (seen shared : List String) : List String → SharedNames
  | [] => {}
  | name :: rest =>
    if name ∈ seen then
      if name ∈ shared then sharedNamesFrom seen shared rest
      else
        let more := sharedNamesFrom seen (name :: shared) rest
        ⟨name :: more.names, .duplicateName "task" "batch" name :: more.events⟩
    else sharedNamesFrom (name :: seen) shared rest

/-- The names that more than one task of a batch has. Each task of a batch is written below its name, so these tasks
would meet in one place. -/
def sharedNames (names : List String) : SharedNames :=
  sharedNamesFrom [] [] names

end Validation

end TaskHeader
