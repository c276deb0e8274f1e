import TaskHeader.Descriptor
import TaskHeader.FileSystem
import TaskHeader.Validation

/-!
# Loading tasks

From the path of a descriptor to a task: the extension gives the format, the file the text, and the text the task.
Each step ends the work if it fails, and a loaded task may be validated on top. What happens is reported by events.
-/

namespace TaskHeader

/-- Why a task cannot be loaded. -/
inductive LoadError where
  | unsupportedFormat (path : String)
  | unreadable (path : String) (cause : FileError)
  | descriptor (error : DescriptorError)
  /-- The task was loaded but is not valid. -/
  | invalid (findings : List Finding)
  deriving DecidableEq, Repr

/-- The message of an error. -/
def LoadError.message : LoadError → String
  | unsupportedFormat path =>
    "unsupported task descriptor format for " ++ path ++ " (expected .yaml, .yml or .toml)"
  | unreadable path cause => "failed to read task descriptor " ++ path ++ ": " ++ cause.message
  | descriptor error => error.message
  | invalid findings => "task validation failed:\n" ++ "\n".intercalate (findings.map (·.message))

/-- The outcome of loading a task and what was reported on the way. -/
structure Loading where
  outcome : Except LoadError Task
  events : List Event

namespace Loader

/-- Reads the descriptor at a path. A file of no format is not looked at. -/
def readTask {m : Type → Type} [Monad m] (files : Files m) (path : String) : m (Except LoadError Task) := do
  match Format.ofPath? path with
  | none => return .error (.unsupportedFormat path)
  | some format =>
    match ← files.read path with
    | .error cause => return .error (.unreadable path cause)
    | .ok content => return (Task.ofDescriptor format content).mapError .descriptor

/-- The event for a task that was read from a path, or for the failure to. -/
def loaded (path : String) : Except LoadError Task → Event
  | .ok t =>
    .taskLoaded path (((Format.ofPath? path).map (·.name)).getD "unknown") t.name t.interfaces.length
      t.driver.functions.length
  | .error e => .taskLoadFailed path e.message

/-- Loads a task. -/
def load {m : Type → Type} [Monad m] (files : Files m) (path : String) : m Loading := do
  let outcome ← readTask files path
  return { outcome, events := [loaded path outcome] }

/-- The event for a warning. -/
def warned? : Finding → Option Event
  | .emptyInterface name => some (.emptyInterface name)
  | _ => none

/-- Validates a task. Warnings are only reported. -/
def check (t : Task) : Loading :=
  let started : Event := .validationStarted t.name t.interfaces.length
  let report := t.validate
  if report.findings.isEmpty then
    { outcome := .ok t
      events :=
        started :: report.events ++ t.warnings.filterMap warned? ++ [.validationCompleted t.name t.warnings.length] }
  else
    { outcome := .error (.invalid report.findings)
      events := started :: report.events ++ [.validationFailed t.name report.findings.length] }

/-- Loads a task and validates it. -/
def loadValid {m : Type → Type} [Monad m] (files : Files m) (path : String) : m Loading := do
  let loading ← load files path
  match loading.outcome with
  | .error _ => return loading
  | .ok t =>
    let checked := check t
    return { checked with events := loading.events ++ checked.events }

end Loader

end TaskHeader
