import TaskHeader.Block

/-!
# Events

What the program reports while it works. Each event has a level, a line for the reader, fields for a machine, and a
span: a scope of its own under which further events can be gathered.
-/

namespace TaskHeader

/-- How much an event matters. -/
inductive Level where
  | trace
  | debug
  | info
  | warn
  | error
  deriving DecidableEq, Repr

/-- The word for a level. -/
def Level.text : Level → String
  | .trace => "TRACE"
  | .debug => "DEBUG"
  | .info => "INFO"
  | .warn => "WARN"
  | .error => "ERROR"

/-- The value of a field. -/
inductive FieldValue where
  | text (s : String)
  | number (n : Nat)
  | flag (b : Bool)
  deriving DecidableEq, Repr

/-- The reports of the program. -/
inductive Event where
  | taskLoaded (path format taskName : String) (interfaceCount driverFunctionCount : Nat)
  | taskLoadFailed (path error : String)
  | validationStarted (taskName : String) (interfaceCount : Nat)
  | validationCompleted (taskName : String) (warningCount : Nat)
  | validationFailed (taskName : String) (errorCount : Nat)
  | duplicateName (kind scope name : String)
  | emptyInterface (interfaceName : String)
  | renderStarted (taskName : String) (interfaceCount : Nat) (backend : String)
  | blockRendered (interfaceName : Option String) (driver : Bool) (functionCount callbackCount bytes : Nat)
  | blockRenderFailed (taskName : String) (interfaceName : Option String) (error : RenderError)
  | renderCompleted (taskName : String) (blockCount bytes : Nat)
  deriving DecidableEq, Repr

/-- A scope for events: its level, its name and its fields. -/
structure Span where
  level : Level
  name : String
  fields : List (String × FieldValue)
  deriving DecidableEq, Repr

/-- An event with the names of the spans around it, outermost first. -/
structure LogEntry where
  span : List String := []
  event : Event
  deriving DecidableEq, Repr

namespace Event

/-- The level of an event. -/
def level : Event → Level
  | taskLoaded .. | validationStarted .. | validationCompleted .. | renderStarted .. | renderCompleted .. => .info
  | taskLoadFailed .. | validationFailed .. | duplicateName .. | blockRenderFailed .. => .error
  | emptyInterface .. => .warn
  | blockRendered .. => .debug

/-- A number in decimal digits. -/
def digits (n : Nat) : String :=
  Nat.repr n

/-- The line for the reader. -/
def message : Event → String
  | taskLoaded path format taskName interfaceCount driverFunctionCount =>
    "Loaded task '" ++ taskName ++ "' from " ++ path ++ " (" ++ format ++ "): " ++ digits interfaceCount
      ++ " interfaces, " ++ digits driverFunctionCount ++ " driver functions"
  | taskLoadFailed path error => "Failed to load task from " ++ path ++ ": " ++ error
  | validationStarted taskName interfaceCount =>
    "Starting validation of task '" ++ taskName ++ "' with " ++ digits interfaceCount ++ " interfaces"
  | validationCompleted taskName warningCount =>
    "Validation of task '" ++ taskName ++ "' completed "
      ++ (if warningCount = 0 then "successfully" else "with " ++ digits warningCount ++ " warnings")
  | validationFailed taskName errorCount =>
    "Validation of task '" ++ taskName ++ "' failed with " ++ digits errorCount ++ " errors"
  | duplicateName kind scope name => "Duplicate " ++ kind ++ " name '" ++ name ++ "' in '" ++ scope ++ "'"
  | emptyInterface interfaceName => "Interface '" ++ interfaceName ++ "' declares no functions and no callbacks"
  | renderStarted taskName interfaceCount backend =>
    "Rendering driver header for task '" ++ taskName ++ "' with " ++ backend ++ " backend: " ++ digits interfaceCount
      ++ " interfaces"
  | blockRendered interfaceName _ functionCount callbackCount bytes =>
    (match interfaceName with
      | some name => "Rendered block for interface '" ++ name ++ "': "
      | none => "Rendered driver block: ")
      ++ digits functionCount ++ " functions, " ++ digits callbackCount ++ " callbacks (" ++ digits bytes ++ " bytes)"
  | blockRenderFailed taskName interfaceName error =>
    "Task '" ++ taskName ++ "': failed to render "
      ++ (match interfaceName with
        | some name => "block for interface '" ++ name ++ "': "
        | none => "driver block: ")
      ++ error.message
  | renderCompleted taskName blockCount bytes =>
    "Rendered driver header for task '" ++ taskName ++ "': " ++ digits blockCount ++ " blocks, " ++ digits bytes
      ++ " bytes"

/-- The name of an interface in a field; empty for the driver. -/
def nameField (interfaceName : Option String) : FieldValue :=
  .text (interfaceName.getD "")

/-- The fields for a machine. -/
def fields : Event → List (String × FieldValue)
  | taskLoaded path format taskName interfaceCount driverFunctionCount =>
    [("path", .text path), ("format", .text format), ("task_name", .text taskName),
     ("interface_count", .number interfaceCount), ("driver_function_count", .number driverFunctionCount)]
  | taskLoadFailed path error => [("path", .text path), ("error", .text error)]
  | validationStarted taskName interfaceCount =>
    [("task_name", .text taskName), ("interface_count", .number interfaceCount)]
  | validationCompleted taskName warningCount =>
    [("task_name", .text taskName), ("warning_count", .number warningCount), ("has_warnings", .flag (0 < warningCount))]
  | validationFailed taskName errorCount => [("task_name", .text taskName), ("error_count", .number errorCount)]
  | duplicateName kind scope name => [("kind", .text kind), ("scope", .text scope), ("name", .text name)]
  | emptyInterface interfaceName => [("interface_name", .text interfaceName)]
  | renderStarted taskName interfaceCount backend =>
    [("task_name", .text taskName), ("interface_count", .number interfaceCount), ("backend", .text backend)]
  | blockRendered interfaceName driver functionCount callbackCount bytes =>
    [("interface_name", nameField interfaceName), ("driver", .flag driver), ("function_count", .number functionCount),
     ("callback_count", .number callbackCount), ("bytes", .number bytes)]
  | blockRenderFailed taskName interfaceName error =>
    [("task_name", .text taskName), ("interface_name", nameField interfaceName), ("error", .text error.message)]
  | renderCompleted taskName blockCount bytes =>
    [("task_name", .text taskName), ("block_count", .number blockCount), ("bytes", .number bytes)]

/-- The span of an event under a label of the caller's choice. The spans of loading and rendering have names of their
own and carry the label in a field; those of validation share one name. -/
def span (label : String) (e : Event) : Span :=
  let named (name : String) (fields : List (String × FieldValue)) : Span :=
    ⟨e.level, name, ("span_name", .text label) :: fields⟩
  let labelled (fields : List (String × FieldValue)) : Span := ⟨e.level, "span_name", ("name", .text label) :: fields⟩
  match e with
  | taskLoaded path _ taskName .. => named "task_loaded" [("path", .text path), ("task_name", .text taskName)]
  | taskLoadFailed path _ => named "task_load_failed" [("path", .text path)]
  | validationStarted .. => labelled e.fields
  | validationCompleted taskName warningCount =>
    labelled [("task_name", .text taskName), ("warning_count", .number warningCount)]
  | validationFailed .. => labelled e.fields
  | duplicateName kind scope _ => labelled [("kind", .text kind), ("scope", .text scope)]
  | emptyInterface .. => labelled e.fields
  | renderStarted .. => named "render" e.fields
  | blockRendered interfaceName driver .. =>
    named "block" [("interface_name", nameField interfaceName), ("driver", .flag driver)]
  | blockRenderFailed taskName interfaceName _ =>
    named "block_failed" [("task_name", .text taskName), ("interface_name", nameField interfaceName)]
  | renderCompleted taskName blockCount _ =>
    named "render_completed" [("task_name", .text taskName), ("block_count", .number blockCount)]

end Event

end TaskHeader
