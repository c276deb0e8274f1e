import TaskHeader.Batch
import TaskHeader.Command
import TaskHeader.Header
import TaskHeader.Json.Printer
import TaskHeader.Loader
import TaskHeader.Task.Json

/-!
# Running commands

Every command loads and validates its tasks first, each as a job of its own, and then reports in the order of the
command line. A task that fails is reported and does not keep the others from being done; the program fails if one
task did.
-/

namespace TaskHeader

/-- Why a task of a command is not done. -/
inductive Failure where
  | load (path : String) (error : LoadError)
  | render (name : String) (error : RenderError)
  | conflict (c : Batch.Conflict)
  | makeDirectory (path : String) (error : FileError)
  | write (path : String) (error : FileError)
  /-- Its job did not end. -/
  | unfinished
  deriving DecidableEq, Repr

/-- The name of the file with a header. -/
def headerFile : String := "driver.h"

/-- The message of a failure. An error of the files is told once by the error of loading and once by itself. -/
def Failure.message : Failure → String
  | load path error =>
    "failed to load " ++ path ++ ": " ++ error.message
      ++ match error with
        | .unreadable _ cause => ": " ++ cause.message
        | _ => ""
  | render name error => "failed to render task '" ++ name ++ "': " ++ error.message
  | conflict c =>
    "task name '" ++ c.name ++ "' is also used by " ++ ", ".intercalate c.others ++ "; refusing to write " ++ c.name
      ++ "/" ++ headerFile
  | makeDirectory path error => "failed to create " ++ path ++ ": " ++ error.message
  | write path error => "failed to write " ++ path ++ ": " ++ error.message
  | unfinished => "worker did not complete"

/-- A piece of output: for the reader of results or for the reader of errors. -/
inductive Output where
  | result (text : String)
  | error (text : String)
  deriving DecidableEq, Repr

/-- What a command leaves behind besides files. -/
structure Outcome where
  outputs : List Output
  exit : Nat
  deriving DecidableEq, Repr

namespace Outcome

/-- All text for the reader of results. -/
def results (o : Outcome) : String :=
  String.join (o.outputs.map fun
    | .result text => text
    | .error _ => "")

/-- All text for the reader of errors. -/
def errors (o : Outcome) : String :=
  String.join (o.outputs.map fun
    | .result _ => ""
    | .error text => text)

end Outcome

namespace Command

/-- A line about an error. -/
def errorLine (text : String) : Output :=
  .error ("❌ " ++ text ++ "\n")

/-- What is told about one task: its output, or why it failed. -/
def report (path : String) : Except Failure Output → Output
  | .ok o => o
  | .error f => errorLine (path ++ ": " ++ f.message)

/-- The outcome of a batch. -/
def finish (reports : List (String × Except Failure Output)) : Outcome :=
  let failures := reports.countP fun r => r.2 matches .error _
  let outputs := reports.map fun r => report r.1 r.2
  if failures = 0 then { outputs, exit := 0 }
  else { outputs := outputs ++ [errorLine (toString failures ++ " task(s) failed")], exit := 1 }

section Jobs

variable {m : Type → Type} [Monad m] (files : Files m)

/-- Loads and validates a task. -/
def loadJob (path : String) : m (Except Failure Task) := do
  return (← Loader.loadValid files path).outcome.mapError (.load path)

/-- Loads and validates a task and renders its header. -/
def renderJob (path : String) : m (Except Failure (Task × String)) := do
  match ← loadJob files path with
  | .error f => return .error f
  | .ok t => return ((Header.cpp t).map (t, ·)).mapError (.render t.name)

/-- Writes the header of a task below a directory and gives back the path of the file. -/
def writeHeader (directory : String) (t : Task) (header : String) : m (Except Failure String) := do
  let home := Path.join directory t.name
  match ← files.makeDirectories home with
  | .error e => return .error (.makeDirectory home e)
  | .ok () =>
    let target := Path.join home headerFile
    match ← files.write target header with
    | .error e => return .error (.write target e)
    | .ok () => return .ok target

/-- A result that must have come. -/
def finished {α : Type} (r : Option (Except Failure α)) : Except Failure α :=
  r.getD (.error .unfinished)

/-- Delivers a header: to the reader, or to a file if there is a directory and no conflict of names. -/
def deliver (outDir : Option String) (path : String) (result : Except Failure (Task × String))
    (conflict : Option Batch.Conflict) : m (Except Failure Output) := do
  match result, conflict, outDir with
  | .error f, _, _ => return .error f
  | .ok _, some c, _ => return .error (.conflict c)
  | .ok (_, header), none, none => return .ok (.result header)
  | .ok (t, header), none, some directory =>
    return (← writeHeader files directory t header).map fun target =>
      .result ("✅ " ++ path ++ " → " ++ target ++ "\n")

/-- The conflicts of a batch; without a directory nothing is written and names may be shared. -/
def conflictsOf (outDir : Option String) (results : List (String × Except Failure (Task × String))) :
    List (Option Batch.Conflict) :=
  match outDir with
  | some _ => Batch.conflicts (results.map fun r => (r.1, r.2.toOption.map (·.1.name)))
  | none => results.map fun _ => none

/-- Renders the header of each task. The jobs end in the given order. -/
def runRender (order : List Nat) (tasks : List String) (outDir : Option String) : m Outcome := do
  let results := (← Batch.forEach order tasks (renderJob files)).map fun r => (r.1, finished r.2)
  let reports ← (results.zip (conflictsOf outDir results)).mapM fun r => do
    return (r.1.1, ← deliver files outDir r.1.1 r.1.2 r.2)
  return finish reports

/-- The lines about a valid task: one for the task and one for each warning. -/
def validLines (path : String) (t : Task) : String :=
  "✅ " ++ path ++ ": task '" ++ t.name ++ "' is valid (" ++ toString t.interfaces.length ++ " interfaces, "
    ++ toString t.warnings.length ++ " warnings)\n"
    ++ String.join (t.warnings.map fun w => "   ⚠️  " ++ w.message ++ "\n")

/-- Loads and validates each task. The jobs end in the given order. -/
def runCheck (order : List Nat) (tasks : List String) : m Outcome := do
  let results ← Batch.forEach order tasks (loadJob files)
  return finish (results.map fun r => (r.1, (finished r.2).map fun t => .result (validLines r.1 t)))

/-- Shows a task as JSON. -/
def runInspect (task : String) : m Outcome := do
  match ← loadJob files task with
  | .ok t => return { outputs := [.result (t.toJson.pretty ++ "\n")], exit := 0 }
  | .error f => return { outputs := [errorLine f.message], exit := 1 }

/-- Runs a command whose jobs end in the given order. -/
def runInOrder (order : List Nat) : Command → m Outcome
  | render tasks outDir => runRender files order tasks outDir
  | check tasks => runCheck files order tasks
  | inspect task => runInspect files task

/-- The number of tasks of a command. -/
def taskCount : Command → Nat
  | render tasks _ | check tasks => tasks.length
  | inspect _ => 1

/-- Runs a command. -/
def run (c : Command) : m Outcome :=
  runInOrder files (List.range c.taskCount) c

end Jobs

end Command

end TaskHeader
