/-!
# Commands

The command line: `render` with tasks and perhaps a directory for the headers, `check` with tasks, and `inspect` with
one task. Arguments are looked at from left to right, and the first that asks for help or cannot stand decides.
-/

namespace TaskHeader

/-- What the program is asked to do. -/
inductive Command where
  | render (tasks : List String) (outDir : Option String)
  | check (tasks : List String)
  | inspect (task : String)
  deriving DecidableEq, Repr

/-- What a command line says. -/
inductive CommandLine where
  | command (c : Command)
  | help
  | misuse
  deriving DecidableEq, Repr

namespace CommandLine

/-- The arguments of a command so far. -/
structure Arguments where
  tasks : List String := []
  outDir : Option String := none
  deriving DecidableEq, Repr

/-- Whether an argument is an option; a lone dash is none. -/
def isOption (argument : String) : Bool :=
  match argument.toList with
  | '-' :: _ :: _ => true
  | _ => false

/-- The option for the directory of headers. -/
def outDirOption : String := "--out-dir"

/-- The value of the option for the directory within one argument. -/
def attached? (argument : String) : Option String :=
  let start := (outDirOption ++ "=").toList
  if argument.toList.take start.length == start then some (String.ofList (argument.toList.drop start.length)) else none

/-- Whether an argument asks for help. -/
def asksForHelp (argument : String) : Bool :=
  argument == "--help" || argument.toList.take 2 == ['-', 'h']

/-- One more task; none if its path is empty or it is one too many. -/
def Arguments.addTask (most : Option Nat) (a : Arguments) (task : String) : Option Arguments :=
  if task == "" || most == some a.tasks.length then none else some { a with tasks := a.tasks ++ [task] }

/-- The directory for headers, given once. -/
def Arguments.setOutDir (a : Arguments) (directory : String) : Option Arguments :=
  if directory == "" || a.outDir.isSome then none else some { a with outDir := some directory }

/-- Goes on with arguments if there are any. -/
def orMisuse (a : Option Arguments) (next : Arguments → CommandLine) : CommandLine :=
  match a with
  | some a => next a
  | none => .misuse

/-- Reads the arguments of a command. `written` says whether it takes a directory, `most` how many tasks it takes. -/
def readArguments (written : Bool) (most : Option Nat) (build : Arguments → CommandLine) :
    Arguments → List String → CommandLine
  | a, [] => build a
  | a, "--" :: rest => orMisuse (rest.foldlM (·.addTask most) a) build
  | a, argument :: rest =>
    if asksForHelp argument then .help
    else if written && argument == outDirOption then
      match rest with
      | value :: rest =>
        if isOption value then .misuse
        else
          match a.setOutDir value with
          | some a => readArguments written most build a rest
          | none => .misuse
      | [] => .misuse
    else if written && (attached? argument).isSome then
      match (attached? argument).bind a.setOutDir with
      | some a => readArguments written most build a rest
      | none => .misuse
    else if isOption argument then .misuse
    else
      match a.addTask most argument with
      | some a => readArguments written most build a rest
      | none => .misuse

/-- A command that needs at least one task. -/
def withTasks (build : Arguments → Command) (a : Arguments) : CommandLine :=
  if a.tasks.isEmpty then .misuse else .command (build a)

/-- Reads a command line. -/
def read : List String → CommandLine
  | [] => .misuse
  | first :: rest =>
    if first == "render" then readArguments true none (withTasks fun a => .render a.tasks a.outDir) {} rest
    else if first == "check" then readArguments false none (withTasks fun a => .check a.tasks) {} rest
    else if first == "inspect" then
      readArguments false (some 1) (withTasks fun a => .inspect (a.tasks.head?.getD "")) {} rest
    else if first == "help" then
      match rest with
      | [] => .help
      | [topic] => if ["render", "check", "inspect", "help"].contains topic then .help else .misuse
      | _ => .misuse
    else if asksForHelp first then .help
    else .misuse

end CommandLine

end TaskHeader
