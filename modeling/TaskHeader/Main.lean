import TaskHeader.Command.Run

/-!
# The program

The command line with the files of the machine. Everything that is decided is decided elsewhere; here arguments come
in, files are read and written, and texts go out.
-/

namespace TaskHeader.Program

/-- The error of the files for an error of the system. -/
def fileError (e : IO.Error) : FileError :=
  match e with
  | .noFileOrDirectory .. => .notFound
  | .alreadyExists .. => .alreadyExists
  | .inappropriateType _ 20 _ => .notDirectory
  | .inappropriateType _ 21 _ => .isDirectory
  | _ => .other (toString e)

/-- Does something to files and gives back its error. -/
def attempt {α : Type} (action : IO α) : IO (Except FileError α) := do
  match ← action.toBaseIO with
  | .ok a => return .ok a
  | .error e => return .error (fileError e)

/-- The text of a file. -/
def readText (path : String) : IO (Except FileError String) := do
  match ← attempt (IO.FS.readBinFile path) with
  | .error e => return .error e
  | .ok content =>
    match String.fromUTF8? content with
    | some text => return .ok text
    | none => return .error .notText

/-- The files of the machine. -/
def files : Files IO where
  read := readText
  makeDirectories path := attempt (IO.FS.createDirAll path)
  write path content := attempt (IO.FS.writeFile path content)

/-- What is shown to whoever asks for help. -/
def usage : String :=
  "Render C++ driver headers from task descriptors\n\n"
    ++ "Usage:\n"
    ++ "  render [--out-dir DIR] TASK...   render the driver header of each task\n"
    ++ "  check TASK...                    load and validate each task without rendering\n"
    ++ "  inspect TASK                     print the loaded task as JSON\n"

/-- Writes out a piece of output. -/
def put : Output → IO Unit
  | .result text => do IO.print text
  | .error text => do IO.eprint text

end TaskHeader.Program

open TaskHeader in
/-- Runs the program. -/
def main (args : List String) : IO UInt32 := do
  match CommandLine.read args with
  | .help =>
    IO.print Program.usage
    return 0
  | .misuse =>
    IO.eprint Program.usage
    return 2
  | .command c =>
    let outcome ← Command.run Program.files c
    outcome.outputs.forM Program.put
    return outcome.exit.toUInt32
