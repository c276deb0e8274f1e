import TaskHeader.Path

/-!
# Files

What the program does with files: it reads texts, makes directories and writes texts. `Files` is this interface for
any place where files may be. `FileSystem` is such a place: a tree of directories and files without links, in which a
path leads from the working directory, or from the root if it starts with a slash.
-/

namespace TaskHeader

/-- Why an operation on files fails. -/
inductive FileError where
  | notFound
  | alreadyExists
  | notDirectory
  | isDirectory
  | nameTooLong
  /-- The bytes of a file are no text. -/
  | notText
  /-- A path has a character that no name can have. -/
  | invalidName
  /-- A reason of the place where the files are. -/
  | other (reason : String)
  deriving DecidableEq, Repr

/-- The message of an error. -/
def FileError.message : FileError → String
  | notFound => "No such file or directory (os error 2)"
  | alreadyExists => "File exists (os error 17)"
  | notDirectory => "Not a directory (os error 20)"
  | isDirectory => "Is a directory (os error 21)"
  | nameTooLong => "File name too long (os error 36)"
  | notText => "stream did not contain valid UTF-8"
  | invalidName => "file name contained an unexpected NUL byte"
  | other reason => reason

/-- The operations on files; paths are texts. -/
structure Files (m : Type → Type) where
  /-- The text of a file. -/
  read : String → m (Except FileError String)
  /-- Makes a directory and all that is missing on the way to it. -/
  makeDirectories : String → m (Except FileError Unit)
  /-- Makes a file with a text, in place of the file that is there. -/
  write : String → String → m (Except FileError Unit)

/-- A place in the tree: the names on the way from the root. -/
abbrev Location := List String

/-- Contents are compared as arrays of bytes. -/
instance contentDecidableEq : DecidableEq ByteArray := ByteArray.decEq

/-- What is at a place. -/
inductive FileEntry where
  | directory
  | file (content : ByteArray)
  deriving DecidableEq

/-- A tree of directories and files. The root is a directory and needs no entry. -/
structure FileSystem where
  workingDirectory : Location := []
  entries : List (Location × FileEntry) := []

namespace FileSystem

/-- What is at a place. -/
def get? (fs : FileSystem) (l : Location) : Option FileEntry :=
  if l = [] then some .directory else (fs.entries.find? (·.1 == l)).map (·.2)

/-- Puts something at a place. -/
def set (fs : FileSystem) (l : Location) (e : FileEntry) : FileSystem :=
  { fs with entries := (l, e) :: fs.entries.filter (·.1 != l) }

/-- The greatest number of bytes in a name. -/
def nameLimit : Nat := 255

/-- The number of bytes that no path reaches. -/
def pathLimit : Nat := 4096

/-- The place where a path starts; an error if no path is like it. -/
def start (fs : FileSystem) (path : String) : Except FileError Location :=
  if path.toList.contains '\x00' then .error .invalidName
  else if path == "" then .error .notFound
  else if pathLimit ≤ path.utf8ByteSize then .error .nameTooLong
  else .ok (if Path.isAbsolute path then [] else fs.workingDirectory)

/-- The place that a name leads to from a directory. -/
def step (fs : FileSystem) (here : Location) (name : String) : Except FileError Location :=
  match fs.get? here with
  | some .directory =>
    if Path.isIdle name then .ok here
    else if name == ".." then .ok here.dropLast
    else if nameLimit < name.utf8ByteSize then .error .nameTooLong
    else if (fs.get? (here ++ [name])).isSome then .ok (here ++ [name])
    else .error .notFound
  | some (.file _) => .error .notDirectory
  | none => .error .notFound

/-- The place that a path leads to. -/
def locate (fs : FileSystem) (path : String) : Except FileError Location := do
  (Path.parts path).foldlM fs.step (← fs.start path)

/-- The text of a file. -/
def read (path : String) (fs : FileSystem) : Except FileError String := do
  let l ← fs.locate path
  match fs.get? l with
  | some (.file content) =>
    match String.fromUTF8? content with
    | some text => .ok text
    | none => .error .notText
  | some .directory => .error .isDirectory
  | none => .error .notFound

/-- Makes the directories that names lead to from a place. What was made before an error stays. Nothing can be made in
a directory that is gone. -/
def makeFrom : Location → List String → FileSystem → Except FileError Unit × FileSystem
  | _, [], fs => (.ok (), fs)
  | here, name :: rest, fs =>
    match fs.step here name with
    | .ok next =>
      match fs.get? next with
      | some (.file _) => (.error (if rest.isEmpty then .alreadyExists else .notDirectory), fs)
      | _ => makeFrom next rest fs
    | .error .notFound =>
      if fs.get? here = some .directory then makeFrom (here ++ [name]) rest (fs.set (here ++ [name]) .directory)
      else (.error .notFound, fs)
    | .error e => (.error e, fs)

/-- Makes a directory and all that is missing on the way to it. -/
def makeDirectories (path : String) (fs : FileSystem) : Except FileError Unit × FileSystem :=
  match fs.start path with
  | .ok here => makeFrom here (Path.parts path) fs
  | .error e => (.error e, fs)

/-- The place that a path leads to, where a file is or may be made. Nothing can be made in a directory that is gone. -/
def target (fs : FileSystem) (path : String) : Except FileError Location := do
  let here ← fs.start path
  let names := Path.parts path
  let parent ← names.dropLast.foldlM fs.step here
  let name := names.getLast?.getD ""
  match fs.step parent name with
  | .ok l => if fs.get? l = some .directory then .error .isDirectory else .ok l
  | .error .notFound => if fs.get? parent = some .directory then .ok (parent ++ [name]) else .error .notFound
  | .error e => .error e

/-- Makes a file with some bytes, in place of the file that is there. -/
def writeBytes (path : String) (content : ByteArray) (fs : FileSystem) : Except FileError Unit × FileSystem :=
  match fs.target path with
  | .ok l => (.ok (), fs.set l (.file content))
  | .error e => (.error e, fs)

/-- Makes a file with a text, in place of the file that is there. -/
def write (path content : String) (fs : FileSystem) : Except FileError Unit × FileSystem :=
  fs.writeBytes path content.toUTF8

/-- The operations on a tree of files. -/
def files : Files (StateM FileSystem) where
  read path := fun fs => (fs.read path, fs)
  makeDirectories path := fun fs => fs.makeDirectories path
  write path content := fun fs => fs.write path content

end FileSystem

end TaskHeader
