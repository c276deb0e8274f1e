/-!
# Paths

A path is a text whose parts stand between slashes. Empty parts and single dots lead nowhere; two dots lead back. A
path that starts with a slash leads from the root, wherever it is followed from.
-/

namespace TaskHeader.Path

/-- The parts of a text between slashes; there is one more than there are slashes. -/
def split : List Char → List (List Char)
  | [] => [[]]
  | c :: cs =>
    if c = '/' then [] :: split cs
    else
      match split cs with
      | [] => [[c]]
      | part :: rest => (c :: part) :: rest

/-- The parts of a path. -/
def parts (path : String) : List String :=
  (split path.toList).map String.ofList

/-- Whether a path leads from the root. -/
def isAbsolute (path : String) : Bool :=
  path.toList.head? == some '/'

/-- Whether a part leads nowhere. -/
def isIdle (part : String) : Bool :=
  part == "" || part == "."

/-- The last name of a path; none if it leads back at its end or has no name. -/
def fileName? (path : String) : Option String :=
  ((parts path).filter (!isIdle ·)).getLast?.filter (· != "..")

/-- What follows the last dot of the last name; none if nothing stands before that dot. -/
def extension? (path : String) : Option String :=
  match fileName? path with
  | none => none
  | some name =>
    let reversed := name.toList.reverse
    match reversed.dropWhile (· != '.') with
    | _ :: _ :: _ => some (String.ofList (reversed.takeWhile (· != '.')).reverse)
    | _ => none

/-- A path followed from a directory: below the directory, or in its place if the path leads from the root. -/
def join (directory path : String) : String :=
  if isAbsolute path then path
  else
    match directory.toList.getLast? with
    | none => path
    | some '/' => directory ++ path
    | some _ => directory ++ "/" ++ path

end TaskHeader.Path
