import TaskHeader.Block

/-!
# Recorded blocks

A backend that keeps every request it is given and answers with a marker of one line, so that the blocks of a header
and their order can be looked at apart from C++. It can be told to refuse one interface.
-/

namespace TaskHeader

/-- The requests answered so far, and the interface to refuse. -/
structure Recorder where
  failOn : Option String := none
  blocks : List BlockRequest := []
  deriving DecidableEq, Repr

namespace Recorder

/-- The names of the functions of a list, in order. -/
def names (fs : List Signature) : List String :=
  fs.map (·.name)

/-- The line that stands for a block. -/
def marker (r : BlockRequest) : String :=
  "<block driver=" ++ (if r.driver then "true" else "false") ++ " name=" ++ r.interfaceName.getD "-" ++ " functions=["
    ++ ",".intercalate (names r.functions) ++ "] callbacks=[" ++ ",".intercalate (names r.callbacks) ++ "]>\n"

/-- Whether the request is for the interface to refuse. The block of the driver is never refused. -/
def refuses (failOn : Option String) (r : BlockRequest) : Bool :=
  failOn.isSome && failOn == r.interfaceName

/-- Answers a request and keeps it, or refuses it and keeps nothing. -/
def render (r : BlockRequest) (s : Recorder) : Except RenderError String × Recorder :=
  if refuses s.failOn r then
    (.error (.backend "recording" ("refusing to render '" ++ r.interfaceName.getD "-" ++ "'")), s)
  else (.ok (marker r), { s with blocks := s.blocks ++ [r] })

/-- The recording backend. -/
def backend : Backend Recorder :=
  { name := "recording", render }

end Recorder

end TaskHeader
