import TaskHeader.Task

/-!
# Blocks

A header is made of blocks, and a backend decides how a block looks: it turns a request into a text or an error and
may keep a state of its own from one request to the next.
-/

namespace TaskHeader

/-- All that a backend is told about one block. -/
structure BlockRequest where
  functions : List Signature
  callbacks : List Signature
  /-- Set for the block of an interface, unset for the block of the driver. -/
  driver : Bool := false
  /-- The interface that the block is for; the block of the driver has none. -/
  interfaceName : Option String := none
  deriving DecidableEq, Repr

/-- The block of an interface. -/
def Interface.request (i : Interface) : BlockRequest :=
  { functions := i.functions, callbacks := i.callbacks, driver := true, interfaceName := some i.name }

/-- The block of the driver: its functions take the place of callbacks. -/
def Driver.request (d : Driver) : BlockRequest :=
  { functions := [], callbacks := d.functions }

/-- Why a block cannot be rendered. -/
inductive RenderError where
  /-- A name cannot stand in a header. -/
  | invalidIdentifier (context name : String)
  /-- The backend refuses for a reason of its own. -/
  | backend (source reason : String)
  deriving DecidableEq, Repr

/-- The message of an error. -/
def RenderError.message : RenderError → String
  | .invalidIdentifier context name => context ++ " name '" ++ name ++ "' is not a valid C++ identifier"
  | .backend source reason => source ++ " backend failed: " ++ reason

/-- A renderer of blocks with states `σ`. -/
structure Backend (σ : Type) where
  name : String
  render : BlockRequest → σ → Except RenderError String × σ

end TaskHeader
