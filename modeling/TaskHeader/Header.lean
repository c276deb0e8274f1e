import TaskHeader.Block.Cpp
import TaskHeader.Event

/-!
# Headers

The header of a task: the support declarations, a block for each interface in the order of declaration, and the block
of the driver, with an empty line between blocks. The blocks come from a backend, whose state is passed from one
request to the next; the first request that fails ends the work, and its error is the outcome.
-/

namespace TaskHeader

/-- What a backend did with a list of requests. -/
structure Rendering (σ α : Type) where
  outcome : Except RenderError α
  state : σ
  events : List Event

namespace Header

/-- The requests for the blocks of a task, in the order of the header. -/
def requests (t : Task) : List BlockRequest :=
  t.interfaces.map (·.request) ++ [t.driver.request]

/-- The event for a block that was rendered. -/
def rendered (r : BlockRequest) (text : String) : Event :=
  .blockRendered r.interfaceName r.driver r.functions.length r.callbacks.length text.utf8ByteSize

/-- Has the requests rendered one after the other, up to the first that fails. -/
def renderBlocks {σ : Type} (b : Backend σ) (taskName : String) : List BlockRequest → σ → Rendering σ (List String)
  | [], s => ⟨.ok [], s, []⟩
  | r :: rest, s =>
    match b.render r s with
    | (.error e, s) => ⟨.error e, s, [.blockRenderFailed taskName r.interfaceName e]⟩
    | (.ok text, s) =>
      let more := renderBlocks b taskName rest s
      ⟨more.outcome.map (text :: ·), more.state, rendered r text :: more.events⟩

/-- The lines before the first block. -/
def preamble : String :=
  "#include \"support_proto.h\"\n\n"

/-- The header with the given blocks. -/
def ofBlocks (blocks : List String) : String :=
  preamble ++ "\n".intercalate blocks

/-- An empty line follows each block but the last. -/
theorem ofBlocks_append (blocks : List String) (last : String) :
    ofBlocks (blocks ++ [last]) = preamble ++ String.join (blocks.map (· ++ "\n")) ++ last := by
  have hjoin : "\n".intercalate (blocks ++ [last]) = String.join (blocks.map (· ++ "\n")) ++ last := by
    induction blocks with
    | nil => simp
    | cons b bs ih =>
      rw [List.cons_append, String.intercalate_cons_of_ne_nil (by simp), ih]
      simp [String.append_assoc]
  rw [ofBlocks, hjoin, String.append_assoc]

/-- Renders the header of a task with a backend in a state. -/
def render {σ : Type} (b : Backend σ) (t : Task) (s : σ) : Rendering σ String :=
  let started : Event := .renderStarted t.name t.interfaces.length b.name
  let blocks := renderBlocks b t.name (requests t) s
  match blocks.outcome with
  | .error e => ⟨.error e, blocks.state, started :: blocks.events⟩
  | .ok texts =>
    let text := ofBlocks texts
    let completed : Event := .renderCompleted t.name (t.interfaces.length + 1) text.utf8ByteSize
    ⟨.ok text, blocks.state, started :: blocks.events ++ [completed]⟩

@[simp]
theorem render_state {σ : Type} (b : Backend σ) (t : Task) (s : σ) :
    (render b t s).state = (renderBlocks b t.name (requests t) s).state := by
  simp only [render]
  split <;> rfl

@[simp]
theorem render_outcome {σ : Type} (b : Backend σ) (t : Task) (s : σ) :
    (render b t s).outcome = (renderBlocks b t.name (requests t) s).outcome.map ofBlocks := by
  simp only [render]
  split <;> next h => rw [h]; rfl

/-- The entries that rendering leaves in the log: all lie within one span. -/
def log {σ α : Type} (r : Rendering σ α) : List LogEntry :=
  r.events.map fun e => { span := ["render"], event := e }

/-- The C++ header of a task. -/
def cpp (t : Task) : Except RenderError String :=
  (render Cpp.backend t ()).outcome

end Header

end TaskHeader
