import TaskHeader.Yaml.Node
import TaskHeader.Yaml.Tokens

/-!
# YAML documents

The tree that the tokens of a text denote. A node that is left out where one may be left out is an empty plain
scalar; its place is the end of the indicator before it or the start of the token after it. A text holds one document;
an empty text holds an empty one.

An anchor takes the number of names in use when it is set, and an alias stands for the last node that took the number
of its name. So an alias may stand within the node that it stands for.
-/

namespace TaskHeader.Yaml

/-- The reading of a document under way. -/
structure Composer where
  tokens : List Token
  /-- The handles of tags and what they stand for. -/
  handles : List (String × String) := []
  /-- The names of anchors with their numbers. -/
  names : List (String × Nat) := []
  /-- Which of the anchored nodes has taken a number last; the nodes are counted in the order of their starts. -/
  holders : List (Nat × Nat) := []
  started : Nat := 0
  finished : List (Nat × Node) := []
  deriving Repr

/-- A step of the reading; it fails on malformed text. -/
abbrev Compose (α : Type) := StateT Composer Option α

namespace Compose

/-- The next token. -/
def peek : Compose Token := do
  match (← get).tokens with
  | t :: _ => return t
  | [] => failure

/-- What the next token is. -/
def peekKind : Compose TokenKind := do
  return (← peek).kind

/-- Takes the next token. -/
def next : Compose Token := do
  let s ← get
  match s.tokens with
  | t :: rest =>
    set { s with tokens := rest }
    return t
  | [] => failure

/-- Takes the next token, which must be of a kind. -/
def expect (kind : TokenKind) : Compose Token := do
  let t ← next
  if t.kind == kind then return t else failure

/-! ## Properties -/

/-- The full tag for a handle and a suffix. -/
def resolveTag (handle suffix : String) : Compose String := do
  if handle.isEmpty then return suffix
  else
    match (← get).handles.find? (·.1 == handle) with
    | some (_, expansion) => return expansion ++ suffix
    | none => failure

/-- Gives a name to the node that starts here; the answer counts the node. -/
def setAnchor (name : String) : Compose Nat := do
  let s ← get
  let number := s.names.length
  let names := (name, number) :: s.names.filter (·.1 != name)
  let holders := (number, s.started) :: s.holders.filter (·.1 != number)
  set { s with names, holders, started := s.started + 1 }
  return s.started

/-- The number of a name. -/
def numberOf (name : String) : Compose Nat := do
  match (← get).names.find? (·.1 == name) with
  | some (_, number) => return number
  | none => failure

/-- Keeps an anchored node. -/
def keep (count : Option Nat) (n : Node) : Compose Node := do
  match count with
  | some i =>
    modify fun s => { s with finished := (i, n) :: s.finished }
    return n
  | none => return n

/-- What stands before a node: its anchor and its tag, in either order, and the place where they start. -/
structure Properties where
  anchor : Option String := none
  tag : Option String := none
  mark : Mark

/-- Reads an anchor, if there is one. -/
def anchor? : Compose (Option String) := do
  match (← peek).kind with
  | .anchor name =>
    let _ ← next
    return some name
  | _ => return none

/-- Reads a tag, if there is one. -/
def tag? : Compose (Option (String × String)) := do
  match (← peek).kind with
  | .tag handle suffix =>
    let _ ← next
    return some (handle, suffix)
  | _ => return none

/-- Reads the properties of a node. -/
def properties : Compose Properties := do
  let mark := (← peek).start
  let anchor ← anchor?
  let tag ← tag?
  let anchor ← if anchor.isNone && tag.isSome then anchor? else pure anchor
  match tag with
  | some (handle, suffix) => return { anchor, tag := some (← resolveTag handle suffix), mark }
  | none => return { anchor, mark }

/-! ## Nodes -/

mutual

/-- A node. Block collections are allowed where `block` is set, and a block sequence without indentation of its own
where `indentless` is set. -/
def node (block indentless : Bool) : Nat → Compose Node
  | 0 => failure
  | fuel + 1 => do
    if let .reference name := ← peekKind then
      let t ← next
      return .reference t.start (← numberOf name)
    let p ← properties
    let count ← p.anchor.mapM setAnchor
    let mark := p.mark
    match ← peekKind with
    | .scalar text plain =>
      let _ ← next
      keep count (.scalar mark (p.tag.filter (· != "!")) plain text)
    | .flowSequenceStart =>
      let _ ← next
      keep count (.sequence mark p.tag (← flowSequence true fuel))
    | .flowMappingStart =>
      let _ ← next
      keep count (.mapping mark p.tag (← flowMapping true fuel))
    | kind =>
      if indentless && kind == .blockEntry then keep count (.sequence mark p.tag (← indentlessSequence fuel))
      else if block && kind == .blockSequenceStart then
        let _ ← next
        keep count (.sequence mark p.tag (← blockSequence fuel))
      else if block && kind == .blockMappingStart then
        let _ ← next
        keep count (.mapping mark p.tag (← blockMapping fuel))
      else if p.anchor.isSome || p.tag.isSome then keep count (.scalar mark p.tag true "")
      else failure

/-- The items of a block sequence. -/
def blockSequence : Nat → Compose (List Node)
  | 0 => failure
  | fuel + 1 => do
    let t ← next
    match t.kind with
    | .blockEntry =>
      let kind ← peekKind
      let item ← if kind == .blockEntry || kind == .blockEnd then pure (.empty t.stop) else node true false fuel
      return item :: (← blockSequence fuel)
    | .blockEnd => return []
    | _ => failure

/-- The items of a block sequence at the indentation of the mapping around it. -/
def indentlessSequence : Nat → Compose (List Node)
  | 0 => failure
  | fuel + 1 => do
    match ← peekKind with
    | .blockEntry =>
      let t ← next
      let kind ← peekKind
      let item ←
        if kind == .blockEntry || kind == .key || kind == .value || kind == .blockEnd then pure (.empty t.stop)
        else node true false fuel
      return item :: (← indentlessSequence fuel)
    | _ => return []

/-- The key or the value after an indicator that ends at `stop`, inside a block mapping. -/
def blockPart (stop : Mark) : Nat → Compose Node
  | 0 => failure
  | fuel + 1 => do
    let kind ← peekKind
    if kind == .key || kind == .value || kind == .blockEnd then return .empty stop else node true true fuel

/-- The entries of a block mapping. -/
def blockMapping : Nat → Compose (List (Node × Node))
  | 0 => failure
  | fuel + 1 => do
    let t ← next
    match t.kind with
    | .key =>
      let key ← blockPart t.stop fuel
      let v ← peek
      if v.kind == .value then
        let _ ← next
        let value ← blockPart v.stop fuel
        return (key, value) :: (← blockMapping fuel)
      else return (key, .empty v.start) :: (← blockMapping fuel)
    | .blockEnd => return []
    | _ => failure

/-- The items of a flow sequence. -/
def flowSequence (first : Bool) : Nat → Compose (List Node)
  | 0 => failure
  | fuel + 1 => do
    let kind ← peekKind
    if kind == .flowSequenceEnd then
      let _ ← next
      return []
    if !first then
      let _ ← expect .flowEntry
    match ← peekKind with
    | .key =>
      let t ← next
      let item := Node.mapping t.start none [← flowPair fuel]
      return item :: (← flowSequence false fuel)
    | .flowSequenceEnd =>
      let _ ← next
      return []
    | _ =>
      let item ← node false false fuel
      return item :: (← flowSequence false fuel)

/-- A single entry that stands for a mapping inside a flow sequence. Where its key is left out, the next token is
taken for it. -/
def flowPair : Nat → Compose (Node × Node)
  | 0 => failure
  | fuel + 1 => do
    let t ← peek
    let key ←
      if t.kind == .value || t.kind == .flowEntry || t.kind == .flowSequenceEnd then
        let _ ← next
        pure (.empty t.stop)
      else node false false fuel
    if (← peekKind) == .value then
      let _ ← next
      let t ← peek
      if t.kind == .flowEntry || t.kind == .flowSequenceEnd then return (key, .empty t.start)
      else return (key, ← node false false fuel)
    else return (key, .empty (← peek).start)

/-- The entries of a flow mapping. -/
def flowMapping (first : Bool) : Nat → Compose (List (Node × Node))
  | 0 => failure
  | fuel + 1 => do
    let kind ← peekKind
    if kind == .flowMappingEnd then
      let _ ← next
      return []
    if !first then
      let _ ← expect .flowEntry
    match ← peekKind with
    | .key =>
      let _ ← next
      let t ← peek
      let key ←
        if t.kind == .value || t.kind == .flowEntry || t.kind == .flowMappingEnd then pure (.empty t.start)
        else node false false fuel
      let value ←
        if (← peekKind) == .value then do
          let _ ← next
          let t ← peek
          if t.kind == .flowEntry || t.kind == .flowMappingEnd then pure (.empty t.start) else node false false fuel
        else pure (.empty (← peek).start)
      return (key, value) :: (← flowMapping false fuel)
    | .flowMappingEnd =>
      let _ ← next
      return []
    | _ =>
      let key ← node false false fuel
      let value := Node.empty (← peek).start
      return (key, value) :: (← flowMapping false fuel)

end

/-! ## Documents -/

/-- Adds a handle; setting one twice is an error. -/
def setHandle (handle expansion : String) : Compose Unit := do
  let s ← get
  if s.handles.any (·.1 == handle) then failure
  set { s with handles := s.handles ++ [(handle, expansion)] }

/-- Reads the directives of a document: one version at most, which must be 1.1 or 1.2. -/
def directives : Nat → Bool → Compose Unit
  | 0, _ => failure
  | fuel + 1, versioned => do
    match ← peekKind with
    | .version major minor =>
      if versioned || major != 1 || (minor != 1 && minor != 2) then failure
      let _ ← next
      directives fuel true
    | .tagHandle handle expansion =>
      setHandle handle expansion
      let _ ← next
      directives fuel versioned
    | _ => return ()

/-- Adds the handles that need no directive. -/
def defaultHandles : Compose Unit :=
  modify fun s => { s with handles := s.handles ++ [("!", "!"), ("!!", "tag:yaml.org,2002:")] }

/-- Skips marks for the end of a document. -/
def skipEnds : Nat → Compose Unit
  | 0 => return ()
  | fuel + 1 => do
    if (← peekKind) == .documentEnd then
      let _ ← next
      skipEnds fuel

/-- The only document of a text. -/
def document : Compose Document := do
  let fuel := 4 * (← get).tokens.length + 4
  match ← peek with
  | ⟨.streamEnd, start, _⟩ => return { root := .empty start }
  | t =>
    let explicit :=
      match t.kind with
      | .version .. | .tagHandle .. | .documentStart => true
      | _ => false
    let root ←
      if explicit then do
        directives fuel false
        defaultHandles
        let _ ← expect .documentStart
        let t ← peek
        match t.kind with
        | .version .. | .tagHandle .. | .documentStart | .documentEnd | .streamEnd => pure (.empty t.start)
        | _ => node true false fuel
      else do
        defaultHandles
        node true false fuel
    skipEnds fuel
    let _ ← expect .streamEnd
    let s ← get
    let anchored := s.holders.filterMap fun h => (s.finished.find? (·.1 == h.2)).map fun n => (h.1, n.2)
    return { root, anchored }

end Compose

/-- Reads a text as a document; none if it is malformed or holds more than one document. -/
def Document.parse? (s : String) : Option Document :=
  match tokens? s with
  | none => none
  | some tokens => (Compose.document.run { tokens }).map (·.1)

end TaskHeader.Yaml
