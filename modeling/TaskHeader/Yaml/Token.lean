import TaskHeader.Yaml.Source

/-!
# YAML tokens

The pieces that a text falls into: the indicators of collections and documents, anchors, aliases and tags, and
scalars with their text already unfolded. The start and the end of a block collection are tokens of their own; they
stand where the indentation grows and shrinks.
-/

namespace TaskHeader.Yaml

/-- What a token is. -/
inductive TokenKind where
  | streamEnd
  | version (major minor : Nat)
  | tagHandle (handle expansion : String)
  | documentStart
  | documentEnd
  | blockSequenceStart
  | blockMappingStart
  | blockEnd
  | flowSequenceStart
  | flowSequenceEnd
  | flowMappingStart
  | flowMappingEnd
  | blockEntry
  | flowEntry
  | key
  | value
  | reference (name : String)
  | anchor (name : String)
  | tag (handle suffix : String)
  | scalar (text : String) (plain : Bool)
  deriving DecidableEq, Repr, Inhabited

/-- A token with the places where it starts and ends. -/
structure Token where
  kind : TokenKind
  start : Mark
  stop : Mark
  deriving Repr, Inhabited

end TaskHeader.Yaml
