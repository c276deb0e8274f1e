import TaskHeader.Descriptor.Toml
import TaskHeader.Descriptor.Yaml
import TaskHeader.Path

/-!
# Descriptors

A descriptor is a text that describes a task, in one of two formats. The extension of a file says which. A text is
first read as a document of its format, then the document as a task; each step fails in its own way.
-/

namespace TaskHeader

/-- The formats of descriptors. -/
inductive Format where
  | yaml
  | toml
  deriving DecidableEq, Repr

namespace Format

/-- The word for a format. -/
def name : Format → String
  | yaml => "yaml"
  | toml => "toml"

/-- The format of a file by the extension of its path, in letters of either case. -/
def ofPath? (path : String) : Option Format :=
  match Path.extension? path with
  | none => none
  | some extension =>
    let word := String.ofList (extension.toList.map Char.toLower)
    if word == "yaml" || word == "yml" then some yaml else if word == "toml" then some toml else none

end Format

/-- Why a text is no descriptor. -/
inductive DescriptorError where
  /-- The text is no document of its format. -/
  | malformed (format : Format)
  /-- The document is no task. -/
  | unfit (format : Format) (reason : String)
  deriving DecidableEq, Repr

/-- The message of an error. -/
def DescriptorError.message : DescriptorError → String
  | malformed format => "failed to parse " ++ format.name ++ " task descriptor: malformed document"
  | unfit format reason => "failed to parse " ++ format.name ++ " task descriptor: " ++ reason

/-- Reads a descriptor. -/
def Task.ofDescriptor (format : Format) (content : String) : Except DescriptorError Task :=
  match format with
  | .yaml =>
    match Yaml.Document.parse? content with
    | none => .error (.malformed .yaml)
    | some d => (Task.ofYaml d).mapError fun f => .unfit .yaml (Descriptor.FromYaml.message f)
  | .toml =>
    match Toml.document? content with
    | none => .error (.malformed .toml)
    | some d => (Task.ofToml d).mapError fun f => .unfit .toml (Descriptor.FromToml.message content f)

end TaskHeader
