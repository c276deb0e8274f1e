import TaskHeader.Block
import TaskHeader.Identifier

/-!
# Blocks in C++

A block of declarations. An interface has a namespace of its own with its declarations indented; the driver has
neither. The functions of a driver-side block are `extern`; callbacks never are. A name that is no usable identifier
is refused, in the order in which the names stand in the block: the interface, then for each function its own name
and its parameters.
-/

namespace TaskHeader.Cpp

/-- The C++ type of a scalar. -/
def scalar : ScalarType → String
  | .int => "int"
  | .int64 => "int64_t"
  | .bool => "bool"

/-- The C++ type of what a function returns. -/
def returnType : Option ScalarType → String
  | some t => scalar t
  | none => "void"

/-- Refuses a name that is no usable identifier. -/
def checkName (context name : String) : Except RenderError Unit :=
  if Identifier.usable name then .ok () else .error (.invalidIdentifier context name)

/-- A parameter: one star for each dimension. -/
def parameter (p : Parameter) : String :=
  scalar p.type.scalar ++ " " ++ String.ofList (List.replicate p.type.dimensions.val '*') ++ p.name

/-- Parameters with commas between them. -/
def parameters : List Parameter → String
  | [] => ""
  | [p] => parameter p
  | p :: rest => parameter p ++ ", " ++ parameters rest

/-- A function without the semicolon. -/
def declaration (f : Signature) : String :=
  returnType f.returns ++ " " ++ f.name ++ "(" ++ parameters f.parameters ++ ")"

/-- Checks each name of a list of parameters. -/
def checkParameters : List Parameter → Except RenderError Unit
  | [] => .ok ()
  | p :: rest =>
    match checkName "parameter" p.name with
    | .ok () => checkParameters rest
    | .error e => .error e

/-- A function without the semicolon, if all its names are usable. -/
def checkedDeclaration (f : Signature) : Except RenderError String :=
  match checkName "function" f.name with
  | .error e => .error e
  | .ok () =>
    match checkParameters f.parameters with
    | .error e => .error e
    | .ok () => .ok (declaration f)

/-- One line for each function, between `before` and a semicolon. -/
def lines (before : String) : List Signature → Except RenderError String
  | [] => .ok ""
  | f :: rest =>
    match checkedDeclaration f with
    | .error e => .error e
    | .ok d =>
      match lines before rest with
      | .error e => .error e
      | .ok text => .ok (before ++ d ++ ";\n" ++ text)

/-- A titled list of functions; nothing at all when there are none. -/
def titled (indent title linkage : String) (fs : List Signature) : Except RenderError String :=
  match fs with
  | [] => .ok ""
  | fs =>
    match lines (indent ++ linkage) fs with
    | .error e => .error e
    | .ok text => .ok (indent ++ "// " ++ title ++ "\n" ++ text)

/-- The lines before the declarations. -/
def opening (interfaceName : Option String) (driver : Bool) : Except RenderError String :=
  match interfaceName with
  | some name =>
    match checkName "interface" name with
    | .error e => .error e
    | .ok () =>
      .ok ("// protocol: interface " ++ name ++ (if driver then " (driver)" else "") ++ "\n" ++ "namespace " ++ name
        ++ " \x7b\n")
  | none => .ok (if driver then "// protocol: driver (driver)\n" else "// protocol: driver\n")

/-- The line after the declarations. -/
def closing : Option String → String
  | some name => "\x7d // namespace " ++ name ++ "\n"
  | none => ""

@[simp]
theorem closing_some (name : String) : closing (some name) = "\x7d // namespace " ++ name ++ "\n" := rfl

/-- The text of a block. -/
def block (r : BlockRequest) : Except RenderError String :=
  let indent := if r.interfaceName.isSome then "    " else ""
  match opening r.interfaceName r.driver with
  | .error e => .error e
  | .ok start =>
    match titled indent "functions" (if r.driver then "extern " else "") r.functions with
    | .error e => .error e
    | .ok functions =>
      match titled indent "callbacks" "" r.callbacks with
      | .error e => .error e
      | .ok callbacks => .ok (start ++ functions ++ callbacks ++ closing r.interfaceName)

/-- The backend for C++; it keeps no state. -/
def backend : Backend Unit :=
  { name := "cpp", render := fun r s => (block r, s) }

end TaskHeader.Cpp
