import TaskHeader.Header

/-!
# Headers as lines

A C++ block is a list of lines, each of one of seven forms (`Line`), and a header is the support line, the blocks, and
blank lines between them.

* `BlockRequest.lines` and `Task.lines` are these lists, with no regard to whether the names in them are usable.
* A block, and with it a header, is the text of its lines unless a name is refused, and the name refused is the first
  unusable one in the order of `BlockRequest.mentions` (`Cpp.block_eq`, `Header.cpp_eq`). So a header that is rendered
  is the text of its lines and mentions usable names only (`Header.cpp_eq_ok_iff`).
-/

namespace TaskHeader

/-! ## Lines -/

/-- A line of a header, without its line feed. -/
inductive Line where
  | support
  | blank
  | title (interfaceName : Option String) (driver : Bool)
  | opening (name : String)
  | heading (indented callbacks : Bool)
  | declaration (indented linked : Bool) (f : Signature)
  | closing (name : String)
  deriving DecidableEq, Repr

namespace Line

/-- What stands before the declarations and their headings. -/
def indent (indented : Bool) : String :=
  if indented then "    " else ""

/-- What a block is for. -/
def subject : Option String → String
  | some name => "interface " ++ name
  | none => "driver"

/-- The mark of a block of the driver's side. -/
def side (driver : Bool) : String :=
  if driver then " (driver)" else ""

/-- The kind of functions below a heading. -/
def kind (callbacks : Bool) : String :=
  if callbacks then "callbacks" else "functions"

/-- What stands before a function that is defined elsewhere. -/
def linkage (linked : Bool) : String :=
  if linked then "extern " else ""

/-- The text of a line. -/
def text : Line → String
  | support => "#include \"support_proto.h\""
  | blank => ""
  | title interfaceName driver => "// protocol: " ++ subject interfaceName ++ side driver
  | opening name => "namespace " ++ name ++ " \x7b"
  | heading indented callbacks => indent indented ++ "// " ++ kind callbacks
  | declaration indented linked f => indent indented ++ linkage linked ++ Cpp.declaration f ++ ";"
  | closing name => "\x7d // namespace " ++ name

@[simp]
theorem text_support : support.text = "#include \"support_proto.h\"" := rfl

@[simp]
theorem text_blank : blank.text = "" := rfl

@[simp]
theorem text_title (interfaceName : Option String) (driver : Bool) :
    (title interfaceName driver).text = "// protocol: " ++ subject interfaceName ++ side driver := rfl

@[simp]
theorem text_opening (name : String) : (opening name).text = "namespace " ++ name ++ " \x7b" := rfl

@[simp]
theorem text_heading (indented callbacks : Bool) :
    (heading indented callbacks).text = indent indented ++ "// " ++ kind callbacks := rfl

@[simp]
theorem text_declaration (indented linked : Bool) (f : Signature) :
    (declaration indented linked f).text = indent indented ++ linkage linked ++ Cpp.declaration f ++ ";" := rfl

@[simp]
theorem text_closing (name : String) : (closing name).text = "\x7d // namespace " ++ name := rfl

/-- The text of a list of lines, each ended by a line feed. -/
def written (ls : List Line) : String :=
  String.join (ls.map fun l => l.text ++ "\n")

@[simp]
theorem written_nil : written [] = "" := rfl

@[simp]
theorem written_cons (l : Line) (ls : List Line) : written (l :: ls) = l.text ++ "\n" ++ written ls := by
  simp [written]

@[simp]
theorem written_append (as bs : List Line) : written (as ++ bs) = written as ++ written bs := by
  simp [written]

/-- The lines of a list of functions: none, or a heading and a declaration each. -/
def ofFunctions (indented linked callbacks : Bool) : List Signature → List Line
  | [] => []
  | f :: fs => heading indented callbacks :: (f :: fs).map (declaration indented linked)

/-- The names that a line holds. -/
def names : Line → List String
  | title interfaceName _ => interfaceName.toList
  | opening name => [name]
  | declaration _ _ f => f.name :: f.parameters.map (·.name)
  | closing name => [name]
  | _ => []

theorem forall_names_declaration {P : String → Prop} {indented linked : Bool} {f : Signature} :
    (∀ n ∈ (declaration indented linked f).names, P n) ↔ P f.name ∧ ∀ p ∈ f.parameters, P p.name := by
  simp [names]

end Line

/-- The lines of a block. -/
def BlockRequest.lines (r : BlockRequest) : List Line :=
  .title r.interfaceName r.driver :: (r.interfaceName.toList.map .opening
    ++ Line.ofFunctions r.interfaceName.isSome r.driver false r.functions
    ++ Line.ofFunctions r.interfaceName.isSome false true r.callbacks
    ++ r.interfaceName.toList.map .closing)

/-- The lines of a header. -/
def Task.lines (t : Task) : List Line :=
  .support :: .blank :: (t.interfaces.flatMap (fun i => i.request.lines ++ [.blank]) ++ t.driver.request.lines)

/-! ## The first name refused -/

/-- A name as a block mentions it, with the word for what it names. -/
structure Mention where
  role : String
  name : String
  deriving DecidableEq, Repr

/-- The names of a function and of its parameters. -/
def Signature.mentions (f : Signature) : List Mention :=
  ⟨"function", f.name⟩ :: f.parameters.map fun p => ⟨"parameter", p.name⟩

/-- The names of a block, in the order of its text. -/
def BlockRequest.mentions (r : BlockRequest) : List Mention :=
  r.interfaceName.toList.map (⟨"interface", ·⟩) ++ r.functions.flatMap (·.mentions) ++ r.callbacks.flatMap (·.mentions)

/-- The names of a header, in the order of its text. -/
def Task.mentions (t : Task) : List Mention :=
  (Header.requests t).flatMap (·.mentions)

theorem Line.names_ofFunctions {P : String → Prop} {fs : List Signature} (indented linked callbacks : Bool)
    (h : ∀ f ∈ fs, ∀ m ∈ f.mentions, P m.name) :
    ∀ l ∈ ofFunctions indented linked callbacks fs, ∀ n ∈ l.names, P n := by
  have hdeclarations : ∀ l ∈ fs.map (declaration indented linked), ∀ n ∈ l.names, P n := by
    rw [List.forall_mem_map]
    intro f hf
    rw [forall_names_declaration]
    simpa [Signature.mentions] using h f hf
  cases fs with
  | nil => nofun
  | cons f fs =>
    rw [ofFunctions, List.forall_mem_cons]
    exact ⟨nofun, hdeclarations⟩

/-- The names in the lines of a block are among those that it mentions. -/
theorem BlockRequest.names_lines {P : String → Prop} {r : BlockRequest} (h : ∀ m ∈ r.mentions, P m.name) :
    ∀ l ∈ r.lines, ∀ n ∈ l.names, P n := by
  simp only [mentions, List.forall_mem_append, List.forall_mem_map, List.forall_mem_flatMap] at h
  obtain ⟨⟨hi, hf⟩, hc⟩ := h
  simp only [lines, List.forall_mem_cons, List.forall_mem_append, List.forall_mem_map, Line.names]
  refine ⟨hi, ⟨⟨?_, Line.names_ofFunctions _ _ _ hf⟩, Line.names_ofFunctions _ _ _ hc⟩, ?_⟩
  · intro n hn
    simpa using hi n hn
  · intro n hn
    simpa using hi n hn

/-- The names in the lines of a header are among those that it mentions. -/
theorem Task.names_lines {P : String → Prop} {t : Task} (h : ∀ m ∈ t.mentions, P m.name) :
    ∀ l ∈ t.lines, ∀ n ∈ l.names, P n := by
  simp only [mentions, Header.requests, List.forall_mem_flatMap, List.forall_mem_append, List.forall_mem_map,
    List.forall_mem_singleton] at h
  obtain ⟨hi, hd⟩ := h
  simp only [lines, List.forall_mem_cons, List.forall_mem_append, List.forall_mem_flatMap]
  refine ⟨nofun, nofun, ?_, BlockRequest.names_lines hd⟩
  intro i hi'
  exact ⟨BlockRequest.names_lines (hi i hi'), nofun, nofun⟩

namespace Mention

/-- The refusal of an unusable name. -/
def refusal? (m : Mention) : Option RenderError :=
  if Identifier.usable m.name then none else some (.invalidIdentifier m.role m.name)

/-- A value, unless names are unusable: then the refusal of the first of them. -/
def guarded {α : Type} (ms : List Mention) (a : α) : Except RenderError α :=
  match ms.findSome? refusal? with
  | none => .ok a
  | some e => .error e

theorem refusal?_eq_none_iff {m : Mention} : m.refusal? = none ↔ Identifier.usable m.name = true := by
  unfold refusal?
  split <;> simp_all

theorem guarded_eq_ok_iff {α : Type} {ms : List Mention} {a b : α} :
    guarded ms a = .ok b ↔ (∀ m ∈ ms, Identifier.usable m.name = true) ∧ a = b := by
  unfold guarded
  simp only [← refusal?_eq_none_iff, ← List.findSome?_eq_none_iff]
  split <;> simp_all

end Mention

namespace Cpp

open Mention

theorem checkName_eq (role name : String) : checkName role name = guarded [⟨role, name⟩] () := by
  unfold checkName guarded
  by_cases h : Identifier.usable name <;> simp [refusal?, h]

theorem checkParameters_eq (ps : List Parameter) :
    checkParameters ps = guarded (ps.map fun p => ⟨"parameter", p.name⟩) () := by
  induction ps with
  | nil => rfl
  | cons p ps ih =>
    simp only [checkParameters, checkName_eq, ih, guarded, List.map_cons, List.findSome?_cons, List.findSome?_nil]
    cases refusal? ⟨"parameter", p.name⟩ <;> rfl

theorem checkedDeclaration_eq (f : Signature) : checkedDeclaration f = guarded f.mentions (declaration f) := by
  simp only [checkedDeclaration, checkName_eq, checkParameters_eq, guarded, Signature.mentions, List.findSome?_cons,
    List.findSome?_nil]
  cases refusal? ⟨"function", f.name⟩ with
  | some e => rfl
  | none => cases (f.parameters.map fun p => (⟨"parameter", p.name⟩ : Mention)).findSome? refusal? <;> rfl

/-- The lines of a list of functions, by induction on the list: each function is checked before the rest. -/
theorem lines_eq (indented linked : Bool) (fs : List Signature) :
    lines (Line.indent indented ++ Line.linkage linked) fs
      = guarded (fs.flatMap (·.mentions)) (Line.written (fs.map (.declaration indented linked))) := by
  induction fs with
  | nil => rfl
  | cons f fs ih =>
    have hline : ∀ rest : String, Line.indent indented ++ Line.linkage linked ++ declaration f ++ ";\n" ++ rest
        = (Line.declaration indented linked f).text ++ "\n" ++ rest := by
      intro rest
      rw [show (";\n" : String) = ";" ++ "\n" by decide]
      simp only [Line.text_declaration, String.append_assoc]
    simp only [lines, checkedDeclaration_eq, ih, guarded, List.flatMap_cons, List.findSome?_append]
    cases f.mentions.findSome? refusal? with
    | some e => rfl
    | none =>
      cases (fs.flatMap (·.mentions)).findSome? refusal? with
      | some e => rfl
      | none => simp only [List.map_cons, Line.written_cons, hline]; rfl

theorem titled_eq (indented linked callbacks : Bool) (fs : List Signature) :
    titled (Line.indent indented) (Line.kind callbacks) (Line.linkage linked) fs
      = guarded (fs.flatMap (·.mentions)) (Line.written (Line.ofFunctions indented linked callbacks fs)) := by
  cases fs with
  | nil => rfl
  | cons f fs =>
    simp only [titled, lines_eq, guarded, Line.ofFunctions, Line.written_cons, Line.text_heading]
    cases ((f :: fs).flatMap (·.mentions)).findSome? refusal? <;> rfl

theorem opening_eq (interfaceName : Option String) (driver : Bool) :
    opening interfaceName driver = guarded (interfaceName.toList.map (⟨"interface", ·⟩))
      (Line.written (.title interfaceName driver :: interfaceName.toList.map .opening)) := by
  cases interfaceName with
  | none => cases driver <;> exact congrArg Except.ok (by decide)
  | some name =>
    have htext : "// protocol: interface " ++ name ++ (if driver then " (driver)" else "") ++ "\n" ++ "namespace "
        ++ name ++ " \x7b\n" = Line.written [.title (some name) driver, .opening name] := by
      rw [show (" \x7b\n" : String) = " \x7b" ++ "\n" by decide,
        show ("// protocol: interface " : String) = "// protocol: " ++ "interface " by decide]
      simp only [Line.written_cons, Line.written_nil, Line.text_title, Line.text_opening, Line.subject, Line.side,
        String.append_assoc, String.append_empty]
    simp only [opening, checkName_eq, guarded, htext, Option.toList_some, List.map_cons, List.map_nil]
    cases [(⟨"interface", name⟩ : Mention)].findSome? refusal? <;> rfl

theorem closing_eq (interfaceName : Option String) :
    closing interfaceName = Line.written (interfaceName.toList.map .closing) := by
  cases interfaceName with
  | none => rfl
  | some name => simp

/-- **A block is the text of its lines**, unless a name is refused: then it is the refusal of the first one. -/
theorem block_eq (r : BlockRequest) : block r = guarded r.mentions (Line.written r.lines) := by
  have hf := titled_eq r.interfaceName.isSome r.driver false r.functions
  have hc := titled_eq r.interfaceName.isSome false true r.callbacks
  simp only [Line.indent, Line.kind, Line.linkage, Bool.false_eq_true, if_true, if_false] at hf hc
  simp only [block, opening_eq, hf, hc, closing_eq, guarded, BlockRequest.mentions, List.findSome?_append]
  cases (r.interfaceName.toList.map (⟨"interface", ·⟩ : String → Mention)).findSome? refusal? with
  | some e => rfl
  | none =>
    cases (r.functions.flatMap (·.mentions)).findSome? refusal? with
    | some e => rfl
    | none =>
      cases (r.callbacks.flatMap (·.mentions)).findSome? refusal? with
      | some e => rfl
      | none => simp [BlockRequest.lines, String.append_assoc]

/-- A block that is rendered mentions usable names only and is the text of its lines. -/
theorem block_eq_ok_iff {r : BlockRequest} {text : String} :
    block r = .ok text ↔ (∀ m ∈ r.mentions, Identifier.usable m.name = true) ∧ Line.written r.lines = text := by
  rw [block_eq, guarded_eq_ok_iff]

end Cpp

namespace Header

open Mention

/-- The blocks of a list of requests, by induction on the list: a block is rendered before the rest. -/
theorem renderBlocks_cpp (taskName : String) (rs : List BlockRequest) :
    (renderBlocks Cpp.backend taskName rs ()).outcome
      = guarded (rs.flatMap (·.mentions)) (rs.map (Line.written ·.lines)) := by
  induction rs with
  | nil => rfl
  | cons r rs ih =>
    simp only [renderBlocks, Cpp.backend, Cpp.block_eq, List.flatMap_cons, guarded, List.findSome?_append] at ih ⊢
    cases r.mentions.findSome? refusal? with
    | some e => rfl
    | none =>
      simp only [Option.none_or, ih]
      cases (rs.flatMap (·.mentions)).findSome? refusal? <;> rfl

/-- The blocks of interfaces, with an empty line after each, are the text of their lines. -/
theorem join_interfaces (is : List Interface) :
    String.join (is.map fun i => Line.written i.request.lines ++ "\n")
      = Line.written (is.flatMap fun i => i.request.lines ++ [.blank]) := by
  induction is with
  | nil => rfl
  | cons i is ih => simp [ih, String.append_assoc]

theorem preamble_eq : preamble = Line.written [.support, .blank] := by
  decide

/-- The lines of interfaces after those of the preamble. -/
theorem written_interfaces (is : List Interface) :
    Line.written (.support :: .blank :: is.flatMap fun i => i.request.lines ++ [.blank])
      = preamble ++ String.join (is.map fun i => Line.written i.request.lines ++ "\n") := by
  rw [join_interfaces, preamble_eq, ← Line.written_append]
  rfl

/-- The text of a header: the blocks of the interfaces, with an empty line after each, and the block of the driver. -/
theorem written_lines (t : Task) : Line.written t.lines
    = preamble ++ String.join (t.interfaces.map fun i => Line.written i.request.lines ++ "\n")
      ++ Line.written t.driver.request.lines := by
  rw [← written_interfaces, ← Line.written_append]
  rfl

/-- The blocks of a task make the text of its lines. -/
theorem ofBlocks_requests (t : Task) : ofBlocks ((requests t).map (Line.written ·.lines)) = Line.written t.lines := by
  rw [requests, List.map_append, List.map_singleton, ofBlocks_append, List.map_map, List.map_map, written_lines]
  rfl

/-- **A header is the text of its lines**, unless a name is refused: then it is the refusal of the first one. -/
theorem cpp_eq (t : Task) : cpp t = guarded t.mentions (Line.written t.lines) := by
  rw [cpp, render_outcome, renderBlocks_cpp, ← ofBlocks_requests, guarded, guarded, Task.mentions]
  cases ((requests t).flatMap (·.mentions)).findSome? refusal? <;> rfl

/-- A header that is rendered mentions usable names only and is the text of its lines. -/
theorem cpp_eq_ok_iff {t : Task} {text : String} :
    cpp t = .ok text ↔ (∀ m ∈ t.mentions, Identifier.usable m.name = true) ∧ Line.written t.lines = text := by
  rw [cpp_eq, guarded_eq_ok_iff]

end Header

end TaskHeader
