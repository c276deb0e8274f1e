import Mathlib.Algebra.Ring.Nat
import TaskHeader.Proofs.Scope

/-!
# The layout of headers

Whatever the names of a task are, the header shows nothing but lines of a few forms. The forms are given here as texts,
with no regard to tasks: `Header.Laid` lists them and carries the namespace that is open, so that a namespace ends with
its own name before the next one starts.

* The lines of a block are laid out so, when the names in it are legal, and so are those of a header (`laid_lines`),
  by induction on what is still to come.
* How many lines of each form there are depends on numbers alone: without the names, the lines of a task are told by the
  numbers of its functions (`Task.shapes_lines`), and each form can be told from its text (`Line.opens_text`,
  `Line.declares_text`).
* So a header has visible characters and line feeds only, and as many lines of each form as the task declares
  (`cpp_layout`).
-/

namespace TaskHeader

open Identifier

namespace Header

/-! ## Forms of lines -/

/-- A type, a blank, stars and a name. -/
def IsParameter (s : String) : Prop :=
  ∃ type ∈ ["int", "int64_t", "bool"], ∃ (stars : Nat) (name : String), Legal name ∧
    s = type ++ " " ++ String.ofList (List.replicate stars '*') ++ name

/-- A type, a blank, a name and parameters in parentheses with commas between them, and a semicolon. -/
def IsDeclaration (s : String) : Prop :=
  ∃ returns ∈ ["void", "int", "int64_t", "bool"], ∃ (name : String) (parameters : List String), Legal name ∧
    (∀ p ∈ parameters, IsParameter p) ∧ s = returns ++ " " ++ name ++ "(" ++ ", ".intercalate parameters ++ ");"

/-- Four blanks inside of a namespace. -/
def indent (inside : Option String) : String :=
  if inside.isSome then "    " else ""

/-- The lines of a header, without their line feeds, after lines that left a namespace open or none. -/
inductive Laid : (inside : Option String) → List String → Prop
  | done : Laid none []
  | support {ls : List String} : Laid none ls → Laid none ("#include \"support_proto.h\"" :: ls)
  | blank {ls : List String} : Laid none ls → Laid none ("" :: ls)
  | interface {name : String} {ls : List String} : Legal name → Laid none ls →
      Laid none (("// protocol: interface " ++ name ++ " (driver)") :: ls)
  | opening {name : String} {ls : List String} : Legal name → Laid (some name) ls →
      Laid none (("namespace " ++ name ++ " \x7b") :: ls)
  | closing {name : String} {ls : List String} : Legal name → Laid none ls →
      Laid (some name) (("\x7d // namespace " ++ name) :: ls)
  | driver {ls : List String} : Laid none ls → Laid none ("// protocol: driver" :: ls)
  | functions {inside : Option String} {ls : List String} : Laid inside ls →
      Laid inside ((indent inside ++ "// functions") :: ls)
  | callbacks {inside : Option String} {ls : List String} : Laid inside ls →
      Laid inside ((indent inside ++ "// callbacks") :: ls)
  | linked {inside : Option String} {d : String} {ls : List String} : IsDeclaration d → Laid inside ls →
      Laid inside ((indent inside ++ "extern " ++ d) :: ls)
  | declared {inside : Option String} {d : String} {ls : List String} : IsDeclaration d → Laid inside ls →
      Laid inside ((indent inside ++ d) :: ls)

/-- Whether a line opens a namespace. -/
def opens (l : String) : Bool :=
  "namespace ".toList.isPrefixOf l.toList

/-- Whether a line declares a function. -/
def declares (l : String) : Bool :=
  l.toList.contains ';'

/-- Whether a line starts with the mark of what is defined elsewhere, after its indent. -/
def links (l : String) : Bool :=
  "extern ".toList.isPrefixOf (l.toList.dropWhile (· == ' '))

end Header

/-! ## Declarations -/

namespace Cpp

theorem parameters_eq (ps : List Parameter) : parameters ps = ", ".intercalate (ps.map parameter) := by
  induction ps with
  | nil => rfl
  | cons p ps ih =>
    cases ps with
    | nil => simp [parameters]
    | cons q ps =>
      have hrest : (q :: ps).map parameter ≠ [] := List.cons_ne_nil _ _
      show parameter p ++ ", " ++ parameters (q :: ps) = ", ".intercalate (parameter p :: (q :: ps).map parameter)
      rw [String.intercalate_cons_of_ne_nil hrest, ih]

theorem isParameter_parameter {p : Parameter} (h : Legal p.name) : Header.IsParameter (parameter p) := by
  refine ⟨scalar p.type.scalar, ?_, p.type.dimensions.val, p.name, h, rfl⟩
  cases p.type.scalar <;> decide

theorem isDeclaration_declaration {f : Signature} (hname : Legal f.name)
    (hparameters : ∀ p ∈ f.parameters, Legal p.name) : Header.IsDeclaration (declaration f ++ ";") := by
  refine ⟨returnType f.returns, ?_, f.name, f.parameters.map parameter, hname, ?_, ?_⟩
  · rcases f.returns with _ | (_ | _ | _) <;> decide
  · rw [List.forall_mem_map]
    exact fun p hp => isParameter_parameter (hparameters p hp)
  · rw [show (");" : String) = ")" ++ ";" by decide, declaration, parameters_eq]
    simp only [String.append_assoc]

end Cpp

/-! ## The lines of a task are laid out -/

namespace Header

open Line

variable {rest : List String}

theorem indent_isSome (inside : Option String) : Line.indent inside.isSome = indent inside := rfl

theorem laid_heading {inside : Option String} (callbacks : Bool) (hrest : Laid inside rest) :
    Laid inside ((heading inside.isSome callbacks).text :: rest) := by
  have htext : (heading inside.isSome callbacks).text = indent inside ++ ("// " ++ kind callbacks) := by
    rw [text_heading, String.append_assoc, indent_isSome]
  rw [htext]
  cases callbacks with
  | false => exact .functions hrest
  | true => exact .callbacks hrest

theorem laid_declaration {inside : Option String} (linked : Bool) {f : Signature} (hname : Legal f.name)
    (hparameters : ∀ p ∈ f.parameters, Legal p.name) (hrest : Laid inside rest) :
    Laid inside ((declaration inside.isSome linked f).text :: rest) := by
  have hd := Cpp.isDeclaration_declaration hname hparameters
  rw [text_declaration, String.append_assoc, indent_isSome]
  cases linked with
  | true => exact .linked hd hrest
  | false =>
    rw [linkage, if_neg Bool.false_ne_true, String.append_empty]
    exact .declared hd hrest

/-- Functions come after their heading, one by one. -/
theorem laid_ofFunctions {inside : Option String} {fs : List Signature} (linked callbacks : Bool)
    (h : ∀ f ∈ fs, Legal f.name ∧ ∀ p ∈ f.parameters, Legal p.name) (hrest : Laid inside rest) :
    Laid inside ((ofFunctions inside.isSome linked callbacks fs).map (·.text) ++ rest) := by
  have hdeclarations : ∀ gs : List Signature, (∀ g ∈ gs, Legal g.name ∧ ∀ p ∈ g.parameters, Legal p.name) →
      Laid inside ((gs.map (declaration inside.isSome linked)).map (·.text) ++ rest) := by
    intro gs hgs
    induction gs with
    | nil => exact hrest
    | cons g gs ih =>
      obtain ⟨⟨hname, hparameters⟩, hgs⟩ := List.forall_mem_cons.1 hgs
      exact laid_declaration linked hname hparameters (ih hgs)
  cases fs with
  | nil => exact hrest
  | cons f fs => exact laid_heading callbacks (hdeclarations (f :: fs) h)

/-- The block of an interface opens its namespace and closes it. -/
theorem laid_interface {i : Interface} (hname : Legal i.name)
    (h : ∀ f ∈ i.declared, Legal f.name ∧ ∀ p ∈ f.parameters, Legal p.name) (hrest : Laid none rest) :
    Laid none (i.request.lines.map (·.text) ++ rest) := by
  obtain ⟨hfunctions, hcallbacks⟩ := List.forall_mem_append.1 h
  have hclosing : Laid (some i.name) ((closing i.name).text :: rest) := .closing hname hrest
  have hinside := laid_ofFunctions true false hfunctions (laid_ofFunctions false true hcallbacks hclosing)
  have htitle : (title (some i.name) true).text = "// protocol: interface " ++ i.name ++ " (driver)" := by
    rw [← String.toList_inj]
    simp [subject, side]
  rw [Interface.lines_request, List.map_cons, List.map_cons, List.map_append, List.map_append, htitle]
  simp only [List.cons_append, List.append_assoc]
  exact .interface hname (.opening hname hinside)

/-- The block of the driver opens no namespace. -/
theorem laid_driver {d : Driver} (h : ∀ f ∈ d.functions, Legal f.name ∧ ∀ p ∈ f.parameters, Legal p.name)
    (hrest : Laid none rest) : Laid none (d.request.lines.map (·.text) ++ rest) := by
  rw [Driver.lines_request, List.map_cons]
  exact .driver (laid_ofFunctions false true h hrest)

/-- **The lines of a task are laid out**, when its names are legal. -/
theorem laid_lines {t : Task} (hinterfaces : ∀ i ∈ t.interfaces, Legal i.name)
    (h : ∀ f ∈ t.signatures, Legal f.name ∧ ∀ p ∈ f.parameters, Legal p.name) :
    Laid none (t.lines.map (·.text)) := by
  obtain ⟨hdeclared, hdriver⟩ := List.forall_mem_append.1 h
  have hend : Laid none (t.driver.request.lines.map (·.text)) := by
    have hlaid := laid_driver hdriver .done
    rwa [List.append_nil] at hlaid
  have hblocks : ∀ is : List Interface, (∀ i ∈ is, Legal i.name) →
      (∀ f ∈ is.flatMap (·.declared), Legal f.name ∧ ∀ p ∈ f.parameters, Legal p.name) →
      Laid none ((is.flatMap fun i => i.request.lines ++ [.blank]).map (·.text)
        ++ t.driver.request.lines.map (·.text)) := by
    intro is his hfs
    induction is with
    | nil => exact hend
    | cons i is ih =>
      obtain ⟨hi, his⟩ := List.forall_mem_cons.1 his
      rw [List.flatMap_cons, List.forall_mem_append] at hfs
      rw [List.flatMap_cons, List.map_append, List.map_append, List.append_assoc, List.append_assoc]
      exact laid_interface hi hfs.1 (.blank (ih his hfs.2))
  rw [Task.lines, List.map_cons, List.map_cons, List.map_append]
  exact .support (.blank (hblocks _ hinterfaces hdeclared))

end Header

/-! ## How many lines there are -/

namespace Line

/-- The form of a line, without the names in it. -/
inductive Shape where
  | support
  | blank
  | title
  | opening
  | heading
  | declaration (linked : Bool)
  | closing
  deriving DecidableEq, Repr

/-- Forgets the names of a line. -/
def shape : Line → Shape
  | support => .support
  | blank => .blank
  | title _ _ => .title
  | opening _ => .opening
  | heading _ _ => .heading
  | declaration _ linked _ => .declaration linked
  | closing _ => .closing

/-- The forms of the lines for a number of functions. -/
def Shape.functions (linked : Bool) : Nat → List Shape
  | 0 => []
  | n + 1 => .heading :: List.replicate (n + 1) (.declaration linked)

theorem shapes_ofFunctions (indented linked callbacks : Bool) (fs : List Signature) :
    (ofFunctions indented linked callbacks fs).map shape = Shape.functions linked fs.length := by
  cases fs with
  | nil => rfl
  | cons f fs =>
    have hdeclaration : shape ∘ declaration indented linked = fun _ => .declaration linked := rfl
    rw [ofFunctions, List.map_cons, List.map_map, hdeclaration, List.map_const']
    rfl

/-- The forms of the lines for an interface, with the blank line after its block. -/
def Shape.interface (functions callbacks : Nat) : List Shape :=
  .title :: .opening :: (Shape.functions true functions ++ Shape.functions false callbacks ++ [.closing, .blank])

theorem shapes_interface (i : Interface) :
    (i.request.lines ++ [blank]).map shape = Shape.interface i.functions.length i.callbacks.length := by
  simp [Interface.lines_request, shapes_ofFunctions, Shape.interface, shape]

end Line

open Line in
/-- **The forms of the lines of a task** are told by the numbers of its functions. -/
theorem Task.shapes_lines (t : Task) : t.lines.map shape = .support :: .blank
    :: (t.interfaces.flatMap (fun i => Shape.interface i.functions.length i.callbacks.length)
      ++ .title :: Shape.functions false t.driver.functions.length) := by
  have hinterfaces : (t.interfaces.flatMap fun i => i.request.lines ++ [.blank]).map shape
      = t.interfaces.flatMap fun i => Shape.interface i.functions.length i.callbacks.length := by
    simp only [List.map_flatMap, shapes_interface]
  rw [lines, List.map_cons, List.map_cons, List.map_append, hinterfaces, Driver.lines_request, List.map_cons,
    shapes_ofFunctions]
  rfl

namespace Line

variable (linked : Bool) (n m : Nat)

theorem length_functions : (Shape.functions linked n).length = if n > 0 then 1 + n else 0 := by
  cases n <;> simp [Shape.functions, Nat.add_comm]

theorem count_declaration_functions (other : Bool) :
    (Shape.functions linked n).count (.declaration other) = if linked = other then n else 0 := by
  cases n <;> simp [Shape.functions, List.count_replicate]

theorem count_opening_functions : (Shape.functions linked n).count .opening = 0 := by
  cases n <;> simp [Shape.functions, List.count_replicate]

theorem length_interface : (Shape.interface n m).length
    = 4 + (if n > 0 then 1 + n else 0) + (if m > 0 then 1 + m else 0) := by
  simp only [Shape.interface, List.length_cons, List.length_append, length_functions, List.length_nil]
  omega

theorem count_declaration_interface :
    (Shape.interface n m).count (.declaration linked) = if linked then n else m := by
  cases linked <;> simp [Shape.interface, count_declaration_functions]

theorem count_opening_interface : (Shape.interface n m).count .opening = 1 := by
  simp [Shape.interface, count_opening_functions]

end Line

namespace Task

open Line

variable (t : Task)

theorem count_opening : (t.lines.map shape).count .opening = t.interfaces.length := by
  rw [shapes_lines]
  simp [List.count_flatMap, Function.comp_def, count_opening_interface, count_opening_functions]

theorem count_declaration (linked : Bool) : (t.lines.map shape).count (.declaration linked)
    = (t.interfaces.map fun i => if linked then i.functions.length else i.callbacks.length).sum
      + if linked then 0 else t.driver.functions.length := by
  rw [shapes_lines]
  cases linked <;>
    simp [List.count_flatMap, Function.comp_def, count_declaration_interface, count_declaration_functions]

theorem length_lines : t.lines.length = 2 + (t.interfaces.map fun i => 4
      + (if i.functions.length > 0 then 1 + i.functions.length else 0)
      + (if i.callbacks.length > 0 then 1 + i.callbacks.length else 0)).sum
    + 1 + (if t.driver.functions.length > 0 then 1 + t.driver.functions.length else 0) := by
  have hlength := congrArg List.length t.shapes_lines
  rw [List.length_map] at hlength
  rw [hlength]
  simp only [List.length_cons, List.length_append, List.length_flatMap, length_interface, length_functions]
  omega

end Task

/-! ## Telling the form of a line from its text -/

namespace Line

open Header Reader

theorem opens_text (l : Line) : opens l.text = (l.shape == .opening) := by
  cases l with
  | support => decide
  | blank => decide
  | title interfaceName driver => simp [opens, shape, List.isPrefixOf]
  | opening name => simp [opens, shape, List.isPrefixOf]
  | heading indented callbacks => cases indented <;> cases callbacks <;> decide
  | declaration indented linked f =>
    obtain ⟨name, ps, returns⟩ := f
    cases indented <;> cases linked <;> rcases returns with _ | (_ | _ | _) <;>
      simp [opens, shape, List.isPrefixOf, indent, linkage, Cpp.declaration, Cpp.returnType, Cpp.scalar]
  | closing name => simp [opens, shape, List.isPrefixOf]

/-- Names have no semicolon, so only a declaration has one. -/
theorem declares_text {l : Line} (h : ∀ n ∈ l.names, IsWord n) :
    declares l.text = (l.shape == .declaration true || l.shape == .declaration false) := by
  have hname : ∀ n ∈ l.names, ';' ∉ n.toList := fun n hn => not_mem_of_isWord (h n hn) (by decide)
  cases l with
  | support => decide
  | blank => decide
  | title interfaceName driver =>
    cases interfaceName with
    | none => cases driver <;> decide
    | some name =>
      show declares _ = false
      cases driver <;> simpa [declares, subject, side] using hname name (by simp [names])
  | opening name =>
    show declares _ = false
    simpa [declares] using hname name (by simp [names])
  | heading indented callbacks => cases indented <;> cases callbacks <;> decide
  | declaration indented linked f => cases linked <;> simp [declares, shape]
  | closing name =>
    show declares _ = false
    simpa [declares] using hname name (by simp [names])

/-- A declaration starts with its linkage or with a type, after its indent. -/
theorem links_text (indented linked : Bool) (f : Signature) :
    links (declaration indented linked f).text = linked := by
  obtain ⟨name, ps, returns⟩ := f
  cases indented <;> cases linked <;> rcases returns with _ | (_ | _ | _) <;>
    simp [links, List.isPrefixOf, indent, linkage, Cpp.declaration, Cpp.returnType, Cpp.scalar]

theorem declares_links_text {l : Line} (h : ∀ n ∈ l.names, IsWord n) (linked : Bool) :
    (declares l.text && links l.text == linked) = (l.shape == .declaration linked) := by
  rw [declares_text h]
  cases l with
  | declaration indented other f =>
    rw [links_text]
    cases linked <;> cases other <;> rfl
  | _ => rfl

end Line

/-! ## Headers -/

namespace Header

open Line

/-- What counts lines by their texts counts lines of one form. -/
theorem countP_text {ls : List Line} {p : String → Bool} {form : Shape} (h : ∀ l ∈ ls, p l.text = (l.shape == form)) :
    (ls.map (·.text)).countP p = (ls.map shape).count form := by
  rw [List.countP_map, List.count, List.countP_map]
  apply List.countP_congr
  intro l hl
  simp [h l hl]

theorem mem_written {ls : List Line} {c : Char} (h : c ∈ (written ls).toList) :
    c = '\n' ∨ ∃ l ∈ ls, c ∈ l.text.toList := by
  induction ls with
  | nil => cases h
  | cons l ls ih =>
    rw [written_cons, String.toList_append, String.toList_append, List.mem_append, List.mem_append] at h
    rcases h with (h | h) | h
    · exact .inr ⟨l, List.mem_cons_self, h⟩
    · exact .inl (by simpa using h)
    · rcases ih h with rfl | ⟨k, hk, hc⟩
      · exact .inl rfl
      · exact .inr ⟨k, List.mem_cons_of_mem l hk, hc⟩

theorem written_ends {ls : List Line} (h : ls ≠ []) : ∃ body, written ls = body ++ "\n" := by
  rcases List.eq_nil_or_concat ls with rfl | ⟨before, last, rfl⟩
  · exact absurd rfl h
  · refine ⟨written before ++ last.text, ?_⟩
    rw [List.concat_eq_append, written_append, written_cons, written_nil, String.append_empty, String.append_assoc]

/-- **No task can bring text of its own into a header.** A header that is rendered has visible characters and line feeds
only and ends with a line feed. Its lines are laid out: each is of one of the forms, with identifiers in it that are no
keywords, and each namespace ends with its own name before the next one starts. There is a namespace for each interface,
a declaration with linkage for each function of an interface and one without for each callback and each function of the
driver, and the number of lines is told by these numbers. -/
theorem cpp_layout {t : Task} {text : String} (h : cpp t = .ok text) :
    (∀ c ∈ text.toList, c = '\n' ∨ (' ' ≤ c ∧ c ≤ '~')) ∧ (∃ body, text = body ++ "\n") ∧
      ∃ ls : List String, text.toList.splitOn '\n' = ls.map (·.toList) ++ [[]] ∧ Laid none ls ∧
        ls.countP opens = t.interfaces.length ∧
        ls.countP (fun l => declares l && links l) = (t.interfaces.map (·.functions.length)).sum ∧
        ls.countP (fun l => declares l && !links l)
          = (t.interfaces.map (·.callbacks.length)).sum + t.driver.functions.length ∧
        ls.length = 2 + (t.interfaces.map fun i => 4
            + (if i.functions.length > 0 then 1 + i.functions.length else 0)
            + (if i.callbacks.length > 0 then 1 + i.callbacks.length else 0)).sum
          + 1 + (if t.driver.functions.length > 0 then 1 + t.driver.functions.length else 0) := by
  have hnames := isWord_of_cpp h
  obtain ⟨husable, rfl⟩ := cpp_eq_ok_iff.1 h
  have hlegal : ∀ o ∈ t.occurrences, Legal o.name := by
    intro o ho
    rw [Task.mentions_eq_occurrences, List.forall_mem_map] at husable
    exact usable_iff_legal.1 (husable o ho)
  obtain ⟨hinterfaces, hfunctions⟩ := Task.forall_occurrences.1 hlegal
  refine ⟨?_, written_ends (List.cons_ne_nil _ _), t.lines.map (·.text), ?_, laid_lines hinterfaces hfunctions,
    ?_, ?_, ?_, ?_⟩
  · intro c hc
    rcases mem_written hc with rfl | ⟨l, hl, hc⟩
    · exact .inl rfl
    · exact .inr (allVisible_text (hnames l hl) c hc)
  · rw [splitOn_written fun l hl => feed_not_mem_text (hnames l hl), List.map_append, List.map_map]
    rfl
  · rw [countP_text fun l _ => opens_text l, Task.count_opening]
  · have hlinks : ∀ l ∈ t.lines, (declares l.text && links l.text) = (l.shape == .declaration true) := by
      intro l hl
      simpa using declares_links_text (hnames l hl) true
    exact (countP_text hlinks).trans (t.count_declaration true)
  · have hlinks : ∀ l ∈ t.lines, (declares l.text && !links l.text) = (l.shape == .declaration false) := by
      intro l hl
      simpa using declares_links_text (hnames l hl) false
    exact (countP_text hlinks).trans (t.count_declaration false)
  · rw [List.length_map, Task.length_lines]

theorem cpp_layout_samples :
    cpp (encodedSample "\n\x7d // \u00e9") = .ok encodedText ∧
      (∀ c ∈ encodedText.toList, c = '\n' ∨ (' ' ≤ c ∧ c ≤ '~')) ∧
      ∃ ls : List String, encodedText.toList.splitOn '\n' = ls.map (·.toList) ++ [[]] ∧ Laid none ls ∧
        ls.countP opens = 1 ∧ ls.countP (fun l => declares l && links l) = 1 ∧
        ls.countP (fun l => declares l && !links l) = 2 ∧ ls.length = 13 := by
  have hcpp : cpp (encodedSample "\n\x7d // \u00e9") = .ok encodedText :=
    cpp_eq_ok_iff.2 ⟨by decide +kernel, by decide +kernel⟩
  obtain ⟨hvisible, -, ls, hlines, hlaid, hopens, hlinked, hunlinked, hlength⟩ := cpp_layout hcpp
  exact ⟨hcpp, hvisible, ls, hlines, hlaid, hopens, hlinked, hunlinked, hlength⟩

end Header

end TaskHeader
