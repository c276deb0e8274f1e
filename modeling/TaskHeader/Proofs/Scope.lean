import Mathlib.Data.List.Basic
import TaskHeader.Proofs.Acceptance
import TaskHeader.Proofs.Readback

/-!
# The scopes of a header

Which names a header declares side by side, read off its text (`Header.scopes?`): a name at global scope for each
namespace and for each function outside of them, the functions of each namespace, and the parameters of each function.

A block of an interface adds its name to the global scope and a namespace with its functions and callbacks, the block
of the driver adds its functions to the global scope (`scopes?_cpp`, from one lemma about each of the two). In the
header of an accepted task a namespace declares no name twice, nor does a list of parameters. At global scope the
namespaces differ among themselves and so do the functions, but a namespace may have the name of a function there:
validation does not compare the two (`scopes_of_accepted`, `globals_clash`).
-/

namespace TaskHeader

/-! ## Scopes of lines -/

namespace Line

/-- Whether a line ends a namespace. -/
def closes : Line → Bool
  | closing _ => true
  | _ => false

/-- The names that lines declare at global scope. `inside` says whether a namespace is open before them. -/
def globals : (inside : Bool) → List Line → List String
  | _, [] => []
  | _, opening name :: ls => name :: globals true ls
  | _, closing _ :: ls => globals false ls
  | false, declaration _ _ f :: ls => f.name :: globals false ls
  | inside, _ :: ls => globals inside ls

/-- The namespaces of lines, each with the names of the functions up to its end. -/
def namespaces : List Line → List (String × List String)
  | [] => []
  | opening name :: ls => (name, (functions (ls.takeWhile (! ·.closes))).map (·.name)) :: namespaces ls
  | _ :: ls => namespaces ls

variable {indented linked callbacks : Bool} {fs : List Signature} {rest : List Line}

/-- What is read off lines by passing over headings and taking declarations one by one, by induction on the
functions. -/
theorem read_ofFunctions {α : Type} (read : List Line → α) (take : Signature → α → α)
    (hheading : ∀ ls, read (heading indented callbacks :: ls) = read ls)
    (hdeclaration : ∀ f ls, read (declaration indented linked f :: ls) = take f (read ls)) :
    read (ofFunctions indented linked callbacks fs ++ rest) = fs.foldr take (read rest) := by
  have hdeclarations : ∀ gs : List Signature,
      read (gs.map (declaration indented linked) ++ rest) = gs.foldr take (read rest) := by
    intro gs
    induction gs with
    | nil => rfl
    | cons g gs ih => rw [List.map_cons, List.cons_append, hdeclaration, ih, List.foldr_cons]
  cases fs with
  | nil => rfl
  | cons f fs => exact (hheading _).trans (hdeclarations (f :: fs))

/-- Functions in a namespace add nothing to the global scope. -/
theorem globals_inside : globals true (ofFunctions indented linked callbacks fs ++ rest) = globals true rest := by
  rw [read_ofFunctions (globals true) (fun _ names => names) (fun _ => rfl) (fun _ _ => rfl)]
  exact List.foldr_fixed fs

/-- Functions outside of namespaces are declared at global scope. -/
theorem globals_outside : globals false (ofFunctions indented linked callbacks fs ++ rest)
    = fs.map (·.name) ++ globals false rest := by
  rw [read_ofFunctions (globals false) (fun f names => f.name :: names) (fun _ => rfl) (fun _ _ => rfl)]
  exact List.foldr_cons_eq_append

theorem namespaces_ofFunctions : namespaces (ofFunctions indented linked callbacks fs ++ rest) = namespaces rest := by
  rw [read_ofFunctions namespaces (fun _ scopes => scopes) (fun _ => rfl) (fun _ _ => rfl)]
  exact List.foldr_fixed fs

theorem not_closes_of_mem_ofFunctions {l : Line} (h : l ∈ ofFunctions indented linked callbacks fs) :
    (!l.closes) = true := by
  cases fs with
  | nil => cases h
  | cons f fs =>
    rcases List.mem_cons.1 h with rfl | h
    · rfl
    · obtain ⟨g, -, rfl⟩ := List.mem_map.1 h
      rfl

end Line

/-! ## Scopes of blocks -/

namespace Interface

variable (i : Interface) (rest : List Line)

/-- The lines of the block of an interface. -/
theorem lines_request : i.request.lines = .title (some i.name) true :: .opening i.name
    :: (Line.ofFunctions true true false i.functions ++ Line.ofFunctions true false true i.callbacks
      ++ [.closing i.name]) := by
  simp [request, BlockRequest.lines]

/-- **A block of an interface declares its name at global scope.** -/
theorem globals_lines : Line.globals false (i.request.lines ++ rest) = i.name :: Line.globals false rest := by
  simp only [lines_request, List.cons_append, List.append_assoc, Line.globals, Line.globals_inside]
  rfl

/-- **A block of an interface is a namespace** of its functions and callbacks. -/
theorem namespaces_lines : Line.namespaces (i.request.lines ++ rest)
    = (i.name, i.declared.map (·.name)) :: Line.namespaces rest := by
  have hinner : ∀ l ∈ Line.ofFunctions true true false i.functions ++ Line.ofFunctions true false true i.callbacks,
      (!l.closes) = true := by
    intro l hl
    rcases List.mem_append.1 hl with hl | hl
    · exact Line.not_closes_of_mem_ofFunctions hl
    · exact Line.not_closes_of_mem_ofFunctions hl
  have hclosing : ∀ l, (Line.closing i.name :: rest).head? = some l → (!l.closes) = false := by
    rintro l ⟨⟩
    rfl
  have hfunctions := (Reader.run_ends hinner hclosing).1
  have hlines : i.request.lines ++ rest = .title (some i.name) true :: .opening i.name
      :: (Line.ofFunctions true true false i.functions ++ Line.ofFunctions true false true i.callbacks
        ++ .closing i.name :: rest) := by
    simp [lines_request]
  have hrest : Line.namespaces (.closing i.name :: rest) = Line.namespaces rest := rfl
  rw [hlines, Line.namespaces, Line.namespaces, hfunctions, Line.functions_append, Line.functions_ofFunctions,
    Line.functions_ofFunctions, List.append_assoc, Line.namespaces_ofFunctions, Line.namespaces_ofFunctions, hrest]
  · rfl
  · nofun

theorem functions_lines : Line.functions i.request.lines = i.declared := by
  rw [lines_request, Line.functions, List.filterMap_cons_none rfl, List.filterMap_cons_none rfl, ← Line.functions,
    Line.functions_append, Line.functions_append, Line.functions_ofFunctions, Line.functions_ofFunctions]
  exact List.append_nil _

end Interface

namespace Driver

variable (d : Driver) (rest : List Line)

/-- The lines of the block of the driver. -/
theorem lines_request : d.request.lines = .title none false :: Line.ofFunctions false false true d.functions := by
  simp [request, BlockRequest.lines, Line.ofFunctions]

/-- **The block of the driver declares its functions at global scope.** -/
theorem globals_lines : Line.globals false (d.request.lines ++ rest)
    = d.functions.map (·.name) ++ Line.globals false rest := by
  rw [lines_request, List.cons_append, Line.globals, Line.globals_outside]
  all_goals nofun

theorem namespaces_lines : Line.namespaces (d.request.lines ++ rest) = Line.namespaces rest := by
  rw [lines_request, List.cons_append, Line.namespaces, Line.namespaces_ofFunctions]
  nofun

theorem functions_lines : Line.functions d.request.lines = d.functions := by
  rw [lines_request, Line.functions, List.filterMap_cons_none rfl, ← Line.functions, Line.functions_ofFunctions]

end Driver

/-! ## Scopes of headers -/

namespace Header

/-- The names that a header declares, by scope. -/
structure Scopes where
  /-- Namespaces and functions outside of namespaces. -/
  globals : List String
  /-- Each namespace with its functions. -/
  namespaces : List (String × List String)
  /-- The parameters of each function. -/
  parameters : List (List String)
  deriving DecidableEq, Repr

namespace Scopes

/-- The scopes that lines open. -/
def ofLines (ls : List Line) : Scopes where
  globals := Line.globals false ls
  namespaces := Line.namespaces ls
  parameters := (Line.functions ls).map fun f => f.parameters.map (·.name)

/-- The scopes of a task: the driver's functions stand beside the interfaces. -/
def ofTask (t : Task) : Scopes where
  globals := t.interfaces.map (·.name) ++ t.driver.functions.map (·.name)
  namespaces := t.interfaces.map fun i => (i.name, i.declared.map (·.name))
  parameters := t.signatures.map fun f => f.parameters.map (·.name)

end Scopes

/-- The scopes of a text, read off its lines. -/
def scopes? (text : String) : Option Scopes :=
  (lines? text).map Scopes.ofLines

variable (is : List Interface) (rest : List Line)

theorem globals_interfaces : Line.globals false (is.flatMap (fun i => i.request.lines ++ [.blank]) ++ rest)
    = is.map (·.name) ++ Line.globals false rest := by
  induction is with
  | nil => rfl
  | cons i is ih =>
    rw [List.flatMap_cons, List.append_assoc, List.append_assoc, Interface.globals_lines]
    exact congrArg (i.name :: ·) ih

theorem namespaces_interfaces : Line.namespaces (is.flatMap (fun i => i.request.lines ++ [.blank]) ++ rest)
    = is.map (fun i => (i.name, i.declared.map (·.name))) ++ Line.namespaces rest := by
  induction is with
  | nil => rfl
  | cons i is ih =>
    rw [List.flatMap_cons, List.append_assoc, List.append_assoc, Interface.namespaces_lines]
    exact congrArg ((i.name, i.declared.map (·.name)) :: ·) ih

theorem functions_interfaces : Line.functions (is.flatMap fun i => i.request.lines ++ [.blank])
    = is.flatMap (·.declared) := by
  have hblock : ∀ i : Interface, Line.functions (i.request.lines ++ [.blank]) = i.declared := by
    intro i
    rw [Line.functions_append, Interface.functions_lines]
    exact List.append_nil _
  simp only [Line.functions] at hblock
  rw [Line.functions, List.filterMap_flatMap]
  simp only [hblock]

variable {t : Task}

/-- **The lines of a task open the scopes of the task.** -/
theorem Scopes.ofLines_lines : Scopes.ofLines (t.lines ++ [.blank]) = Scopes.ofTask t := by
  have hlines : t.lines ++ [.blank] = .support :: .blank
      :: (t.interfaces.flatMap (fun i => i.request.lines ++ [.blank]) ++ (t.driver.request.lines ++ [.blank])) := by
    rw [Task.lines, List.cons_append, List.cons_append, List.append_assoc]
  have hglobals : Line.globals false (t.lines ++ [.blank]) = (Scopes.ofTask t).globals := by
    rw [hlines, Line.globals, Line.globals, globals_interfaces, Driver.globals_lines]
    · exact congrArg _ (List.append_nil _)
    all_goals simp
  have hnamespaces : Line.namespaces (t.lines ++ [.blank]) = (Scopes.ofTask t).namespaces := by
    rw [hlines, Line.namespaces, Line.namespaces, namespaces_interfaces, Driver.namespaces_lines]
    · exact List.append_nil _
    all_goals simp
  have hfunctions : Line.functions (t.lines ++ [.blank]) = t.signatures := by
    rw [hlines, Line.functions, List.filterMap_cons_none rfl, List.filterMap_cons_none rfl, ← Line.functions,
      Line.functions_append, Line.functions_append, functions_interfaces, Driver.functions_lines]
    exact congrArg _ (List.append_nil _)
  rw [Scopes.ofLines, hglobals, hnamespaces, hfunctions, Scopes.ofTask]

/-- **A header shows the scopes of its task.** -/
theorem scopes?_cpp {text : String} (h : cpp t = .ok text) : scopes? text = some (Scopes.ofTask t) := by
  have hnames := isWord_of_cpp h
  obtain ⟨-, rfl⟩ := cpp_eq_ok_iff.1 h
  rw [scopes?, lines?_written hnames, Option.map_some, Scopes.ofLines_lines]

/-- A name that repeats at global scope is one of an interface and of a function of the driver. -/
theorem globals_nodup_iff (h : t.Valid) : (Scopes.ofTask t).globals.Nodup ↔
    ∀ i ∈ t.interfaces, ∀ f ∈ t.driver.functions, i.name ≠ f.name := by
  rw [Scopes.ofTask, List.nodup_append]
  simp only [List.forall_mem_map]
  constructor
  · rintro ⟨-, -, hdifferent⟩
    exact hdifferent
  · intro hdifferent
    exact ⟨h.interfaces_nodup, h.driver_nodup, hdifferent⟩

/-- **The header of an accepted task** declares each namespace once at global scope and each function of the driver
once; none of its namespaces and none of its lists of parameters repeats a name. So the only names that can clash are
those of an interface and of a function of the driver. -/
theorem scopes_of_accepted (t : Task) (h : t.validate.findings = []) :
    ∃ text scopes, cpp t = .ok text ∧ scopes? text = some scopes ∧
      scopes.globals = t.interfaces.map (·.name) ++ t.driver.functions.map (·.name) ∧
      (t.interfaces.map (·.name)).Nodup ∧ (t.driver.functions.map (·.name)).Nodup ∧
      (scopes.globals.Nodup ↔ ∀ i ∈ t.interfaces, ∀ f ∈ t.driver.functions, i.name ≠ f.name) ∧
      (∀ n ∈ scopes.namespaces, n.2.Nodup) ∧ ∀ ps ∈ scopes.parameters, ps.Nodup := by
  have hvalid := Task.valid_of_findings h
  have htext := cpp_of_valid hvalid
  refine ⟨_, _, htext, scopes?_cpp htext, rfl, hvalid.interfaces_nodup, hvalid.driver_nodup,
    globals_nodup_iff hvalid, ?_, ?_⟩
  · rw [Scopes.ofTask, List.forall_mem_map]
    exact hvalid.functions_nodup
  · rw [Scopes.ofTask, List.forall_mem_map]
    exact hvalid.parameters_nodup

/-- A task whose driver declares a function of a given name, beside an interface `solve`. -/
def besideSolve (function : String) : Task :=
  { name := "t"
    interfaces := [{ name := "solve", functions := [{ name := "run", parameters := [⟨"n", .ofScalar .int⟩] }] }]
    driver := { functions := [{ name := function }] } }

theorem scopes_of_accepted_samples :
    (besideSolve "run").validate.findings = [] ∧
      ∃ text scopes, cpp (besideSolve "run") = .ok text ∧ scopes? text = some scopes ∧
        scopes.globals = ["solve", "run"] ∧ scopes.globals.Nodup := by
  have haccepted : (besideSolve "run").validate.findings = [] := by decide +kernel
  obtain ⟨text, scopes, htext, hscopes, hglobals, -, -, hclash, -, -⟩ := scopes_of_accepted _ haccepted
  exact ⟨haccepted, text, scopes, htext, hscopes, hglobals, hclash.2 (by decide)⟩

/-- **An accepted task can clash**: validation compares an interface with the other interfaces and a function of the
driver with the other functions, but not the one with the other. -/
theorem globals_clash :
    (besideSolve "solve").validate.findings = [] ∧
      ∃ text scopes, cpp (besideSolve "solve") = .ok text ∧ scopes? text = some scopes ∧
        scopes.globals = ["solve", "solve"] ∧ ¬ scopes.globals.Nodup := by
  have haccepted : (besideSolve "solve").validate.findings = [] := by decide +kernel
  have htext := cpp_of_valid (Task.valid_of_findings haccepted)
  exact ⟨haccepted, _, _, htext, scopes?_cpp htext, rfl, by decide⟩

end Header

end TaskHeader
