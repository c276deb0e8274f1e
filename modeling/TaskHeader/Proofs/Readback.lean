import TaskHeader.Proofs.LineReader

/-!
# Reading headers

The text of a header is enough to tell which blocks were asked for. `Header.blocks?` cuts the text at the line feeds,
reads each line, cuts the lines at the blank ones and reads each part as a block:

* a part of lines is a block again (`BlockRequest.ofLines?_lines`), since only callbacks follow their heading;
* no line of a block is blank, so the parts are the blocks (`Task.splitOn_lines`);
* so a header that is rendered is read as the requests it was rendered from (`Header.blocks?_cpp`), and two tasks with
  one header differ at most in their names (`Header.cpp_faithful`).

A block alone is read in the same way, for requests that no header makes, too (`BlockRequest.read?_block`), so no two
requests have one block (`BlockRequest.block_injective`).
-/

namespace TaskHeader

open Identifier

/-! ## Blocks -/

namespace Line

/-- The function that a line declares. -/
def function? : Line → Option Signature
  | declaration _ _ f => some f
  | _ => none

/-- Whether callbacks follow. -/
def headsCallbacks : Line → Bool
  | heading _ callbacks => callbacks
  | _ => false

/-- The functions that lines declare, in order. -/
def functions (ls : List Line) : List Signature :=
  ls.filterMap function?

theorem functions_ofFunctions (indented linked callbacks : Bool) (fs : List Signature) :
    functions (ofFunctions indented linked callbacks fs) = fs := by
  cases fs with
  | nil => rfl
  | cons f fs =>
    have hdeclarations :=
      Reader.filterMap_map_eq_self (declaration indented linked) function? (fun _ => rfl) (f :: fs)
    rw [functions, ofFunctions, List.filterMap_cons_none rfl, hdeclarations]

/-- Lines that only name something declare no function. -/
theorem functions_map {line : String → Line} (h : ∀ name, (line name).function? = none) (names : List String) :
    functions (names.map line) = [] := by
  rw [functions, List.filterMap_eq_nil_iff, List.forall_mem_map]
  exact fun name _ => h name

theorem functions_append (as bs : List Line) : functions (as ++ bs) = functions as ++ functions bs := by
  simp [functions]

theorem headsCallbacks_ofFunctions (indented linked : Bool) (fs : List Signature) :
    ∀ l ∈ ofFunctions indented linked false fs, l.headsCallbacks = false := by
  cases fs with
  | nil => nofun
  | cons f fs => simp [ofFunctions, headsCallbacks]

/-- Lines are cut at the heading of the callbacks: the functions stand before it, and only callbacks follow. -/
theorem functions_cut {before last : List Line} (hbefore : ∀ l ∈ before, l.headsCallbacks = false)
    (hlast : functions last = []) (hheads : ∀ l ∈ last, l.headsCallbacks = false) (indented linked : Bool)
    (callbacks : List Signature) {ls : List Line}
    (hls : ls = before ++ (ofFunctions indented linked true callbacks ++ last)) :
    functions (ls.takeWhile (! ·.headsCallbacks)) = functions before
      ∧ functions (ls.dropWhile (! ·.headsCallbacks)) = callbacks := by
  subst hls
  have hends : ∀ ls rest : List Line, (∀ l ∈ ls, l.headsCallbacks = false) →
      (∀ l, rest.head? = some l → l.headsCallbacks = true) →
      (ls ++ rest).takeWhile (! ·.headsCallbacks) = ls ∧ (ls ++ rest).dropWhile (! ·.headsCallbacks) = rest := by
    intro ls rest hls hrest
    exact Reader.run_ends (fun l hl => by rw [hls l hl, Bool.not_false]) fun l hl => by rw [hrest l hl, Bool.not_true]
  cases callbacks with
  | nil =>
    obtain ⟨htake, hdrop⟩ := hends (before ++ last) [] (List.forall_mem_append.2 ⟨hbefore, hheads⟩) nofun
    rw [List.append_nil] at htake hdrop
    rw [ofFunctions, List.nil_append, htake, hdrop, functions_append, hlast, List.append_nil]
    exact ⟨rfl, rfl⟩
  | cons f callbacks =>
    have hheading : ∀ l, (ofFunctions indented linked true (f :: callbacks) ++ last).head? = some l →
        l.headsCallbacks = true := by
      rintro l ⟨⟩
      rfl
    obtain ⟨htake, hdrop⟩ := hends before _ hbefore hheading
    rw [htake, hdrop, functions_append, functions_ofFunctions, hlast, List.append_nil]
    exact ⟨rfl, rfl⟩

end Line

namespace BlockRequest

/-- Reads the lines of a block: the title, functions up to the heading of the callbacks, and callbacks. -/
def ofLines? : List Line → Option BlockRequest
  | .title interfaceName driver :: rest =>
    some
      { functions := Line.functions (rest.takeWhile (! ·.headsCallbacks))
        callbacks := Line.functions (rest.dropWhile (! ·.headsCallbacks))
        driver, interfaceName }
  | _ => none

/-- **The lines of a block are read as the block.** -/
theorem ofLines?_lines (r : BlockRequest) : ofLines? r.lines = some r := by
  obtain ⟨functions, callbacks, driver, interfaceName⟩ := r
  let start := interfaceName.toList.map Line.opening
  let fs := Line.ofFunctions interfaceName.isSome driver false functions
  let last := interfaceName.toList.map Line.closing
  have hbefore : ∀ l ∈ start ++ fs, l.headsCallbacks = false :=
    List.forall_mem_append.2 ⟨List.forall_mem_map.2 fun _ _ => rfl, Line.headsCallbacks_ofFunctions _ _ _⟩
  have hfunctions : Line.functions (start ++ fs) = functions := by
    rw [Line.functions_append, Line.functions_map (fun _ => rfl), Line.functions_ofFunctions, List.nil_append]
  have hlast : Line.functions last = [] := Line.functions_map (fun _ => rfl) _
  have hcut := Line.functions_cut hbefore hlast (List.forall_mem_map.2 fun _ _ => rfl) interfaceName.isSome false
    callbacks rfl
  have hlines : lines ⟨functions, callbacks, driver, interfaceName⟩ = .title interfaceName driver
      :: ((start ++ fs) ++ (Line.ofFunctions interfaceName.isSome false true callbacks ++ last)) := by
    simp only [lines, start, fs, last, List.append_assoc]
  rw [hlines, ofLines?, hcut.1, hcut.2, hfunctions]

theorem blank_not_mem_lines (r : BlockRequest) : .blank ∉ r.lines := by
  have hfunctions : ∀ (indented linked callbacks : Bool) (fs : List Signature),
      .blank ∉ Line.ofFunctions indented linked callbacks fs := by
    intro indented linked callbacks fs
    cases fs <;> simp [Line.ofFunctions]
  simp [lines, hfunctions]

end BlockRequest

/-! ## Headers -/

namespace Header

/-- The lines of a text; the last one follows the last line feed. -/
def lines? (text : String) : Option (List Line) :=
  (text.toList.splitOn '\n').mapM Line.read?

/-- A text of lines is cut at the line feeds that end them, by induction on the lines. -/
theorem splitOn_written {ls : List Line} (h : ∀ l ∈ ls, '\n' ∉ l.text.toList) :
    (Line.written ls).toList.splitOn '\n' = (ls ++ [Line.blank]).map (·.text.toList) := by
  induction ls with
  | nil => rfl
  | cons l ls ih =>
    have htext : (Line.written (l :: ls)).toList = l.text.toList ++ '\n' :: (Line.written ls).toList := by
      simp
    rw [htext, List.splitOn_append_cons_self_of_not_mem (h l List.mem_cons_self),
      ih fun k hk => h k (List.mem_cons_of_mem l hk)]
    rfl

theorem lines?_written {ls : List Line} (h : ∀ l ∈ ls, ∀ n ∈ l.names, Reader.IsWord n) :
    lines? (Line.written ls) = some (ls ++ [.blank]) := by
  rw [lines?, splitOn_written fun l hl => Line.feed_not_mem_text (h l hl)]
  apply Reader.mapM_map_eq_some
  intro l hl
  rcases List.mem_append.1 hl with hl | hl
  · exact Line.read?_text (h l hl)
  · rw [List.mem_singleton.1 hl]
    rfl

end Header

/-- **The parts between the blank lines are the blocks**, after the support line and before the end of the text. -/
theorem Task.splitOn_lines (t : Task) :
    (t.lines ++ [Line.blank]).splitOn Line.blank = [.support] :: ((Header.requests t).map (·.lines) ++ [[]]) := by
  have hblocks : ∀ (is : List Interface) (ls : List Line),
      (is.flatMap (fun i => i.request.lines ++ [Line.blank]) ++ ls).splitOn Line.blank
        = is.map (·.request.lines) ++ ls.splitOn .blank := by
    intro is ls
    induction is with
    | nil => rfl
    | cons i is ih =>
      simp only [List.flatMap_cons, List.append_assoc, List.cons_append, List.nil_append, List.map_cons]
      rw [List.splitOn_append_cons_self_of_not_mem (BlockRequest.blank_not_mem_lines _), ih]
  have hend : (t.driver.request.lines ++ [Line.blank]).splitOn Line.blank = [t.driver.request.lines, []] := by
    rw [List.splitOn_append_cons_self_of_not_mem (BlockRequest.blank_not_mem_lines _), List.splitOn_nil]
  have hlines : t.lines ++ [Line.blank] = [.support] ++ .blank
      :: (t.interfaces.flatMap (fun i => i.request.lines ++ [.blank]) ++ (t.driver.request.lines ++ [.blank])) := by
    simp [Task.lines]
  rw [hlines, List.splitOn_append_cons_self_of_not_mem (by decide), hblocks, hend]
  simp [Header.requests]

namespace Header

/-- The blocks of a text: the parts between blank lines that have a title. -/
def blocks? (text : String) : Option (List BlockRequest) :=
  (lines? text).map fun ls => (ls.splitOn .blank).filterMap BlockRequest.ofLines?

/-- The names in a header that is rendered are made of the characters of names. -/
theorem isWord_of_cpp {t : Task} {text : String} (h : cpp t = .ok text) :
    ∀ l ∈ t.lines, ∀ n ∈ l.names, Reader.IsWord n :=
  Task.names_lines fun m hm => usable_chars ((cpp_eq_ok_iff.1 h).1 m hm)

/-- **A header is read as the requests it was rendered from.** -/
theorem blocks?_cpp {t : Task} {text : String} (h : cpp t = .ok text) : blocks? text = some (requests t) := by
  have hnames := isWord_of_cpp h
  obtain ⟨-, rfl⟩ := cpp_eq_ok_iff.1 h
  have hread := Reader.filterMap_map_eq_self (·.lines) BlockRequest.ofLines? BlockRequest.ofLines?_lines (requests t)
  rw [blocks?, lines?_written hnames, Option.map_some, Task.splitOn_lines, List.filterMap_cons_none rfl,
    List.filterMap_append, hread]
  simp [BlockRequest.ofLines?]

/-- The interface that a block is for. -/
def interface? (r : BlockRequest) : Option Interface :=
  r.interfaceName.map fun name => ⟨name, r.functions, r.callbacks⟩

/-- Reads the interfaces and the driver, whose block is the last one. -/
def read? (text : String) : Option (List Interface × Driver) :=
  (blocks? text).bind fun rs => rs.getLast?.map fun r => (rs.dropLast.filterMap interface?, ⟨r.callbacks⟩)

theorem read?_cpp {t : Task} {text : String} (h : cpp t = .ok text) : read? text = some (t.interfaces, t.driver) := by
  have hinterfaces := Reader.filterMap_map_eq_self Interface.request interface? (fun _ => rfl) t.interfaces
  rw [read?, blocks?_cpp h, requests, Option.bind_some, List.getLast?_concat, List.dropLast_concat, hinterfaces]
  rfl

/-- **The header is a faithful encoding.** The text alone gives back the interfaces and the driver, so two tasks with
one header differ at most in their names. -/
theorem cpp_faithful :
    (∀ (t : Task) (text : String), cpp t = .ok text → read? text = some (t.interfaces, t.driver)) ∧
      ∀ (t₁ t₂ : Task) (text : String), cpp t₁ = .ok text → cpp t₂ = .ok text →
        t₁.interfaces = t₂.interfaces ∧ t₁.driver = t₂.driver := by
  refine ⟨fun t text h => read?_cpp h, fun t₁ t₂ text h₁ h₂ => ?_⟩
  have hsame : some (t₁.interfaces, t₁.driver) = some (t₂.interfaces, t₂.driver) :=
    (read?_cpp h₁).symm.trans (read?_cpp h₂)
  exact Prod.mk.inj (Option.some.inj hsame)

/-- A task whose names look like the text around them. -/
def encodedSample (name : String) : Task :=
  { name
    interfaces :=
      [{ name := "driver"
         functions :=
           [{ name := "int64_t", parameters := [⟨"protocol", .array .int64 2⟩, ⟨"functions", .ofScalar .bool⟩],
              returns := some .int }]
         callbacks := [{ name := "callbacks" }] }]
    driver := { functions := [{ name := "interface" }] } }

/-- The header of the sample, whatever its name. -/
def encodedText : String :=
  "#include \"support_proto.h\"\n" ++
    "\n" ++
    "// protocol: interface driver (driver)\n" ++
    "namespace driver \x7b\n" ++
    "    // functions\n" ++
    "    extern int int64_t(int64_t **protocol, bool functions);\n" ++
    "    // callbacks\n" ++
    "    void callbacks();\n" ++
    "\x7d // namespace driver\n" ++
    "\n" ++
    "// protocol: driver\n" ++
    "// callbacks\n" ++
    "void interface();\n"

theorem cpp_faithful_samples :
    cpp (encodedSample "a") = .ok encodedText ∧ cpp (encodedSample "b") = .ok encodedText ∧
      read? encodedText = some ((encodedSample "a").interfaces, (encodedSample "a").driver) ∧
      (encodedSample "a").interfaces = (encodedSample "b").interfaces ∧
      (encodedSample "a").driver = (encodedSample "b").driver := by
  have husable : ∀ m ∈ (encodedSample "a").mentions, usable m.name = true := by decide +kernel
  have htext : Line.written (encodedSample "a").lines = encodedText := by decide +kernel
  have ha : cpp (encodedSample "a") = .ok encodedText := cpp_eq_ok_iff.2 ⟨husable, htext⟩
  have hb : cpp (encodedSample "b") = .ok encodedText := cpp_eq_ok_iff.2 ⟨husable, htext⟩
  exact ⟨ha, hb, cpp_faithful.1 _ _ ha, cpp_faithful.2 _ _ _ ha hb⟩

end Header

/-! ## Blocks alone -/

namespace BlockRequest

/-- Reads the text of one block. -/
def read? (text : String) : Option BlockRequest :=
  (Header.lines? text).bind fun ls => ofLines? ls.dropLast

/-- **A block is read as the request it was rendered from.** -/
theorem read?_block {r : BlockRequest} {text : String} (h : Cpp.block r = .ok text) : read? text = some r := by
  obtain ⟨husable, rfl⟩ := Cpp.block_eq_ok_iff.1 h
  have hnames : ∀ l ∈ r.lines, ∀ n ∈ l.names, Reader.IsWord n := names_lines fun m hm => usable_chars (husable m hm)
  rw [read?, Header.lines?_written hnames, Option.bind_some, List.dropLast_concat, ofLines?_lines]

/-- **A block determines its request**, whichever of the name, the flag and the lists the request has: the text alone
gives back all of it, so two requests with one block are equal. -/
theorem block_injective :
    (∀ (r : BlockRequest) (text : String), Cpp.block r = .ok text → read? text = some r) ∧
      ∀ (r₁ r₂ : BlockRequest) (text : String), Cpp.block r₁ = .ok text → Cpp.block r₂ = .ok text → r₁ = r₂ := by
  refine ⟨fun r text h => read?_block h, fun r₁ r₂ text h₁ h₂ => ?_⟩
  have hsame : some r₁ = some r₂ := (read?_block h₁).symm.trans (read?_block h₂)
  exact Option.some.inj hsame

/-- Functions with the words of blocks for names, in a block of any kind. -/
def wordySample (driver : Bool) (interfaceName : Option String) : BlockRequest :=
  { functions := [{ name := "callbacks", parameters := [⟨"extern_", .array .int 1⟩] }]
    callbacks := [{ name := "functions", returns := some .bool }]
    driver, interfaceName }

/-- The block of an interface that is not on the driver's side. -/
def namedText : String :=
  "// protocol: interface driver\n" ++
    "namespace driver \x7b\n" ++
    "    // functions\n" ++
    "    void callbacks(int *extern_);\n" ++
    "    // callbacks\n" ++
    "    bool functions();\n" ++
    "\x7d // namespace driver\n"

/-- The block of the driver's side without an interface. -/
def unnamedText : String :=
  "// protocol: driver (driver)\n" ++
    "// functions\n" ++
    "extern void callbacks(int *extern_);\n" ++
    "// callbacks\n" ++
    "bool functions();\n"

theorem block_injective_samples :
    Cpp.block (wordySample false (some "driver")) = .ok namedText ∧
      read? namedText = some (wordySample false (some "driver")) ∧
      Cpp.block (wordySample true none) = .ok unnamedText ∧ read? unnamedText = some (wordySample true none) ∧
      wordySample true none = { wordySample false (some "driver") with driver := true, interfaceName := none } := by
  have husable : ∀ m ∈ (wordySample false (some "driver")).mentions, usable m.name = true := by decide +kernel
  have husable' : ∀ m ∈ (wordySample true none).mentions, usable m.name = true := by decide +kernel
  have hnamed : Cpp.block (wordySample false (some "driver")) = .ok namedText :=
    Cpp.block_eq_ok_iff.2 ⟨husable, by decide +kernel⟩
  have hunnamed : Cpp.block (wordySample true none) = .ok unnamedText :=
    Cpp.block_eq_ok_iff.2 ⟨husable', by decide +kernel⟩
  have hother : Cpp.block { wordySample false (some "driver") with driver := true, interfaceName := none }
      = .ok unnamedText :=
    Cpp.block_eq_ok_iff.2 ⟨husable', by decide +kernel⟩
  exact ⟨hnamed, block_injective.1 _ _ hnamed, hunnamed, block_injective.1 _ _ hunnamed,
    block_injective.2 _ _ _ hunnamed hother⟩

end BlockRequest

end TaskHeader
