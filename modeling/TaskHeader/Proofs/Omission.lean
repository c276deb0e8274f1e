import TaskHeader.Proofs.Removal
import TaskHeader.Proofs.Scope

/-!
# Leaving out an interface

A task without an interface has the header of the task without the block of the interface: nothing else in the text
depends on it (`Header.cpp_without`). The block can even be found in the text. It starts with the title of the
interface, a title is a whole line of the header (`title_of_suffix`), and a line of the header can only be found where it
stands (`written_split`). So the block of an interface that has its name for itself occurs once, and the header of the
task without it is what is left when the first occurrence is deleted.
-/

namespace TaskHeader

open Identifier

/-! ## Where lines occur -/

namespace Line

open Reader

/-- A text has one first line feed. -/
theorem eq_of_first_feed {as bs cs ds : List Char} (has : '\n' ∉ as) (hcs : '\n' ∉ cs)
    (h : as ++ '\n' :: bs = cs ++ '\n' :: ds) : as = cs ∧ bs = ds := by
  have hfirst : ∀ {es fs : List Char}, '\n' ∉ es →
      (es ++ '\n' :: fs).takeWhile (· != '\n') = es ∧ (es ++ '\n' :: fs).dropWhile (· != '\n') = '\n' :: fs := by
    intro es fs hes
    refine run_ends (fun c hc => ?_) (ends_at '\n' (by decide))
    rw [bne_iff_ne]
    rintro rfl
    exact hes hc
  obtain ⟨htake, hdrop⟩ := hfirst has
  obtain ⟨htake', hdrop'⟩ := hfirst hcs
  rw [h] at htake hdrop
  exact ⟨htake.symm.trans htake', List.tail_eq_of_cons_eq (hdrop.symm.trans hdrop')⟩

/-- The last line feed of a piece of text ends a line, by induction on the lines. -/
theorem written_split {ls : List Line} (hfeed : ∀ l ∈ ls, '\n' ∉ l.text.toList) {before piece after : List Char}
    (hpiece : '\n' ∉ piece) (h : (written ls).toList = before ++ (piece ++ '\n' :: after)) :
    ∃ earlier l later start, ls = earlier ++ l :: later ∧ before = (written earlier).toList ++ start ∧
      l.text.toList = start ++ piece := by
  induction ls generalizing before with
  | nil => simp at h
  | cons l ls ih =>
    obtain ⟨hl, hls⟩ := List.forall_mem_cons.1 hfeed
    have htext : (written (l :: ls)).toList = l.text.toList ++ '\n' :: (written ls).toList := by simp
    rw [htext] at h
    by_cases hbefore : '\n' ∈ before
    · obtain ⟨first, more, rfl, hfirst⟩ := List.eq_append_cons_of_mem hbefore
      rw [List.append_assoc, List.cons_append] at h
      obtain ⟨rfl, hmore⟩ := eq_of_first_feed hl hfirst h
      obtain ⟨earlier, k, later, start, rfl, rfl, hk⟩ := ih hls hmore
      refine ⟨l :: earlier, k, later, start, rfl, ?_, hk⟩
      simp
    · rw [← List.append_assoc] at h
      have hstart : '\n' ∉ before ++ piece := by simp [hbefore, hpiece]
      obtain ⟨hline, -⟩ := eq_of_first_feed hl hstart h
      exact ⟨[], l, ls, before, rfl, rfl, hline⟩

/-- The title of an interface: fixed words, the name, and the mark of the driver's side. -/
theorem toList_title (name : String) :
    (title (some name) true).text.toList
      = "// protocol: interface ".toList ++ (name.toList ++ " (driver)".toList) := by
  simp [subject, side]

/-- Names are followed by no blank, so the last word of two titles is the same if one ends with the other. -/
theorem title_inj {m n : String} (hm : IsWord m) (hn : IsWord n) {start : List Char}
    (h : (title (some m) true).text.toList = start ++ (title (some n) true).text.toList) : m = n ∧ start = [] := by
  rw [toList_title, toList_title, ← List.append_assoc, ← List.append_assoc, ← List.append_assoc] at h
  have hwords := congrArg List.reverse (List.append_cancel_right h)
  have hreverse : ∀ {name : String}, IsWord name → ∀ c ∈ name.toList.reverse, isTail c = true :=
    fun hname c hc => hname c (List.mem_reverse.1 hc)
  have hblank : ∀ rest : List Char, ∀ c, ("// protocol: interface ".toList.reverse ++ rest).head? = some c →
      isTail c = false := by
    rintro rest c ⟨⟩
    rfl
  rw [List.reverse_append, List.reverse_append, List.reverse_append] at hwords
  obtain ⟨htake, hdrop⟩ := run_ends (hreverse hm) (hblank [])
  obtain ⟨htake', hdrop'⟩ := run_ends (hreverse hn) (hblank start.reverse)
  rw [List.append_nil] at htake hdrop
  rw [hwords] at htake hdrop
  have hname := List.reverse_inj.1 (htake.symm.trans htake')
  have hstart := hdrop.symm.trans hdrop'
  refine ⟨String.toList_inj.1 hname, ?_⟩
  simpa using List.self_eq_append_right.1 hstart

/-- A line that ends with a title is the title. -/
theorem title_of_suffix {l : Line} (hl : ∀ n ∈ l.names, IsWord n) {name : String} (hname : IsWord name)
    {start : List Char} (h : l.text.toList = start ++ (title (some name) true).text.toList) :
    l = title (some name) true ∧ start = [] := by
  have hmem : ')' ∈ l.text.toList := by
    rw [h, toList_title]
    simp
  have hlast : l.text.toList.getLast? = some ')' := by
    rw [h, toList_title, List.getLast?_append, List.getLast?_append, List.getLast?_append]
    rfl
  have hnone : ∀ n ∈ l.names, ')' ∉ n.toList := fun n hn => not_mem_of_isWord (hl n hn) (by decide)
  cases l with
  | support => exact absurd hmem (by decide)
  | blank => exact absurd hmem (by decide)
  | title interfaceName driver =>
    cases interfaceName with
    | none =>
      cases driver with
      | false => exact absurd hmem (by decide)
      | true =>
        -- the title of the driver is too short
        have hlength := congrArg List.length h
        rw [toList_title] at hlength
        simp [subject, side] at hlength
        omega
    | some m =>
      cases driver with
      | false => exact absurd hmem (by simpa [subject, side] using hnone m (by simp [names]))
      | true =>
        obtain ⟨rfl, rfl⟩ := title_inj (hl m (by simp [names])) hname h
        exact ⟨rfl, rfl⟩
  | opening m => exact absurd hmem (by simpa using hnone m (by simp [names]))
  | heading indented callbacks => cases indented <;> cases callbacks <;> exact absurd hmem (by decide)
  | declaration indented linked f => simp at hlast
  | closing m => exact absurd hmem (by simpa using hnone m (by simp [names]))

end Line

/-! ## Where titles stand -/

theorem Line.title_not_mem_ofFunctions (interfaceName : Option String) (driver indented linked callbacks : Bool)
    (fs : List Signature) : title interfaceName driver ∉ ofFunctions indented linked callbacks fs := by
  cases fs <;> simp [ofFunctions]

/-- The title comes first in the block of an interface. -/
theorem Interface.lines_eq_cons {i : Interface} :
    i.request.lines = .title (some i.name) true :: i.request.lines.tail := by
  simp [lines_request]

theorem Interface.title_mem_iff {i : Interface} {name : String} :
    .title (some name) true ∈ i.request.lines ↔ name = i.name := by
  simp [lines_request, Line.title_not_mem_ofFunctions]

theorem Driver.title_not_mem {d : Driver} {name : String} : .title (some name) true ∉ d.request.lines := by
  simp [lines_request, Line.title_not_mem_ofFunctions]

namespace Header

variable {is before after : List Interface} {i : Interface} {name : String}

theorem title_not_mem_flatMap (h : ∀ i ∈ is, i.name ≠ name) :
    .title (some name) true ∉ is.flatMap fun i => i.request.lines ++ [.blank] := by
  simp only [List.mem_flatMap, List.mem_append, not_exists, not_and, not_or]
  intro i hi
  exact ⟨fun hmem => h i hi (Interface.title_mem_iff.1 hmem).symm, by simp⟩

/-- The lines before the block of an interface. -/
def linesBefore (is : List Interface) : List Line :=
  .support :: .blank :: is.flatMap fun i => i.request.lines ++ [.blank]

/-- The lines after the block of an interface. -/
def linesAfter (is : List Interface) (d : Driver) : List Line :=
  .blank :: (is.flatMap (fun i => i.request.lines ++ [.blank]) ++ d.request.lines)

theorem written_linesBefore (is : List Interface) :
    Line.written (linesBefore is) = preamble ++ String.join (is.map fun i => Line.written i.request.lines ++ "\n") :=
  written_interfaces is

theorem written_linesAfter (is : List Interface) (d : Driver) : Line.written (linesAfter is d)
    = "\n" ++ (String.join (is.map fun i => Line.written i.request.lines ++ "\n") ++ Line.written d.request.lines) := by
  rw [linesAfter, Line.written_cons, Line.written_append, join_interfaces]
  rfl

theorem title_not_mem_linesBefore (h : ∀ i ∈ is, i.name ≠ name) : .title (some name) true ∉ linesBefore is := by
  simp [linesBefore, -List.mem_flatMap, title_not_mem_flatMap h]

theorem title_not_mem_linesAfter (h : ∀ i ∈ is, i.name ≠ name) (d : Driver) :
    .title (some name) true ∉ linesAfter is d := by
  simp [linesAfter, -List.mem_flatMap, title_not_mem_flatMap h, Driver.title_not_mem]

variable {t : Task} {text : String}

/-- A header around the block of an interface. -/
theorem lines_split (hsplit : t.interfaces = before ++ i :: after) :
    t.lines = linesBefore before ++ (i.request.lines ++ linesAfter after t.driver) := by
  simp [Task.lines, linesBefore, linesAfter, hsplit]

/-- The title of an interface with a name of its own is one line of the header only. -/
theorem eq_linesBefore (hsplit : t.interfaces = before ++ i :: after) (hsole : ∀ j ∈ before ++ after, j.name ≠ i.name)
    {earlier later : List Line} (h : t.lines = earlier ++ .title (some i.name) true :: later) :
    earlier = linesBefore before := by
  obtain ⟨hbefore, hafter⟩ := List.forall_mem_append.1 hsole
  have htail : Line.title (some i.name) true ∉ i.request.lines.tail ++ linesAfter after t.driver := by
    simp [Interface.lines_request, Line.title_not_mem_ofFunctions, title_not_mem_linesAfter hafter]
  have hlines := lines_split hsplit
  rw [Interface.lines_eq_cons, List.cons_append, h] at hlines
  exact ((List.append_cons_inj_of_notMem (title_not_mem_linesBefore hbefore) htail).1 hlines.symm).1.symm

/-- **The block of an interface with a name of its own occurs once in a header.** -/
theorem eq_around_block_iff (h : cpp t = .ok text) (hsplit : t.interfaces = before ++ i :: after)
    (hsole : ∀ j ∈ before ++ after, j.name ≠ i.name) {p s : String} :
    text = p ++ Line.written i.request.lines ++ s ↔
      p = Line.written (linesBefore before) ∧ s = Line.written (linesAfter after t.driver) := by
  have hnames := isWord_of_cpp h
  have hfeed := fun l hl => Line.feed_not_mem_text (hnames l hl)
  obtain ⟨-, rfl⟩ := cpp_eq_ok_iff.1 h
  have hblock : Line.written t.lines = Line.written (linesBefore before) ++ Line.written i.request.lines
      ++ Line.written (linesAfter after t.driver) := by
    rw [lines_split hsplit, Line.written_append, Line.written_append, String.append_assoc]
  constructor
  · intro htext
    have htitle : Line.title (some i.name) true ∈ t.lines := by
      rw [lines_split hsplit, Interface.lines_eq_cons]
      simp
    have hname : Reader.IsWord i.name := hnames _ htitle i.name (by simp [Line.names])
    have hline : (Line.written t.lines).toList = p.toList ++ ((Line.title (some i.name) true).text.toList
        ++ '\n' :: ((Line.written i.request.lines.tail).toList ++ s.toList)) := by
      rw [htext, Interface.lines_eq_cons, Line.written_cons]
      simp [-Line.text_title]
    -- the title in the block ends a line of the header, so it is one
    obtain ⟨earlier, l, later, start, hlines, hstart, hl⟩ := Line.written_split hfeed (hfeed _ htitle) hline
    have hmem : l ∈ t.lines := by
      rw [hlines]
      simp
    obtain ⟨rfl, rfl⟩ := Line.title_of_suffix (hnames l hmem) hname hl
    obtain rfl := eq_linesBefore hsplit hsole hlines
    rw [List.append_nil] at hstart
    obtain rfl := String.toList_inj.1 hstart
    rw [hblock] at htext
    exact ⟨rfl, ((String.append_right_inj _).1 htext).symm⟩
  · rintro ⟨rfl, rfl⟩
    exact hblock

/-! ## The header without an interface -/

/-- The text without the first occurrence of a piece. -/
def withoutFirst (piece text : String) : String :=
  match text.toList.dropInfix? piece.toList with
  | some (before, after) => String.ofList (before ++ after)
  | none => text

/-- A piece that starts at one place only is deleted there. -/
theorem withoutFirst_eq {piece p s : String} (htext : text = p ++ piece ++ s)
    (hfirst : ∀ p' s', text = p' ++ piece ++ s' → p' = p) : withoutFirst piece text = p ++ s := by
  have hinfix : text.toList.dropInfix? piece.toList = some (p.toList, s.toList) := by
    rw [List.dropInfix?_eq_some_iff]
    refine ⟨⟨piece.toList, by simp [htext], by simp⟩, fun before piece' after h hpiece => ?_⟩
    obtain rfl := eq_of_beq hpiece
    have hplace : text = String.ofList before ++ piece ++ String.ofList after := by
      rw [← String.toList_inj, h]
      simp
    simp [← hfirst _ _ hplace]
  simp [withoutFirst, hinfix]

/-- The lines of a task without the only interface of its name. -/
theorem lines_without (hsplit : t.interfaces = before ++ i :: after) (hsole : ∀ j ∈ before ++ after, j.name ≠ i.name) :
    (t.without i.name).lines = linesBefore before ++ (linesAfter after t.driver).tail := by
  have hothers : (before ++ after).filter (·.name != i.name) = before ++ after :=
    List.filter_eq_self.2 fun j hj => bne_iff_ne.2 (hsole j hj)
  rw [List.filter_append] at hothers
  simp [Task.lines, Task.without, hsplit, hothers, linesBefore, linesAfter]

/-- What is left of a header when the first occurrence of the block and of a line feed after it is deleted. -/
theorem withoutFirst_block (h : cpp t = .ok text) (hsplit : t.interfaces = before ++ i :: after)
    (hsole : ∀ j ∈ before ++ after, j.name ≠ i.name) :
    withoutFirst (Line.written i.request.lines ++ "\n") text = Line.written (t.without i.name).lines := by
  have hblock := fun {p s} => eq_around_block_iff h hsplit hsole (p := p) (s := s)
  rw [lines_without hsplit hsole, Line.written_append]
  apply withoutFirst_eq
  · have hafter : Line.written (linesAfter after t.driver) = "\n" ++ Line.written (linesAfter after t.driver).tail :=
      Line.written_cons _ _
    rw [hblock.2 ⟨rfl, rfl⟩, hafter]
    simp only [String.append_assoc]
  · intro p s hp
    rw [String.append_assoc, String.append_assoc, ← String.append_assoc] at hp
    exact (hblock.1 hp).1

/-- Every name of a task without an interface is one of the task. -/
theorem mem_mentions_of_without {n : String} {m : Mention} (h : m ∈ (t.without n).mentions) : m ∈ t.mentions := by
  have hrequests : (requests (t.without n)).Sublist (requests t) :=
    ((t.without_partOf n).interfaces.map _).append (.refl _)
  exact (hrequests.flatMap _).subset h

/-- The blocks of a header that is rendered are the texts of their lines. -/
theorem block_of_cpp (h : cpp t = .ok text) {r : BlockRequest} (hr : r ∈ requests t) :
    Cpp.block r = .ok (Line.written r.lines) :=
  Cpp.block_eq_ok_iff.2 ⟨fun m hm => (cpp_eq_ok_iff.1 h).1 m (List.mem_flatMap.2 ⟨r, hr, hm⟩), rfl⟩

/-- **Without an interface a header lacks the blocks of its name, and nothing else changes.** A block of an interface
that has its name for itself occurs once in the header, where it was rendered, so the header without the interface is
what is left when the first occurrence of the block and its line feed is deleted. -/
theorem cpp_without (h : cpp t = .ok text) (n : String) :
    ∃ (block : Interface → String) (last : String),
      (∀ i ∈ t.interfaces, Cpp.block i.request = .ok (block i)) ∧ Cpp.block t.driver.request = .ok last ∧
        text = preamble ++ String.join (t.interfaces.map (block · ++ "\n")) ++ last ∧
        cpp (t.without n)
          = .ok (preamble ++ String.join ((t.interfaces.filter (·.name != n)).map (block · ++ "\n")) ++ last) ∧
        ∀ before i after, t.interfaces = before ++ i :: after → i.name = n → (∀ j ∈ before ++ after, j.name ≠ n) →
          cpp (t.without n) = .ok (withoutFirst (block i ++ "\n") text) ∧
            ∀ p s, text = p ++ block i ++ s ↔
              p = preamble ++ String.join (before.map (block · ++ "\n")) ∧
                s = "\n" ++ (String.join (after.map (block · ++ "\n")) ++ last) := by
  obtain ⟨husable, hlines⟩ := cpp_eq_ok_iff.1 h
  have hwithout : cpp (t.without n) = .ok (Line.written (t.without n).lines) :=
    cpp_eq_ok_iff.2 ⟨fun m hm => husable m (mem_mentions_of_without hm), rfl⟩
  refine ⟨fun i => Line.written i.request.lines, Line.written t.driver.request.lines, ?_, ?_, ?_, ?_, ?_⟩
  · intro i hi
    exact block_of_cpp h (List.mem_append_left _ (List.mem_map_of_mem hi))
  · exact block_of_cpp h (List.mem_append_right _ (List.mem_singleton.2 rfl))
  · exact hlines.symm.trans (written_lines t)
  · rw [hwithout, written_lines]
    rfl
  · rintro before i after hsplit rfl hsole
    rw [← written_linesBefore, ← written_linesAfter, withoutFirst_block h hsplit hsole]
    exact ⟨hwithout, fun p s => eq_around_block_iff h hsplit hsole⟩

/-- A task whose interfaces are named by parts of one another. -/
def nestedSample : Task :=
  { name := "t"
    interfaces := [{ name := "ab" }, { name := "b", functions := [{ name := "f" }] }, { name := "b_b" }]
    driver := { functions := [{ name := "a" }] } }

/-- The block of the interface `b`. -/
def nestedBlock : String :=
  "// protocol: interface b (driver)\n" ++
    "namespace b \x7b\n" ++
    "    // functions\n" ++
    "    extern void f();\n" ++
    "\x7d // namespace b\n"

/-- The header of the sample around a text in the place of the block. -/
def nestedText (middle : String) : String :=
  "#include \"support_proto.h\"\n" ++
    "\n" ++
    "// protocol: interface ab (driver)\n" ++
    "namespace ab \x7b\n" ++
    "\x7d // namespace ab\n" ++
    "\n" ++
    middle ++
    "// protocol: interface b_b (driver)\n" ++
    "namespace b_b \x7b\n" ++
    "\x7d // namespace b_b\n" ++
    "\n" ++
    "// protocol: driver\n" ++
    "// callbacks\n" ++
    "void a();\n"

theorem cpp_without_samples :
    cpp nestedSample = .ok (nestedText (nestedBlock ++ "\n")) ∧ cpp (nestedSample.without "b") = .ok (nestedText "") ∧
      withoutFirst (nestedBlock ++ "\n") (nestedText (nestedBlock ++ "\n")) = nestedText "" := by
  have htext : cpp nestedSample = .ok (nestedText (nestedBlock ++ "\n")) := by decide +kernel
  have hwithout : cpp (nestedSample.without "b") = .ok (nestedText "") := by decide +kernel
  let b : Interface := { name := "b", functions := [{ name := "f" }] }
  have hsplit : nestedSample.interfaces = [{ name := "ab" }] ++ b :: [{ name := "b_b" }] := by decide +kernel
  have hblock : Cpp.block b.request = .ok nestedBlock := by decide +kernel
  obtain ⟨block, last, hblocks, -, -, -, hone⟩ := cpp_without htext "b"
  obtain ⟨hcut, -⟩ := hone _ b _ hsplit rfl (by decide)
  have hb : block b = nestedBlock := Except.ok.inj ((hblocks b (by simp [hsplit])).symm.trans hblock)
  rw [hb, hwithout] at hcut
  exact ⟨htext, hwithout, (Except.ok.inj hcut).symm⟩

end Header

end TaskHeader
