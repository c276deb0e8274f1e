import TaskHeader.Proofs.LineReader
import TaskHeader.Proofs.Recording

/-!
# Reading recorded headers

A marker tells of a block its side, its interface and the names of its functions (`Outline`), and nothing else. When the
names are spelled like identifiers, none of them holds a blank, a comma or a bracket, and none is empty:

* so the line of a marker is cut at the blanks into its words, and a list of names at the commas, and reading a line
  undoes writing it (`Outline.read?_line`);
* no line holds a line feed, so a recorded header is cut into its lines and read as the outlines of its blocks
  (`Header.outlines_markers`);
* so two recorded headers are one text if and only if the tasks have the same names (`Header.recorded_text_eq_iff`).
-/

namespace TaskHeader

open Identifier

/-! ## Outlines -/

/-- What a marker tells of a block. -/
structure Outline where
  driver : Bool
  interfaceName : Option String
  functions : List String
  callbacks : List String
  deriving DecidableEq, Repr

/-- The outline of a block. -/
def BlockRequest.outline (r : BlockRequest) : Outline :=
  ⟨r.driver, r.interfaceName, Recorder.names r.functions, Recorder.names r.callbacks⟩

namespace Outline

/-- The words of a marker. -/
def words (o : Outline) : List String :=
  ["<block", "driver=" ++ (if o.driver then "true" else "false"), "name=" ++ o.interfaceName.getD "-",
    "functions=[" ++ ",".intercalate o.functions ++ "]", "callbacks=[" ++ ",".intercalate o.callbacks ++ "]>"]

/-- The line of a marker: its words with blanks between them. -/
def line (o : Outline) : String :=
  " ".intercalate o.words

/-- A marker is the line of its outline. -/
theorem marker_eq (r : BlockRequest) : Recorder.marker r = r.outline.line ++ "\n" := by
  have hdriver : "<block driver=" = "<block" ++ " " ++ "driver=" := by decide
  have hname : " name=" = " " ++ "name=" := by decide
  have hfunctions : " functions=[" = " " ++ "functions=[" := by decide
  have hcallbacks : "] callbacks=[" = "]" ++ " " ++ "callbacks=[" := by decide
  have hend : "]>\n" = "]>" ++ "\n" := by decide
  show Recorder.marker r
    = line ⟨r.driver, r.interfaceName, Recorder.names r.functions, Recorder.names r.callbacks⟩ ++ "\n"
  unfold Recorder.marker line words
  simp only [hdriver, hname, hfunctions, hcallbacks, hend, String.intercalate_cons_cons, String.intercalate_singleton,
    String.append_assoc]

/-- All names in an outline are spelled like identifiers. -/
structure Spelled (o : Outline) : Prop where
  interfaceName : ∀ n, o.interfaceName = some n → spelled n = true
  functions : ∀ n ∈ o.functions, spelled n = true
  callbacks : ∀ n ∈ o.callbacks, spelled n = true

/-! ## Lists of names -/

/-- A character that neither the pieces of a text have nor what stands between them is not in the text. -/
theorem not_mem_intercalate {c : Char} {sep : List Char} {ws : List (List Char)} (hsep : c ∉ sep)
    (h : ∀ w ∈ ws, c ∉ w) : c ∉ sep.intercalate ws := by
  induction ws with
  | nil => simp
  | cons w ws ih =>
    rw [List.forall_mem_cons] at h
    cases ws with
    | nil => simpa using h.1
    | cons v ws =>
      rw [List.intercalate_cons_cons, List.mem_append, List.mem_append]
      rintro ((hc | hc) | hc)
      · exact h.1 hc
      · exact hsep hc
      · exact ih h.2 hc

theorem toList_commas (ns : List String) : (",".intercalate ns).toList = [','].intercalate (ns.map String.toList) := by
  rw [String.toList_intercalate]
  rfl

theorem not_mem_of_spelled {n : String} (h : spelled n = true) {c : Char} (hc : isTail c = false) : c ∉ n.toList :=
  Reader.not_mem_of_isWord (spelled_chars h) hc

/-- Names and the commas between them have no other characters. -/
theorem not_mem_commas {ns : List String} (h : ∀ n ∈ ns, spelled n = true) {c : Char} (htail : isTail c = false)
    (hcomma : c ≠ ',') : c ∉ (",".intercalate ns).toList := by
  rw [toList_commas]
  refine not_mem_intercalate (by simpa using hcomma) ?_
  rw [List.forall_mem_map]
  exact fun n hn => not_mem_of_spelled (h n hn) htail

/-- The names between a start and a bracket. -/
def namesAfter (start : String) (cs : List Char) : List String :=
  let inner := (cs.drop start.toList.length).takeWhile (· != ']')
  if inner = [] then [] else (inner.splitOn ',').map String.ofList

/-- Names are read up to the bracket; since none is empty, nothing before it is no name at all. -/
theorem namesAfter_commas {ns : List String} (h : ∀ n ∈ ns, spelled n = true) (start : String) (rest : List Char) :
    namesAfter start ((start ++ ",".intercalate ns).toList ++ ']' :: rest) = ns := by
  have hbracket : ∀ c ∈ (",".intercalate ns).toList, (c != ']') = true := by
    intro c hc
    rw [bne_iff_ne]
    rintro rfl
    exact not_mem_commas h (by decide) (by decide) hc
  rw [namesAfter, String.toList_append, List.append_assoc, List.drop_left,
    (Reader.run_ends hbracket (Reader.ends_at ']' (by decide))).1]
  cases ns with
  | nil => rfl
  | cons n ns =>
    have hne : (",".intercalate (n :: ns)).toList ≠ [] := by
      have hn : n ≠ "" := by
        rintro rfl
        exact absurd (h "" List.mem_cons_self) (by decide)
      cases ns <;> simp [String.intercalate_cons_cons, hn]
    have hcommas : ∀ w ∈ (n :: ns).map String.toList, ',' ∉ w := by
      rw [List.forall_mem_map]
      exact fun m hm => not_mem_of_spelled (h m hm) (by decide)
    rw [if_neg hne, toList_commas, List.splitOn_intercalate ',' hcommas (List.cons_ne_nil _ _), List.map_map]
    simp [Function.comp_def]

/-! ## Lines -/

/-- The interface that a word names; a dash stands for none. -/
def interfaceName? (cs : List Char) : Option String :=
  let name := String.ofList (cs.drop "name=".toList.length)
  if name = "-" then none else some name

/-- Reads the line of a marker by its words. -/
def read? (cs : List Char) : Option Outline :=
  match cs.splitOn ' ' with
  | [_, side, name, functions, callbacks] =>
    some
      { driver := side == "driver=true".toList
        interfaceName := interfaceName? name
        functions := namesAfter "functions=[" functions
        callbacks := namesAfter "callbacks=[" callbacks }
  | _ => none

/-- No word of a marker holds a blank or a line feed. -/
theorem not_mem_words {o : Outline} (h : o.Spelled) {c : Char} (hc : c = ' ' ∨ c = '\n') :
    ∀ w ∈ o.words.map String.toList, c ∉ w := by
  have hfixed : ∀ s ∈ ["<block", "driver=", "true", "false", "name=", "-", "functions=[", "]", "callbacks=[", "]>"],
      c ∉ s.toList := by
    rcases hc with rfl | rfl <;> decide
  have htail : isTail c = false := by rcases hc with rfl | rfl <;> decide
  have hcomma : c ≠ ',' := by rcases hc with rfl | rfl <;> decide
  have hside : c ∉ (if o.driver then "true" else "false").toList := by
    cases o.driver <;> exact hfixed _ (by decide)
  have hname : c ∉ (o.interfaceName.getD "-").toList := by
    cases hinterface : o.interfaceName with
    | none => exact hfixed _ (by decide)
    | some n => exact not_mem_of_spelled (h.interfaceName n hinterface) htail
  simp only [words, List.forall_mem_map, List.forall_mem_cons, String.toList_append, List.mem_append, not_or]
  exact ⟨hfixed _ (by decide), ⟨hfixed _ (by decide), hside⟩, ⟨hfixed _ (by decide), hname⟩,
    ⟨⟨hfixed _ (by decide), not_mem_commas h.functions htail hcomma⟩, hfixed _ (by decide)⟩,
    ⟨⟨hfixed _ (by decide), not_mem_commas h.callbacks htail hcomma⟩, hfixed _ (by decide)⟩, nofun⟩

theorem toList_line (o : Outline) : o.line.toList = [' '].intercalate (o.words.map String.toList) := by
  rw [line, String.toList_intercalate]
  rfl

/-- A marker is one line. -/
theorem feed_not_mem_line {o : Outline} (h : o.Spelled) : '\n' ∉ o.line.toList := by
  rw [toList_line]
  exact not_mem_intercalate (by decide) (not_mem_words h (.inr rfl))

/-- A dash is no identifier, so no interface is read as none. -/
theorem interfaceName?_name {o : Outline} (h : o.Spelled) :
    interfaceName? ("name=" ++ o.interfaceName.getD "-").toList = o.interfaceName := by
  rw [interfaceName?, String.toList_append, List.drop_left, String.ofList_toList]
  cases hinterface : o.interfaceName with
  | none => rfl
  | some n =>
    have hdash : n ≠ "-" := by
      rintro rfl
      exact absurd (h.interfaceName "-" hinterface) (by decide)
    exact if_neg hdash

/-- **Reading the line of a marker undoes writing it.** -/
theorem read?_line {o : Outline} (h : o.Spelled) : read? o.line.toList = some o := by
  have hwords : o.line.toList.splitOn ' ' = o.words.map String.toList := by
    rw [toList_line]
    exact List.splitOn_intercalate ' ' (not_mem_words h (.inl rfl)) (by simp [words])
  have hside : (("driver=" ++ (if o.driver then "true" else "false")).toList == "driver=true".toList) = o.driver := by
    cases o.driver <;> decide
  have hfunctions : namesAfter "functions=[" ("functions=[" ++ ",".intercalate o.functions ++ "]").toList
      = o.functions := by
    rw [String.toList_append]
    exact namesAfter_commas h.functions "functions=[" []
  have hcallbacks : namesAfter "callbacks=[" ("callbacks=[" ++ ",".intercalate o.callbacks ++ "]>").toList
      = o.callbacks := by
    rw [String.toList_append]
    exact namesAfter_commas h.callbacks "callbacks=[" ['>']
  rw [read?, hwords]
  simp only [words, List.map_cons, List.map_nil, hside, interfaceName?_name h, hfunctions, hcallbacks]

end Outline

/-! ## Headers -/

/-- The names of a task, except those of parameters, are spelled like identifiers. -/
structure Task.Spelled (t : Task) : Prop where
  interfaces : ∀ i ∈ t.interfaces, spelled i.name = true
  functions : ∀ i ∈ t.interfaces, ∀ f ∈ i.functions, spelled f.name = true
  callbacks : ∀ i ∈ t.interfaces, ∀ f ∈ i.callbacks, spelled f.name = true
  driver : ∀ f ∈ t.driver.functions, spelled f.name = true

theorem Task.Spelled.interface {t : Task} (h : t.Spelled) {i : Interface} (hi : i ∈ t.interfaces) :
    i.request.outline.Spelled where
  interfaceName := by
    rintro n ⟨⟩
    exact h.interfaces i hi
  functions := List.forall_mem_map.2 (h.functions i hi)
  callbacks := List.forall_mem_map.2 (h.callbacks i hi)

theorem Task.Spelled.driverBlock {t : Task} (h : t.Spelled) : t.driver.request.outline.Spelled where
  interfaceName := nofun
  functions := nofun
  callbacks := List.forall_mem_map.2 h.driver

namespace Header

/-- The lines of recorded blocks, with an empty one after each. -/
def markerLines (rs : List BlockRequest) : List String :=
  rs.flatMap fun r => [r.outline.line, ""]

/-- Blocks are their lines, by induction on the blocks: the line feed of a marker and the one after the block make an
empty line. -/
theorem intercalate_markers (rs : List BlockRequest) :
    "\n".intercalate (rs.map Recorder.marker) = "\n".intercalate (markerLines rs) := by
  induction rs with
  | nil => rfl
  | cons r rs ih =>
    cases rs with
    | nil => simp [markerLines, Outline.marker_eq, String.intercalate_cons_cons]
    | cons q rs =>
      have hne : markerLines (q :: rs) ≠ [] := by simp [markerLines]
      have hlines : markerLines (r :: q :: rs) = r.outline.line :: "" :: markerLines (q :: rs) := rfl
      rw [List.map_cons, String.intercalate_cons_of_ne_nil (by simp), ih, hlines, String.intercalate_cons_cons,
        String.intercalate_cons_of_ne_nil hne, Outline.marker_eq, String.empty_append]
      simp only [String.append_assoc]

/-- A recorded header is the text of its lines. -/
theorem toList_ofBlocks_markers {rs : List BlockRequest} (hrs : rs ≠ []) :
    (ofBlocks (rs.map Recorder.marker)).toList
      = ['\n'].intercalate (("#include \"support_proto.h\"" :: "" :: markerLines rs).map String.toList) := by
  have hne : markerLines rs ≠ [] := by
    obtain ⟨r, rs, rfl⟩ := List.exists_cons_of_ne_nil hrs
    exact List.cons_ne_nil _ _
  have hpreamble : preamble = "#include \"support_proto.h\"" ++ "\n" ++ ("" ++ "\n") := by decide
  have hlines : ofBlocks (rs.map Recorder.marker)
      = "\n".intercalate ("#include \"support_proto.h\"" :: "" :: markerLines rs) := by
    rw [ofBlocks, intercalate_markers, hpreamble, String.intercalate_cons_cons, String.intercalate_cons_of_ne_nil hne]
    simp only [String.append_assoc]
  rw [hlines, String.toList_intercalate]
  rfl

/-- The outlines that the lines of a text tell. -/
def outlines (text : String) : List Outline :=
  (text.toList.splitOn '\n').filterMap Outline.read?

/-- The lines of markers tell their outlines and the empty lines nothing, by induction on the blocks. -/
theorem filterMap_markerLines {rs : List BlockRequest} (h : ∀ r ∈ rs, r.outline.Spelled) :
    ((markerLines rs).map String.toList).filterMap Outline.read? = rs.map (·.outline) := by
  induction rs with
  | nil => rfl
  | cons r rs ih =>
    have hlines : (markerLines (r :: rs)).map String.toList
        = r.outline.line.toList :: [] :: (markerLines rs).map String.toList := rfl
    rw [hlines, List.filterMap_cons_some (Outline.read?_line (h r List.mem_cons_self)),
      List.filterMap_cons_none (by decide), ih fun q hq => h q (List.mem_cons_of_mem r hq)]
    rfl

/-- **A recorded header is read as the outlines of its blocks.** -/
theorem outlines_markers {rs : List BlockRequest} (hrs : rs ≠ []) (h : ∀ r ∈ rs, r.outline.Spelled) :
    outlines (ofBlocks (rs.map Recorder.marker)) = rs.map (·.outline) := by
  have hfeeds : ∀ w ∈ ("#include \"support_proto.h\"" :: "" :: markerLines rs).map String.toList, '\n' ∉ w := by
    simp only [List.forall_mem_map, List.forall_mem_cons, markerLines, List.forall_mem_flatMap]
    exact ⟨by decide, by decide, fun r hr => ⟨Outline.feed_not_mem_line (h r hr), by decide, nofun⟩⟩
  rw [outlines, toList_ofBlocks_markers hrs, List.splitOn_intercalate '\n' hfeeds (List.cons_ne_nil _ _), List.map_cons,
    List.map_cons, List.filterMap_cons_none (by decide), List.filterMap_cons_none (by decide), filterMap_markerLines h]

end Header

/-! ## Tasks with the same names -/

/-- Two interfaces have one name, and functions and callbacks of the same names in the same order. -/
structure Interface.SameNames (i j : Interface) : Prop where
  name : i.name = j.name
  functions : Recorder.names i.functions = Recorder.names j.functions
  callbacks : Recorder.names i.callbacks = Recorder.names j.callbacks

/-- Two tasks have interfaces of the same names in the same order, and so have their drivers functions. -/
structure Task.SameNames (t₁ t₂ : Task) : Prop where
  interfaces : List.Forall₂ Interface.SameNames t₁.interfaces t₂.interfaces
  driver : Recorder.names t₁.driver.functions = Recorder.names t₂.driver.functions

theorem Interface.sameNames_iff {i j : Interface} : i.SameNames j ↔ i.request.outline = j.request.outline := by
  simp only [BlockRequest.outline, Interface.request, Outline.mk.injEq, Option.some.injEq, true_and]
  exact ⟨fun h => ⟨h.name, h.functions, h.callbacks⟩, fun h => ⟨h.1, h.2.1, h.2.2⟩⟩

/-- Tasks have the same names if their blocks have the same outlines. -/
theorem Task.sameNames_iff {t₁ t₂ : Task} : t₁.SameNames t₂ ↔
    (Header.requests t₁).map (·.outline) = (Header.requests t₂).map (·.outline) := by
  have hinterfaces : List.Forall₂ Interface.SameNames t₁.interfaces t₂.interfaces ↔
      t₁.interfaces.map (·.request.outline) = t₂.interfaces.map (·.request.outline) := by
    have hnames : Interface.SameNames = fun i j => i.request.outline = j.request.outline :=
      funext₂ fun _ _ => propext Interface.sameNames_iff
    rw [← List.forall₂_eq_eq_eq, List.forall₂_map_left_iff, List.forall₂_map_right_iff, hnames]
  have hdriver : Recorder.names t₁.driver.functions = Recorder.names t₂.driver.functions ↔
      t₁.driver.request.outline = t₂.driver.request.outline := by
    simp [BlockRequest.outline, Driver.request]
  have hrequests : ∀ t : Task, (Header.requests t).map (·.outline)
      = (t.interfaces.map (·.request.outline)).concat t.driver.request.outline := by
    intro t
    simp [Header.requests]
  rw [hrequests, hrequests, List.concat_inj, ← hinterfaces, ← hdriver]
  exact ⟨fun h => ⟨h.interfaces, h.driver⟩, fun h => ⟨h.1, h.2⟩⟩

namespace Header

/-- A recorder that refuses nothing renders every task. -/
theorem render_unrefused (t : Task) (blocks : List BlockRequest) :
    (render Recorder.backend t { failOn := none, blocks }).outcome = .ok (ofBlocks ((requests t).map Recorder.marker)) :=
  (Recorder.render_whole fun i _ => (Option.some_ne_none i.name).symm).1

theorem outlines_requests {t : Task} (h : t.Spelled) :
    outlines (ofBlocks ((requests t).map Recorder.marker)) = (requests t).map (·.outline) := by
  apply outlines_markers
  · simp [requests]
  · simp only [requests, List.forall_mem_append, List.forall_mem_map, List.forall_mem_singleton]
    exact ⟨fun i hi => h.interface hi, h.driverBlock⟩

/-- Markers tell no more than outlines. -/
theorem markers_eq (rs : List BlockRequest) :
    rs.map Recorder.marker = (rs.map (·.outline)).map fun o => o.line ++ "\n" := by
  rw [List.map_map]
  exact List.map_congr_left fun r _ => Outline.marker_eq r

/-- **Recorded headers can be compared as texts**: with names that are spelled like identifiers, the headers of two tasks
are one text if and only if the tasks have the same names. -/
theorem recorded_text_eq_iff {t₁ t₂ : Task} (h₁ : t₁.Spelled) (h₂ : t₂.Spelled) (blocks₁ blocks₂ : List BlockRequest) :
    ∃ text₁ text₂, (render Recorder.backend t₁ { failOn := none, blocks := blocks₁ }).outcome = .ok text₁ ∧
      (render Recorder.backend t₂ { failOn := none, blocks := blocks₂ }).outcome = .ok text₂ ∧
      (text₁ = text₂ ↔ t₁.SameNames t₂) := by
  refine ⟨_, _, render_unrefused t₁ blocks₁, render_unrefused t₂ blocks₂, ?_⟩
  rw [Task.sameNames_iff]
  constructor
  · intro htext
    rw [← outlines_requests h₁, ← outlines_requests h₂, htext]
  · intro houtlines
    rw [markers_eq, markers_eq, houtlines]

/-- A task with one interface and a driver function, named by words of markers. -/
def outlinedSample (functions callbacks : List Signature) : Task :=
  { name := "t", interfaces := [⟨"driver", functions, callbacks⟩], driver := { functions := [{ name := "name" }] } }

/-- A function with a parameter and a return type. -/
def typedSample (name : String) : Signature :=
  { name, parameters := [⟨"n", .array .int 2⟩], returns := some .bool }

/-- The recorded header of the sample around its lists of names. -/
def outlinedText (lists : String) : String :=
  "#include \"support_proto.h\"\n" ++
    "\n" ++
    "<block driver=true name=driver " ++ lists ++ ">\n" ++
    "\n" ++
    "<block driver=false name=- functions=[] callbacks=[name]>\n"

/-- Parameters and return types leave no trace in a recorded header; the list in which a function stands does. -/
theorem recorded_text_eq_iff_samples :
    (render Recorder.backend (outlinedSample [typedSample "a", { name := "b" }] []) {}).outcome
        = .ok (outlinedText "functions=[a,b] callbacks=[]") ∧
      (render Recorder.backend (outlinedSample [{ name := "a" }] [typedSample "b"]) {}).outcome
        = .ok (outlinedText "functions=[a] callbacks=[b]") ∧
      (outlinedSample [typedSample "a", { name := "b" }] []).SameNames
        (outlinedSample [{ name := "a" }, typedSample "b"] []) ∧
      ¬(outlinedSample [typedSample "a", { name := "b" }] []).SameNames
        (outlinedSample [{ name := "a" }] [typedSample "b"]) := by
  have h₁ : (outlinedSample [typedSample "a", { name := "b" }] []).Spelled := by
    constructor <;> decide +kernel
  have h₂ : (outlinedSample [{ name := "a" }, typedSample "b"] []).Spelled := by
    constructor <;> decide +kernel
  have h₃ : (outlinedSample [{ name := "a" }] [typedSample "b"]).Spelled := by
    constructor <;> decide +kernel
  obtain ⟨text₁, text₂, hrender₁, hrender₂, hsame⟩ := recorded_text_eq_iff h₁ h₂ [] []
  obtain ⟨text₁', text₃, hrender₁', hrender₃, hother⟩ := recorded_text_eq_iff h₁ h₃ [] []
  rw [render_unrefused] at hrender₁ hrender₂ hrender₁' hrender₃
  obtain rfl := Except.ok.inj hrender₁
  obtain rfl := Except.ok.inj hrender₂
  obtain rfl := Except.ok.inj hrender₁'
  obtain rfl := Except.ok.inj hrender₃
  refine ⟨?_, ?_, hsame.1 (by decide +kernel), mt hother.2 (by decide +kernel)⟩
  · exact (render_unrefused _ _).trans (congrArg Except.ok (by decide +kernel))
  · exact (render_unrefused _ _).trans (congrArg Except.ok (by decide +kernel))

end Header

end TaskHeader
