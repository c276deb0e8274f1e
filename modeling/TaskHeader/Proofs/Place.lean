import TaskHeader.FileSystem
import TaskHeader.Identifier

/-!
# Places of paths

In a tree without links a path leads to a place that the path alone decides (`place`), seen from the working directory:
an operation either fails or works at that place.

* `place_join`: a plain name below a directory leads one step further. A name that is not plain may lead elsewhere; one
  that starts with a slash takes the place of the directory.
* `makeFrom_kept`: making directories changes nothing but places on the way where nothing was.
* `write_cases`: writing a file changes the place of its path, or fails and changes nothing.
-/

namespace TaskHeader

namespace Path

/-- A name that is one part of a path and leads from a directory to a place in it. -/
structure Plain (name : String) : Prop where
  no_slash : '/' ∉ name.toList
  not_idle : isIdle name = false
  not_back : name ≠ ".."

theorem split_of_no_slash {cs : List Char} (h : '/' ∉ cs) : split cs = [cs] := by
  induction cs with
  | nil => rfl
  | cons c cs ih =>
    rw [List.mem_cons, not_or] at h
    rw [split, if_neg fun e => h.1 e.symm, ih h.2]

theorem split_ne_nil (cs : List Char) : split cs ≠ [] := by
  cases cs with
  | nil => exact List.cons_ne_nil _ _
  | cons c cs =>
    rw [split]
    split
    · exact List.cons_ne_nil _ _
    · split <;> exact List.cons_ne_nil _ _

/-- A slash ends a part. -/
theorem split_append (as bs : List Char) : split (as ++ '/' :: bs) = split as ++ split bs := by
  induction as with
  | nil => rfl
  | cons c as ih =>
    rw [List.cons_append, split, split, ih]
    split
    · rfl
    · obtain ⟨part, rest, hsplit⟩ := List.exists_cons_of_ne_nil (split_ne_nil as)
      rw [hsplit]
      rfl

theorem Plain.parts_eq {name : String} (h : Plain name) : parts name = [name] := by
  rw [parts, split_of_no_slash h.no_slash, List.map_singleton, String.ofList_toList]

theorem parts_ne_nil (path : String) : parts path ≠ [] := by
  rw [parts, ne_eq, List.map_eq_nil_iff]
  exact split_ne_nil path.toList

theorem Plain.not_absolute {name : String} (h : Plain name) : isAbsolute name = false :=
  beq_false_of_ne fun hslash => h.no_slash (List.mem_of_head? hslash)

end Path

/-- An identifier is a plain name. -/
theorem Identifier.Legal.plain {name : String} (h : Legal name) : Path.Plain name := by
  have husable := usable_iff_legal.2 h
  have hchars := usable_chars husable
  have hempty := ne_empty_of_usable husable
  have hdot : '.' ∉ name.toList := fun hmem => absurd (hchars '.' hmem) (by decide)
  have hsingle : name ≠ "." := by rintro rfl; exact hdot (by decide)
  refine ⟨fun hmem => absurd (hchars '/' hmem) (by decide), by simp [Path.isIdle, hempty, hsingle], ?_⟩
  rintro rfl
  exact hdot (by decide)

namespace FileSystem

open TaskHeader.Path (Plain)

/-! ## Where paths lead -/

/-- The place that a name leads to from a place if nothing is in the way. -/
def walk (here : Location) (name : String) : Location :=
  if Path.isIdle name then here else if name == ".." then here.dropLast else here ++ [name]

/-- The place where a path starts, seen from a directory. -/
def origin (base : Location) (path : String) : Location :=
  if Path.isAbsolute path then [] else base

/-- The place that a path leads to, seen from a directory. -/
def place (base : Location) (path : String) : Location :=
  (Path.parts path).foldl walk (origin base path)

/-- The places on the way that a path takes. -/
def OnWay (base : Location) (path : String) (l : Location) : Prop :=
  ∃ names, names <+: Path.parts path ∧ l = names.foldl walk (origin base path)

theorem walk_plain {name : String} (h : Plain name) (here : Location) : walk here name = here ++ [name] := by
  have hback : (name == "..") = false := beq_false_of_ne h.not_back
  simp [walk, h.not_idle, hback]

theorem walk_idle {name : String} (h : Path.isIdle name = true) (here : Location) : walk here name = here := by
  simp [walk, h]

/-- A plain name below a directory is the last part of its path, and the parts before lead to the directory. -/
theorem parts_join {name : String} (h : Plain name) (base : Location) (directory : String) :
    ∃ ps, Path.parts (Path.join directory name) = ps ++ [name] ∧
      ps.foldl walk (origin base (Path.join directory name)) = place base directory := by
  have hsplit := Path.split_of_no_slash h.no_slash
  have hrelative := h.not_absolute
  rcases List.eq_nil_or_concat directory.toList with hd | ⟨cs, c, hd⟩
  · have hjoin : Path.join directory name = name := by simp [Path.join, hrelative, hd]
    refine ⟨[], ?_, ?_⟩
    · rw [hjoin, h.parts_eq, List.nil_append]
    · have hbase : origin base name = base := by simp [origin, hrelative]
      have hempty : place base directory = base := by
        rw [place, Path.parts, origin, Path.isAbsolute, hd]
        rfl
      rw [hjoin, hbase, hempty, List.foldl_nil]
  · have hd' : directory.toList = cs ++ [c] := by rw [hd, List.concat_eq_append]
    have hstart : ∀ rest : List Char, (directory.toList ++ rest).head? = directory.toList.head? := by
      intro rest
      rw [hd', List.append_assoc]
      cases cs <;> rfl
    by_cases hc : c = '/'
    · -- the directory ends in a slash: its last part is empty and leads nowhere
      subst hc
      have hjoin : Path.join directory name = directory ++ name := by simp [Path.join, hrelative, hd']
      refine ⟨(Path.split cs).map String.ofList, ?_, ?_⟩
      · rw [hjoin, Path.parts, String.toList_append, hd', List.append_assoc, List.singleton_append, Path.split_append,
          List.map_append, hsplit, List.map_singleton, String.ofList_toList]
      · have hempty : Path.parts directory = (Path.split cs).map String.ofList ++ [""] := by
          rw [Path.parts, hd', Path.split_append, List.map_append]
          rfl
        rw [hjoin, origin, Path.isAbsolute, String.toList_append, hstart, place, hempty, List.foldl_append,
          List.foldl_cons, List.foldl_nil, walk_idle (by decide), origin, Path.isAbsolute]
    · have hjoin : Path.join directory name = directory ++ "/" ++ name := by simp [Path.join, hrelative, hd']
      have hslash : "/".toList = ['/'] := rfl
      refine ⟨Path.parts directory, ?_, ?_⟩
      · rw [hjoin, Path.parts, String.toList_append, String.toList_append, List.append_assoc, hslash,
          List.singleton_append, Path.split_append, List.map_append, hsplit, List.map_singleton, String.ofList_toList,
          Path.parts]
      · rw [hjoin, origin, Path.isAbsolute, String.toList_append, String.toList_append, List.append_assoc, hstart,
          place, origin, Path.isAbsolute]

/-- **A plain name below a directory leads one step further.** -/
theorem place_join {name : String} (h : Plain name) (base : Location) (directory : String) :
    place base (Path.join directory name) = place base directory ++ [name] := by
  obtain ⟨ps, hparts, hplace⟩ := parts_join h base directory
  rw [place, hparts, List.foldl_append, hplace, List.foldl_cons, List.foldl_nil, walk_plain h]

/-! ## One step -/

variable {fs : FileSystem} {here l : Location} {name path : String}

/-- What is put at a place is there; the root stays a directory. -/
theorem get?_set_self {e : FileEntry} (h : l ≠ []) : (fs.set l e).get? l = some e := by
  simp [get?, set, h]

theorem get?_set_of_ne {l' : Location} {e : FileEntry} (h : l' ≠ l) : (fs.set l e).get? l' = fs.get? l' := by
  have hne : (l == l') = false := beq_false_of_ne h.symm
  have hfilter : (fs.entries.filter (·.1 != l)).find? (·.1 == l') = fs.entries.find? (·.1 == l') := by
    rw [List.find?_filter]
    congr 1
    funext entry
    by_cases hentry : entry.1 = l'
    · simp [hentry, h]
    · simp [hentry]
  simp [get?, set, hne, hfilter]

/-- A step leads from a directory to the place that its name leads to. -/
theorem of_step_ok (h : fs.step here name = .ok l) : fs.get? here = some .directory ∧ l = walk here name := by
  unfold step at h
  split at h
  · next hdirectory =>
    refine ⟨hdirectory, ?_⟩
    unfold walk
    by_cases hidle : Path.isIdle name = true
    · rw [if_pos hidle] at h ⊢
      exact (Except.ok.inj h).symm
    · rw [if_neg hidle] at h ⊢
      by_cases hback : (name == "..") = true
      · rw [if_pos hback] at h ⊢
        exact (Except.ok.inj h).symm
      · rw [if_neg hback] at h ⊢
        split at h
        · cases h
        · split at h
          · exact (Except.ok.inj h).symm
          · cases h
  · cases h
  · cases h

/-- A step from a directory that finds nothing leads to a place where nothing is. -/
theorem of_step_notFound (h : fs.step here name = .error .notFound) (hdirectory : fs.get? here = some .directory) :
    walk here name = here ++ [name] ∧ fs.get? (here ++ [name]) = none := by
  simp only [step, hdirectory] at h
  unfold walk
  by_cases hidle : Path.isIdle name = true
  · rw [if_pos hidle] at h
    cases h
  · rw [if_neg hidle] at h ⊢
    by_cases hback : (name == "..") = true
    · rw [if_pos hback] at h
      cases h
    · rw [if_neg hback] at h ⊢
      refine ⟨rfl, ?_⟩
      split at h
      · cases h
      · split at h
        · cases h
        · next hnone => exact Option.not_isSome_iff_eq_none.1 hnone

theorem eq_foldl_of_foldlM {names : List String} (h : names.foldlM fs.step here = .ok l) :
    l = names.foldl walk here := by
  induction names generalizing here with
  | nil => exact (Except.ok.inj h).symm
  | cons name rest ih =>
    rw [List.foldlM_cons] at h
    cases hstep : fs.step here name with
    | error e => rw [hstep] at h; cases h
    | ok next =>
      rw [hstep] at h
      rw [List.foldl_cons, ← (of_step_ok hstep).2]
      exact ih h

theorem eq_origin_of_start (h : fs.start path = .ok l) : l = origin fs.workingDirectory path := by
  unfold start at h
  split at h
  · cases h
  · split at h
    · cases h
    · split at h
      · cases h
      · exact (Except.ok.inj h).symm

/-! ## Making directories -/

/-- At a place nothing changes, unless a directory is made there, on a way, where nothing was. -/
def Kept (way : Location → Prop) (fs fs' : FileSystem) (l : Location) : Prop :=
  fs'.get? l = fs.get? l ∨ (way l ∧ fs.get? l = none ∧ fs'.get? l = some .directory)

theorem Kept.mono {way way' : Location → Prop} {fs fs' : FileSystem} {l : Location} (h : Kept way fs fs' l)
    (hway : way l → way' l) : Kept way' fs fs' l :=
  h.imp id fun ⟨hl, hnone, hdirectory⟩ => ⟨hway hl, hnone, hdirectory⟩

theorem Kept.trans {way : Location → Prop} {fs₁ fs₂ fs₃ : FileSystem} {l : Location} (h : Kept way fs₁ fs₂ l)
    (h' : Kept way fs₂ fs₃ l) : Kept way fs₁ fs₃ l := by
  rcases h with h | ⟨hway, hnone, hdirectory⟩
  · rcases h' with h' | ⟨hway, hnone, hdirectory⟩
    · exact .inl (h'.trans h)
    · exact .inr ⟨hway, h ▸ hnone, hdirectory⟩
  · rcases h' with h' | ⟨-, hnone', -⟩
    · exact .inr ⟨hway, hnone, h' ▸ hdirectory⟩
    · rw [hdirectory] at hnone'
      cases hnone'

/-- What is at a place stays there. -/
theorem Kept.get?_eq {way : Location → Prop} {fs fs' : FileSystem} {l : Location} {e : FileEntry}
    (h : Kept way fs fs' l) (he : fs.get? l = some e) : fs'.get? l = some e := by
  rcases h with h | ⟨-, hnone, -⟩
  · exact h.trans he
  · rw [he] at hnone
    cases hnone

/-- **Making directories changes only places on the way where nothing was**, by induction on the names. -/
theorem makeFrom_kept {names : List String} {r : Except FileError Unit} {fs fs' : FileSystem} {here : Location}
    (h : makeFrom here names fs = (r, fs')) :
    fs'.workingDirectory = fs.workingDirectory ∧
      ∀ l, Kept (fun l => ∃ ns, ns <+: names ∧ l = ns.foldl walk here) fs fs' l := by
  induction names generalizing here fs with
  | nil => obtain ⟨-, rfl⟩ := Prod.mk.inj h; exact ⟨rfl, fun _ => .inl rfl⟩
  | cons name rest ih =>
    have hway : ∀ l, (∃ ns, ns <+: rest ∧ l = ns.foldl walk (walk here name)) →
        ∃ ns, ns <+: name :: rest ∧ l = ns.foldl walk here := by
      rintro l ⟨ns, hns, rfl⟩
      exact ⟨name :: ns, List.cons_prefix_cons.2 ⟨rfl, hns⟩, rfl⟩
    rw [makeFrom] at h
    split at h
    · next l' hstep =>
      obtain ⟨-, rfl⟩ := of_step_ok hstep
      split at h
      · obtain ⟨-, rfl⟩ := Prod.mk.inj h
        exact ⟨rfl, fun _ => .inl rfl⟩
      · obtain ⟨hbase, hkept⟩ := ih h
        exact ⟨hbase, fun l => (hkept l).mono (hway l)⟩
    · next hstep =>
      split at h
      · next hdirectory =>
        obtain ⟨hwalk, hnone⟩ := of_step_notFound hstep hdirectory
        obtain ⟨hbase, hkept⟩ := ih h
        refine ⟨hbase, fun l => .trans ?_ ((hkept l).mono fun hl => hway l (hwalk ▸ hl))⟩
        by_cases hl : l = here ++ [name]
        · subst hl
          exact .inr ⟨⟨[name], ⟨rest, rfl⟩, hwalk.symm⟩, hnone, get?_set_self (by simp)⟩
        · exact .inl (get?_set_of_ne hl)
      · obtain ⟨-, rfl⟩ := Prod.mk.inj h
        exact ⟨rfl, fun _ => .inl rfl⟩
    · obtain ⟨-, rfl⟩ := Prod.mk.inj h
      exact ⟨rfl, fun _ => .inl rfl⟩

theorem makeDirectories_kept {r : Except FileError Unit} {fs fs' : FileSystem} {path : String}
    (h : fs.makeDirectories path = (r, fs')) :
    fs'.workingDirectory = fs.workingDirectory ∧ ∀ l, Kept (OnWay fs.workingDirectory path) fs fs' l := by
  unfold makeDirectories at h
  cases hstart : fs.start path with
  | error e =>
    rw [hstart] at h
    obtain ⟨-, rfl⟩ := Prod.mk.inj h
    exact ⟨rfl, fun _ => .inl rfl⟩
  | ok here =>
    rw [hstart] at h
    obtain ⟨hbase, hkept⟩ := makeFrom_kept h
    have hhere := eq_origin_of_start hstart
    subst hhere
    exact ⟨hbase, hkept⟩

/-! ## Writing a file -/

/-- A file is written at the place of its path, which is not the root. -/
theorem target_eq_place (h : fs.target path = .ok l) : l = place fs.workingDirectory path ∧ l ≠ [] := by
  obtain ⟨ps, name, hparts⟩ := (List.eq_nil_or_concat (Path.parts path)).resolve_left (Path.parts_ne_nil path)
  rw [List.concat_eq_append] at hparts
  unfold target at h
  cases hstart : fs.start path with
  | error e => rw [hstart] at h; cases h
  | ok here =>
    rw [hstart] at h
    simp only [bind, Except.bind, hparts, List.dropLast_concat, List.getLast?_concat, Option.getD_some] at h
    cases hparent : ps.foldlM fs.step here with
    | error e => rw [hparent] at h; cases h
    | ok parent =>
      have hplace : place fs.workingDirectory path = walk parent name := by
        rw [place, hparts, List.foldl_append, ← eq_origin_of_start hstart, ← eq_foldl_of_foldlM hparent]
        rfl
      simp only [hparent] at h
      split at h
      · next l' hstep =>
        split at h
        · cases h
        · next hfile =>
          obtain rfl := Except.ok.inj h
          refine ⟨by rw [hplace, (of_step_ok hstep).2], ?_⟩
          rintro rfl
          exact hfile rfl
      · next hstep =>
        split at h
        · next hdirectory =>
          obtain rfl := Except.ok.inj h
          exact ⟨by rw [hplace, (of_step_notFound hstep hdirectory).1], by simp⟩
        · cases h
      · cases h

/-- **Writing a file changes the place of its path and no other**, or fails and changes nothing. -/
theorem write_cases {content : String} {answer : Except FileError Unit} {fs' : FileSystem}
    (h : fs.write path content = (answer, fs')) :
    (answer = .ok () ∧ fs'.workingDirectory = fs.workingDirectory ∧
        fs'.get? (place fs.workingDirectory path) = some (.file content.toUTF8) ∧
        ∀ l, l ≠ place fs.workingDirectory path → fs'.get? l = fs.get? l) ∨
      (∃ e, answer = .error e) ∧ fs' = fs := by
  rw [write, writeBytes] at h
  cases htarget : fs.target path with
  | error e =>
    rw [htarget] at h
    obtain ⟨hanswer, rfl⟩ := Prod.mk.inj h
    exact .inr ⟨⟨e, hanswer.symm⟩, rfl⟩
  | ok l =>
    rw [htarget] at h
    obtain ⟨hanswer, rfl⟩ := Prod.mk.inj h
    obtain ⟨rfl, hroot⟩ := target_eq_place htarget
    exact .inl ⟨hanswer.symm, rfl, get?_set_self hroot, fun l hne => get?_set_of_ne hne⟩

end FileSystem

end TaskHeader
