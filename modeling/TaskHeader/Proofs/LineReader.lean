import TaskHeader.Proofs.Line

/-!
# Reading lines

Each form of line can be told from its first characters, and what it holds can be read off the rest, since a usable
name has no character that the header writes around names. Reading undoes writing (`Line.read?_text`), and a line is
written with visible characters only, so the lines of a text can be told apart (`Line.allVisible_text`).
-/

namespace TaskHeader

open Identifier

/-! ## Pieces of a text -/

namespace Reader

/-- What follows a given start. -/
def after? (start : String) (cs : List Char) : Option (List Char) :=
  if start.toList.isPrefixOf cs then some (cs.drop start.toList.length) else none

/-- The characters of a name at the start of a text. -/
def word (cs : List Char) : String :=
  String.ofList (cs.takeWhile isTail)

/-- What follows the name at the start of a text. -/
def afterWord (cs : List Char) : List Char :=
  cs.dropWhile isTail

/-- A text made of the characters of names. -/
def IsWord (s : String) : Prop :=
  ∀ c ∈ s.toList, isTail c = true

theorem not_mem_of_isWord {name : String} (h : IsWord name) {c : Char} (hc : isTail c = false) : c ∉ name.toList := by
  intro hmem
  exact absurd (h c hmem) (by rw [hc]; decide)

/-- A run of members of one kind ends where the next member is of another kind. -/
theorem run_ends {α : Type} {p : α → Bool} {w rest : List α} (hw : ∀ c ∈ w, p c = true)
    (hrest : ∀ c, rest.head? = some c → p c = false) :
    (w ++ rest).takeWhile p = w ∧ (w ++ rest).dropWhile p = rest := by
  have hends : rest.takeWhile p = [] ∧ rest.dropWhile p = rest := by
    cases rest with
    | nil => exact ⟨rfl, rfl⟩
    | cons c rest => simp [hrest c rfl]
  rw [List.takeWhile_append_of_pos hw, List.dropWhile_append_of_pos hw, hends.1, hends.2, List.append_nil]
  exact ⟨rfl, rfl⟩

/-- A character of another kind ends a run. -/
theorem ends_at {p : Char → Bool} (c : Char) (h : p c = false) {rest : List Char} :
    ∀ d, (c :: rest).head? = some d → p d = false := by
  rintro d ⟨⟩
  exact h

theorem word_append {name : String} {rest : List Char} (hname : IsWord name)
    (hrest : ∀ c, rest.head? = some c → isTail c = false) : word (name.toList ++ rest) = name := by
  rw [word, (run_ends hname hrest).1, String.ofList_toList]

theorem afterWord_append {name : String} {rest : List Char} (hname : IsWord name)
    (hrest : ∀ c, rest.head? = some c → isTail c = false) : afterWord (name.toList ++ rest) = rest :=
  (run_ends hname hrest).2

/-- Reading each piece undoes writing it. -/
theorem mapM_map_eq_some {α β : Type} {write : α → β} {read : β → Option α} {as : List α}
    (h : ∀ a ∈ as, read (write a) = some a) : (as.map write).mapM read = some as := by
  induction as with
  | nil => rfl
  | cons a as ih =>
    rw [List.map_cons, List.mapM_cons, h a List.mem_cons_self, ih fun b hb => h b (List.mem_cons_of_mem a hb)]
    rfl

/-- Reading what can be read undoes writing it. -/
theorem filterMap_map_eq_self {α β : Type} (write : α → β) (read : β → Option α)
    (h : ∀ a, read (write a) = some a) (as : List α) : (as.map write).filterMap read = as := by
  have hread : read ∘ write = some := funext h
  rw [List.filterMap_map, hread, List.filterMap_some]

/-! ## Parameters -/

/-- The scalar of a C++ type. -/
def scalar? (s : String) : Option ScalarType :=
  ScalarType.all.find? (Cpp.scalar · == s)

theorem scalar?_scalar (t : ScalarType) : scalar? (Cpp.scalar t) = some t := by
  cases t <;> decide

/-- What a function returns, from its C++ type. -/
def returns? (s : String) : Option (Option ScalarType) :=
  if s = "void" then some none else (scalar? s).map some

theorem returns?_returnType (t : Option ScalarType) : returns? (Cpp.returnType t) = some t := by
  rcases t with _ | (_ | _ | _) <;> decide

theorem isWord_scalar {t : ScalarType} : IsWord (Cpp.scalar t) := by
  rw [IsWord, ← List.all_eq_true]
  cases t <;> decide

theorem isWord_returnType {t : Option ScalarType} : IsWord (Cpp.returnType t) := by
  rw [IsWord, ← List.all_eq_true]
  rcases t with _ | (_ | _ | _) <;> decide

/-- A parameter: a type, a blank, a star for each dimension and a name. -/
def parameter? (cs : List Char) : Option Parameter :=
  let rest := (afterWord cs).drop 1
  let stars := (rest.takeWhile (· == '*')).length
  (scalar? (word cs)).bind fun scalar =>
    if h : stars < 256 then some ⟨String.ofList (rest.dropWhile (· == '*')), scalar, stars, h⟩ else none

theorem parameter?_parameter {p : Parameter} (h : IsWord p.name) :
    parameter? (Cpp.parameter p).toList = some p := by
  obtain ⟨name, scalar, n, hn⟩ := p
  have htext : (Cpp.parameter ⟨name, scalar, n, hn⟩).toList
      = (Cpp.scalar scalar).toList ++ ' ' :: (List.replicate n '*' ++ name.toList) := by
    simp [Cpp.parameter]
  have hstar : ∀ c ∈ List.replicate n '*', (c == '*') = true := by
    intro c hc
    simp [List.eq_of_mem_replicate hc]
  have hname : ∀ c, name.toList.head? = some c → (c == '*') = false := by
    intro c hc
    have htail := h c (List.mem_of_head? hc)
    cases hstar : c == '*' with
    | false => rfl
    | true => rw [beq_iff_eq.1 hstar] at htail; exact absurd htail (by decide)
  rw [parameter?, htext, word_append isWord_scalar (ends_at ' ' (by decide)),
    afterWord_append isWord_scalar (ends_at ' ' (by decide)), scalar?_scalar]
  simp [run_ends hstar hname, hn]

/-- A list of parameters: nothing, or parameters with commas between them, each but the first after a blank. -/
def parameters? (cs : List Char) : Option (List Parameter) :=
  if cs = [] then some [] else (cs.splitOn ',').mapM fun piece => parameter? (piece.dropWhile (· == ' '))

theorem mem_parameter {p : Parameter} (h : IsWord p.name) {c : Char}
    (hc : c ∈ (Cpp.parameter p).toList) : isTail c = true ∨ c = ' ' ∨ c = '*' := by
  simp only [Cpp.parameter, String.toList_append, String.toList_ofList, List.mem_append] at hc
  rcases hc with ((hc | hc) | hc) | hc
  · exact .inl (isWord_scalar c hc)
  · exact .inr (.inl (by simpa using hc))
  · exact .inr (.inr (List.eq_of_mem_replicate hc))
  · exact .inl (h c hc)

theorem comma_not_mem {p : Parameter} (h : IsWord p.name) {lead : List Char}
    (hlead : ',' ∉ lead) : ',' ∉ lead ++ (Cpp.parameter p).toList := by
  rw [List.mem_append]
  rintro (hc | hc)
  · exact hlead hc
  · rcases mem_parameter h hc with hc | hc | hc <;> exact absurd hc (by decide)

theorem mem_parameters {ps : List Parameter} (h : ∀ p ∈ ps, IsWord p.name) {c : Char}
    (hc : c ∈ (Cpp.parameters ps).toList) : isTail c = true ∨ c = ' ' ∨ c = '*' ∨ c = ',' := by
  induction ps with
  | nil => simp [Cpp.parameters] at hc
  | cons p ps ih =>
    have hfirst : c ∈ (Cpp.parameter p).toList → isTail c = true ∨ c = ' ' ∨ c = '*' ∨ c = ',' := fun hc =>
      (mem_parameter (h p List.mem_cons_self) hc).imp id (Or.imp id .inl)
    cases ps with
    | nil => exact hfirst (by simpa [Cpp.parameters] using hc)
    | cons q ps =>
      simp only [Cpp.parameters, String.toList_append, List.mem_append] at hc
      rcases hc with (hc | hc) | hc
      · exact hfirst hc
      · have hsep : c = ',' ∨ c = ' ' := by simpa using hc
        rcases hsep with rfl | rfl <;> simp
      · exact ih (fun r hr => h r (List.mem_cons_of_mem p hr)) hc

/-- The pieces between the commas, by induction on the parameters; `lead` is the blank before the first one. -/
theorem splitOn_parameters {ps : List Parameter} (h : ∀ p ∈ ps, IsWord p.name) (p : Parameter)
    (hp : IsWord p.name) {lead : List Char} (hlead : ',' ∉ lead) :
    (lead ++ (Cpp.parameters (p :: ps)).toList).splitOn ','
      = (lead ++ (Cpp.parameter p).toList) :: ps.map fun q => ' ' :: (Cpp.parameter q).toList := by
  induction ps generalizing p lead with
  | nil => simpa [Cpp.parameters] using List.splitOn_eq_singleton (comma_not_mem hp hlead)
  | cons q ps ih =>
    have htext : lead ++ (Cpp.parameters (p :: q :: ps)).toList
        = (lead ++ (Cpp.parameter p).toList) ++ ',' :: ([' '] ++ (Cpp.parameters (q :: ps)).toList) := by
      simp [Cpp.parameters]
    have hrest := fun r hr => h r (List.mem_cons_of_mem q hr)
    rw [htext, List.splitOn_append_cons_self, List.splitOn_eq_singleton (comma_not_mem hp hlead),
      ih hrest q (h q List.mem_cons_self) (by decide)]
    rfl

theorem dropWhile_parameter (p : Parameter) :
    (Cpp.parameter p).toList.dropWhile (· == ' ') = (Cpp.parameter p).toList := by
  obtain ⟨name, scalar, n⟩ := p
  cases scalar <;> simp [Cpp.parameter, Cpp.scalar]

theorem parameters?_parameters {ps : List Parameter} (h : ∀ p ∈ ps, IsWord p.name) :
    parameters? (Cpp.parameters ps).toList = some ps := by
  cases ps with
  | nil => decide
  | cons p ps =>
    have hp := h p List.mem_cons_self
    have hps := fun q hq => h q (List.mem_cons_of_mem p hq)
    have hne : (Cpp.parameters (p :: ps)).toList ≠ [] := by
      cases ps <;> simp [Cpp.parameters, Cpp.parameter]
    have hsplit := splitOn_parameters hps p hp (by decide : ',' ∉ ([] : List Char))
    have hrest : (ps.map fun q => ' ' :: (Cpp.parameter q).toList).mapM
        (fun piece => parameter? (piece.dropWhile (· == ' '))) = some ps := by
      apply mapM_map_eq_some
      intro q hq
      simp [dropWhile_parameter, parameter?_parameter (hps q hq)]
    rw [parameters?, if_neg hne, ← List.nil_append (Cpp.parameters (p :: ps)).toList, hsplit, List.mapM_cons, hrest,
      List.nil_append, dropWhile_parameter, parameter?_parameter hp]
    rfl

/-! ## Declarations -/

/-- A function without the semicolon: a type, a blank, a name and parameters in parentheses. -/
def declaration? (cs : List Char) : Option Signature :=
  let rest := (afterWord cs).drop 1
  let inner := ((afterWord rest).drop 1).takeWhile (· != ')')
  (returns? (word cs)).bind fun returns =>
    (parameters? inner).map fun parameters => ⟨word rest, parameters, returns⟩

theorem declaration?_declaration {f : Signature} (hname : IsWord f.name)
    (hparameters : ∀ p ∈ f.parameters, IsWord p.name) (rest : List Char) :
    declaration? ((Cpp.declaration f).toList ++ rest) = some f := by
  have htext : (Cpp.declaration f).toList ++ rest = (Cpp.returnType f.returns).toList
      ++ ' ' :: (f.name.toList ++ '(' :: ((Cpp.parameters f.parameters).toList ++ ')' :: rest)) := by
    simp [Cpp.declaration]
  have hinner : ∀ c ∈ (Cpp.parameters f.parameters).toList, (c != ')') = true := by
    intro c hc
    rw [bne_iff_ne]
    rintro rfl
    rcases mem_parameters hparameters hc with h | h | h | h <;> exact absurd h (by decide)
  rw [declaration?, htext, word_append isWord_returnType (ends_at ' ' (by decide)),
    afterWord_append isWord_returnType (ends_at ' ' (by decide)), List.drop_one, List.tail_cons,
    word_append hname (ends_at '(' (by decide)), afterWord_append hname (ends_at '(' (by decide)), List.drop_one,
    List.tail_cons, (run_ends hinner (ends_at ')' (by decide))).1, returns?_returnType,
    parameters?_parameters hparameters]
  rfl

end Reader

/-! ## Lines -/

namespace Line

open Reader

/-- A heading or a declaration, after its indent. -/
def readInner? (indented : Bool) (cs : List Char) : Option Line :=
  if cs = "// functions".toList then some (heading indented false)
  else if cs = "// callbacks".toList then some (heading indented true)
  else
    match after? "extern " cs with
    | some rest => (declaration? rest).map (declaration indented true)
    | none => (declaration? cs).map (declaration indented false)

/-- Reads a line by its first characters. -/
def read? (cs : List Char) : Option Line :=
  if cs = [] then some blank
  else if cs = support.text.toList then some support
  else
    match after? "// protocol: interface " cs with
    | some rest => some (title (some (word rest)) (afterWord rest ≠ []))
    | none =>
      match after? "// protocol: driver" cs with
      | some rest => some (title none (rest ≠ []))
      | none =>
        match after? "namespace " cs with
        | some rest => some (opening (word rest))
        | none =>
          match after? "\x7d // namespace " cs with
          | some rest => some (closing (word rest))
          | none =>
            match after? "    " cs with
            | some rest => readInner? true rest
            | none => readInner? false cs

theorem read?_title (cs : List Char) :
    read? ("// protocol: interface ".toList ++ cs) = some (title (some (word cs)) (afterWord cs ≠ [])) := by
  simp [read?, after?, List.isPrefixOf]

theorem read?_opening (cs : List Char) : read? ("namespace ".toList ++ cs) = some (opening (word cs)) := by
  simp [read?, after?, List.isPrefixOf]

theorem read?_closing (cs : List Char) : read? ("\x7d // namespace ".toList ++ cs) = some (closing (word cs)) := by
  simp [read?, after?, List.isPrefixOf]

/-- A declaration starts neither as a heading nor with a blank, nor as any line that is not indented. -/
theorem read?_declaration (indented linked : Bool) (f : Signature) (cs : List Char) :
    read? ((indent indented).toList ++ ((linkage linked).toList ++ ((Cpp.declaration f).toList ++ cs)))
      = (declaration? ((Cpp.declaration f).toList ++ cs)).map (declaration indented linked) := by
  obtain ⟨name, ps, returns⟩ := f
  cases indented <;> cases linked <;> rcases returns with _ | (_ | _ | _) <;>
    simp [read?, readInner?, after?, List.isPrefixOf, indent, linkage, Cpp.declaration, Cpp.returnType,
      Cpp.scalar]

/-- **Reading a line undoes writing it**, when the names in it are made of the characters of names. -/
theorem read?_text {l : Line} (h : ∀ n ∈ l.names, IsWord n) : read? l.text.toList = some l := by
  cases l with
  | support => rw [read?, if_neg (by decide), if_pos rfl]
  | blank => decide
  | title interfaceName driver =>
    cases interfaceName with
    | none => cases driver <;> decide +kernel
    | some name =>
      have hname := h name (by simp [names])
      have hside : ∀ c, (side driver).toList.head? = some c → isTail c = false := by
        cases driver
        · simp [side]
        · exact ends_at ' ' (by decide)
      have htext : (title (some name) driver).text.toList
          = "// protocol: interface ".toList ++ (name.toList ++ (side driver).toList) := by
        simp [subject]
      rw [htext, read?_title, word_append hname hside, afterWord_append hname hside]
      cases driver <;> rfl
  | opening name =>
    have htext : (opening name).text.toList = "namespace ".toList ++ (name.toList ++ ' ' :: ['\x7b']) := by
      simp
    rw [htext, read?_opening, word_append (h name (by simp [names])) (ends_at ' ' (by decide))]
  | heading indented callbacks => cases indented <;> cases callbacks <;> decide +kernel
  | declaration indented linked f =>
    have htext : (declaration indented linked f).text.toList
        = (indent indented).toList ++ ((linkage linked).toList ++ ((Cpp.declaration f).toList ++ ";".toList)) := by
      simp
    obtain ⟨hname, hparameters⟩ := forall_names_declaration.1 h
    rw [htext, read?_declaration, declaration?_declaration hname hparameters]
    rfl
  | closing name =>
    have htext : (closing name).text.toList = "\x7d // namespace ".toList ++ (name.toList ++ []) := by
      simp
    rw [htext, read?_closing, word_append (h name (by simp [names])) (by simp)]

/-! ## Characters of lines -/

/-- A printable character of ASCII. -/
def Visible (c : Char) : Prop :=
  ' ' ≤ c ∧ c ≤ '~'

instance (c : Char) : Decidable (Visible c) :=
  instDecidableAnd

/-- A text of visible characters. -/
def AllVisible (s : String) : Prop :=
  ∀ c ∈ s.toList, Visible c

instance (s : String) : Decidable (AllVisible s) :=
  List.decidableBAll Visible s.toList

theorem allVisible_append {s t : String} : AllVisible (s ++ t) ↔ AllVisible s ∧ AllVisible t := by
  simp only [AllVisible, String.toList_append, List.forall_mem_append]

theorem visible_of_isTail {c : Char} (h : isTail c = true) : Visible c := by
  rcases isTail_iff.1 h with (h | h | rfl) | h
  · exact ⟨Char.le_trans (by decide) h.1, Char.le_trans h.2 (by decide)⟩
  · exact ⟨Char.le_trans (by decide) h.1, Char.le_trans h.2 (by decide)⟩
  · decide
  · exact ⟨Char.le_trans (by decide) h.1, Char.le_trans h.2 (by decide)⟩

theorem allVisible_of_isWord {s : String} (h : IsWord s) : AllVisible s :=
  fun c hc => visible_of_isTail (h c hc)

theorem allVisible_declaration {f : Signature} (hname : IsWord f.name)
    (hparameters : ∀ p ∈ f.parameters, IsWord p.name) : AllVisible (Cpp.declaration f) := by
  have hps : AllVisible (Cpp.parameters f.parameters) := by
    intro c hc
    rcases mem_parameters hparameters hc with h | rfl | rfl | rfl
    · exact visible_of_isTail h
    all_goals decide
  have hreturns := allVisible_of_isWord (isWord_returnType (t := f.returns))
  simp only [Cpp.declaration, allVisible_append]
  exact ⟨⟨⟨⟨⟨hreturns, by decide⟩, allVisible_of_isWord hname⟩, by decide⟩, hps⟩, by decide⟩

/-- **A line has visible characters only**, when the names in it are made of the characters of names. -/
theorem allVisible_text {l : Line} (h : ∀ n ∈ l.names, IsWord n) : AllVisible l.text := by
  cases l with
  | support => decide
  | blank => decide
  | title interfaceName driver =>
    cases interfaceName with
    | none => cases driver <;> decide
    | some name =>
      have hname := allVisible_of_isWord (h name (by simp [names]))
      have hside : AllVisible (side driver) := by cases driver <;> decide
      simp only [text_title, subject, allVisible_append]
      exact ⟨⟨by decide, by decide, hname⟩, hside⟩
  | opening name =>
    simp only [text_opening, allVisible_append]
    exact ⟨⟨by decide, allVisible_of_isWord (h name (by simp [names]))⟩, by decide⟩
  | heading indented callbacks => cases indented <;> cases callbacks <;> decide
  | declaration indented linked f =>
    obtain ⟨hname, hparameters⟩ := forall_names_declaration.1 h
    have hindent : AllVisible (indent indented) := by cases indented <;> decide
    have hlinkage : AllVisible (linkage linked) := by cases linked <;> decide
    simp only [text_declaration, allVisible_append]
    exact ⟨⟨⟨hindent, hlinkage⟩, allVisible_declaration hname hparameters⟩, by decide⟩
  | closing name =>
    simp only [text_closing, allVisible_append]
    exact ⟨by decide, allVisible_of_isWord (h name (by simp [names]))⟩

/-- A line ends at the first line feed. -/
theorem feed_not_mem_text {l : Line} (h : ∀ n ∈ l.names, IsWord n) : '\n' ∉ l.text.toList := by
  intro hmem
  exact absurd (allVisible_text h _ hmem) (by decide)

end Line

end TaskHeader
