import Mathlib.Data.List.TakeWhile
import TaskHeader.Proofs.LineReader

/-!
# Texts of types

Which texts are types, said without the reader: a text is cut into blanks, a base, blanks, what stands from the first
bracket on, and blanks (`ValueType.Pieces`). Every text can be cut so (`exists_pieces`), and the reader finds the base
and the brackets of any such cut (`Pieces.baseOf_eq`, `Pieces.suffixOf_eq`). So what a text is read as depends on these
two pieces alone (`parse_of_pieces`): an unknown base is refused first, then anything but up to 255 pairs of brackets.
-/

namespace TaskHeader

/-! ## Blanks at the ends -/

namespace Text

/-- A text of blanks. -/
def AllBlank (cs : List Char) : Prop :=
  ∀ c ∈ cs, isBlank c = true

/-- A text that does not end with a blank. -/
def EndsBare (cs : List Char) : Prop :=
  ∀ c, cs.getLast? = some c → isBlank c = false

/-- A text that neither starts nor ends with a blank. -/
def Bare (cs : List Char) : Prop :=
  (∀ c, cs.head? = some c → isBlank c = false) ∧ EndsBare cs

/-- Blanks after a text that does not end with one are cut off. -/
theorem trimEnd_append {cs trail : List Char} (hcs : EndsBare cs) (htrail : AllBlank trail) :
    trimEnd (cs ++ trail) = cs := by
  have hblank : ∀ c ∈ trail.reverse, isBlank c = true := fun c hc => htrail c (List.mem_reverse.1 hc)
  have hends : ∀ c, cs.reverse.head? = some c → isBlank c = false := fun c hc => hcs c (List.head?_reverse ▸ hc)
  rw [trimEnd, List.reverse_append, (Reader.run_ends hblank hends).2, List.reverse_reverse]

/-- Blanks around a text that has none at its ends are cut off. -/
theorem trim_append {lead cs trail : List Char} (hlead : AllBlank lead) (hcs : Bare cs) (htrail : AllBlank trail) :
    trim (lead ++ cs ++ trail) = cs := by
  cases cs with
  | nil =>
    have hblank : AllBlank (lead ++ trail) := List.forall_mem_append.2 ⟨hlead, htrail⟩
    have hnone : (lead ++ trail).dropWhile isBlank = [] := List.dropWhile_eq_nil_iff.2 hblank
    rw [trim, trimStart, List.append_nil, hnone]
    rfl
  | cons c cs =>
    have hstart : ∀ d, (c :: cs ++ trail).head? = some d → isBlank d = false := hcs.1
    rw [trim, trimStart, List.append_assoc, (Reader.run_ends hlead hstart).2, trimEnd_append hcs.2 htrail]

theorem exists_trimEnd (cs : List Char) : ∃ trail, cs = trimEnd cs ++ trail ∧ AllBlank trail ∧ EndsBare (trimEnd cs) := by
  refine ⟨(cs.reverse.takeWhile isBlank).reverse, ?_, ?_, ?_⟩
  · rw [trimEnd, ← List.reverse_append, List.takeWhile_append_dropWhile, List.reverse_reverse]
  · intro c hc
    exact List.mem_takeWhile_imp (List.mem_reverse.1 hc)
  · intro c hc
    rw [trimEnd, List.getLast?_reverse] at hc
    have hhead := List.head?_dropWhile_not isBlank cs.reverse
    rw [hc] at hhead
    exact hhead

theorem exists_trim (cs : List Char) :
    ∃ lead trail, cs = lead ++ trim cs ++ trail ∧ AllBlank lead ∧ AllBlank trail ∧ Bare (trim cs) := by
  obtain ⟨trail, hcut, htrail, hends⟩ := exists_trimEnd (trimStart cs)
  refine ⟨cs.takeWhile isBlank, trail, ?_, fun c hc => List.mem_takeWhile_imp hc, htrail, ?_, hends⟩
  · rw [List.append_assoc, trim, ← hcut, trimStart, List.takeWhile_append_dropWhile]
  · intro c hc
    obtain ⟨r, hr⟩ := List.head?_eq_some_iff.1 hc
    have hstart : trimStart cs = c :: (r ++ trail) := by rw [hcut, ← trim, hr, List.cons_append]
    exact trimStart_head hstart

end Text

/-! ## Pieces -/

/-- A word that is none for a scalar is refused. -/
theorem ScalarType.parse_eq_error {s : String} (h : s ∉ ["int", "int64", "bool"]) :
    ScalarType.parse s = .error (.unknownScalar s) := by
  have hnone : ofKeyword? s = none := by
    rw [ofKeyword?, List.find?_eq_none]
    intro t _ ht
    rw [beq_iff_eq] at ht
    apply h
    rw [← ht]
    cases t <;> decide
  rw [ScalarType.parse, hnone]

namespace ValueType

open Text

/-- A text cut into what matters to a type: the base, and what stands from the first bracket on. -/
structure Pieces (s : String) where
  lead : List Char
  base : String
  gap : List Char
  rest : List Char
  trail : List Char
  text : s.toList = lead ++ (base.toList ++ gap ++ rest) ++ trail
  lead_blank : AllBlank lead
  gap_blank : AllBlank gap
  trail_blank : AllBlank trail
  bare : Bare (base.toList ++ gap ++ rest)
  base_bare : EndsBare base.toList
  base_open : '[' ∉ base.toList
  rest_starts : ∀ c, rest.head? = some c → c = '['

/-- Every text can be cut into pieces. -/
theorem exists_pieces (s : String) : Nonempty (Pieces s) := by
  obtain ⟨lead, trail, htext, hlead, htrail, hbare⟩ := exists_trim s.toList
  obtain ⟨gap, hgap, hblank, hends⟩ := exists_trimEnd ((trim s.toList).takeWhile (· != '['))
  have hcut : trim s.toList = baseOf (trim s.toList) ++ gap ++ suffixOf (trim s.toList) := by
    rw [baseOf, ← hgap, suffixOf, List.takeWhile_append_dropWhile]
  have hopen : '[' ∉ baseOf (trim s.toList) := by
    intro hmem
    have hbefore : '[' ∈ (trim s.toList).takeWhile (· != '[') := by
      rw [hgap]
      exact List.mem_append_left gap hmem
    simpa using List.mem_takeWhile_imp hbefore
  refine ⟨{
    lead, gap, trail
    base := String.ofList (baseOf (trim s.toList))
    rest := suffixOf (trim s.toList)
    text := ?_
    lead_blank := hlead
    gap_blank := hblank
    trail_blank := htrail
    bare := ?_
    base_bare := ?_
    base_open := ?_
    rest_starts := ?_ }⟩
  · rw [String.toList_ofList, ← hcut, ← htext]
  · rwa [String.toList_ofList, ← hcut]
  · rwa [String.toList_ofList]
  · rwa [String.toList_ofList]
  · intro c hc
    have hhead := List.head?_dropWhile_not (· != '[') (trim s.toList)
    rw [suffixOf] at hc
    rw [hc] at hhead
    simpa using hhead

namespace Pieces

variable {s : String} (p : Pieces s)

theorem trim_eq : trim s.toList = p.base.toList ++ p.gap ++ p.rest := by
  rw [p.text, trim_append p.lead_blank p.bare p.trail_blank]

/-- The first bracket of the trimmed text is where the rest starts. -/
theorem cut_eq :
    (trim s.toList).takeWhile (· != '[') = p.base.toList ++ p.gap ∧ (trim s.toList).dropWhile (· != '[') = p.rest := by
  have hbefore : ∀ c ∈ p.base.toList ++ p.gap, (c != '[') = true := by
    intro c hc
    rw [bne_iff_ne]
    rintro rfl
    rcases List.mem_append.1 hc with hc | hc
    · exact p.base_open hc
    · exact absurd (p.gap_blank _ hc) (by decide)
  have hrest : ∀ c, p.rest.head? = some c → (c != '[') = false := by
    intro c hc
    rw [p.rest_starts c hc]
    rfl
  rw [p.trim_eq]
  exact Reader.run_ends hbefore hrest

theorem baseOf_eq : baseOf (trim s.toList) = p.base.toList := by
  rw [baseOf, p.cut_eq.1, trimEnd_append p.base_bare p.gap_blank]

theorem suffixOf_eq : suffixOf (trim s.toList) = p.rest :=
  p.cut_eq.2

/-- What a text is read as, from its pieces. -/
theorem parse_eq : parse s = (ScalarType.parse p.base).bind fun scalar =>
    (countPairs 0 p.rest).elim (.error (.malformedArray s)) fun n => .ok ⟨scalar, n⟩ := by
  rw [parse, p.baseOf_eq, p.suffixOf_eq, String.ofList_toList]
  cases ScalarType.parse p.base with
  | error e => rfl
  | ok scalar => cases countPairs 0 p.rest <;> rfl

/-- A text without blanks is its base and its rest. -/
theorem toList_eq (h : ∀ c ∈ s.toList, isBlank c = false) : s.toList = p.base.toList ++ p.rest := by
  have hnone : ∀ cs : List Char, AllBlank cs → cs ⊆ s.toList → cs = [] := by
    intro cs hblank hsub
    rw [List.eq_nil_iff_forall_not_mem]
    intro c hc
    exact absurd (hblank c hc) (by rw [h c (hsub hc)]; decide)
  have hlead := hnone p.lead p.lead_blank (by intro c hc; rw [p.text]; simp [hc])
  have hgap := hnone p.gap p.gap_blank (by intro c hc; rw [p.text]; simp [hc])
  have htrail := hnone p.trail p.trail_blank (by intro c hc; rw [p.text]; simp [hc])
  rw [p.text, hlead, hgap, htrail, List.nil_append, List.append_nil, List.append_nil]

end Pieces

/-! ## Reading by pieces -/

theorem length_pairs (n : Nat) : (pairs n).length = 2 * n := by
  induction n with
  | zero => rfl
  | succ n ih => rw [pairs, List.length_cons, List.length_cons, ih]; omega

theorem pairs_eq (n : Nat) : pairs n = (List.replicate n ['[', ']']).flatten := by
  induction n with
  | zero => rfl
  | succ n ih => rw [pairs, ih, List.replicate_succ, List.flatten_cons]; rfl

/-- The base of a text decides first: one that is no word for a scalar is refused. -/
theorem Pieces.parse_unknown {s : String} (p : Pieces s) (h : p.base ∉ ["int", "int64", "bool"]) :
    parse s = .error (.unknownScalar p.base) := by
  rw [p.parse_eq, ScalarType.parse_eq_error h]
  rfl

/-- After the word for a scalar stand pairs of brackets, at most 255 of them, or the text is malformed. -/
theorem Pieces.parse_known {s : String} (p : Pieces s) {scalar : ScalarType} (h : p.base = scalar.keyword) :
    parse s = (countPairs 0 p.rest).elim (.error (.malformedArray s)) fun n => .ok ⟨scalar, n⟩ := by
  have hscalar : ScalarType.parse p.base = .ok scalar := by
    rw [h, ScalarType.parse, ScalarType.ofKeyword?_keyword]
  rw [p.parse_eq, hscalar]
  rfl

/-- What is read as a type is the word for its scalar and a pair of brackets for each dimension, among blanks. -/
theorem Pieces.eq_of_parse {s : String} (p : Pieces s) {t : ValueType} (h : parse s = .ok t) :
    p.base = t.scalar.keyword ∧ p.rest = pairs t.dimensions.val := by
  cases hscalar : ScalarType.ofKeyword? p.base with
  | none => simp [p.parse_eq, ScalarType.parse, hscalar, Except.bind] at h
  | some scalar =>
    cases hcount : countPairs 0 p.rest with
    | none => simp [p.parse_eq, ScalarType.parse, hscalar, hcount, Except.bind] at h
    | some n =>
      simp only [p.parse_eq, ScalarType.parse, hscalar, hcount, Except.bind, Option.elim_some, Except.ok.injEq] at h
      subst h
      obtain ⟨k, hk, hn⟩ := countPairs_eq_some_iff.1 hcount
      rw [Fin.val_zero, Nat.zero_add] at hn
      exact ⟨ScalarType.eq_keyword_of_ofKeyword? hscalar, hn ▸ hk⟩

/-- **What a text is read as.** It can be cut into pieces, and whichever way it is cut: a base that is no word for a
scalar is refused, whatever follows it; after a word for a scalar, up to 255 pairs of brackets give a type with so many
dimensions, and anything else is refused with the whole text. A type that is read is written as a text that is read as
the same type, and that is the text itself if it has no blanks. The count of pairs never wraps around. -/
theorem parse_of_pieces :
    (∀ s : String, Nonempty (Pieces s)) ∧
      (∀ (s : String) (p : Pieces s),
        (p.base ∉ ["int", "int64", "bool"] → parse s = .error (.unknownScalar p.base)) ∧
          ∀ scalar : ScalarType, p.base = scalar.keyword →
            (∀ k : Fin 256, p.rest = (List.replicate k.val ['[', ']']).flatten → parse s = .ok ⟨scalar, k⟩) ∧
              ((∀ k ≤ 255, p.rest ≠ (List.replicate k ['[', ']']).flatten) → parse s = .error (.malformedArray s))) ∧
      (∀ (s : String) (t : ValueType), parse s = .ok t →
        parse t.text = .ok t ∧ ((∀ c ∈ s.toList, isBlank c = false) → t.text = s)) ∧
      ∀ (n m : Fin 256) (cs : List Char), countPairs n cs = some m ↔
        ∃ k, cs = (List.replicate k ['[', ']']).flatten ∧ n.val + k = m.val := by
  simp only [← pairs_eq]
  refine ⟨exists_pieces, fun s p => ⟨p.parse_unknown, fun scalar hbase => ⟨?_, ?_⟩⟩, fun s t h => ⟨parse_text t, ?_⟩,
    fun n m cs => countPairs_eq_some_iff⟩
  · intro k hk
    rw [p.parse_known hbase, hk, countPairs_pairs, Option.elim_some]
  · intro hrest
    have hnone : countPairs 0 p.rest = none := by
      rw [Option.eq_none_iff_forall_ne_some]
      intro n hn
      obtain ⟨k, hk, hsum⟩ := countPairs_eq_some_iff.1 hn
      exact hrest k (by have := n.isLt; rw [Fin.val_zero] at hsum; omega) hk
    rw [p.parse_known hbase, hnone, Option.elim_none]
  · intro hblank
    obtain ⟨p⟩ := exists_pieces s
    obtain ⟨hbase, hrest⟩ := p.eq_of_parse h
    rw [← String.toList_inj, p.toList_eq hblank, hbase, hrest, text, String.toList_append, String.toList_ofList]

/-- The pieces of a word for a scalar and pairs of brackets. -/
def Pieces.ofPairs (scalar : ScalarType) (n : Nat) : Pieces (scalar.keyword ++ String.ofList (pairs n)) :=
  have hkeyword : ∀ c ∈ scalar.keyword.toList, isBlank c = false ∧ c ≠ '[' := by
    have hall : scalar.keyword.toList.all (fun c => !isBlank c && c != '[') = true := by cases scalar <;> decide
    simpa using List.all_eq_true.1 hall
  have hbare : ∀ c ∈ scalar.keyword.toList ++ [] ++ pairs n, isBlank c = false := by
    intro c hc
    rw [List.append_nil, List.mem_append] at hc
    rcases hc with hc | hc
    · exact (hkeyword c hc).1
    · rcases mem_pairs hc with rfl | rfl <;> decide
  { lead := []
    base := scalar.keyword
    gap := []
    rest := pairs n
    trail := []
    text := by simp
    lead_blank := nofun
    gap_blank := nofun
    trail_blank := nofun
    bare := ⟨fun c hc => hbare c (List.mem_of_head? hc), fun c hc => hbare c (List.mem_of_getLast? hc)⟩
    base_bare := fun c hc => (hkeyword c (List.mem_of_getLast? hc)).1
    base_open := fun hc => (hkeyword _ hc).2 rfl
    rest_starts := by
      intro c hc
      cases n with
      | zero => cases hc
      | succ n => exact (Option.some.inj hc).symm }

theorem parse_of_pieces_samples :
    parse "\u2003int64 [][]\u00a0" = .ok ⟨.int64, 2⟩ ∧ parse " float [3]" = .error (.unknownScalar "float") ∧
      parse "bool[] []" = .error (.malformedArray "bool[] []") ∧
      parse ("int" ++ String.ofList (pairs 256)) = .error (.malformedArray ("int" ++ String.ofList (pairs 256))) ∧
      parse "int[]" = .ok ⟨.int, 1⟩ ∧ text ⟨.int, 1⟩ = "int[]" := by
  obtain ⟨hpieces, hparse, hback, -⟩ := parse_of_pieces
  have hbase : ∀ {s base : String} (p : Pieces s), baseOf (trim s.toList) = base.toList → p.base = base :=
    fun p h => String.toList_inj.1 (p.baseOf_eq.symm.trans h)
  obtain ⟨p₁⟩ := hpieces "\u2003int64 [][]\u00a0"
  obtain ⟨p₂⟩ := hpieces " float [3]"
  obtain ⟨p₃⟩ := hpieces "bool[] []"
  have hfloat : p₂.base = "float" := hbase p₂ (by decide +kernel)
  have hint : parse "int[]" = .ok ⟨.int, 1⟩ := by decide +kernel
  have hbare : ∀ c ∈ "int[]".toList, isBlank c = false := by
    have hall : "int[]".toList.all (fun c => !isBlank c) = true := by decide
    intro c hc
    simpa using List.all_eq_true.1 hall c hc
  have hpair : ∀ k ≤ 255, p₃.rest ≠ (List.replicate k ['[', ']']).flatten := by
    rw [← p₃.suffixOf_eq]
    decide +kernel
  have hwide : ∀ k ≤ 255, pairs 256 ≠ (List.replicate k ['[', ']']).flatten := by
    intro k hk h
    have hlength := congrArg List.length h
    rw [← pairs_eq, length_pairs, length_pairs] at hlength
    omega
  refine ⟨?_, ?_, ?_, ?_, hint, (hback _ _ hint).2 hbare⟩
  · exact ((hparse _ p₁).2 .int64 (hbase p₁ (by decide +kernel))).1 2 (p₁.suffixOf_eq.symm.trans (by decide +kernel))
  · exact hfloat ▸ (hparse _ p₂).1 (by rw [hfloat]; decide)
  · exact ((hparse _ p₃).2 .bool (hbase p₃ (by decide +kernel))).2 hpair
  · exact ((hparse _ (.ofPairs .int 256)).2 .int rfl).2 hwide

end ValueType

end TaskHeader
