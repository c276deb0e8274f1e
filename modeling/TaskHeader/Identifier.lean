/-!
# Identifiers

What may name a function, a parameter or a namespace in a C++ header: a letter or an underscore followed by
letters, digits and underscores, all ASCII, that is not a reserved word. `Legal` says so character by character and
`usable` decides it (`usable_iff_legal`). A usable name has no character that the header uses around names
(`usable_chars`).
-/

namespace TaskHeader.Identifier

/-- The reserved words of C++. -/
def reservedWords : List String :=
  ["alignas", "alignof", "and", "and_eq", "asm", "auto", "bitand", "bitor", "bool", "break", "case", "catch", "char",
   "char16_t", "char32_t", "char8_t", "class", "co_await", "co_return", "co_yield", "compl", "concept", "const",
   "const_cast", "consteval", "constexpr", "constinit", "continue", "decltype", "default", "delete", "do", "double",
   "dynamic_cast", "else", "enum", "explicit", "export", "extern", "false", "float", "for", "friend", "goto", "if",
   "inline", "int", "long", "mutable", "namespace", "new", "noexcept", "not", "not_eq", "nullptr", "operator", "or",
   "or_eq", "private", "protected", "public", "register", "reinterpret_cast", "requires", "return", "short", "signed",
   "sizeof", "static", "static_assert", "static_cast", "struct", "switch", "template", "this", "thread_local", "throw",
   "true", "try", "typedef", "typeid", "typename", "union", "unsigned", "using", "virtual", "void", "volatile",
   "wchar_t", "while", "xor", "xor_eq"]

/-- The characters that may start an identifier. -/
def isHead (c : Char) : Bool :=
  c.isAlpha || c == '_'

/-- The characters that may follow. -/
def isTail (c : Char) : Bool :=
  c.isAlphanum || c == '_'

/-- Whether a text is spelled like an identifier. -/
def spelled (s : String) : Bool :=
  match s.toList with
  | [] => false
  | c :: r => isHead c && r.all isTail

/-- Whether a text is a reserved word. -/
def reserved (s : String) : Bool :=
  reservedWords.contains s

/-- Whether a text can stand in a header as a name. -/
def usable (s : String) : Bool :=
  spelled s && !reserved s

theorem isTail_of_isHead {c : Char} (h : isHead c = true) : isTail c = true := by
  simp only [isHead, isTail, Char.isAlphanum, Bool.or_eq_true] at *
  exact h.imp Or.inl id

theorem spelled_chars {s : String} (h : spelled s = true) : ∀ c ∈ s.toList, isTail c = true := by
  unfold spelled at h
  split at h
  · simp at h
  · next c r e =>
    simp only [Bool.and_eq_true, List.all_eq_true] at h
    intro d hd
    rw [e, List.mem_cons] at hd
    rcases hd with rfl | hd
    · exact isTail_of_isHead h.1
    · exact h.2 d hd

theorem usable_chars {s : String} (h : usable s = true) : ∀ c ∈ s.toList, isTail c = true :=
  spelled_chars (by simp only [usable, Bool.and_eq_true] at h; exact h.1)

theorem ne_empty_of_usable {s : String} (h : usable s = true) : s ≠ "" := by
  rintro rfl
  simp [usable, spelled] at h

/-! ## What an identifier is -/

/-- A letter of the Latin alphabet or an underscore. -/
def IsLetter (c : Char) : Prop :=
  ('A' ≤ c ∧ c ≤ 'Z') ∨ ('a' ≤ c ∧ c ≤ 'z') ∨ c = '_'

/-- A decimal digit. -/
def IsDigit (c : Char) : Prop :=
  '0' ≤ c ∧ c ≤ '9'

/-- A C++ identifier that is no keyword. -/
def Legal (s : String) : Prop :=
  (∃ c r, s.toList = c :: r ∧ IsLetter c ∧ ∀ d ∈ r, IsLetter d ∨ IsDigit d) ∧ s ∉ reservedWords

theorem isHead_iff {c : Char} : isHead c = true ↔ IsLetter c := by
  have hletter : c.isAlpha = (decide ('A'.val ≤ c.val ∧ c.val ≤ 'Z'.val) || ('a'.val ≤ c.val && c.val ≤ 'z'.val)) := rfl
  simp only [isHead, IsLetter, hletter, Bool.or_eq_true, Bool.and_eq_true, decide_eq_true_eq, beq_iff_eq, Char.le_def,
    or_assoc]

theorem isTail_iff {c : Char} : isTail c = true ↔ IsLetter c ∨ IsDigit c := by
  rw [← isHead_iff]
  simp only [isTail, isHead, IsDigit, Char.isAlphanum, Char.isDigit, Bool.or_eq_true, Bool.and_eq_true,
    decide_eq_true_eq, Char.le_def, ge_iff_le]
  exact or_right_comm

theorem spelled_iff {s : String} :
    spelled s = true ↔ ∃ c r, s.toList = c :: r ∧ IsLetter c ∧ ∀ d ∈ r, IsLetter d ∨ IsDigit d := by
  unfold spelled
  cases s.toList with
  | nil => simp
  | cons c r =>
    simp only [Bool.and_eq_true, List.all_eq_true, isHead_iff, isTail_iff, List.cons.injEq]
    exact ⟨fun h => ⟨c, r, ⟨rfl, rfl⟩, h⟩, fun ⟨_, _, ⟨hc, hr⟩, h⟩ => hc ▸ hr ▸ h⟩

theorem usable_iff_legal {s : String} : usable s = true ↔ Legal s := by
  simp [usable, Legal, spelled_iff, reserved]

instance (s : String) : Decidable (Legal s) :=
  decidable_of_iff _ usable_iff_legal

end TaskHeader.Identifier
