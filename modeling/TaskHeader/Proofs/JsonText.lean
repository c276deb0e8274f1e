import TaskHeader.Json.Printer
import TaskHeader.Json.Reader

/-!
# JSON values read back from their lines

A value without numbers is read back from the lines it is written in (`Json.read_of_pretty`), up to the order of the
fields of its objects: the reader sorts them by name (`Json.sorted`).

* A string is read back character by character, the escaped ones from their escapes (`readChars_flatMap`).
* Blanks before a value, an item or a field make no difference to the reader (`readValue_blanks`).
* A value is read back whatever follows it (`readValue_pretty`), by induction on the value together with lists of items
  and of fields. An item is followed by a comma or by the end of its list, and each of the two has a step of its own
  (`readItems_more`, `readItems_last`, and the same for fields).

The fuel of the reader is measured by the length of the text: each step into a value takes a character of it.
-/

namespace TaskHeader.Json

/-! ## Strings -/

/-- A control character is the value of the four digits of its escape. -/
theorem unit?_hexDigit : ∀ n < 0x20, unit? '0' '0' (hexDigit (n / 16)) (hexDigit (n % 16)) = some n := by
  decide

/-- A character that is not escaped stands for itself. -/
theorem readChars_plain {c : Char} (hquote : c ≠ '"') (hslash : c ≠ '\\') (hlow : 0x20 ≤ c.toNat) (cs : List Char) :
    readChars (c :: cs) = (readChars cs).map fun r => (c :: r.1, r.2) := by
  rw [readChars.eq_def]
  split
  · next h => cases h
  · next h => cases h; exact absurd rfl hquote
  · next h => cases h; exact absurd rfl hslash
  · next h => cases h; exact absurd rfl hslash
  · next h => cases h; exact if_neg (Nat.not_lt.2 hlow)

/-- A character is read back from the way it stands in a string. -/
theorem readChars_escape (c : Char) (cs : List Char) :
    readChars (escape c ++ cs) = (readChars cs).map fun r => (c :: r.1, r.2) := by
  by_cases hnamed : c ∈ ['"', '\\', '\x08', '\x0c', '\n', '\r', '\t']
  · -- each of these has an escape of its own
    simp only [List.mem_cons, List.not_mem_nil, or_false] at hnamed
    rcases hnamed with rfl | rfl | rfl | rfl | rfl | rfl | rfl <;> simp [escape, readChars, unescape?]
  · simp only [List.mem_cons, List.not_mem_nil, or_false, not_or] at hnamed
    obtain ⟨hquote, hslash, hback, hfeed, hline, hreturn, htab⟩ := hnamed
    by_cases hlow : c.toNat < 0x20
    · have hunit := unit?_hexDigit c.toNat hlow
      have hplain : c.toNat < 0xD800 ∨ 0xDFFF < c.toNat := .inl (Nat.lt_trans hlow (by decide))
      simp only [escape, hquote, hslash, hback, hfeed, hline, hreturn, htab, hlow, if_true, if_false,
        List.cons_append, List.nil_append, readChars, hunit, if_pos hplain, Char.ofNat_toNat]
    · simp only [escape, hquote, hslash, hback, hfeed, hline, hreturn, htab, hlow, if_false, List.cons_append,
        List.nil_append]
      exact readChars_plain hquote hslash (Nat.le_of_not_lt hlow) cs

/-- **A string is read back**, up to its closing quote. -/
theorem readChars_flatMap (cs rest : List Char) :
    readChars (cs.flatMap escape ++ '"' :: rest) = some (cs, rest) := by
  induction cs with
  | nil => rfl
  | cons c cs ih =>
    rw [List.flatMap_cons, List.append_assoc, readChars_escape, ih]
    rfl

/-! ## Blanks -/

/-- Blanks only. -/
def Blank (bs : List Char) : Prop :=
  ∀ c ∈ bs, isBlank c = true

theorem blank_newline (level : Nat) : Blank (newline level) := by
  intro c hc
  rcases List.mem_cons.1 hc with rfl | hc
  · rfl
  · rw [List.eq_of_mem_replicate hc]
    rfl

theorem blank_space : Blank [' '] := by
  intro c hc
  rw [List.mem_singleton.1 hc]
  rfl

theorem skipBlanks_cons {c : Char} (h : isBlank c = false) (cs : List Char) : skipBlanks (c :: cs) = c :: cs := by
  rw [skipBlanks, List.dropWhile_cons_of_neg (by simp [h])]

section Blanks

variable {bs : List Char} (h : Blank bs) (fuel : Nat) (cs : List Char)
include h

theorem skipBlanks_append : skipBlanks (bs ++ cs) = skipBlanks cs :=
  List.dropWhile_append_of_pos h

theorem readValue_blanks : readValue fuel (bs ++ cs) = readValue fuel cs := by
  cases fuel with
  | zero => rw [readValue, readValue]
  | succ fuel => rw [readValue, readValue, skipBlanks_append h]

theorem readItems_blanks : readItems fuel (bs ++ cs) = readItems fuel cs := by
  cases fuel with
  | zero => rw [readItems, readItems]
  | succ fuel => rw [readItems, readItems, readValue_blanks h]

theorem readFields_blanks : readFields fuel (bs ++ cs) = readFields fuel cs := by
  cases fuel with
  | zero => rw [readFields, readFields]
  | succ fuel => rw [readFields, readFields, skipBlanks_append h]

end Blanks

/-! ## Values -/

mutual

/-- A value with the fields of every object sorted by name. -/
def sorted : Json → Json
  | .array items => .array (sortedItems items)
  | .object fields => .object (sortFields (sortedFields fields))
  | j => j

/-- Each item with its fields sorted. -/
def sortedItems : List Json → List Json
  | [] => []
  | v :: rest => v.sorted :: sortedItems rest

/-- The fields as they stand, each with its value sorted. -/
def sortedFields : List (String × Json) → List (String × Json)
  | [] => []
  | (k, v) :: rest => (k, v.sorted) :: sortedFields rest

end

mutual

/-- A value without numbers. -/
def Numberless : Json → Prop
  | .number _ => False
  | .array items => NumberlessItems items
  | .object fields => NumberlessFields fields
  | _ => True

/-- Items without numbers. -/
def NumberlessItems : List Json → Prop
  | [] => True
  | v :: rest => v.Numberless ∧ NumberlessItems rest

/-- Fields without numbers. -/
def NumberlessFields : List (String × Json) → Prop
  | [] => True
  | (_, v) :: rest => v.Numberless ∧ NumberlessFields rest

end

/-- A value starts with a character that is neither a blank nor the end of a list. -/
theorem prettyAt_head (level : Nat) {j : Json} (h : j.Numberless) :
    ∃ c cs, prettyAt level j = c :: cs ∧ isBlank c = false ∧ c ≠ ']' := by
  cases j with
  | null => exact ⟨_, _, rfl, by decide, by decide⟩
  | bool b => cases b <;> exact ⟨_, _, rfl, by decide, by decide⟩
  | number n => exact h.elim
  | string s => exact ⟨_, _, rfl, by decide, by decide⟩
  | array items => cases items <;> exact ⟨_, _, rfl, by decide, by decide⟩
  | object fields => cases fields <;> exact ⟨_, _, rfl, by decide, by decide⟩

section Steps

variable {fuel outer : Nat} {cs more rest : List Char} {v : Json}

theorem readValue_string (s : String) :
    readValue (fuel + 1) (writeString s ++ rest) = some (.string s, rest) := by
  have htext : writeString s ++ rest = '"' :: (s.toList.flatMap escape ++ '"' :: rest) := by simp [writeString]
  rw [htext, readValue, skipBlanks_cons (by decide)]
  simp only [readChars_flatMap, Option.map_some, String.ofList_toList]

/-- A list that does not end at once is read item by item. -/
theorem readValue_array (hv : v.Numberless) (level : Nat) :
    readValue (fuel + 1) ('[' :: (newline level ++ (prettyAt level v ++ more)))
      = (readItems fuel (newline level ++ (prettyAt level v ++ more))).map fun r => (.array r.1, r.2) := by
  obtain ⟨c, cs, htext, hblank, hend⟩ := prettyAt_head level hv
  rw [readValue, skipBlanks_cons (by decide), readItems_blanks (blank_newline level), htext, List.cons_append]
  simp only [skipBlanks_append (blank_newline level), skipBlanks_cons hblank]
  split
  · next h => cases h; exact absurd rfl hend
  · rfl

/-- An object that does not end at once is read field by field. -/
theorem readValue_object (level : Nat) (k : String) :
    readValue (fuel + 1) ('\x7b' :: (newline level ++ (writeString k ++ more)))
      = (readFields fuel (newline level ++ (writeString k ++ more))).map fun r => (.object (sortFields r.1), r.2) := by
  rw [readValue, skipBlanks_cons (by decide), readFields_blanks (blank_newline level)]
  simp only [skipBlanks_append (blank_newline level)]
  rfl

theorem readItems_last (h : readValue fuel cs = some (v, newline outer ++ ']' :: rest)) :
    readItems (fuel + 1) cs = some ([v], rest) := by
  simp only [readItems, h, skipBlanks_append (blank_newline outer), skipBlanks_cons (by decide : isBlank ']' = false)]

theorem readItems_more (h : readValue fuel cs = some (v, ',' :: more)) :
    readItems (fuel + 1) cs = (readItems fuel more).map fun r => (v :: r.1, r.2) := by
  simp only [readItems, h, skipBlanks_cons (by decide : isBlank ',' = false)]

/-- What stands between the name of a field and its value. -/
theorem readFields_name (k : String) : writeString k ++ ':' :: ' ' :: cs
    = '"' :: (k.toList.flatMap escape ++ '"' :: ':' :: ([' '] ++ cs)) := by
  simp [writeString]

theorem readFields_last (k : String) (h : readValue fuel cs = some (v, newline outer ++ '\x7d' :: rest)) :
    readFields (fuel + 1) (writeString k ++ ':' :: ' ' :: cs) = some ([(k, v)], rest) := by
  rw [readFields_name, readFields, skipBlanks_cons (by decide)]
  simp only [readChars_flatMap, skipBlanks_cons (by decide : isBlank ':' = false), readValue_blanks blank_space, h,
    skipBlanks_append (blank_newline outer), skipBlanks_cons (by decide : isBlank '\x7d' = false), String.ofList_toList]

theorem readFields_more (k : String) (h : readValue fuel cs = some (v, ',' :: more)) :
    readFields (fuel + 1) (writeString k ++ ':' :: ' ' :: cs)
      = (readFields fuel more).map fun r => ((k, v) :: r.1, r.2) := by
  rw [readFields_name, readFields, skipBlanks_cons (by decide)]
  simp only [readChars_flatMap, skipBlanks_cons (by decide : isBlank ':' = false), readValue_blanks blank_space, h,
    skipBlanks_cons (by decide : isBlank ',' = false), String.ofList_toList]

end Steps

/-- Items start with a line break and the first of them. -/
theorem prettyItems_cons (level : Nat) (v : Json) (items : List Json) :
    ∃ more, prettyItems level (v :: items) = newline level ++ (prettyAt level v ++ more) := by
  cases items with
  | nil => exact ⟨[], by simp [prettyItems]⟩
  | cons w items => exact ⟨_, by rw [prettyItems, List.append_assoc]; simp⟩

/-- Fields start with a line break and the name of the first of them. -/
theorem prettyFields_cons (level : Nat) (k : String) (v : Json) (fields : List (String × Json)) :
    ∃ more, prettyFields level ((k, v) :: fields) = newline level ++ (writeString k ++ more) := by
  cases fields with
  | nil => exact ⟨_, by rw [prettyFields, List.append_assoc]⟩
  | cons f fields => exact ⟨_, by rw [prettyFields, List.append_assoc, List.append_assoc]; simp⟩

theorem not_prettyItems_le_zero (level : Nat) (v : Json) (items : List Json) :
    ¬(prettyItems level (v :: items)).length ≤ 0 := by
  obtain ⟨more, hmore⟩ := prettyItems_cons level v items
  simp [hmore, newline]

theorem not_prettyFields_le_zero (level : Nat) (f : String × Json) (fields : List (String × Json)) :
    ¬(prettyFields level (f :: fields)).length ≤ 0 := by
  obtain ⟨more, hmore⟩ := prettyFields_cons level f.1 f.2 fields
  simp [hmore, newline]

mutual

/-- **A value is read back from its lines**, whatever follows them, with the fields of its objects sorted. The fuel is
the length of the text: every step down into the value takes a character. -/
theorem readValue_pretty : ∀ (j : Json) {fuel level : Nat} (rest : List Char), j.Numberless →
    (prettyAt level j).length ≤ fuel → readValue fuel (prettyAt level j ++ rest) = some (j.sorted, rest)
  | .null, 0, _, _, _, h | .bool true, 0, _, _, _, h | .bool false, 0, _, _, _, h | .string _, 0, _, _, _, h
  | .array [], 0, _, _, _, h | .array (_ :: _), 0, _, _, _, h | .object [], 0, _, _, _, h
  | .object (_ :: _), 0, _, _, _, h => absurd h (by simp [prettyAt, writeString])
  | .number _, _, _, _, hj, _ => hj.elim
  | .null, fuel + 1, _, _, _, _ => rfl
  | .bool true, fuel + 1, _, _, _, _ => rfl
  | .bool false, fuel + 1, _, _, _, _ => rfl
  | .string s, fuel + 1, _, _, _, _ => readValue_string s
  | .array [], fuel + 1, _, _, _, _ => rfl
  | .object [], fuel + 1, _, _, _, _ => rfl
  | .array (v :: items), fuel + 1, level, rest, hj, hfuel => by
    have hlength : (prettyItems (level + 1) (v :: items)).length ≤ fuel := by
      simp only [prettyAt, List.length_cons, List.length_append] at hfuel
      omega
    have hitems := readItems_pretty (v :: items) level rest (by simp) hj hlength
    obtain ⟨more, hmore⟩ := prettyItems_cons (level + 1) v items
    have htext : prettyAt level (.array (v :: items)) ++ rest
        = '[' :: (newline (level + 1) ++ (prettyAt (level + 1) v ++ (more ++ (newline level ++ ']' :: rest)))) := by
      simp [prettyAt, hmore]
    simp only [hmore, List.append_assoc] at hitems
    rw [htext, readValue_array hj.1, hitems]
    rfl
  | .object ((k, v) :: fields), fuel + 1, level, rest, hj, hfuel => by
    have hlength : (prettyFields (level + 1) ((k, v) :: fields)).length ≤ fuel := by
      simp only [prettyAt, List.length_cons, List.length_append] at hfuel
      omega
    have hfields := readFields_pretty ((k, v) :: fields) level rest (by simp) hj hlength
    obtain ⟨more, hmore⟩ := prettyFields_cons (level + 1) k v fields
    have htext : prettyAt level (.object ((k, v) :: fields)) ++ rest
        = '\x7b' :: (newline (level + 1) ++ (writeString k ++ (more ++ (newline level ++ '\x7d' :: rest)))) := by
      simp [prettyAt, hmore]
    simp only [hmore, List.append_assoc] at hfields
    rw [htext, readValue_object, hfields]
    rfl

/-- Items are read back up to the end of their list. -/
theorem readItems_pretty : ∀ (items : List Json) {fuel level : Nat} (outer : Nat) (rest : List Char), items ≠ [] →
    NumberlessItems items → (prettyItems level items).length ≤ fuel →
      readItems fuel (prettyItems level items ++ (newline outer ++ ']' :: rest)) = some (sortedItems items, rest)
  | [], _, _, _, _, h, _, _ => absurd rfl h
  | _ :: _, 0, _, _, _, _, _, hfuel => absurd hfuel (not_prettyItems_le_zero _ _ _)
  | [v], fuel + 1, level, outer, rest, _, hv, hfuel => by
    have htext : prettyItems level [v] ++ (newline outer ++ ']' :: rest)
        = newline level ++ (prettyAt level v ++ (newline outer ++ ']' :: rest)) := by
      simp [prettyItems]
    have hlength : (prettyAt level v).length ≤ fuel := by
      simp [prettyItems, newline] at hfuel
      omega
    have hvalue := readValue_pretty v (newline outer ++ ']' :: rest) hv.1 hlength
    rw [htext, readItems_blanks (blank_newline level), readItems_last hvalue]
    rfl
  | v :: w :: items, fuel + 1, level, outer, rest, _, hv, hfuel => by
    have htext : prettyItems level (v :: w :: items) ++ (newline outer ++ ']' :: rest)
        = newline level ++ (prettyAt level v
          ++ ',' :: (prettyItems level (w :: items) ++ (newline outer ++ ']' :: rest))) := by
      simp [prettyItems]
    have hlength : (prettyAt level v).length ≤ fuel ∧ (prettyItems level (w :: items)).length ≤ fuel := by
      simp [prettyItems, newline] at hfuel
      omega
    have hvalue := readValue_pretty v
      (',' :: (prettyItems level (w :: items) ++ (newline outer ++ ']' :: rest))) hv.1 hlength.1
    have hitems := readItems_pretty (w :: items) outer rest (by simp) hv.2 hlength.2
    rw [htext, readItems_blanks (blank_newline level), readItems_more hvalue, hitems]
    rfl

/-- Fields are read back up to the end of their object. -/
theorem readFields_pretty : ∀ (fields : List (String × Json)) {fuel level : Nat} (outer : Nat) (rest : List Char),
    fields ≠ [] → NumberlessFields fields → (prettyFields level fields).length ≤ fuel →
      readFields fuel (prettyFields level fields ++ (newline outer ++ '\x7d' :: rest))
        = some (sortedFields fields, rest)
  | [], _, _, _, _, h, _, _ => absurd rfl h
  | _ :: _, 0, _, _, _, _, _, hfuel => absurd hfuel (not_prettyFields_le_zero _ _ _)
  | [(k, v)], fuel + 1, level, outer, rest, _, hv, hfuel => by
    have htext : prettyFields level [(k, v)] ++ (newline outer ++ '\x7d' :: rest)
        = newline level
          ++ (writeString k ++ ':' :: ' ' :: (prettyAt level v ++ (newline outer ++ '\x7d' :: rest))) := by
      simp [prettyFields]
    have hlength : (prettyAt level v).length ≤ fuel := by
      simp [prettyFields, newline] at hfuel
      omega
    have hvalue := readValue_pretty v (newline outer ++ '\x7d' :: rest) hv.1 hlength
    rw [htext, readFields_blanks (blank_newline level), readFields_last k hvalue]
    rfl
  | (k, v) :: f :: fields, fuel + 1, level, outer, rest, _, hv, hfuel => by
    have htext : prettyFields level ((k, v) :: f :: fields) ++ (newline outer ++ '\x7d' :: rest)
        = newline level ++ (writeString k ++ ':' :: ' ' :: (prettyAt level v
          ++ ',' :: (prettyFields level (f :: fields) ++ (newline outer ++ '\x7d' :: rest)))) := by
      simp [prettyFields]
    have hlength : (prettyAt level v).length ≤ fuel ∧ (prettyFields level (f :: fields)).length ≤ fuel := by
      simp [prettyFields, newline] at hfuel
      omega
    have hvalue := readValue_pretty v
      (',' :: (prettyFields level (f :: fields) ++ (newline outer ++ '\x7d' :: rest))) hv.1 hlength.1
    have hfields := readFields_pretty (f :: fields) outer rest (by simp) hv.2 hlength.2
    rw [htext, readFields_blanks (blank_newline level), readFields_more k hvalue, hfields]
    rfl

end

/-- **A value is read back from its text**, which may end with blanks. -/
theorem read_of_pretty {j : Json} {text : String} {bs : List Char} (hj : j.Numberless) (hbs : Blank bs)
    (htext : text.toList = prettyAt 0 j ++ bs) : read text = some j.sorted := by
  have hlength : (prettyAt 0 j).length ≤ 2 * text.toList.length + 2 := by
    rw [htext, List.length_append]
    omega
  have hend : skipBlanks bs = [] := by
    rw [← List.append_nil bs, skipBlanks_append hbs]
    rfl
  have hvalue := readValue_pretty j bs hj hlength
  rw [← htext] at hvalue
  rw [read, hvalue]
  simp only [hend, List.isEmpty_nil, if_true]

end TaskHeader.Json
