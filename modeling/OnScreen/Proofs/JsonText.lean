import Mathlib.Data.List.TakeWhile
import OnScreen.Json.Decode
import OnScreen.Json.Writer

/-!
# Reading back what was written

The two ways of writing a JSON value differ in the blanks between its parts only. A reader that
steps over blanks takes the same off both texts. Others may spell the same text in other ways, with
escapes for any of its characters, and it is read all the same.

Results:
* `Json.compactChars_eq`, `prettyChars_eq`: the two ways of writing, as one with its spacing.
* `Json.Gives`, `Reads`: a reader takes a text for a value, or fails.
* `Json.Reads.whole`: the same for a text with nothing but blanks around it.
* `Json.Spells`: what stands between quotes for a text; `quotedText_append`.
* `Json.gives_truthValue`, `gives_textValue`, `gives_plainVariant`: single values, as they may be
  spelled.
-/

namespace OnScreen.Json

/-! ## Spacing -/

/-- What stands between the parts of a text: in front of items, members and closing brackets at
some depth of nesting, and behind colons. -/
structure Spacing where
  line : Nat → List Char
  gap : List Char
  blank_line : ∀ depth, ∀ c ∈ line depth, isBlank c = true
  blank_gap : ∀ c ∈ gap, isBlank c = true

namespace Spacing

/-- Nothing. -/
def tight : Spacing where
  line _ := []
  gap := []
  blank_line _ c hc := by cases hc
  blank_gap c hc := by cases hc

/-- Line ends with indentation, and single spaces. -/
def wide : Spacing where
  line := newLine
  gap := [' ']
  blank_line depth c hc := by
    rcases List.mem_cons.mp hc with rfl | hc
    · rfl
    · rw [List.eq_of_mem_replicate hc]
      rfl
  blank_gap c hc := by
    rw [List.mem_singleton.mp hc]
    rfl

end Spacing

mutual

/-- What is written for a value with some spacing. -/
def spacedChars (sp : Spacing) (depth : Nat) : Json → List Char
  | .null => ['n', 'u', 'l', 'l']
  | .bool b => truth b
  | .number literal => literal
  | .text s => quote s
  | .array items => '[' :: spacedItems sp depth true items
  | .object members => '\x7b' :: spacedMembers sp depth true members

/-- The items from the first or from behind one, and the end of the array. -/
def spacedItems (sp : Spacing) (depth : Nat) : Bool → List Json → List Char
  | first, [] => (if first then [] else sp.line depth) ++ [']']
  | first, item :: items =>
    (if first then [] else [',']) ++ (sp.line (depth + 1) ++ (spacedChars sp (depth + 1) item ++
      spacedItems sp depth false items))

/-- The members from the first or from behind one, and the end of the object. -/
def spacedMembers (sp : Spacing) (depth : Nat) : Bool → List (String × Json) → List Char
  | first, [] => (if first then [] else sp.line depth) ++ ['\x7d']
  | first, (name, value) :: members =>
    (if first then [] else [',']) ++ (sp.line (depth + 1) ++ (quote name ++ ':' :: (sp.gap ++
      (spacedChars sp (depth + 1) value ++ spacedMembers sp depth false members))))

end

section

variable (sp : Spacing) (depth : Nat)

theorem spacedChars_bool (b : Bool) : spacedChars sp depth (.bool b) = truth b := by
  rw [spacedChars]

theorem spacedChars_text (s : String) : spacedChars sp depth (.text s) = quote s := by
  rw [spacedChars]

theorem spacedChars_array (items : List Json) :
    spacedChars sp depth (.array items) = '[' :: spacedItems sp depth true items := by
  rw [spacedChars]

theorem spacedChars_object (members : List (String × Json)) :
    spacedChars sp depth (.object members) = '\x7b' :: spacedMembers sp depth true members := by
  rw [spacedChars]

end

mutual

theorem compactChars_eq (depth : Nat) :
    ∀ j : Json, j.compactChars = spacedChars .tight depth j
  | .null => rfl
  | .bool _ => rfl
  | .number _ => rfl
  | .text _ => rfl
  | .array [] => rfl
  | .array (item :: items) => by
    rw [compactChars, compactChars_eq (depth + 1) item, compactItems_eq depth items]
    rfl
  | .object [] => rfl
  | .object ((name, value) :: members) => by
    rw [compactChars, compactChars_eq (depth + 1) value, compactMembers_eq depth members]
    rfl

theorem compactItems_eq (depth : Nat) :
    ∀ items : List Json, compactItems items = spacedItems .tight depth false items
  | [] => rfl
  | item :: items => by
    rw [compactItems, compactChars_eq (depth + 1) item, compactItems_eq depth items]
    rfl

theorem compactMembers_eq (depth : Nat) :
    ∀ members : List (String × Json),
      compactMembers members = spacedMembers .tight depth false members
  | [] => rfl
  | (name, value) :: members => by
    rw [compactMembers, compactChars_eq (depth + 1) value, compactMembers_eq depth members]
    rfl

end

mutual

theorem prettyChars_eq (depth : Nat) :
    ∀ j : Json, j.prettyChars depth = spacedChars .wide depth j
  | .null => rfl
  | .bool _ => rfl
  | .number _ => rfl
  | .text _ => rfl
  | .array [] => rfl
  | .array (item :: items) => by
    rw [prettyChars, prettyChars_eq (depth + 1) item, prettyItems_eq depth items,
      List.append_assoc]
    rfl
  | .object [] => rfl
  | .object ((name, value) :: members) => by
    rw [prettyChars, prettyChars_eq (depth + 1) value, prettyMembers_eq depth members,
      List.append_assoc]
    rfl

theorem prettyItems_eq (depth : Nat) :
    ∀ items : List Json, prettyItems depth items = spacedItems .wide depth false items
  | [] => rfl
  | item :: items => by
    rw [prettyItems, prettyChars_eq (depth + 1) item, prettyItems_eq depth items,
      List.append_assoc]
    rfl

theorem prettyMembers_eq (depth : Nat) :
    ∀ members : List (String × Json),
      prettyMembers depth members = spacedMembers .wide depth false members
  | [] => rfl
  | (name, value) :: members => by
    rw [prettyMembers, prettyChars_eq (depth + 1) value, prettyMembers_eq depth members,
      List.append_assoc]
    rfl

end

/-! ## Blanks and delimiters -/

/-- Only blanks. -/
def Blank (s : List Char) : Prop :=
  ∀ c ∈ s, isBlank c = true

theorem blank_nil : Blank [] :=
  List.forall_mem_nil _

/-- The text ends, or goes on with something that is no part of the value before it. -/
def Delimited (rest : List Char) : Prop :=
  ∀ c cs, rest = c :: cs → isBlank c = true ∨ c = ',' ∨ c = ']' ∨ c = '\x7d'

theorem delimited_nil : Delimited [] := by
  intro c cs h
  cases h

theorem delimited_cons {c : Char} {cs : List Char}
    (h : isBlank c = true ∨ c = ',' ∨ c = ']' ∨ c = '\x7d') : Delimited (c :: cs) := by
  rintro _ _ ⟨rfl, rfl⟩
  exact h

/-- Blanks before a delimiter are delimited. -/
theorem delimited_append {blanks rest : List Char} (hblanks : ∀ c ∈ blanks, isBlank c = true)
    (hrest : Delimited rest) : Delimited (blanks ++ rest) := by
  cases blanks with
  | nil => exact hrest
  | cons c cs => exact delimited_cons (Or.inl (hblanks c List.mem_cons_self))

theorem skipBlanks_append {blanks s : List Char} (h : ∀ c ∈ blanks, isBlank c = true) :
    skipBlanks (blanks ++ s) = skipBlanks s :=
  List.dropWhile_append_of_pos h

theorem skipBlanks_cons {c : Char} (s : List Char) (h : isBlank c = false) :
    skipBlanks (c :: s) = c :: s := by
  unfold skipBlanks
  rw [List.dropWhile_cons, h]
  rfl

/-- A value starts behind the blanks in front of it. -/
theorem valueStart_append {blanks s : List Char} {c : Char}
    (hblanks : ∀ c ∈ blanks, isBlank c = true) (hc : isBlank c = false) :
    valueStart (blanks ++ c :: s) = .ok (c, s) := by
  unfold valueStart
  rw [skipBlanks_append hblanks, skipBlanks_cons s hc]

/-! ## Reading back -/

theorem toOption_eq_some_iff {ε α : Type} {x : Except ε α} {a : α} :
    x.toOption = some a ↔ x = .ok a := by
  cases x with
  | error e => exact ⟨fun h => (by cases h), fun h => (by cases h)⟩
  | ok b => exact ⟨fun h => (by cases h; rfl), fun h => (by cases h; rfl)⟩

theorem toOption_eq_none_iff {ε α : Type} {x : Except ε α} :
    x.toOption = none ↔ ∃ e, x = .error e := by
  cases x with
  | error e => exact ⟨fun _ => ⟨e, rfl⟩, fun _ => rfl⟩
  | ok b => exact ⟨fun h => (by cases h), fun ⟨_, h⟩ => (by cases h)⟩

variable {α : Type} {read : Reader α} {s : List Char}

/-- The reader takes the text for the value, with blanks in front of it and a delimiter behind. -/
def Gives (read : Reader α) (s : List Char) (a : α) : Prop :=
  ∀ blanks rest : List Char, Blank blanks → Delimited rest →
    read (blanks ++ (s ++ rest)) = .ok (a, rest)

/-- The reader takes the text for the value that is said here, with blanks in front of it and a
delimiter behind; if none is said, it fails. -/
def Reads (read : Reader α) (s : List Char) (a? : Option α) : Prop :=
  ∀ blanks rest : List Char, Blank blanks → Delimited rest →
    (read (blanks ++ (s ++ rest))).toOption = a?.map fun a => (a, rest)

theorem reads_some_iff {a : α} : Reads read s (some a) ↔ Gives read s a :=
  forall₂_congr fun _ _ => imp_congr_right fun _ => imp_congr_right fun _ => toOption_eq_some_iff

theorem Reads.eq_error (h : Reads read s none) {blanks rest : List Char} (hblanks : Blank blanks)
    (hrest : Delimited rest) : ∃ e, read (blanks ++ (s ++ rest)) = .error e :=
  toOption_eq_none_iff.mp (h blanks rest hblanks hrest)

/-- A whole text with nothing but blanks around it is read as it is in front of a delimiter. -/
theorem Reads.whole {a? : Option α} (h : Reads read s a?) {before after : List Char}
    (hbefore : Blank before) (hafter : Blank after) :
    (whole read (before ++ (s ++ after))).toOption = a? := by
  have hdelimited : Delimited after := by
    rw [← List.append_nil after]
    exact delimited_append hafter delimited_nil
  have hread := h before after hbefore hdelimited
  have hend : skipBlanks after = [] := List.dropWhile_eq_nil_iff.mpr hafter
  unfold Json.whole
  cases a? with
  | none =>
    obtain ⟨e, he⟩ := toOption_eq_none_iff.mp hread
    rw [he]
    rfl
  | some a =>
    rw [show read (before ++ (s ++ after)) = .ok (a, after) from toOption_eq_some_iff.mp hread]
    simp only [hend]
    rfl

theorem toOption_decode (read : Reader α) (s : List Char) :
    (decode read (String.ofList s)).toOption = (Json.whole read s).toOption := by
  unfold decode
  rw [String.toList_ofList]
  cases Json.whole read s <;> rfl

/-! ## Truth values -/

theorem gives_truthValue (b : Bool) : Gives truthValue (truth b) b := by
  intro blanks rest hblanks _
  unfold truthValue
  cases b with
  | false =>
    rw [show truth false ++ rest = 'f' :: ('a' :: 'l' :: 's' :: 'e' :: rest) from rfl,
      valueStart_append hblanks rfl]
    rfl
  | true =>
    rw [show truth true ++ rest = 't' :: ('r' :: 'u' :: 'e' :: rest) from rfl,
      valueStart_append hblanks rfl]
    rfl

theorem reads_bool (sp : Spacing) (depth : Nat) (b : Bool) :
    Reads truthValue (spacedChars sp depth (.bool b)) (some b) := by
  rw [spacedChars_bool]
  exact reads_some_iff.mpr (gives_truthValue b)

/-! ## Texts -/

/-- The four digits of an escape. -/
def HexDigits (digits : List Char) (n : Nat) : Prop :=
  ∃ a b c d w x y z, digits = [a, b, c, d] ∧ hexValue? a = some w ∧ hexValue? b = some x ∧
    hexValue? c = some y ∧ hexValue? d = some z ∧ n = ((w * 16 + x) * 16 + y) * 16 + z

/-- What may stand between two quotes for some characters. A character beyond the reach of four
digits may be given by its two surrogates. -/
inductive Spells : List Char → List Char → Prop
  | nil : Spells [] []
  | plain {c : Char} {s cs : List Char} (hquote : c ≠ '\"') (hbackslash : c ≠ '\\')
    (hcontrol : 32 ≤ c.toNat) (h : Spells s cs) : Spells (c :: s) (c :: cs)
  | letter {c c' : Char} {s cs : List Char} (hc : simpleEscape? c = some c') (h : Spells s cs) :
    Spells ('\\' :: c :: s) (c' :: cs)
  | unicode {digits s cs : List Char} {n : Nat} (hex : HexDigits digits n)
    (hn : n < 0xD800 ∨ 0xDFFF < n) (h : Spells s cs) :
    Spells ('\\' :: 'u' :: (digits ++ s)) (Char.ofNat n :: cs)
  | surrogates {digits digits' s cs : List Char} {high low : Nat} (hhigh : HexDigits digits high)
    (hlow : HexDigits digits' low) (hhigh' : 0xD800 ≤ high ∧ high ≤ 0xDBFF)
    (hlow' : 0xDC00 ≤ low ∧ low ≤ 0xDFFF) (h : Spells s cs) :
    Spells ('\\' :: 'u' :: (digits ++ '\\' :: 'u' :: (digits' ++ s)))
      (Char.ofNat (0x10000 + (high - 0xD800) * 0x400 + (low - 0xDC00)) :: cs)

theorem HexDigits.hexEscape_append {digits : List Char} {n : Nat} (h : HexDigits digits n)
    (s : List Char) : hexEscape (digits ++ s) = .ok (n, s) := by
  obtain ⟨a, b, c, d, w, x, y, z, rfl, ha, hb, hc, hd, rfl⟩ := h
  simp only [List.cons_append, List.nil_append, hexEscape, ha, hb, hc, hd]

/-- A letter that stands for a character is no `u`. -/
theorem ne_u_of_simpleEscape? {c c' : Char} (h : simpleEscape? c = some c') : c ≠ 'u' := by
  rintro rfl
  cases h

/-- What follows a backslash stands for one character. -/
theorem textChars_escaped {fuel : Nat} {s rest : List Char} {c : Char}
    (h : escaped s = .ok (c, rest)) :
    textChars (fuel + 1) ('\\' :: s) =
      match textChars fuel rest with
      | .error e => .error e
      | .ok (cs, rest) => .ok (c :: cs, rest) := by
  rewrite [textChars, if_neg (by decide), if_pos rfl, h]
  rfl

theorem Spells.textChars_append {s cs : List Char} (h : Spells s cs) (rest : List Char) {fuel : Nat}
    (hfuel : s.length < fuel) : textChars fuel (s ++ '\"' :: rest) = .ok (cs, rest) := by
  induction h generalizing fuel with
  | nil =>
    obtain ⟨fuel, rfl⟩ := Nat.exists_eq_add_one.mpr hfuel
    rfl
  | @plain c s cs hquote hbackslash hcontrol h ih =>
    obtain ⟨fuel, rfl⟩ := Nat.exists_eq_add_one.mpr (Nat.zero_lt_of_lt hfuel)
    rw [List.cons_append, textChars, if_neg hquote, if_neg hbackslash, if_neg (by omega),
      ih (Nat.lt_of_succ_lt_succ hfuel)]
  | @letter c c' s cs hc h ih =>
    obtain ⟨fuel, rfl⟩ := Nat.exists_eq_add_one.mpr (Nat.zero_lt_of_lt hfuel)
    have hescaped : escaped (c :: (s ++ '\"' :: rest)) = .ok (c', s ++ '\"' :: rest) := by
      unfold escaped
      simp only [ne_u_of_simpleEscape? hc, if_false, hc]
    simp only [List.length_cons] at hfuel
    rw [List.cons_append, List.cons_append, textChars_escaped hescaped, ih (by omega)]
  | @unicode digits s cs n hex hn h ih =>
    obtain ⟨fuel, rfl⟩ := Nat.exists_eq_add_one.mpr (Nat.zero_lt_of_lt hfuel)
    have hescaped : escaped ('u' :: (digits ++ (s ++ '\"' :: rest))) =
        .ok (Char.ofNat n, s ++ '\"' :: rest) := by
      unfold escaped
      simp only [if_true, hex.hexEscape_append]
      rw [if_neg (by simp; omega), if_neg (by simp; omega)]
    simp only [List.length_cons, List.length_append] at hfuel
    rw [List.cons_append, List.cons_append, List.append_assoc, textChars_escaped hescaped,
      ih (by omega)]
  | @surrogates digits digits' s cs high low hhigh hlow hhigh' hlow' h ih =>
    obtain ⟨fuel, rfl⟩ := Nat.exists_eq_add_one.mpr (Nat.zero_lt_of_lt hfuel)
    have hescaped : escaped ('u' :: (digits ++ '\\' :: 'u' :: (digits' ++ (s ++ '\"' :: rest)))) =
        .ok (Char.ofNat (0x10000 + (high - 0xD800) * 0x400 + (low - 0xDC00)),
          s ++ '\"' :: rest) := by
      unfold escaped
      simp only [if_true, hhigh.hexEscape_append]
      rw [if_neg (by simp; omega), if_pos (by simp; omega)]
      unfold secondSurrogate
      simp only [ne_eq, not_true, if_false, hlow.hexEscape_append]
      rw [if_pos (by simp; omega)]
    simp only [List.length_cons, List.length_append] at hfuel
    simp only [List.cons_append, List.append_assoc]
    rw [textChars_escaped hescaped, ih (by omega)]

/-- Behind its opening quote, a spelling is taken up to its closing one. -/
theorem Spells.quotedText_append {s : List Char} {text : String} (h : Spells s text.toList)
    (rest : List Char) : quotedText (s ++ '\"' :: rest) = .ok (text, rest) := by
  unfold quotedText
  rw [h.textChars_append rest (by rw [List.length_append, List.length_cons]; omega)]
  show Except.ok (String.ofList text.toList, rest) = _
  rw [String.ofList_toList]

theorem hexValue?_hexDigit : ∀ n < 16, hexValue? (hexDigit n) = some n := by
  decide

/-- What is written for a character is a spelling of it. -/
theorem spells_escape (c : Char) {s cs : List Char} (h : Spells s cs) :
    Spells (escape c ++ s) (c :: cs) := by
  unfold escape
  split
  · subst_vars
    exact .letter rfl h
  split
  · subst_vars
    exact .letter rfl h
  split
  · subst_vars
    exact .letter rfl h
  split
  · subst_vars
    exact .letter rfl h
  split
  · subst_vars
    exact .letter rfl h
  split
  · subst_vars
    exact .letter rfl h
  split
  · subst_vars
    exact .letter rfl h
  split
  · rename_i hcontrol
    have hhigh := hexValue?_hexDigit (c.toNat / 16) (by omega)
    have hlow := hexValue?_hexDigit (c.toNat % 16) (by omega)
    have hdigits : HexDigits ['0', '0', hexDigit (c.toNat / 16), hexDigit (c.toNat % 16)]
        c.toNat :=
      ⟨_, _, _, _, 0, 0, _, _, rfl, rfl, rfl, hhigh, hlow, by omega⟩
    have hunicode := Spells.unicode hdigits (Or.inl (by omega)) h
    rw [Char.ofNat_toNat] at hunicode
    exact hunicode
  · rename_i hquote hbackslash _ _ _ _ _ hcontrol
    exact .plain hquote hbackslash (by omega) h

theorem spells_flatMap_escape (cs : List Char) : Spells (cs.flatMap escape) cs := by
  induction cs with
  | nil => exact .nil
  | cons c cs ih =>
    rw [List.flatMap_cons]
    exact spells_escape c ih

/-- What stands for a text. -/
def IsSpelling (text : String) (s : List Char) : Prop :=
  ∃ inner, s = '\"' :: (inner ++ ['\"']) ∧ Spells inner text.toList

theorem isSpelling_quote (text : String) : IsSpelling text (quote text) :=
  ⟨_, rfl, spells_flatMap_escape _⟩

theorem gives_textValue {text : String} {s : List Char} (h : IsSpelling text s) :
    Gives textValue s text := by
  obtain ⟨inner, rfl, hinner⟩ := h
  intro blanks rest hblanks hrest
  unfold textValue
  rw [List.cons_append, List.append_assoc, valueStart_append hblanks rfl]
  exact hinner.quotedText_append rest

theorem reads_text (sp : Spacing) (depth : Nat) (text : String) :
    Reads textValue (spacedChars sp depth (.text text)) (some text) := by
  rw [spacedChars_text]
  exact reads_some_iff.mpr (gives_textValue (isSpelling_quote text))

/-- The name of a variant without a value is read however it is spelled. -/
theorem gives_plainVariant {α : Type} {variants : List (Variant α)} {name name' : String}
    {value : α} (h : variants.find? (fun v => decide (v.name = name)) = some (.plain name' value))
    {s : List Char} (hs : IsSpelling name s) : Gives (variant variants) s value := by
  obtain ⟨inner, rfl, hinner⟩ := hs
  intro blanks rest hblanks hrest
  have hname : variantName variants (inner ++ '\"' :: rest) = .ok (.plain name' value, rest) := by
    unfold variantName
    rw [hinner.quotedText_append]
    simp only [h]
  unfold variant
  rw [List.cons_append, List.append_assoc, valueStart_append hblanks rfl]
  simp only [if_true, List.cons_append, List.nil_append, hname]
  exact if_neg (by decide)

end OnScreen.Json
