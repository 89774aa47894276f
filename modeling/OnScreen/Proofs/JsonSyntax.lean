import OnScreen.Proofs.JsonNumber

/-!
# The form of JSON texts

What is a JSON value, as a form of text: with blanks wherever they may stand, texts with every
escape, and numbers of any size. A value that nobody asked for is stepped over exactly to its end.

Results:
* `Json.IsNumber`, `IsText`, `Sequence`, `IsValue`: the grammar.
* `Json.IsNumber.steppedOver`, `IsText.skips`: numbers and texts are stepped over.
* `Json.StepsAlong.sequence`: a sequence is stepped over part by part.
* `Json.IsValue.steppedOver`, `skipValue_append`: so is every value.
-/

namespace OnScreen.Json

/-! ## The grammar -/

/-- One digit or more. -/
def IsDigits (s : List Char) : Prop :=
  s ≠ [] ∧ ∀ c ∈ s, isDigit c = true

/-- Nothing, or the digits behind a decimal point. -/
inductive IsFraction : List Char → Prop
  | absent : IsFraction []
  | point {digits : List Char} (h : IsDigits digits) : IsFraction ('.' :: digits)

/-- Nothing, or a power of ten. -/
inductive IsExponent : List Char → Prop
  | absent : IsExponent []
  | power {letter : Char} (hletter : letter = 'e' ∨ letter = 'E') {sign digits : List Char}
    (hsign : sign = [] ∨ sign = ['+'] ∨ sign = ['-']) (h : IsDigits digits) :
    IsExponent (letter :: (sign ++ digits))

/-- A number. Its digits do not begin with a zero, unless that is the only one before the point. -/
inductive IsNumber : List Char → Prop
  | mk {sign whole fraction exponent : List Char} (hsign : sign = [] ∨ sign = ['-'])
    (hwhole : IsDigits whole) (hleading : ∀ cs, whole = '0' :: cs → cs = [])
    (hfraction : IsFraction fraction) (hexponent : IsExponent exponent) :
    IsNumber (sign ++ (whole ++ (fraction ++ exponent)))

/-- The characters between two quotes. An escape may stand for half a character. -/
inductive IsText : List Char → Prop
  | nil : IsText []
  | plain {c : Char} {s : List Char} (hquote : c ≠ '\"') (hbackslash : c ≠ '\\')
    (hcontrol : 32 ≤ c.toNat) (h : IsText s) : IsText (c :: s)
  | letter {c c' : Char} {s : List Char} (hc : simpleEscape? c = some c') (h : IsText s) :
    IsText ('\\' :: c :: s)
  | unicode {a b c d : Char} {s : List Char} (hex : ∀ x ∈ [a, b, c, d], (hexValue? x).isSome = true)
    (h : IsText s) : IsText ('\\' :: 'u' :: a :: b :: c :: d :: s)

/-- The parts of an array or object, from the first or from behind one, with commas between them,
blanks around them, and the closing bracket behind them. -/
inductive Sequence (close : Char) : Bool → List (List Char) → List Char → Prop
  | nil {first : Bool} {blanks : List Char} (hblanks : Blank blanks) :
    Sequence close first [] (blanks ++ [close])
  | first {blanks part text : List Char} {parts : List (List Char)} (hblanks : Blank blanks)
    (h : Sequence close false parts text) :
    Sequence close true (part :: parts) (blanks ++ (part ++ text))
  | next {blanks blanks' part text : List Char} {parts : List (List Char)} (hblanks : Blank blanks)
    (hblanks' : Blank blanks') (h : Sequence close false parts text) :
    Sequence close false (part :: parts) (blanks ++ ',' :: (blanks' ++ (part ++ text)))

/-- A member of an object: its name as it is written between quotes, the blanks around the colon,
and its value. -/
structure Member where
  name : List Char
  before : List Char
  after : List Char
  value : List Char
  blank_before : Blank before
  blank_after : Blank after

/-- What is written for a member. -/
def Member.text (m : Member) : List Char :=
  '\"' :: (m.name ++ '\"' :: (m.before ++ ':' :: (m.after ++ m.value)))

/-- A value. -/
inductive IsValue : List Char → Prop
  | null : IsValue ['n', 'u', 'l', 'l']
  | truth (b : Bool) : IsValue (truth b)
  | number {s : List Char} (h : IsNumber s) : IsValue s
  | text {s : List Char} (h : IsText s) : IsValue ('\"' :: (s ++ ['\"']))
  | array {parts : List (List Char)} {text : List Char} (htext : Sequence ']' true parts text)
    (hparts : ∀ part ∈ parts, IsValue part) : IsValue ('[' :: text)
  | object {members : List Member} {text : List Char}
    (htext : Sequence '\x7d' true (members.map Member.text) text)
    (hnames : ∀ m ∈ members, IsText m.name) (hvalues : ∀ m ∈ members, IsValue m.value) :
    IsValue ('\x7b' :: text)

/-! ## Spelled texts -/

/-- A spelling is a text, whatever it stands for. -/
theorem Spells.isText {s cs : List Char} (h : Spells s cs) : IsText s := by
  have hdigits {digits s : List Char} {n : Nat} (hex : HexDigits digits n) (h : IsText s) :
      IsText ('\\' :: 'u' :: (digits ++ s)) := by
    obtain ⟨a, b, c, d, w, x, y, z, rfl, ha, hb, hc, hd, -⟩ := hex
    exact .unicode (by simp [ha, hb, hc, hd]) h
  induction h with
  | nil => exact .nil
  | plain hquote hbackslash hcontrol h ih => exact .plain hquote hbackslash hcontrol ih
  | letter hc h ih => exact .letter hc ih
  | unicode hex hn h ih => exact hdigits hex ih
  | surrogates hhigh hlow hhigh' hlow' h ih => exact hdigits hhigh (hdigits hlow ih)

theorem isValue_quote (text : String) : IsValue (quote text) :=
  .text (spells_flatMap_escape _).isText

/-! ## Sequences -/

/-- Behind a part, a sequence goes on with a delimiter. -/
theorem Sequence.delimited {close : Char} (hclose : close = ']' ∨ close = '\x7d')
    {parts : List (List Char)} {text : List Char} (h : Sequence close false parts text)
    (rest : List Char) : Delimited (text ++ rest) := by
  cases h with
  | nil hblanks =>
    rw [List.append_assoc]
    exact delimited_append hblanks (delimited_cons (Or.inr (Or.inr hclose)))
  | next hblanks hblanks' h =>
    rw [List.append_assoc]
    exact delimited_append hblanks (delimited_cons (Or.inr (Or.inl rfl)))

/-! ## Numbers are stepped over -/

theorem dropDigits_append {ds rest : List Char} (hds : ∀ c ∈ ds, isDigit c = true)
    (hrest : NoDigit rest) : (ds ++ rest).dropWhile isDigit = rest :=
  (congrArg Prod.snd (spanDigits_append hds hrest) :)

theorem IsDigits.exists_cons {ds : List Char} (h : IsDigits ds) :
    ∃ c cs, ds = c :: cs ∧ isDigit c = true ∧ ∀ c ∈ cs, isDigit c = true := by
  obtain ⟨c, cs, rfl⟩ := List.exists_cons_of_ne_nil h.1
  exact ⟨c, cs, rfl, h.2 c List.mem_cons_self, fun c hc => h.2 c (List.mem_cons_of_mem _ hc)⟩

theorem IsExponent.skips {s : List Char} (h : IsExponent s) {rest : List Char}
    (hrest : Delimited rest) : skipAfterDigits (s ++ rest) = .ok rest := by
  cases h with
  | absent =>
    cases rest with
    | nil => rfl
    | cons c cs =>
      obtain ⟨-, -, he, hE⟩ := hrest.head
      rw [List.nil_append, skipAfterDigits, if_neg (by simp [he, hE])]
  | @power letter hletter sign digits hsign hdigits =>
    obtain ⟨c, cs, rfl, hc, hcs⟩ := hdigits.exists_cons
    have hskip : skipExponent (sign ++ (c :: (cs ++ rest))) = .ok rest := by
      have hdrop := dropDigits_append hcs hrest.noDigit
      have hsigned : ¬ (c = '+' ∨ c = '-') := by
        rintro (rfl | rfl) <;> cases hc
      unfold skipExponent
      rcases hsign with rfl | rfl | rfl
      · simp [hsigned, hc, hdrop]
      · simp [hc, hdrop]
      · simp [hc, hdrop]
    rw [List.cons_append, skipAfterDigits, if_pos (by simpa using hletter), List.append_assoc]
    exact hskip

theorem IsFraction.noDigit {fraction exponent rest : List Char} (hfraction : IsFraction fraction)
    (hexponent : IsExponent exponent) (hrest : Delimited rest) :
    NoDigit (fraction ++ (exponent ++ rest)) := by
  cases hfraction with
  | point h => exact noDigit_cons rfl _
  | absent =>
    cases hexponent with
    | absent => exact hrest.noDigit
    | power hletter hsign h => rcases hletter with rfl | rfl <;> exact noDigit_cons rfl _

/-- Behind its sign, a number is stepped over. -/
theorem skipNumber_append {whole fraction exponent rest : List Char} (hwhole : IsDigits whole)
    (hleading : ∀ cs, whole = '0' :: cs → cs = []) (hfraction : IsFraction fraction)
    (hexponent : IsExponent exponent) (hrest : Delimited rest) :
    skipNumber (whole ++ (fraction ++ (exponent ++ rest))) = .ok rest := by
  have hnodigit := hfraction.noDigit hexponent hrest
  obtain ⟨c, cs, rfl, hc, hcs⟩ := hwhole.exists_cons
  -- no digit follows a leading zero, neither in the number nor behind it
  have hzero : ¬ (c = '0' ∧
      ((cs ++ (fraction ++ (exponent ++ rest))).head?.any isDigit) = true) := by
    rintro ⟨rfl, hany⟩
    rw [hleading cs rfl, List.nil_append] at hany
    cases htail : fraction ++ (exponent ++ rest) with
    | nil =>
      rw [htail] at hany
      cases hany
    | cons d ds =>
      rw [htail, List.head?_cons, Option.any_some, hnodigit d ds htail] at hany
      cases hany
  rw [List.cons_append, skipNumber, if_pos hc, if_neg hzero, dropDigits_append hcs hnodigit]
  cases hfraction with
  | point h =>
    obtain ⟨d, ds, rfl, hd, hds⟩ := h.exists_cons
    have hbehind : NoDigit (exponent ++ rest) := IsFraction.absent.noDigit hexponent hrest
    simp only [List.cons_append, List.head?_cons, Option.any_some, hd, if_true]
    rw [List.dropWhile_cons_of_pos hd, dropDigits_append hds hbehind]
    exact hexponent.skips hrest
  | absent =>
    -- what follows is no point, for the scanner would take one as part of the number
    have hpoint : ∀ cs, exponent ++ rest ≠ '.' :: cs := by
      rintro cs heq
      cases hexponent with
      | absent =>
        subst heq
        exact hrest.head.2.1 rfl
      | power hletter hsign h =>
        obtain ⟨rfl, -⟩ := List.cons_eq_cons.mp heq
        rcases hletter with h | h <;> cases h
    split
    · rename_i heq
      exact absurd heq (hpoint _)
    · exact hexponent.skips hrest

/-! ## Texts are stepped over -/

theorem hexEscape_append {a b c d : Char} (h : ∀ x ∈ [a, b, c, d], (hexValue? x).isSome = true)
    (rest : List Char) :
    ∃ n, hexEscape (a :: b :: c :: d :: rest) = .ok (n, rest) := by
  simp only [List.forall_mem_cons, Option.isSome_iff_exists] at h
  obtain ⟨⟨a', ha⟩, ⟨b', hb⟩, ⟨c', hc⟩, ⟨d', hd⟩, -⟩ := h
  unfold hexEscape
  simp only [ha, hb, hc, hd]
  exact ⟨_, rfl⟩

theorem IsText.skipTextChars_append {s : List Char} (h : IsText s) (rest : List Char) {fuel : Nat}
    (hfuel : s.length < fuel) : skipTextChars fuel (s ++ '\"' :: rest) = .ok rest := by
  induction h generalizing fuel with
  | nil =>
    obtain ⟨fuel, rfl⟩ := Nat.exists_eq_add_one.mpr hfuel
    rfl
  | @plain c s hquote hbackslash hcontrol h ih =>
    obtain ⟨fuel, rfl⟩ := Nat.exists_eq_add_one.mpr (Nat.zero_lt_of_lt hfuel)
    rw [List.cons_append, skipTextChars, if_neg hquote, if_neg hbackslash, if_neg (by omega)]
    exact ih (Nat.lt_of_succ_lt_succ hfuel)
  | @letter c c' s hc h ih =>
    obtain ⟨fuel, rfl⟩ := Nat.exists_eq_add_one.mpr (Nat.zero_lt_of_lt hfuel)
    have hescape : skipEscape (c :: (s ++ '\"' :: rest)) = .ok (s ++ '\"' :: rest) := by
      unfold skipEscape
      simp only [ne_u_of_simpleEscape? hc, if_false, hc]
    rw [List.cons_append, List.cons_append, skipTextChars, if_neg (by decide), if_pos rfl, hescape]
    simp only [List.length_cons] at hfuel
    exact ih (by omega)
  | @unicode a b c d s hex h ih =>
    obtain ⟨fuel, rfl⟩ := Nat.exists_eq_add_one.mpr (Nat.zero_lt_of_lt hfuel)
    obtain ⟨n, hn⟩ := hexEscape_append hex (s ++ '\"' :: rest)
    have hescape : skipEscape ('u' :: a :: b :: c :: d :: (s ++ '\"' :: rest)) =
        .ok (s ++ '\"' :: rest) := by
      unfold skipEscape
      simp only [if_true, hn]
    rw [List.cons_append, skipTextChars, if_neg (by decide), if_pos rfl]
    simp only [List.cons_append, hescape]
    simp only [List.length_cons] at hfuel
    exact ih (by omega)

/-- Behind its opening quote, a text is stepped over to its closing one. -/
theorem IsText.skips {s : List Char} (h : IsText s) (rest : List Char) :
    skipText (s ++ '\"' :: rest) = .ok rest :=
  h.skipTextChars_append rest (by rw [List.length_append, List.length_cons]; omega)

/-! ## Sequences are stepped over -/

/-- The text begins with something that neither is blank nor closes an array or object. -/
def Opens (s : List Char) : Prop :=
  ∃ c cs, s = c :: cs ∧ isBlank c = false ∧ c ≠ ']' ∧ c ≠ '\x7d'

/-- The part is stepped over with whatever blanks in front of it. Three steps for a character are
enough: an opening bracket may take one for its value, one for a part and one for the sequence. -/
def SteppedOver (step : Nat → List Char → Except Fault (List Char)) (part : List Char) : Prop :=
  ∀ (fuel : Nat) (blanks rest : List Char), Blank blanks → Delimited rest →
    3 * part.length < fuel → step fuel (blanks ++ (part ++ rest)) = .ok rest

/-- What stepping over a sequence does, if it steps over each part with the given step. -/
structure StepsAlong (close : Char) (step : Nat → List Char → Except Fault (List Char))
    (along : Nat → Bool → List Char → Except Fault (List Char)) : Prop where
  closing : ∀ fuel first rest, along (fuel + 1) first (close :: rest) = .ok rest
  opening : ∀ {fuel c s s'}, c ≠ close → isBlank c = false → step fuel (c :: s) = .ok s' →
    along (fuel + 1) true (c :: s) = along fuel false s'
  comma : ∀ {fuel s s'}, step fuel s = .ok s' →
    along (fuel + 1) false (',' :: s) = along fuel false s'
  blanks : ∀ {blanks}, Blank blanks → ∀ fuel first s,
    along fuel first (blanks ++ s) = along fuel first s

theorem Sequence.length_pos {close : Char} {first : Bool} {parts : List (List Char)}
    {text : List Char} (h : Sequence close first parts text) : 0 < text.length := by
  induction h with
  | nil hblanks => simp
  | first hblanks h ih =>
    rw [List.length_append, List.length_append]
    omega
  | next hblanks hblanks' h ih =>
    rw [List.length_append, List.length_cons]
    omega

/-- There are commas between the parts, and a bracket behind them. -/
theorem Sequence.length_le {close : Char} {first : Bool} {parts : List (List Char)}
    {text : List Char} (h : Sequence close first parts text) :
    parts.length + (if first then 0 else 1) ≤ text.length := by
  induction h with
  | @nil first blanks hblanks => cases first <;> simp
  | first hblanks h ih =>
    simp only [Bool.false_eq_true, if_false] at ih
    simp only [List.length_append, List.length_cons, if_true]
    omega
  | next hblanks hblanks' h ih =>
    simp only [Bool.false_eq_true, if_false] at ih
    simp only [List.length_append, List.length_cons, Bool.false_eq_true, if_false]
    omega

/-- A sequence is stepped over if its parts are. -/
theorem StepsAlong.sequence {close : Char} (hclose : close = ']' ∨ close = '\x7d')
    {step : Nat → List Char → Except Fault (List Char)}
    {along : Nat → Bool → List Char → Except Fault (List Char)}
    (hsteps : StepsAlong close step along) {first : Bool} {parts : List (List Char)}
    {text : List Char} (h : Sequence close first parts text)
    (hparts : ∀ part ∈ parts, Opens part ∧ SteppedOver step part) (rest : List Char) {fuel : Nat}
    (hfuel : 3 * text.length < fuel) : along fuel first (text ++ rest) = .ok rest := by
  induction h generalizing fuel with
  | nil hblanks =>
    obtain ⟨fuel, rfl⟩ := Nat.exists_eq_add_one.mpr (Nat.zero_lt_of_lt hfuel)
    rw [List.append_assoc, hsteps.blanks hblanks]
    exact hsteps.closing fuel _ rest
  | @first blanks part text parts hblanks h ih =>
    obtain ⟨fuel, rfl⟩ := Nat.exists_eq_add_one.mpr (Nat.zero_lt_of_lt hfuel)
    obtain ⟨⟨hopens, hpart⟩, hmore⟩ := List.forall_mem_cons.mp hparts
    have hpos := h.length_pos
    obtain ⟨c, cs, rfl, hblank, hbracket, hbrace⟩ := hopens
    simp only [List.length_append, List.length_cons] at hfuel hpart
    have hstep := hpart fuel [] _ blank_nil (h.delimited hclose rest)
      (by rw [List.length_cons]; omega)
    have hc : c ≠ close := by
      rcases hclose with rfl | rfl
      · exact hbracket
      · exact hbrace
    rw [List.append_assoc, List.append_assoc, hsteps.blanks hblanks]
    exact (hsteps.opening hc hblank hstep).trans (ih hmore (by omega))
  | @next blanks blanks' part text parts hblanks hblanks' h ih =>
    obtain ⟨fuel, rfl⟩ := Nat.exists_eq_add_one.mpr (Nat.zero_lt_of_lt hfuel)
    obtain ⟨⟨-, hpart⟩, hmore⟩ := List.forall_mem_cons.mp hparts
    simp only [List.length_append, List.length_cons] at hfuel
    have hstep := hpart fuel blanks' _ hblanks' (h.delimited hclose rest) (by omega)
    rw [List.append_assoc, hsteps.blanks hblanks, List.cons_append, List.append_assoc,
      List.append_assoc]
    exact (hsteps.comma hstep).trans (ih hmore (by omega))

theorem stepsAlong_skipItems : StepsAlong ']' skipAny skipItems where
  closing fuel first rest := by
    rw [skipItems, skipBlanks_cons _ rfl]
    rfl
  opening {fuel c s s'} hc hblank hstep := by
    rw [skipItems, skipBlanks_cons _ hblank]
    simp only [if_neg hc, if_true, hstep]
  comma {fuel s s'} hstep := by
    rw [skipItems, skipBlanks_cons _ rfl]
    simp only [hstep]
    rfl
  blanks {blanks} hblanks fuel first s := by
    cases fuel with
    | zero => rfl
    | succ fuel => rw [skipItems, skipItems, skipBlanks_append hblanks]

theorem stepsAlong_skipMembers : StepsAlong '\x7d' skipMember skipMembers where
  closing fuel first rest := by
    rw [skipMembers, skipBlanks_cons _ rfl]
    rfl
  opening {fuel c s s'} hc hblank hstep := by
    rw [skipMembers, skipBlanks_cons _ hblank]
    simp only [if_neg hc, if_true, hstep]
  comma {fuel s s'} hstep := by
    rw [skipMembers, skipBlanks_cons _ rfl]
    simp only [hstep]
    rfl
  blanks {blanks} hblanks fuel first s := by
    cases fuel with
    | zero => rfl
    | succ fuel => rw [skipMembers, skipMembers, skipBlanks_append hblanks]

/-! ## Values are stepped over -/

theorem not_delimiter_of_isDigit {c : Char} (h : isDigit c = true) :
    isBlank c = false ∧ c ≠ ']' ∧ c ≠ '\x7d' := by
  have hdelimiter (hc : isBlank c = true ∨ c = ',' ∨ c = ']' ∨ c = '\x7d') : False := by
    rw [(@delimited_cons c [] hc).head.1] at h
    cases h
  refine ⟨?_, ?_, ?_⟩
  · exact Bool.eq_false_iff.mpr fun hblank => hdelimiter (Or.inl hblank)
  · exact fun hc => hdelimiter (Or.inr (Or.inr (Or.inl hc)))
  · exact fun hc => hdelimiter (Or.inr (Or.inr (Or.inr hc)))

theorem IsValue.opens {s : List Char} (h : IsValue s) : Opens s := by
  cases h with
  | null => exact ⟨'n', _, rfl, by decide⟩
  | truth b =>
    cases b with
    | false => exact ⟨'f', _, rfl, by decide⟩
    | true => exact ⟨'t', _, rfl, by decide⟩
  | text h => exact ⟨'\"', _, rfl, by decide⟩
  | array htext hparts => exact ⟨'[', _, rfl, by decide⟩
  | object htext hnames hvalues => exact ⟨'\x7b', _, rfl, by decide⟩
  | number h =>
    cases h with
    | mk hsign hwhole hleading hfraction hexponent =>
      rcases hsign with rfl | rfl
      · obtain ⟨c, cs, rfl, hc, -⟩ := hwhole.exists_cons
        exact ⟨c, _, rfl, not_delimiter_of_isDigit hc⟩
      · exact ⟨'-', _, rfl, by decide⟩

theorem Member.opens (m : Member) : Opens m.text :=
  ⟨'\"', _, rfl, by decide⟩

theorem colon_append {blanks : List Char} (hblanks : Blank blanks) (s : List Char) :
    colon (blanks ++ ':' :: s) = .ok s := by
  unfold colon
  rw [skipBlanks_append hblanks, skipBlanks_cons _ rfl]
  rfl

/-- A member is stepped over if its value is. -/
theorem Member.steppedOver {m : Member} (hname : IsText m.name)
    (hvalue : SteppedOver skipAny m.value) : SteppedOver skipMember m.text := by
  intro fuel blanks rest hblanks hrest hfuel
  obtain ⟨fuel, rfl⟩ := Nat.exists_eq_add_one.mpr (Nat.zero_lt_of_lt hfuel)
  unfold Member.text at hfuel ⊢
  simp only [List.length_cons, List.length_append] at hfuel
  simp only [List.cons_append, List.append_assoc]
  rw [skipMember, skipBlanks_append hblanks, skipBlanks_cons _ rfl]
  simp only [if_true, hname.skips, colon_append m.blank_before]
  exact hvalue fuel m.after rest m.blank_after hrest (by omega)

theorem IsNumber.steppedOver {s : List Char} (h : IsNumber s) : SteppedOver skipAny s := by
  intro fuel blanks rest hblanks hrest hfuel
  obtain ⟨fuel, rfl⟩ := Nat.exists_eq_add_one.mpr (Nat.zero_lt_of_lt hfuel)
  cases h with
  | @mk sign whole fraction exponent hsign hwhole hleading hfraction hexponent =>
    have hskip := skipNumber_append hwhole hleading hfraction hexponent hrest
    simp only [List.append_assoc]
    rcases hsign with rfl | rfl
    · obtain ⟨c, cs, rfl, hc, -⟩ := hwhole.exists_cons
      obtain ⟨hblank, -, -⟩ := not_delimiter_of_isDigit hc
      have hletter {c' : Char} (h : isDigit c' = false) : ¬ c = c' := by
        rintro rfl
        exact Bool.noConfusion (h.symm.trans hc)
      rw [List.nil_append, List.cons_append, skipAny, skipBlanks_append hblanks,
        skipBlanks_cons _ hblank]
      dsimp only
      rw [if_neg (hletter rfl), if_neg (hletter rfl), if_neg (hletter rfl), if_neg (hletter rfl),
        if_pos hc]
      exact hskip
    · rw [List.singleton_append, skipAny, skipBlanks_append hblanks, skipBlanks_cons _ rfl]
      exact hskip

/-- Every value is stepped over exactly to its end. -/
theorem IsValue.steppedOver {s : List Char} (h : IsValue s) : SteppedOver skipAny s := by
  induction h with
  | null =>
    intro fuel blanks rest hblanks hrest hfuel
    obtain ⟨fuel, rfl⟩ := Nat.exists_eq_add_one.mpr (Nat.zero_lt_of_lt hfuel)
    rw [List.cons_append, skipAny, skipBlanks_append hblanks, skipBlanks_cons _ rfl]
    rfl
  | truth b =>
    intro fuel blanks rest hblanks hrest hfuel
    obtain ⟨fuel, rfl⟩ := Nat.exists_eq_add_one.mpr (Nat.zero_lt_of_lt hfuel)
    rw [skipAny, skipBlanks_append hblanks]
    cases b <;> rfl
  | number h => exact h.steppedOver
  | @text s h =>
    intro fuel blanks rest hblanks hrest hfuel
    obtain ⟨fuel, rfl⟩ := Nat.exists_eq_add_one.mpr (Nat.zero_lt_of_lt hfuel)
    rw [List.cons_append, List.append_assoc, skipAny, skipBlanks_append hblanks,
      skipBlanks_cons _ rfl]
    exact h.skips rest
  | @array parts text htext hparts ih =>
    intro fuel blanks rest hblanks hrest hfuel
    obtain ⟨fuel, rfl⟩ := Nat.exists_eq_add_one.mpr (Nat.zero_lt_of_lt hfuel)
    rw [List.cons_append, skipAny, skipBlanks_append hblanks, skipBlanks_cons _ rfl]
    rw [List.length_cons] at hfuel
    exact stepsAlong_skipItems.sequence (Or.inl rfl) htext
      (fun part hpart => ⟨(hparts part hpart).opens, ih part hpart⟩) rest (by omega)
  | @object members text htext hnames hvalues ih =>
    intro fuel blanks rest hblanks hrest hfuel
    obtain ⟨fuel, rfl⟩ := Nat.exists_eq_add_one.mpr (Nat.zero_lt_of_lt hfuel)
    rw [List.cons_append, skipAny, skipBlanks_append hblanks, skipBlanks_cons _ rfl]
    rw [List.length_cons] at hfuel
    refine stepsAlong_skipMembers.sequence (Or.inr rfl) htext (fun part hpart => ?_) rest (by omega)
    obtain ⟨m, hm, rfl⟩ := List.mem_map.mp hpart
    exact ⟨m.opens, Member.steppedOver (hnames m hm) (ih m hm)⟩

theorem IsValue.skipValue_append {s blanks rest : List Char} (h : IsValue s)
    (hblanks : Blank blanks) (hrest : Delimited rest) :
    skipValue (blanks ++ (s ++ rest)) = .ok rest := by
  refine h.steppedOver _ blanks rest hblanks hrest ?_
  simp only [List.length_append]
  omega

end OnScreen.Json
