import OnScreen.Proofs.JsonNumber

/-!
# Numbers in front of other text

The same number can be written in many ways. What the reader takes for a number when it stands
alone, it takes for the same number in front of every delimiter.

Results:
* `Json.Extends`: what is taken alone is taken in front of a rest.
* `Json.extends_numeral`, `extends_anyNumber`: numerals in front of a delimiter, part by part.
* `Json.gives_singleValue`: every text that is read alone as a number.
* `Json.singleValue_spacedChars`: what is written for a number is such a text, if it is read back.
-/

namespace OnScreen.Json

/-! ## Parts of a number -/

/-- What the reader takes alone, it takes in front of the rest. -/
def Extends {α : Type} (read : Reader α) (rest : List Char) : Prop :=
  ∀ (s : List Char) (a : α) (left : List Char), read s = .ok (a, left) →
    read (s ++ rest) = .ok (a, left ++ rest)

/-- Whether an exponent has a minus, and what stands behind its sign. -/
def powerSign : List Char → Bool × List Char
  | [] => (false, [])
  | c :: s => if c = '+' then (false, s) else if c = '-' then (true, s) else (false, c :: s)

/-- The real number for the digits of an exponent. -/
def finishPower (negative : Bool) (significand : Nat) (scale : Int) (down : Bool)
    (digits : List Nat) : Reader Numeral := fun rest =>
  match exponentValue 0 digits with
  | .ok n => finishReal negative significand (if down then scale - n else scale + n) rest
  | .error more =>
    if significand ≠ 0 ∧ down = false then .error ⟨.numberOutOfRange, byteLength rest + more⟩
    else .ok (signedReal negative (Binary.zero false), rest)

theorem exponentPart_eq (negative : Bool) (significand : Nat) (scale : Int) (s : List Char) :
    exponentPart negative significand scale s =
      match (powerSign s).2 with
      | [] => fail .endInValue []
      | c :: rest =>
        if isDigit c then
          finishPower negative significand scale (powerSign s).1 (spanDigits (c :: rest)).1
            (spanDigits (c :: rest)).2
        else failPeek .invalidNumber (c :: rest) := by
  unfold exponentPart powerSign
  cases s with
  | nil => rfl
  | cons c s =>
    dsimp only
    by_cases hplus : c = '+'
    · rw [if_pos hplus]
      rfl
    by_cases hminus : c = '-'
    · rw [if_neg hplus, if_pos hminus]
      rfl
    · rw [if_neg hplus, if_neg hminus]
      rfl

theorem powerSign_append {s : List Char} (hs : s ≠ []) (rest : List Char) :
    powerSign (s ++ rest) = ((powerSign s).1, (powerSign s).2 ++ rest) := by
  obtain ⟨c, cs, rfl⟩ := List.exists_cons_of_ne_nil hs
  rw [List.cons_append, powerSign, powerSign]
  split
  · rfl
  split
  · rfl
  · rfl

/-- The number for the digits before the point, with what stands behind them. -/
def afterWhole (negative : Bool) (taken : Nat × List Nat) : Reader Numeral
  | '.' :: rest => fractionPart negative taken.1 taken.2.length rest
  | [] =>
    if taken.2.isEmpty then .ok (wholeNumber negative taken.1, [])
    else finishReal negative taken.1 taken.2.length []
  | c :: rest =>
    if c = 'e' || c = 'E' then exponentPart negative taken.1 taken.2.length rest
    else if taken.2.isEmpty then .ok (wholeNumber negative taken.1, c :: rest)
    else finishReal negative taken.1 taken.2.length (c :: rest)

theorem numeral_cons (negative : Bool) (c : Char) (rest : List Char) :
    numeral negative (c :: rest) =
      if isDigit c then
        if c = '0' ∧ (rest.head?.any isDigit) then failPeek .invalidNumber rest
        else
          afterWhole negative (takeDigits 0 (spanDigits (c :: rest)).1) (spanDigits (c :: rest)).2
      else failPeek .invalidNumber (c :: rest) :=
  rfl

/-! ## In front of a delimiter -/

section

variable {rest : List Char} (hrest : Delimited rest)

theorem extends_finishReal (negative : Bool) (significand : Nat) (exponent : Int)
    (rest : List Char) : Extends (finishReal negative significand exponent) rest := by
  intro s v left h
  unfold finishReal at h ⊢
  split at h
  · cases h
    rfl
  · cases h

theorem extends_finishPower (negative : Bool) (significand : Nat) (scale : Int) (down : Bool)
    (digits : List Nat) (rest : List Char) :
    Extends (finishPower negative significand scale down digits) rest := by
  intro s v left h
  unfold finishPower at h ⊢
  cases hvalue : exponentValue 0 digits with
  | ok n =>
    rw [hvalue] at h
    exact extends_finishReal _ _ _ rest s v left h
  | error more =>
    rw [hvalue] at h
    dsimp only at h ⊢
    split at h
    · cases h
    · rename_i hzero
      rw [if_neg hzero]
      cases h
      rfl

/-- Without a point and an exponent, the number ends there. -/
theorem extends_whole (negative : Bool) (taken : Nat × List Nat) (rest : List Char) :
    Extends (fun s =>
      if taken.2.isEmpty then .ok (wholeNumber negative taken.1, s)
      else finishReal negative taken.1 taken.2.length s) rest := by
  intro s v left h
  dsimp only at h ⊢
  split at h
  · rename_i hignored
    rw [if_pos hignored]
    cases h
    rfl
  · rename_i hignored
    rw [if_neg hignored]
    exact extends_finishReal _ _ _ rest s v left h

include hrest

theorem spanDigits_append_delimited (s : List Char) :
    spanDigits (s ++ rest) = ((spanDigits s).1, (spanDigits s).2 ++ rest) := by
  have hsplit : s ++ rest = s.takeWhile isDigit ++ (s.dropWhile isDigit ++ rest) := by
    rw [← List.append_assoc, List.takeWhile_append_dropWhile]
  have hbehind : NoDigit (s.dropWhile isDigit ++ rest) := by
    cases hdrop : s.dropWhile isDigit with
    | nil => exact hrest.noDigit
    | cons c cs =>
      have hc := List.head?_dropWhile_not isDigit s
      rw [hdrop] at hc
      exact noDigit_cons hc _
  rw [hsplit, spanDigits_append (fun c hc => List.mem_takeWhile_imp hc) hbehind]
  rfl

theorem extends_exponentPart (negative : Bool) (significand : Nat) (scale : Int) :
    Extends (exponentPart negative significand scale) rest := by
  intro s v left h
  rw [exponentPart_eq] at h ⊢
  cases hs : (powerSign s).2 with
  | nil =>
    rw [hs] at h
    cases h
  | cons c cs =>
    have hne : s ≠ [] := by
      rintro rfl
      cases hs
    have hsign : powerSign (s ++ rest) = ((powerSign s).1, c :: (cs ++ rest)) := by
      rw [powerSign_append hne, hs]
      rfl
    rw [hs] at h
    rw [hsign]
    dsimp only at h ⊢
    split at h
    · rename_i hc
      have hspan := spanDigits_append_delimited hrest (c :: cs)
      rw [List.cons_append] at hspan
      rw [if_pos hc, hspan]
      exact extends_finishPower _ _ _ _ _ rest _ v left h
    · cases h

theorem extends_afterDigits (negative : Bool) (significand : Nat) (scale : Int) :
    Extends (afterDigits negative significand scale) rest := by
  intro s v left h
  cases s with
  | nil =>
    have hend := extends_finishReal negative significand scale rest [] v left h
    cases rest with
    | nil => exact hend
    | cons c cs =>
      obtain ⟨-, -, he, hE⟩ := hrest.head
      rw [List.nil_append, afterDigits, if_neg (by simp [he, hE])]
      exact hend
  | cons c cs =>
    rw [List.cons_append, afterDigits]
    rw [afterDigits] at h
    split at h
    · rename_i hc
      rw [if_pos hc]
      exact extends_exponentPart hrest negative significand scale cs v left h
    · rename_i hc
      rw [if_neg hc]
      exact extends_finishReal negative significand scale rest (c :: cs) v left h

theorem extends_fractionPart (negative : Bool) (significand : Nat) (scale : Int) :
    Extends (fractionPart negative significand scale) rest := by
  intro s v left h
  unfold fractionPart at h ⊢
  rw [spanDigits_append_delimited hrest]
  dsimp only at h ⊢
  split at h
  · cases h
  · rename_i hdigits
    rw [if_neg hdigits]
    exact extends_afterDigits hrest _ _ _ _ v left h

theorem extends_afterWhole (negative : Bool) (taken : Nat × List Nat) :
    Extends (afterWhole negative taken) rest := by
  intro s v left h
  unfold afterWhole at h
  split at h
  · exact extends_fractionPart hrest _ _ _ _ v left h
  · have hwhole := extends_whole negative taken rest [] v left h
    cases rest with
    | nil => exact hwhole
    | cons c cs =>
      -- a delimiter does not continue a number
      obtain ⟨-, hpoint, he, hE⟩ := hrest.head
      rw [List.nil_append, afterWhole, if_neg (by simp [he, hE])]
      · exact hwhole
      · exact hpoint
  · rename_i c cs hpoint
    rw [List.cons_append, afterWhole]
    · split at h
      · rename_i hexponent
        rw [if_pos hexponent]
        exact extends_exponentPart hrest _ _ _ cs v left h
      · rename_i hexponent
        rw [if_neg hexponent]
        exact extends_whole negative taken rest (c :: cs) v left h
    · exact hpoint

theorem extends_numeral (negative : Bool) : Extends (numeral negative) rest := by
  intro s v left h
  cases s with
  | nil => cases h
  | cons c cs =>
    have hhead : ((cs ++ rest).head?.any isDigit) = cs.head?.any isDigit := by
      cases cs with
      | cons d ds => rfl
      | nil =>
        cases rest with
        | nil => rfl
        | cons d ds => exact hrest.noDigit d ds rfl
    have hspan := spanDigits_append_delimited hrest (c :: cs)
    rw [List.cons_append] at hspan
    rw [List.cons_append, numeral_cons, hhead, hspan]
    rw [numeral_cons] at h
    split at h
    · rename_i hc
      rw [if_pos hc]
      split at h
      · cases h
      · rename_i hzero
        rw [if_neg hzero]
        exact extends_afterWhole hrest negative _ _ v left h
    · cases h

theorem extends_anyNumber (expected : String) : Extends (anyNumber expected) rest := by
  intro s v left h
  unfold anyNumber valueStart at h ⊢
  cases hs : skipBlanks s with
  | nil =>
    rw [hs] at h
    cases h
  | cons c cs =>
    have hskip : skipBlanks (s ++ rest) = c :: (cs ++ rest) := by
      unfold skipBlanks at hs ⊢
      rw [List.dropWhile_append, hs]
      rfl
    rw [hskip]
    rw [hs] at h
    dsimp only at h ⊢
    split at h
    · rename_i hminus
      rw [if_pos hminus]
      exact extends_numeral hrest true cs v left h
    rename_i hminus
    rw [if_neg hminus]
    split at h
    · rename_i hc
      rw [if_pos hc]
      exact extends_numeral hrest false (c :: cs) v left h
    · unfold wrongType at h
      cases hfound : foundAt (c :: cs) with
      | error e =>
        rw [hfound] at h
        cases h
      | ok r =>
        rw [hfound] at h
        cases h

theorem extends_singleValue : Extends singleValue rest := by
  intro s x left h
  unfold singleValue at h ⊢
  cases hnumber : anyNumber "f32" s with
  | error e =>
    rw [hnumber] at h
    cases h
  | ok r =>
    obtain ⟨v, left'⟩ := r
    rw [extends_anyNumber hrest "f32" s v left' hnumber]
    rw [hnumber] at h
    cases v <;> cases h <;> rfl

end

/-! ## Numbers that are read alone -/

/-- Blanks in front of a number are stepped over. -/
theorem singleValue_blanks {blanks : List Char} (hblanks : Blank blanks) (s : List Char) :
    singleValue (blanks ++ s) = singleValue s := by
  unfold singleValue anyNumber valueStart
  rw [skipBlanks_append hblanks]

/-- A number that is read alone is read wherever it stands. -/
theorem gives_singleValue {x : Single} {s : List Char} (h : singleValue s = .ok (x, [])) :
    Gives singleValue s x := by
  intro blanks rest hblanks hrest
  rw [singleValue_blanks hblanks]
  exact extends_singleValue hrest s x [] h

/-- What is written for a number that is read back is read alone. -/
theorem singleValue_spacedChars {x y : Single} (h : reread? x = some y) (sp : Spacing)
    (depth : Nat) : singleValue (spacedChars sp depth (ofBinary x)) = .ok (y, []) := by
  have hread := (reads_singleValue x).1 sp depth
  rw [h] at hread
  have halone := reads_some_iff.mp hread [] [] blank_nil delimited_nil
  rw [List.nil_append, List.append_nil] at halone
  exact halone

end OnScreen.Json
