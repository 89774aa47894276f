import OnScreen.Proofs.Decimal
import OnScreen.Proofs.JsonText

/-!
# Reading back numbers

Every finite number is written in a form that is read as a number again: with a point or an exponent
behind digits that do not begin with a zero, and without a great positive exponent. Which number is
read is left open here: the digits are read with double precision first, and that is rounded again.
For an infinity no number is written at all.

Results:
* `Json.NumberText`, `Json.numberText_magnitude`: the form of a written number.
* `Json.exists_numeral`: a text of this form is read as a number, whatever delimiter follows.
* `Json.reread?`: the number that is read for a written one.
* `Json.reads_singleValue`: single-precision numbers.
-/

namespace OnScreen

/-! ## Products -/

/-- A number that is no more than a power of two stays so when it is rounded. -/
theorem BinaryFormat.nearest_le_zpow {F : BinaryFormat} (hp : 0 < F.precision) {x : Rat}
    (hx : 0 ≤ x) {k : Int} (hk : F.minExp ≤ k) (h : x ≤ 2 ^ k) :
    F.lastPlace x ≤ k ∧ F.nearest x ≤ 2 ^ k := by
  have hplace : F.lastPlace x ≤ k := by
    refine lastPlace_le hx hk (h.trans_lt ?_)
    exact zpow_lt_zpow_right₀ one_lt_two (by omega)
  refine ⟨hplace, ?_⟩
  have hone : x ≤ ((1 : Int) : Rat) * 2 ^ k := by rwa [Int.cast_one, one_mul]
  have hnearest := nearest_le hplace hone
  rwa [Int.cast_one, one_mul] at hnearest

/-- The rounded product. -/
theorem Binary.HasValue.mul {F : BinaryFormat} (hp : 0 < F.precision) {x y : Binary F} {v w : Rat}
    (hx : x.HasValue v) (hy : y.HasValue w) (hmax : F.lastPlace (v * w) < F.maxExp) :
    (x * y).HasValue (F.nearest (v * w)) := by
  have hproduct : 0 ≤ v * w := mul_nonneg hx.nonneg hy.nonneg
  have hxv := hx.toRat
  have hyw := hy.toRat
  obtain ⟨m, e, h, rfl, -⟩ := hx
  obtain ⟨n, f, h', rfl, -⟩ := hy
  have hmul : (finite false m e h * finite false n f h' : Binary F) =
      round false (ratMagnitude (v * w)) := by
    show Binary.mul _ _ = _
    unfold Binary.mul
    simp only
    rw [hxv, hyw]
    rfl
  rw [hmul, ratMagnitude_of_nonneg hproduct]
  exact hasValue_round hp hproduct hmax

namespace Json

/-- A significand of 64 bits and an exponent that is not great make a number. -/
theorem exists_realOfParts {significand : Nat} (hsignificand : significand ≤ significandMax)
    {exponent : Int} (hexponent : exponent ≤ 200) :
    ∃ x, realOfParts? significand exponent = some x := by
  unfold realOfParts?
  simp only
  split
  · split
    exact ⟨_, rfl⟩
    exact ⟨_, rfl⟩
  · rename_i hnonneg
    have hp : 0 < BinaryFormat.double.precision := by decide
    have hnat {n : Nat} {k : Int} (hk : BinaryFormat.double.minExp ≤ k)
        (hmax : k < BinaryFormat.double.maxExp) (h : (n : Rat) ≤ 2 ^ k) :
        ∃ v, (Binary.ofNat n : Double).HasValue v ∧ v ≤ 2 ^ k := by
      obtain ⟨hplace, hnearest⟩ :=
        BinaryFormat.nearest_le_zpow hp (Nat.cast_nonneg n : (0 : Rat) ≤ n) hk h
      refine ⟨_, Binary.hasValue_ofInt hp (Int.natCast_nonneg n) ?_, ?_⟩
      · rw [Int.cast_natCast]
        exact hplace.trans_lt hmax
      · rw [Int.cast_natCast]
        exact hnearest
    have hpower : ((Nat.pow 10 exponent.toNat : Nat) : Rat) ≤ 2 ^ ((4 * 200 : Nat) : Int) := by
      have hle : Nat.pow 10 exponent.toNat ≤ (2 ^ 4) ^ 200 :=
        (Nat.pow_le_pow_left (by decide) _).trans
          (Nat.pow_le_pow_right (by decide) (Int.toNat_le.mpr hexponent))
      rw [zpow_natCast, pow_mul]
      exact_mod_cast hle
    obtain ⟨v, hv, hvle⟩ := hnat (n := significand) (k := 64) (by decide) (by decide) (by
      rw [show (2 : Rat) ^ (64 : Int) = ((significandMax + 1 : Nat) : Rat) by
        unfold significandMax; norm_num]
      exact_mod_cast hsignificand.trans (Nat.le_succ _))
    obtain ⟨w, hw, hwle⟩ := hnat (by decide) (by decide) hpower
    have hle : v * w ≤ 2 ^ (64 + ((4 * 200 : Nat) : Int)) := by
      rw [zpow_add₀ two_ne_zero]
      exact mul_le_mul hvle hwle hw.nonneg (by positivity)
    have hplace := (BinaryFormat.nearest_le_zpow hp (mul_nonneg hv.nonneg hw.nonneg)
      (by decide : BinaryFormat.double.minExp ≤ 64 + ((4 * 200 : Nat) : Int)) hle).1
    have hproduct := (hv.mul hp hw (hplace.trans_lt (by decide))).isFinite
    rw [if_neg (by omega), if_pos hproduct]
    exact ⟨_, rfl⟩

/-! ## Digits -/

theorem isDigit_eq (c : Char) : isDigit c = c.isDigit := by
  rw [Bool.eq_iff_iff, Char.isDigit_iff_toNat]
  unfold isDigit
  rw [Bool.and_eq_true, decide_eq_true_eq, decide_eq_true_eq]
  exact Iff.rfl

/-- What follows is no digit. -/
def NoDigit (rest : List Char) : Prop :=
  ∀ c cs, rest = c :: cs → isDigit c = false

theorem noDigit_cons {c : Char} (h : isDigit c = false) (cs : List Char) : NoDigit (c :: cs) := by
  rintro _ _ ⟨rfl, rfl⟩
  exact h

/-- A delimiter does not go on with a number. -/
theorem Delimited.head {c : Char} {cs : List Char} (h : Delimited (c :: cs)) :
    isDigit c = false ∧ c ≠ '.' ∧ c ≠ 'e' ∧ c ≠ 'E' := by
  have hcases := h c cs rfl
  have hblank : isBlank c = true → c = ' ' ∨ c = '\n' ∨ c = '\t' ∨ c = '\r' := by
    unfold isBlank
    simp only [Bool.or_eq_true, beq_iff_eq, or_assoc]
    exact id
  rcases hcases with hc | rfl | rfl | rfl
  · rcases hblank hc with rfl | rfl | rfl | rfl <;> decide
  · decide
  · decide
  · decide

theorem Delimited.noDigit {rest : List Char} (h : Delimited rest) : NoDigit rest := by
  rintro c cs rfl
  exact h.head.1

theorem spanDigits_append {ds rest : List Char} (hds : ∀ c ∈ ds, isDigit c = true)
    (hrest : NoDigit rest) :
    spanDigits (ds ++ rest) = (ds.map fun c => c.toNat - 48, rest) := by
  have hnone : rest.takeWhile isDigit = [] ∧ rest.dropWhile isDigit = rest := by
    cases rest with
    | nil => exact ⟨rfl, rfl⟩
    | cons c cs =>
      have hc := hrest c cs rfl
      rw [List.takeWhile_cons, List.dropWhile_cons, hc]
      exact ⟨rfl, rfl⟩
  unfold spanDigits
  rw [List.takeWhile_append_of_pos hds, List.dropWhile_append_of_pos hds, hnone.1, hnone.2,
    List.append_nil]

/-- Digits are taken as long as the significand stays in its range. -/
theorem takeDigits_spec {n : Nat} (hn : n ≤ significandMax) (ds : List Nat) :
    (takeDigits n ds).1 ≤ significandMax ∧ (takeDigits n ds).2.length ≤ ds.length := by
  induction ds generalizing n with
  | nil => exact ⟨hn, Nat.le_refl _⟩
  | cons d ds ih =>
    unfold takeDigits
    split
    · rename_i hfits
      obtain ⟨hle, hlength⟩ := ih hfits
      exact ⟨hle, hlength.trans (Nat.le_succ _)⟩
    · exact ⟨hn, Nat.le_refl _⟩

/-- An exponent of two digits is in range. -/
theorem exponentValue_short {ds : List Nat} (hds : ∀ d ∈ ds, d ≤ 9) (hlength : ds.length ≤ 2) :
    ∃ n ≤ 99, exponentValue 0 ds = .ok n := by
  match ds with
  | [] => exact ⟨0, by decide, rfl⟩
  | [a] =>
    have ha : a ≤ 9 := hds a List.mem_cons_self
    refine ⟨0 * 10 + a, by omega, ?_⟩
    rw [exponentValue, if_pos (by unfold exponentMax; omega), exponentValue]
  | [a, b] =>
    have ha : a ≤ 9 := hds a List.mem_cons_self
    have hb : b ≤ 9 := hds b (List.mem_cons_of_mem _ List.mem_cons_self)
    refine ⟨(0 * 10 + a) * 10 + b, by omega, ?_⟩
    rw [exponentValue, if_pos (by unfold exponentMax; omega), exponentValue,
      if_pos (by unfold exponentMax; omega), exponentValue]
  | _ :: _ :: _ :: ds => simp at hlength

/-! ## The form of a written number -/

/-- The digits before the point: there is one, they do not begin with a zero unless it is the only
one, and they are not many. -/
structure WholeDigits (s : List Char) : Prop where
  digits : ∀ c ∈ s, isDigit c = true
  nonempty : s ≠ []
  leading : ∀ cs, s = '0' :: cs → cs = []
  short : s.length ≤ 100

/-- The digits behind the sign of an exponent: there is one, and if they do not stand behind a minus
there are no more than two. -/
structure PowerDigits (down : Bool) (s : List Char) : Prop where
  digits : ∀ c ∈ s, isDigit c = true
  nonempty : s ≠ []
  short : down = false → s.length ≤ 2

/-- A number as it is written, without its sign. -/
inductive NumberText : List Char → Prop
  | point {whole fraction : List Char} (hwhole : WholeDigits whole)
    (hfraction : ∀ c ∈ fraction, isDigit c = true) (hne : fraction ≠ []) :
    NumberText (whole ++ '.' :: fraction)
  | power {whole power : List Char} (hwhole : WholeDigits whole) {down : Bool}
    (hpower : PowerDigits down power) :
    NumberText (whole ++ 'e' :: (if down then '-' else '+') :: power)
  | both {whole fraction power : List Char} (hwhole : WholeDigits whole)
    (hfraction : ∀ c ∈ fraction, isDigit c = true) (hne : fraction ≠ []) {down : Bool}
    (hpower : PowerDigits down power) :
    NumberText (whole ++ '.' :: (fraction ++ 'e' :: (if down then '-' else '+') :: power))

/-! ## Reading a written number -/

/-- The reader takes the text off every text that goes on with a delimiter, and gives a real
number. -/
def TakenAsReal (read : List Char → Except Fault (Numeral × List Char)) (s : List Char) : Prop :=
  ∃ x, ∀ rest, Delimited rest → read (s ++ rest) = .ok (.real x, rest)

section

variable (negative : Bool) {significand : Nat} (hsignificand : significand ≤ significandMax)
  {scale : Int} (hscale : scale ≤ 100)

include hsignificand

theorem exists_finishReal (hscale : scale ≤ 200) :
    ∃ x, ∀ rest, finishReal negative significand scale rest = .ok (.real x, rest) := by
  obtain ⟨x, hx⟩ := exists_realOfParts hsignificand hscale
  refine ⟨if negative then -x else x, fun rest => ?_⟩
  unfold finishReal
  rw [hx]
  rfl

include hscale

theorem taken_exponentPart {down : Bool} {power : List Char} (hpower : PowerDigits down power) :
    TakenAsReal (exponentPart negative significand scale)
      ((if down then '-' else '+') :: power) := by
  obtain ⟨c, cs, rfl⟩ := List.exists_cons_of_ne_nil hpower.nonempty
  have hc : isDigit c = true := hpower.digits c List.mem_cons_self
  have hspan {rest : List Char} (hrest : Delimited rest) :
      spanDigits (c :: (cs ++ rest)) = ((c :: cs).map fun c => c.toNat - 48, rest) :=
    by exact spanDigits_append hpower.digits hrest.noDigit
  have hpart {rest : List Char} (hrest : Delimited rest) {value : Except Nat Nat}
      (hvalue : exponentValue 0 ((c :: cs).map fun c => c.toNat - 48) = value) :
      exponentPart negative significand scale
          ((if down then '-' else '+') :: (c :: cs) ++ rest) =
        match value with
        | .ok n => finishReal negative significand (if down then scale - n else scale + n) rest
        | .error more =>
          if significand ≠ 0 ∧ down = false then .error ⟨.numberOutOfRange, byteLength rest + more⟩
          else .ok (signedReal negative (Binary.zero false), rest) := by
    rw [List.map_cons] at hvalue
    unfold exponentPart
    cases value <;> cases down <;> simp [hc, hspan hrest, hvalue]
  cases down with
  | false =>
    have hsmall : ∀ d ∈ (c :: cs).map fun c => c.toNat - 48, d ≤ 9 := by
      intro d hd
      obtain ⟨a, ha, rfl⟩ := List.mem_map.mp hd
      have hdigit := hpower.digits a ha
      unfold isDigit at hdigit
      simp only [Bool.and_eq_true, decide_eq_true_eq] at hdigit
      omega
    obtain ⟨n, hn, hvalue⟩ := exponentValue_short hsmall (by
      rw [List.length_map]
      exact hpower.short rfl)
    have hsum : scale + n ≤ 200 := by omega
    obtain ⟨x, hx⟩ := exists_finishReal negative hsignificand hsum
    refine ⟨x, fun rest hrest => ?_⟩
    rw [hpart hrest hvalue]
    exact hx rest
  | true =>
    cases hvalue : exponentValue 0 ((c :: cs).map fun c => c.toNat - 48) with
    | ok n =>
      have hdifference : scale - n ≤ 200 := by omega
      obtain ⟨x, hx⟩ := exists_finishReal negative hsignificand hdifference
      refine ⟨x, fun rest hrest => ?_⟩
      rw [hpart hrest hvalue]
      exact hx rest
    | error more =>
      refine ⟨if negative then -(Binary.zero false) else Binary.zero false, fun rest hrest => ?_⟩
      rw [hpart hrest hvalue]
      exact if_neg fun h => Bool.noConfusion h.2

/-- The exponent may be missing. -/
theorem taken_afterDigits :
    TakenAsReal (afterDigits negative significand scale) [] ∧
      ∀ {down : Bool} {power : List Char}, PowerDigits down power →
        TakenAsReal (afterDigits negative significand scale)
          ('e' :: (if down then '-' else '+') :: power) := by
  constructor
  · obtain ⟨x, hx⟩ := exists_finishReal negative hsignificand (hscale.trans (by decide))
    refine ⟨x, fun rest hrest => ?_⟩
    cases rest with
    | nil => exact hx []
    | cons c cs =>
      obtain ⟨-, -, he, hE⟩ := hrest.head
      rw [List.nil_append, afterDigits, if_neg (by simp [he, hE])]
      exact hx (c :: cs)
  · intro down power hpower
    obtain ⟨x, hx⟩ := taken_exponentPart negative hsignificand hscale hpower
    exact ⟨x, hx⟩

/-- Behind the point there are digits, and an exponent, perhaps. -/
theorem taken_fractionPart {fraction : List Char} (hfraction : ∀ c ∈ fraction, isDigit c = true)
    (hne : fraction ≠ []) :
    TakenAsReal (fractionPart negative significand scale) fraction ∧
      ∀ {down : Bool} {power : List Char}, PowerDigits down power →
        TakenAsReal (fractionPart negative significand scale)
          (fraction ++ 'e' :: (if down then '-' else '+') :: power) := by
  have hpart {rest : List Char} (hrest : NoDigit rest) :
      fractionPart negative significand scale (fraction ++ rest) =
        let taken := takeDigits significand (fraction.map fun c => c.toNat - 48)
        afterDigits negative taken.1 (scale - ((fraction.map fun c => c.toNat - 48).length -
          taken.2.length : Nat)) rest := by
    have hdigits : (fraction.map fun c => c.toNat - 48).isEmpty = false := by
      rw [List.isEmpty_map, List.isEmpty_eq_false_iff]
      exact hne
    unfold fractionPart
    rw [spanDigits_append hfraction hrest]
    simp only [hdigits, Bool.false_eq_true, if_false]
  obtain ⟨hle, -⟩ := takeDigits_spec hsignificand (fraction.map fun c => c.toNat - 48)
  have hscale' : scale - ((fraction.map fun c => c.toNat - 48).length -
      (takeDigits significand (fraction.map fun c => c.toNat - 48)).2.length : Nat) ≤ 100 := by
    omega
  obtain ⟨⟨x, hx⟩, hpowers⟩ := taken_afterDigits negative hle hscale'
  constructor
  · refine ⟨x, fun rest hrest => ?_⟩
    rw [hpart hrest.noDigit]
    exact hx rest hrest
  · intro down power hpower
    obtain ⟨y, hy⟩ := hpowers hpower
    refine ⟨y, fun rest hrest => ?_⟩
    rw [List.append_assoc, List.cons_append, hpart (noDigit_cons (by decide) _)]
    exact hy rest hrest

end

/-- A number that is written is read as a number, whatever delimiter follows. -/
theorem exists_numeral (negative : Bool) {s : List Char} (h : NumberText s) :
    TakenAsReal (numeral negative) s := by
  have hwhole {whole : List Char} (h : WholeDigits whole) {c : Char} (hc : isDigit c = false)
      (rest : List Char) :
      let taken := takeDigits 0 (whole.map fun c => c.toNat - 48)
      numeral negative (whole ++ c :: rest) =
        if c = '.' then fractionPart negative taken.1 taken.2.length rest
        else if c = 'e' || c = 'E' then exponentPart negative taken.1 taken.2.length rest
        else if taken.2.isEmpty then .ok (wholeNumber negative taken.1, c :: rest)
        else finishReal negative taken.1 taken.2.length (c :: rest) := by
    obtain ⟨d, ds, rfl⟩ := List.exists_cons_of_ne_nil h.nonempty
    have hd : isDigit d = true := h.digits d List.mem_cons_self
    have hleading : ¬ (d = '0' ∧ ((ds ++ c :: rest).head?.any isDigit) = true) := by
      rintro ⟨rfl, hany⟩
      rw [h.leading ds rfl] at hany
      simp only [List.nil_append, List.head?_cons, Option.any_some, hc] at hany
      cases hany
    have hspan : spanDigits (d :: (ds ++ c :: rest)) =
        ((d :: ds).map fun c => c.toNat - 48, c :: rest) :=
      by exact spanDigits_append h.digits (noDigit_cons hc rest)
    rw [List.cons_append]
    unfold numeral
    simp only [hd, if_true, if_neg hleading, hspan]
    split
    · rename_i heq
      cases heq
      rw [if_pos rfl]
    · rename_i heq
      cases heq
    · rename_i hpoint heq
      cases heq
      rw [if_neg hpoint]
  have hparts {whole : List Char} (h : WholeDigits whole) :
      (takeDigits 0 (whole.map fun c => c.toNat - 48)).1 ≤ significandMax ∧
        ((takeDigits 0 (whole.map fun c => c.toNat - 48)).2.length : Int) ≤ 100 := by
    obtain ⟨hle, hlength⟩ := takeDigits_spec (Nat.zero_le _) (whole.map fun c => c.toNat - 48)
    rw [List.length_map] at hlength
    have hshort := h.short
    exact ⟨hle, by omega⟩
  cases h with
  | point h hfraction hne =>
    obtain ⟨⟨x, hx⟩, -⟩ :=
      taken_fractionPart negative (hparts h).1 (hparts h).2 hfraction hne
    refine ⟨x, fun rest hrest => ?_⟩
    rw [List.append_assoc, List.cons_append, hwhole h (by decide), if_pos rfl]
    exact hx rest hrest
  | power h hpower =>
    obtain ⟨x, hx⟩ := taken_exponentPart negative (hparts h).1 (hparts h).2 hpower
    refine ⟨x, fun rest hrest => ?_⟩
    rw [List.append_assoc, List.cons_append, hwhole h (by decide), if_neg (by decide),
      if_pos (by decide)]
    exact hx rest hrest
  | both h hfraction hne hpower =>
    obtain ⟨-, hpowers⟩ :=
      taken_fractionPart negative (hparts h).1 (hparts h).2 hfraction hne
    obtain ⟨x, hx⟩ := hpowers hpower
    refine ⟨x, fun rest hrest => ?_⟩
    rw [List.append_assoc, List.cons_append, hwhole h (by decide), if_pos rfl]
    exact hx rest hrest

/-! ## The numbers that are written -/

/-- Significant digits, with zeros behind them, before a point. -/
theorem wholeDigits_append {c : Char} {cs zeros : List Char} (hc : c ≠ '0')
    (hdigits : ∀ a ∈ c :: cs, a.isDigit = true) (hzeros : ∀ a ∈ zeros, a = '0')
    (hshort : (c :: cs ++ zeros).length ≤ 100) : WholeDigits (c :: cs ++ zeros) where
  digits a ha := by
    rw [isDigit_eq]
    rcases List.mem_append.mp ha with ha | ha
    · exact hdigits a ha
    · rw [hzeros a ha]
      rfl
  nonempty := List.cons_ne_nil _ _
  leading as has := absurd (List.cons.inj has).1 hc
  short := hshort

theorem wholeDigits_singleton {c : Char} (hc : c.isDigit = true) : WholeDigits [c] where
  digits a ha := by
    rw [List.mem_singleton.mp ha, isDigit_eq]
    exact hc
  nonempty := List.cons_ne_nil _ _
  leading as has := (List.cons.inj has).2.symm
  short := by simp

/-- Plain notation has a point. -/
theorem numberText_plain {c : Char} {cs : List Char} (hc : c ≠ '0')
    (hdigits : ∀ a ∈ c :: cs, a.isDigit = true) {leading : Int} (hleading : leading ≤ 12) :
    NumberText (DecimalStyle.plain (c :: cs) leading) := by
  have hdigits' : ∀ a ∈ c :: cs, isDigit a = true := fun a ha => (isDigit_eq a).trans (hdigits a ha)
  unfold DecimalStyle.plain
  split
  · refine .point (wholeDigits_singleton (c := '0') rfl) ?_ (by simp)
    intro a ha
    rcases List.mem_append.mp ha with ha | ha
    · rw [List.eq_of_mem_replicate ha]
      rfl
    · exact hdigits' a ha
  · simp only
    split
    · rename_i hlength
      refine .point (wholeDigits_append hc hdigits
        (fun a ha => List.eq_of_mem_replicate ha) ?_) ?_ (by simp)
      · rw [List.length_append, List.length_replicate]
        omega
      · intro a ha
        rw [List.mem_singleton.mp ha]
        rfl
    · rename_i hlength
      refine .point ?_ (fun a ha => hdigits' a (List.mem_of_mem_drop ha)) ?_
      · have hhead : (c :: cs).take (leading.toNat + 1) = c :: cs.take leading.toNat := rfl
        rw [hhead, ← List.append_nil (c :: cs.take leading.toNat)]
        refine wholeDigits_append hc (fun a ha => hdigits a ?_) (by simp) ?_
        · exact List.mem_of_mem_take (i := leading.toNat + 1) ha
        · rw [List.append_nil, List.length_cons, List.length_take]
          omega
      · intro hnil
        rw [List.drop_eq_nil_iff] at hnil
        omega

/-- Scientific notation has an exponent. -/
theorem numberText_scientific {c : Char} {cs : List Char}
    (hdigits : ∀ a ∈ c :: cs, a.isDigit = true) {leading : Int} (hleading : leading ≤ 99) :
    NumberText (DecimalStyle.scientific (c :: cs) leading) := by
  have hwhole : WholeDigits [c] := wholeDigits_singleton (hdigits c List.mem_cons_self)
  have hpower : PowerDigits (decide (leading < 0)) (digitsOf leading.natAbs) := by
    refine ⟨fun a ha => (isDigit_eq a).trans (isDigit_of_mem_digitsOf ha), digitsOf_ne_nil _, ?_⟩
    intro hup
    have hnonneg := of_decide_eq_false hup
    rw [length_digitsOf_le_iff (by decide)]
    omega
  have hsign : (if leading < 0 then '-' else '+') =
      if decide (leading < 0) then '-' else '+' := by
    simp
  unfold DecimalStyle.scientific
  rw [hsign]
  cases cs with
  | nil => exact .power hwhole hpower
  | cons a as =>
    have hfraction : ∀ b ∈ a :: as, isDigit b = true := fun b hb =>
      (isDigit_eq b).trans (hdigits b (List.mem_cons_of_mem _ hb))
    exact .both hwhole hfraction (by simp) hpower

theorem numberText_magnitude {d : Decimal} (h : d.significand ≠ 0 → d.leading ≤ 99) :
    NumberText (singleStyle.magnitude d) := by
  unfold DecimalStyle.magnitude
  split
  · refine .point (wholeDigits_singleton (c := '0') rfl) ?_ (by simp)
    intro a ha
    rw [List.mem_singleton.mp ha]
    rfl
  · rename_i hne
    obtain ⟨c, cs, hcs, hc, hdigits⟩ := Decimal.digits_spec hne
    rw [hcs] at hdigits ⊢
    split
    · rename_i hplain
      exact numberText_plain hc hdigits hplain.2
    · exact numberText_scientific hdigits (h hne)

/-- A finite number is written as a number, perhaps with a minus. -/
theorem exists_numberText {x : Single} (hx : x.isFinite = true) :
    ∃ (negative : Bool) (s : List Char),
      singleStyle.text? x = some (if negative then '-' :: s else s) ∧ NumberText s := by
  cases x with
  | nan => cases hx
  | infinite negative => cases hx
  | finite negative m e h =>
    refine ⟨negative, singleStyle.magnitude (Binary.shortest BinaryFormat.single m e), rfl,
      numberText_magnitude fun hne => ?_⟩
    have hvalue : (m : Rat) * 2 ^ e < 10 ^ 39 := by
      obtain ⟨hm, -, he, -⟩ := h
      calc (m : Rat) * 2 ^ e ≤ 2 ^ 24 * 2 ^ (104 : Int) := by
            gcongr
            · exact_mod_cast hm.le
            · exact one_le_two
            · exact he
        _ < 10 ^ 39 := by norm_num
    exact (Binary.leading_shortest hvalue hne).trans (by norm_num)

/-! ## Single-precision numbers -/

/-- The number that is read for what is written for a number, if that is a number. -/
def reread? (x : Single) : Option Single :=
  (singleStyle.text? x).bind fun literal => (decode singleValue (String.ofList literal)).toOption

/-- What is written for a number is read, the same for every delimiter that follows. -/
theorem NumberText.gives (negative : Bool) {s : List Char} (h : NumberText s) :
    ∃ y, Gives singleValue (if negative then '-' :: s else s) y := by
  obtain ⟨x, hx⟩ := exists_numeral negative h
  refine ⟨x.convert, fun blanks rest hblanks hrest => ?_⟩
  have hnumber : anyNumber "f32" (blanks ++ ((if negative then '-' :: s else s) ++ rest)) =
      .ok (.real x, rest) := by
    have hread := hx rest hrest
    unfold anyNumber
    cases negative with
    | true =>
      rw [if_pos rfl, List.cons_append, valueStart_append hblanks rfl]
      exact hread
    | false =>
      obtain ⟨c, cs, hcs, hc⟩ : ∃ c cs, s = c :: cs ∧ isDigit c = true := by
        have hwhole {whole : List Char} (h : WholeDigits whole) (tail : List Char) :
            ∃ c cs, whole ++ tail = c :: cs ∧ isDigit c = true := by
          obtain ⟨c, cs, rfl⟩ := List.exists_cons_of_ne_nil h.nonempty
          exact ⟨c, cs ++ tail, rfl, h.digits c List.mem_cons_self⟩
        cases h with
        | point h => exact hwhole h _
        | power h => exact hwhole h _
        | both h => exact hwhole h _
      have hblank : isBlank c = false := by
        by_contra hblank
        rw [Bool.not_eq_false] at hblank
        have hdelimited : Delimited (c :: cs) := delimited_cons (Or.inl hblank)
        rw [hdelimited.head.1] at hc
        cases hc
      have hsign : c ≠ '-' := by
        rintro rfl
        cases hc
      rw [hcs] at hread ⊢
      rw [if_neg Bool.false_ne_true, List.cons_append, valueStart_append hblanks hblank]
      simp only [if_neg hsign, hc, if_true]
      exact hread
  unfold singleValue
  rw [hnumber]

/-- A number is read back exactly if it is finite, and then as the same number that is read for its
text alone. -/
theorem reads_singleValue (x : Single) :
    (∀ sp depth, Reads singleValue (spacedChars sp depth (ofBinary x)) (reread? x)) ∧
      ((reread? x).isSome = true ↔ x.isFinite = true) := by
  by_cases hx : x.isFinite = true
  · obtain ⟨negative, s, htext, hs⟩ := exists_numberText hx
    obtain ⟨y, hy⟩ := hs.gives negative
    have hreread : reread? x = some y := by
      have hwhole := (reads_some_iff.mpr hy).whole blank_nil blank_nil
      rw [List.nil_append, List.append_nil] at hwhole
      unfold reread?
      rw [htext, Option.bind_some, toOption_decode, hwhole]
    have hjson : ofBinary x = .number (if negative then '-' :: s else s) := by
      unfold ofBinary
      rw [htext]
    rw [hjson, hreread]
    refine ⟨fun sp depth => ?_, fun _ => hx, fun _ => rfl⟩
    rw [spacedChars]
    exact reads_some_iff.mpr hy
  · have htext : singleStyle.text? x = none := by
      cases x with
      | nan => rfl
      | infinite negative => rfl
      | finite negative m e h => exact absurd rfl hx
    have hjson : ofBinary x = .null := by
      unfold ofBinary
      rw [htext]
    have hreread : reread? x = none := by
      unfold reread?
      rw [htext]
      rfl
    rw [hjson, hreread]
    refine ⟨fun sp depth blanks rest hblanks _ => ?_, fun h => (by cases h), fun h => absurd h hx⟩
    unfold singleValue anyNumber spacedChars
    rw [show ['n', 'u', 'l', 'l'] ++ rest = 'n' :: ('u' :: 'l' :: 'l' :: rest) from rfl,
      valueStart_append hblanks rfl]
    rfl

end Json

end OnScreen
