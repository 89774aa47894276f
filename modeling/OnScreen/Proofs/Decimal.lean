import Mathlib.Data.List.DropRight
import OnScreen.Number.Decimal
import OnScreen.Proofs.Rounding

/-!
# The digits of a written number

The decimal that is written for a binary number has no more digits before its point than the number
needs, and its digits neither begin nor, once stripped, end with a zero.

Results:
* `digitsOf_head`, `Decimal.digits_spec`: the digits of a number.
* `floorLog10_spec`: a positive number lies between two successive powers of ten.
* `Binary.leading_nearestWith`, `Binary.leading_shortest`: where the digits of the shortest decimal
  begin.
-/

namespace OnScreen

/-! ## Digits -/

theorem isDigit_of_mem_digitsOf {n : Nat} {c : Char} (h : c ∈ digitsOf n) : c.isDigit = true :=
  Nat.isDigit_of_mem_toDigits (by decide) (by decide) h

theorem digitsOf_ne_nil (n : Nat) : digitsOf n ≠ [] :=
  Nat.toDigits_ne_nil

theorem length_digitsOf_le_iff {n k : Nat} (hk : 0 < k) :
    (digitsOf n).length ≤ k ↔ n < 10 ^ k :=
  Nat.length_toDigits_le_iff (by decide) hk

/-- The digits of a positive number do not begin with a zero. -/
theorem digitsOf_head {n : Nat} (hn : 0 < n) : ∃ c cs, digitsOf n = c :: cs ∧ c ≠ '0' := by
  induction n using Nat.strong_induction_on with
  | _ n ih =>
    unfold digitsOf
    rw [Nat.toDigits_eq_if (by decide)]
    split
    · rename_i hsmall
      refine ⟨n.digitChar, [], rfl, ?_⟩
      have hdigits : ∀ n < 10, 0 < n → n.digitChar ≠ '0' := by decide
      exact hdigits n hsmall hn
    · obtain ⟨c, cs, hcs, hc⟩ := ih (n / 10) (by omega) (by omega)
      refine ⟨c, cs ++ [(n % 10).digitChar], ?_, hc⟩
      rw [show Nat.toDigits 10 (n / 10) = c :: cs from hcs]
      rfl

/-- The significant digits of a decimal number begin as its significand does, and there is one at
least. -/
theorem Decimal.digits_spec {d : Decimal} (h : d.significand ≠ 0) :
    ∃ c cs, d.digits = c :: cs ∧ c ≠ '0' ∧ ∀ c ∈ d.digits, c.isDigit = true := by
  obtain ⟨c, cs, hcs, hc⟩ := digitsOf_head (Nat.pos_of_ne_zero h)
  have hprefix : d.digits <+: c :: cs := by
    rw [← hcs]
    exact List.rdropWhile_prefix _ _
  have hne : d.digits ≠ [] := by
    intro hnil
    have hzeros := List.rdropWhile_eq_nil_iff.mp hnil c (by rw [hcs]; exact List.mem_cons_self)
    exact hc (eq_of_beq hzeros)
  obtain ⟨c', cs', hcs'⟩ := List.exists_cons_of_ne_nil hne
  obtain ⟨t, ht⟩ := hprefix
  rw [hcs', List.cons_append, List.cons.injEq] at ht
  refine ⟨c', cs', hcs', ht.1 ▸ hc, fun a ha => ?_⟩
  refine isDigit_of_mem_digitsOf (n := d.significand) ?_
  exact (List.rdropWhile_prefix _ _).subset ha

/-! ## Powers of ten -/

/-- A positive natural number lies between the powers of ten that its digits tell. -/
theorem digitsOf_bounds {n : Nat} (hn : 0 < n) :
    (10 : Rat) ^ (((digitsOf n).length : Int) - 1) ≤ n ∧
      (n : Rat) < 10 ^ (((digitsOf n).length : Int) - 1 + 1) := by
  have hlength : 0 < (digitsOf n).length := List.length_pos_iff.mpr (digitsOf_ne_nil n)
  obtain ⟨k, hk⟩ := Nat.exists_eq_add_one.mpr hlength
  have hhigh : n < 10 ^ (k + 1) := (length_digitsOf_le_iff (Nat.succ_pos k)).mp hk.le
  have hlow : 10 ^ k ≤ n := by
    rcases Nat.eq_zero_or_pos k with rfl | hpos
    · exact hn
    · by_contra hlt
      have hle := (length_digitsOf_le_iff hpos).mpr (Nat.lt_of_not_le hlt)
      omega
  rw [hk, Nat.cast_succ, add_sub_cancel_right, ← Nat.cast_succ, zpow_natCast, zpow_natCast]
  exact ⟨by exact_mod_cast hlow, by exact_mod_cast hhigh⟩

/-- A positive number lies between two successive powers of ten. -/
theorem floorLog10_spec {x : Rat} (hx : 0 < x) :
    (10 : Rat) ^ floorLog10 x ≤ x ∧ x < (10 : Rat) ^ (floorLog10 x + 1) := by
  have hbase : 1 < 10 := by decide
  have hspec := floorLog_spec hx hbase
    (digitsOf_bounds (Int.natAbs_pos.mpr (Rat.num_pos.mpr hx).ne')) (digitsOf_bounds x.den_pos)
  rw [sub_sub_sub_cancel_right] at hspec
  exact hspec

theorem floorLog10_lt {x : Rat} (hx : 0 < x) {k : Int} (h : x < 10 ^ k) : floorLog10 x < k :=
  (zpow_lt_zpow_iff_right₀ (by norm_num)).mp ((floorLog10_spec hx).1.trans_lt h)

/-! ## The shortest decimal -/

namespace Binary

/-- A significand of no more than a power of ten has one digit more than its exponent at most. -/
theorem leading_le {d : Decimal} {places : Nat} (h : d.significand ≤ 10 ^ places) :
    d.leading ≤ d.scale + places := by
  have hlength : (digitsOf d.significand).length ≤ places + 1 :=
    (length_digitsOf_le_iff (Nat.succ_pos places)).mpr
      (h.trans_lt (Nat.pow_lt_pow_right (by decide) (Nat.lt_succ_self places)))
  unfold Decimal.leading
  omega

/-- The decimals that enclose a number begin one place before it at most. -/
theorem leading_nearestWith {F : BinaryFormat} {m : Nat} {e : Int} {x : Rat} (hx : 0 < x)
    {places : Nat} {d : Decimal} (h : nearestWith F m e x places = some d) :
    d.leading ≤ floorLog10 x + 1 := by
  have hsteps : x * ratPower 10 (-(floorLog10 x + 1 - places)) < (10 ^ places : Nat) := by
    rw [ratPower_eq, Nat.cast_ofNat]
    calc x * 10 ^ (-(floorLog10 x + 1 - (places : Int)))
        < 10 ^ (floorLog10 x + 1) * 10 ^ (-(floorLog10 x + 1 - (places : Int))) := by
          gcongr
          exact (floorLog10_spec hx).2
      _ = (10 ^ places : Nat) := by
          rw [← zpow_add₀ (by norm_num), neg_sub, add_sub_cancel, zpow_natCast]
          norm_cast
  unfold nearestWith at h
  simp only at h
  generalize x * ratPower 10 (-(floorLog10 x + 1 - places)) = steps at h hsteps
  have hfloor : steps.floor < ((10 ^ places : Nat) : Int) := by
    show ⌊steps⌋ < _
    rw [Int.floor_lt, Int.cast_natCast]
    exact hsteps
  have hround : roundHalfEven steps ≤ ((10 ^ places : Nat) : Int) :=
    roundHalfEven_le (by rw [Int.cast_natCast]; exact hsteps.le)
  have hfull : 0 < 10 ^ places := Nat.pow_pos (by decide)
  have hd : d.scale = floorLog10 x + 1 - places ∧ d.significand ≤ 10 ^ places := by
    generalize 10 ^ places = full at hfloor hround hfull ⊢
    split at h <;> cases h
    · exact ⟨rfl, by dsimp only; omega⟩
    · exact ⟨rfl, by dsimp only; omega⟩
    · exact ⟨rfl, by dsimp only; omega⟩
  have hleading := leading_le hd.2
  omega

/-- The shortest decimal of a number below a power of ten begins there at most. -/
theorem leading_shortest {F : BinaryFormat} {m : Nat} {e : Int} {k : Nat}
    (h : (m : Rat) * 2 ^ e < 10 ^ k) (hm : (shortest F m e).significand ≠ 0) :
    (shortest F m e).leading ≤ k := by
  unfold shortest at hm ⊢
  split
  · rename_i hzero
    rw [if_pos hzero] at hm
    exact absurd rfl hm
  · rename_i hpos
    have hvalue : mkRat m 1 * ratPower 2 e = (m : Rat) * 2 ^ e := by
      rw [Rat.mkRat_one, ratPower_eq, Int.cast_natCast, Nat.cast_ofNat]
    have hx : 0 < (m : Rat) * 2 ^ e := by
      have : 0 < m := Nat.pos_of_ne_zero hpos
      positivity
    simp only [hvalue]
    cases hfound : (List.range 17).findSome? fun n => nearestWith F m e (m * 2 ^ e) (n + 1) with
    | some d =>
      obtain ⟨n, -, hn⟩ := List.exists_of_findSome?_eq_some hfound
      have hleading := leading_nearestWith hx hn
      have hlog := floorLog10_lt hx (k := k) (by rw [zpow_natCast]; exact h)
      rw [Option.getD_some]
      omega
    | none =>
      have hround : roundHalfEven ((m : Rat) * 2 ^ e) ≤ ((10 ^ k : Nat) : Int) :=
        roundHalfEven_le (by rw [Int.cast_natCast]; push_cast; exact h.le)
      have hsignificand : (⟨(roundHalfEven ((m : Rat) * 2 ^ e)).toNat, 0⟩ : Decimal).significand ≤
          10 ^ k := Int.toNat_le.mpr hround
      have hleading := leading_le hsignificand
      rw [Option.getD_none]
      simpa using hleading

end Binary

end OnScreen
