import Mathlib.Algebra.Order.Field.Power
import Mathlib.Data.Rat.Floor
import Mathlib.Tactic.FieldSimp
import Mathlib.Tactic.Linarith
import Mathlib.Tactic.Positivity
import OnScreen.Number.Binary

/-!
# Rounding is monotone

A number that is rounded goes to the nearest number of the format. What matters of that here is that
the numbers of the format stay where they are, and that rounding keeps the order: together they
carry every bound by a number of the format over to the rounded result.

Results:
* `floorLog2_spec`, `roundHalfEven_mono`: the two steps of rounding.
* `BinaryFormat.nearest_eq_self`, `nearest_mono`: the nearest number of a format.
* `Binary.HasValue`: being the number of a given nonnegative value; it determines the number
  (`HasValue.unique`).
* `Binary.hasValue_round`, `HasValue.div`, `HasValue.clamp`: the operations on values.
-/

namespace OnScreen

/-! ## Powers and logarithms -/

theorem ratPower_eq (base : Nat) (e : Int) : ratPower base e = (base : Rat) ^ e := by
  cases e with
  | ofNat n =>
    show mkRat (Nat.pow base n : Nat) 1 = (base : Rat) ^ ((n : Nat) : Int)
    rw [Rat.mkRat_one, zpow_natCast]
    exact Nat.cast_pow base n
  | negSucc n =>
    show mkRat 1 (Nat.pow base (n + 1)) = (base : Rat) ^ (Int.negSucc n)
    rw [Rat.mkRat_eq_div, zpow_negSucc, Int.cast_one, one_div]
    congr 1
    exact Nat.cast_pow base (n + 1)

/-- If powers of a base lie below a numerator and a denominator, and the next powers above them,
then the exponent for the fraction is the difference of these exponents, or one less. -/
theorem floorLog_spec {x : Rat} (hx : 0 < x) {base : Nat} (hbase : 1 < base) {a b : Int}
    (hnum : (base : Rat) ^ a ≤ x.num.natAbs ∧ (x.num.natAbs : Rat) < base ^ (a + 1))
    (hden : (base : Rat) ^ b ≤ x.den ∧ (x.den : Rat) < base ^ (b + 1)) :
    let k := if x.blt (ratPower base (a - b)) then a - b - 1 else a - b
    (base : Rat) ^ k ≤ x ∧ x < base ^ (k + 1) := by
  have hpos : (0 : Rat) < base := by exact_mod_cast hbase.pos
  have hfraction : x * x.den = (x.num.natAbs : Rat) := by
    rw [Rat.mul_den_eq_num, ← Int.cast_natCast, Int.natAbs_of_nonneg (Rat.num_pos.mpr hx).le]
  have hlow : (base : Rat) ^ (a - b - 1) < x := by
    have hscaled : (base : Rat) ^ (a - b - 1) * x.den < x * x.den := by
      calc (base : Rat) ^ (a - b - 1) * x.den < base ^ (a - b - 1) * base ^ (b + 1) := by
            gcongr
            exact hden.2
        _ = base ^ a := by rw [← zpow_add₀ hpos.ne']; congr 1; omega
        _ ≤ x * x.den := by rw [hfraction]; exact hnum.1
    exact lt_of_mul_lt_mul_right hscaled x.den.cast_nonneg
  have hhigh : x < (base : Rat) ^ (a - b + 1) := by
    have hscaled : x * x.den < (base : Rat) ^ (a - b + 1) * x.den := by
      calc x * x.den < base ^ (a + 1) := by rw [hfraction]; exact hnum.2
        _ = base ^ (a - b + 1) * base ^ b := by rw [← zpow_add₀ hpos.ne']; congr 1; omega
        _ ≤ base ^ (a - b + 1) * x.den := by
            gcongr
            exact hden.1
    exact lt_of_mul_lt_mul_right hscaled x.den.cast_nonneg
  rw [ratPower_eq]
  intro k
  unfold k
  split
  · rename_i hlt
    rw [sub_add_cancel]
    exact ⟨hlow.le, hlt⟩
  · rename_i hge
    exact ⟨not_lt.mp hge, hhigh⟩

theorem log2_bounds {n : Nat} (hn : n ≠ 0) :
    (2 : Rat) ^ (Nat.log2 n : Int) ≤ n ∧ (n : Rat) < 2 ^ ((Nat.log2 n : Int) + 1) := by
  rw [← Int.natCast_succ, zpow_natCast, zpow_natCast]
  exact ⟨by exact_mod_cast Nat.log2_self_le hn, by exact_mod_cast Nat.lt_log2_self⟩

/-- A positive number lies between two successive powers of two. -/
theorem floorLog2_spec {x : Rat} (hx : 0 < x) :
    (2 : Rat) ^ floorLog2 x ≤ x ∧ x < (2 : Rat) ^ (floorLog2 x + 1) :=
  floorLog_spec hx one_lt_two (log2_bounds (Int.natAbs_ne_zero.mpr (Rat.num_pos.mpr hx).ne'))
    (log2_bounds x.den_ne_zero)

theorem floorLog2_le {x : Rat} (hx : 0 < x) {k : Int} (h : x < (2 : Rat) ^ (k + 1)) :
    floorLog2 x ≤ k := by
  have hlt : (2 : Rat) ^ floorLog2 x < 2 ^ (k + 1) := (floorLog2_spec hx).1.trans_lt h
  have := (zpow_lt_zpow_iff_right₀ one_lt_two).mp hlt
  omega

/-! ## Rounding to an integer -/

/-- A number is rounded down or up to an integer, and not away from the nearer one. -/
theorem roundHalfEven_cases (x : Rat) :
    (roundHalfEven x = ⌊x⌋ ∧ x - ⌊x⌋ ≤ 1 / 2) ∨
      (roundHalfEven x = ⌊x⌋ + 1 ∧ 1 / 2 ≤ x - ⌊x⌋) := by
  have hden : (0 : Rat) < x.den := Nat.cast_pos.mpr x.den_pos
  have hrest : ((x.num % x.den : Int) : Rat) = (x - ⌊x⌋) * x.den := by
    have hnum : ((x.den * (x.num / x.den) + x.num % x.den : Int) : Rat) = x * x.den := by
      rw [Int.mul_ediv_add_emod, Rat.mul_den_eq_num]
    push_cast at hnum
    rw [Rat.floor_def']
    linarith
  have hless : 2 * (x.num % x.den) < x.den ↔ x - ⌊x⌋ < 1 / 2 := by
    rw [← Int.cast_lt (R := Rat)]
    push_cast
    rw [hrest]
    constructor <;> intro h <;> nlinarith
  have hmore : (x.den : Int) < 2 * (x.num % x.den) ↔ 1 / 2 < x - ⌊x⌋ := by
    rw [← Int.cast_lt (R := Rat)]
    push_cast
    rw [hrest]
    constructor <;> intro h <;> nlinarith
  unfold roundHalfEven
  simp only
  rw [← Rat.floor_def']
  split
  · rename_i hlt
    exact Or.inl ⟨rfl, (hless.mp hlt).le⟩
  · rename_i hge
    rw [hless, not_lt] at hge
    split
    · exact Or.inr ⟨rfl, hge⟩
    · rename_i hle
      rw [hmore, not_lt] at hle
      split
      · exact Or.inl ⟨rfl, hle⟩
      · exact Or.inr ⟨rfl, hge⟩

theorem roundHalfEven_mono {x y : Rat} (h : x ≤ y) : roundHalfEven x ≤ roundHalfEven y := by
  rcases h.eq_or_lt with rfl | hlt
  · exact le_rfl
  have hfloor : ⌊x⌋ ≤ ⌊y⌋ := Int.floor_mono h
  rcases roundHalfEven_cases x with ⟨hx, -⟩ | ⟨hx, hup⟩
  · rcases roundHalfEven_cases y with ⟨hy, -⟩ | ⟨hy, -⟩ <;> omega
  · rcases roundHalfEven_cases y with ⟨hy, hdown⟩ | ⟨hy, -⟩
    · -- two numbers with one floor cannot be rounded away from each other
      have hne : ⌊x⌋ ≠ ⌊y⌋ := by
        intro heq
        rw [heq] at hup
        linarith
      omega
    · omega

theorem roundHalfEven_intCast (n : Int) : roundHalfEven n = n := by
  rcases roundHalfEven_cases n with ⟨h, -⟩ | ⟨-, h⟩
  · rw [h, Int.floor_intCast]
  · rw [Int.floor_intCast, sub_self] at h
    norm_num at h

theorem le_roundHalfEven {n : Int} {x : Rat} (h : n ≤ x) : n ≤ roundHalfEven x := by
  have := roundHalfEven_mono h
  rwa [roundHalfEven_intCast] at this

theorem roundHalfEven_le {n : Int} {x : Rat} (h : x ≤ n) : roundHalfEven x ≤ n := by
  have := roundHalfEven_mono h
  rwa [roundHalfEven_intCast] at this

/-! ## The nearest number of a format -/

namespace BinaryFormat

/-- The value that a nonnegative number is rounded to, as long as it does not become too large. -/
def nearest (F : BinaryFormat) (x : Rat) : Rat :=
  roundHalfEven (x * 2 ^ (-F.lastPlace x)) * 2 ^ F.lastPlace x

variable {F : BinaryFormat} {x y : Rat}

theorem lastPlace_of_pos (hx : 0 < x) :
    F.lastPlace x = max F.minExp (floorLog2 x + 1 - F.precision) := by
  unfold lastPlace
  rw [if_neg (Rat.num_pos.mpr hx).ne']
  simp only
  split <;> omega

theorem minExp_le_lastPlace (hx : 0 ≤ x) : F.minExp ≤ F.lastPlace x := by
  rcases hx.eq_or_lt with rfl | hx
  · exact le_rfl
  · rw [lastPlace_of_pos hx]
    exact le_max_left _ _

/-- All places from the last one on leave a significand of no more than the full precision. -/
theorem lt_of_lastPlace_le (hx : 0 ≤ x) {e : Int} (he : F.lastPlace x ≤ e) :
    x < 2 ^ (e + F.precision) := by
  rcases hx.eq_or_lt with rfl | hx
  · positivity
  · rw [lastPlace_of_pos hx] at he
    refine (floorLog2_spec hx).2.trans_le (zpow_le_zpow_right₀ one_le_two ?_)
    omega

/-- The last place is the least one with that property. -/
theorem lastPlace_le (hx : 0 ≤ x) {e : Int} (he : F.minExp ≤ e) (h : x < 2 ^ (e + F.precision)) :
    F.lastPlace x ≤ e := by
  rcases hx.eq_or_lt with rfl | hx
  · exact he
  · have hlog : floorLog2 x ≤ e + F.precision - 1 :=
      floorLog2_le hx (by rw [sub_add_cancel]; exact h)
    rw [lastPlace_of_pos hx]
    omega

/-- Above the least place, the significand is full. -/
theorem le_of_minExp_lt (hx : 0 ≤ x) (h : F.minExp < F.lastPlace x) :
    2 ^ (F.lastPlace x + F.precision - 1) ≤ x := by
  rcases hx.eq_or_lt with rfl | hx
  · exact absurd h (lt_irrefl _)
  · have hplace : F.lastPlace x + F.precision - 1 = floorLog2 x := by
      rw [lastPlace_of_pos hx] at h ⊢
      omega
    rw [hplace]
    exact (floorLog2_spec hx).1

/-- A multiple of a power of two is one of every smaller power of two. -/
theorem exists_mul_zpow (n : Int) {e f : Int} (h : e ≤ f) :
    ∃ k : Int, (n : Rat) * 2 ^ f = k * 2 ^ e := by
  obtain ⟨d, rfl⟩ := Int.le.dest h
  refine ⟨n * 2 ^ d, ?_⟩
  push_cast
  rw [zpow_add₀ two_ne_zero, zpow_natCast]
  ring

/-- A bound by a number with no place after the last one is kept by rounding. -/
theorem nearest_le {n f : Int} (hf : F.lastPlace x ≤ f) (h : x ≤ n * 2 ^ f) :
    F.nearest x ≤ n * 2 ^ f := by
  obtain ⟨k, hk⟩ := exists_mul_zpow n hf
  rw [hk] at h ⊢
  have hscaled : x * 2 ^ (-F.lastPlace x) ≤ k := by
    rw [zpow_neg, ← div_eq_mul_inv, div_le_iff₀ (by positivity)]
    exact h
  unfold nearest
  have hround : (roundHalfEven (x * 2 ^ (-F.lastPlace x)) : Rat) ≤ k :=
    Int.cast_le.mpr (roundHalfEven_le hscaled)
  gcongr

theorem le_nearest {n f : Int} (hf : F.lastPlace x ≤ f) (h : n * 2 ^ f ≤ x) :
    n * 2 ^ f ≤ F.nearest x := by
  obtain ⟨k, hk⟩ := exists_mul_zpow n hf
  rw [hk] at h ⊢
  have hscaled : k ≤ x * 2 ^ (-F.lastPlace x) := by
    rw [zpow_neg, ← div_eq_mul_inv, le_div_iff₀ (by positivity)]
    exact h
  unfold nearest
  have hround : (k : Rat) ≤ roundHalfEven (x * 2 ^ (-F.lastPlace x)) :=
    Int.cast_le.mpr (le_roundHalfEven hscaled)
  gcongr

/-- The numbers of the format stay where they are. -/
theorem nearest_eq_self {m : Nat} {e : Int} (hm : m < 2 ^ F.precision) (he : F.minExp ≤ e) :
    F.nearest (m * 2 ^ e) = m * 2 ^ e := by
  have hplace : F.lastPlace (m * 2 ^ e) ≤ e := by
    refine lastPlace_le (by positivity) he ?_
    rw [zpow_add₀ two_ne_zero, zpow_natCast, mul_comm]
    gcongr
    exact_mod_cast hm
  rw [← Int.cast_natCast] at hplace ⊢
  exact le_antisymm (nearest_le hplace le_rfl) (le_nearest hplace le_rfl)

/-- Rounding keeps the order. -/
theorem nearest_mono (hp : 0 < F.precision) (hx : 0 ≤ x) (h : x ≤ y) :
    F.nearest x ≤ F.nearest y := by
  have hy : 0 ≤ y := hx.trans h
  have hplaces : F.lastPlace x ≤ F.lastPlace y :=
    lastPlace_le hx (minExp_le_lastPlace hy) (h.trans_lt (lt_of_lastPlace_le hy le_rfl))
  rcases hplaces.eq_or_lt with heq | hlt
  · have hscaled : x * 2 ^ (-F.lastPlace x) ≤ y * 2 ^ (-F.lastPlace y) := by
      rw [heq]
      gcongr
    have hround : (roundHalfEven (x * 2 ^ (-F.lastPlace x)) : Rat) ≤
        roundHalfEven (y * 2 ^ (-F.lastPlace y)) := Int.cast_le.mpr (roundHalfEven_mono hscaled)
    unfold nearest
    rw [heq] at hround ⊢
    gcongr
  · -- the least number with a full significand at the last place of `y` is between them
    have hmin : F.minExp < F.lastPlace y := (minExp_le_lastPlace hx).trans_lt hlt
    have hxlow : x ≤ ((1 : Int) : Rat) * 2 ^ (F.lastPlace y + F.precision - 1) := by
      have hbound := lt_of_lastPlace_le hx (Int.le_sub_one_of_lt hlt)
      rw [Int.cast_one, one_mul, show F.lastPlace y + F.precision - 1 =
        F.lastPlace y - 1 + F.precision by ring]
      exact hbound.le
    have hyhigh : ((1 : Int) : Rat) * 2 ^ (F.lastPlace y + F.precision - 1) ≤ y := by
      rw [Int.cast_one, one_mul]
      exact le_of_minExp_lt hy hmin
    exact (nearest_le (by omega) hxlow).trans (le_nearest (by omega) hyhigh)

theorem nearest_nonneg (hx : 0 ≤ x) : 0 ≤ F.nearest x := by
  have h : ((0 : Int) : Rat) * 2 ^ F.lastPlace x ≤ F.nearest x := le_nearest le_rfl (by simpa)
  simpa using h

/-- Of two numbers in canonical form, the one with the greater exponent is greater. -/
theorem canonical_lt (hp : 0 < F.precision) {m m' : Nat} {e e' : Int} (h : F.Canonical m e)
    (h' : F.Canonical m' e') (he : e < e') : (m : Rat) * 2 ^ e < m' * 2 ^ e' := by
  obtain ⟨hm, hmin, -, -⟩ := h
  obtain ⟨-, -, -, hfull⟩ := h'
  have hfull : 2 ^ (F.precision - 1) ≤ m' := hfull.resolve_left (by omega)
  calc (m : Rat) * 2 ^ e < 2 ^ F.precision * 2 ^ e := by gcongr; exact_mod_cast hm
    _ = 2 ^ (F.precision - 1) * 2 ^ (e + 1) := by
      rw [zpow_add_one₀ two_ne_zero]
      obtain ⟨p, hp⟩ := Nat.exists_eq_add_one.mpr hp
      rw [hp, Nat.add_sub_cancel, pow_succ]
      ring
    _ ≤ m' * 2 ^ e' := by
      gcongr
      · exact_mod_cast hfull
      · exact one_le_two
      · omega

/-- There is one way to write a number in canonical form. -/
theorem Canonical.unique (hp : 0 < F.precision) {m m' : Nat} {e e' : Int} (h : F.Canonical m e)
    (h' : F.Canonical m' e') (heq : (m : Rat) * 2 ^ e = m' * 2 ^ e') : m = m' ∧ e = e' := by
  rcases lt_trichotomy e e' with hlt | rfl | hlt
  · exact absurd heq (canonical_lt hp h h' hlt).ne
  · exact ⟨by exact_mod_cast mul_right_cancel₀ (zpow_ne_zero e two_ne_zero) heq, rfl⟩
  · exact absurd heq (canonical_lt hp h' h hlt).ne'

end BinaryFormat

/-! ## The operations on values -/

namespace Binary

variable {F : BinaryFormat} {x y : Binary F} {v w : Rat}

/-- The number is finite, without a minus sign, and has the given value. -/
def HasValue (x : Binary F) (v : Rat) : Prop :=
  ∃ m e h, x = .finite false m e h ∧ (m : Rat) * 2 ^ e = v

theorem toRat_finite (negative : Bool) (m : Nat) (e : Int) (h : F.Canonical m e) :
    (finite negative m e h).toRat = if negative then -((m : Rat) * 2 ^ e) else m * 2 ^ e := by
  unfold toRat
  simp only
  rw [Rat.mkRat_one, ratPower_eq, Int.cast_natCast, Nat.cast_ofNat]

theorem HasValue.toRat (hx : x.HasValue v) : x.toRat = v := by
  obtain ⟨m, e, h, rfl, rfl⟩ := hx
  exact toRat_finite false m e h

theorem HasValue.isFinite (hx : x.HasValue v) : x.isFinite = true := by
  obtain ⟨m, e, h, rfl, -⟩ := hx
  rfl

theorem HasValue.nonneg (hx : x.HasValue v) : 0 ≤ v := by
  obtain ⟨m, e, -, -, rfl⟩ := hx
  positivity

/-- Numbers of one value and one sign are the same number. -/
theorem HasValue.unique (hp : 0 < F.precision) (hx : x.HasValue v) (hy : y.HasValue v) : x = y := by
  obtain ⟨m, e, h, rfl, rfl⟩ := hx
  obtain ⟨m', e', h', rfl, heq⟩ := hy
  obtain ⟨rfl, rfl⟩ := h.unique hp h' heq.symm
  rfl

/-- Rounding gives the number of the nearest value, unless that is too large for the format. -/
theorem hasValue_round (hp : 0 < F.precision) {z : Rat} (hz : 0 ≤ z)
    (hmax : F.lastPlace z < F.maxExp) : (round false z : Binary F).HasValue (F.nearest z) := by
  have hmin : F.minExp ≤ F.lastPlace z := BinaryFormat.minExp_le_lastPlace hz
  have hscale : z * 2 ^ (-F.lastPlace z) * 2 ^ F.lastPlace z = z := by
    rw [mul_assoc, ← zpow_add₀ two_ne_zero, neg_add_cancel, zpow_zero, mul_one]
  have hlow : 0 ≤ roundHalfEven (z * 2 ^ (-F.lastPlace z)) :=
    le_roundHalfEven (by rw [Int.cast_zero]; positivity)
  obtain ⟨m, hm⟩ := Int.eq_ofNat_of_zero_le hlow
  have hnearest : F.nearest z = m * 2 ^ F.lastPlace z := by
    unfold BinaryFormat.nearest
    rw [hm, Int.cast_natCast]
  -- the significand is no more than full, and full above the least place
  have hhigh : m ≤ 2 ^ F.precision := by
    have hbound := BinaryFormat.lt_of_lastPlace_le hz (F := F) le_rfl
    rw [zpow_add₀ two_ne_zero, mul_comm, zpow_natCast] at hbound
    have hle : F.nearest z ≤ ((2 ^ F.precision : Int) : Rat) * 2 ^ F.lastPlace z :=
      BinaryFormat.nearest_le le_rfl (by push_cast; exact hbound.le)
    rw [hnearest] at hle
    have hcast := le_of_mul_le_mul_right hle (by positivity)
    exact_mod_cast hcast
  have hfull : F.lastPlace z = F.minExp ∨ 2 ^ (F.precision - 1) ≤ m := by
    rcases hmin.eq_or_lt with heq | hlt
    · exact Or.inl heq.symm
    · right
      have hbound := BinaryFormat.le_of_minExp_lt hz hlt
      rw [show F.lastPlace z + F.precision - 1 = ((F.precision - 1 : Nat) : Int) + F.lastPlace z
        by omega, zpow_add₀ two_ne_zero, zpow_natCast] at hbound
      have hle : ((2 ^ (F.precision - 1) : Int) : Rat) * 2 ^ F.lastPlace z ≤ F.nearest z :=
        BinaryFormat.le_nearest le_rfl (by push_cast; exact hbound)
      rw [hnearest] at hle
      have hcast := le_of_mul_le_mul_right hle (by positivity)
      exact_mod_cast hcast
  have hround : (round false z : Binary F) =
      if m = Nat.pow 2 F.precision then
        pack false (Nat.pow 2 (F.precision - 1)) (F.lastPlace z + 1)
      else pack false m (F.lastPlace z) := by
    unfold round
    simp only
    rw [ratPower_eq, Nat.cast_ofNat, hm, Int.toNat_natCast]
  rw [hround, hnearest]
  split
  · rename_i htop
    have hcanonical : F.Canonical (Nat.pow 2 (F.precision - 1)) (F.lastPlace z + 1) :=
      ⟨Nat.pow_lt_pow_right (by decide) (by omega), by omega, by omega, Or.inr le_rfl⟩
    refine ⟨_, _, hcanonical, dif_pos hcanonical, ?_⟩
    rw [htop, zpow_add_one₀ two_ne_zero]
    obtain ⟨p, hp⟩ := Nat.exists_eq_add_one.mpr hp
    rw [hp, Nat.add_sub_cancel]
    push_cast [Nat.pow_eq]
    ring
  · rename_i hne
    have hcanonical : F.Canonical m (F.lastPlace z) :=
      ⟨lt_of_le_of_ne hhigh hne, hmin, hmax.le, hfull⟩
    exact ⟨m, _, hcanonical, dif_pos hcanonical, rfl⟩

theorem ratMagnitude_of_nonneg {z : Rat} (hz : 0 ≤ z) : ratMagnitude z = z :=
  if_neg (Rat.num_nonneg.mpr hz).not_gt

/-- A nonnegative integer becomes the number of the nearest value. -/
theorem hasValue_ofInt (hp : 0 < F.precision) {n : Int} (hn : 0 ≤ n)
    (hmax : F.lastPlace n < F.maxExp) : (ofInt n : Binary F).HasValue (F.nearest n) := by
  have hz : (0 : Rat) ≤ (n : Rat) := Int.cast_nonneg hn
  unfold ofInt ofRat
  rw [Rat.mkRat_one, ratMagnitude_of_nonneg hz, Rat.num_intCast,
    decide_eq_false (not_lt.mpr hn)]
  exact hasValue_round hp hz hmax

/-- The rounded quotient. -/
theorem HasValue.div (hp : 0 < F.precision) (hx : x.HasValue v) (hy : y.HasValue w) (hw : w ≠ 0)
    (hmax : F.lastPlace (v / w) < F.maxExp) : (x / y).HasValue (F.nearest (v / w)) := by
  have hquotient : 0 ≤ v / w := div_nonneg hx.nonneg hy.nonneg
  have hxv := hx.toRat
  have hyw := hy.toRat
  obtain ⟨m, e, h, rfl, -⟩ := hx
  obtain ⟨n, f, h', rfl, rfl⟩ := hy
  have hn : n ≠ 0 := by
    rintro rfl
    simp at hw
  have hdiv : (finite false m e h / finite false n f h' : Binary F) =
      round false (ratMagnitude (v / (n * 2 ^ f))) := by
    show div _ _ = _
    unfold div
    simp only
    rw [if_neg hn, hxv, hyw]
    rfl
  rw [hdiv, ratMagnitude_of_nonneg hquotient]
  exact hasValue_round hp hquotient hmax

theorem HasValue.less (hx : x.HasValue v) (hy : y.HasValue w) : less x y = decide (v < w) := by
  have hxv := hx.toRat
  have hyw := hy.toRat
  obtain ⟨m, e, h, rfl, -⟩ := hx
  obtain ⟨n, f, h', rfl, -⟩ := hy
  show (finite false m e h).toRat.blt (finite false n f h').toRat = _
  rw [hxv, hyw, Bool.eq_iff_iff, decide_eq_true_eq]
  exact Iff.rfl

/-- Clamping moves the value to the interval. -/
theorem HasValue.clamp {low high : Binary F} {a b : Rat} (hlow : low.HasValue a)
    (hhigh : high.HasValue b) (hx : x.HasValue v) :
    (clamp low high x).HasValue (min (max v a) b) := by
  have hraised : (if Binary.less x low then low else x).HasValue (max v a) := by
    rw [hx.less hlow]
    split
    · rename_i hlt
      rw [max_eq_right (of_decide_eq_true hlt).le]
      exact hlow
    · rename_i hge
      rw [max_eq_left (not_lt.mp fun h => hge (decide_eq_true h))]
      exact hx
  unfold Binary.clamp
  simp only
  rw [hhigh.less hraised]
  split
  · rename_i hlt
    rw [min_eq_right (of_decide_eq_true hlt).le]
    exact hhigh
  · rename_i hge
    rw [min_eq_left (not_lt.mp fun h => hge (decide_eq_true h))]
    exact hraised

end Binary

end OnScreen
