import Mathlib.Algebra.Ring.Int.Defs
import OnScreen.Proofs.Expiry

/-!
# Expiry over the whole range of the clock

A clock may show any 64-bit word, but the milliseconds left are a signed word. They are exact until
`2 ^ 63` milliseconds more than the duration have passed. Then they start again from the top of the
range: the time is not up any more, and a message that had expired is pending once again.

Results:
* `toInt_timeLeft_eq`: the time left for any age, as a number.
* `toInt_elapsed_iff`, `toInt_sub_elapsed_iff`, `toInt_neg_timeLeft_iff`: which of the operations
  leave the range.
* `isExpired_iff_due`: the rule of expiry for any age.
* `expired_until_wraparound`: what is expired stays so until the words wrap around, and not longer.
-/

namespace OnScreen.Message

variable (m : Message) (now : Reading)

/-! ## The time left -/

theorem toInt_elapsed : (m.elapsed now).toInt64.toInt = (m.age now : Int).bmod (2 ^ 64) := by
  rw [← Int64.toInt_toBitVec, UInt64.toBitVec_toInt64, BitVec.toInt_eq_toNat_bmod,
    UInt64.toNat_toBitVec, toNat_elapsed]

theorem toInt_timeLeft_eq_bmod :
    (m.timeLeft now).toInt = ((m.duration.toNat : Int) - m.age now).bmod (2 ^ 64) := by
  have hd : m.duration.toNat < 2 ^ 32 := m.duration.toNat_lt
  have hduration : m.duration.toUInt64.toInt64.toInt = m.duration.toNat :=
    toInt_toInt64_of_lt (by rw [UInt32.toNat_toUInt64]; omega)
  unfold timeLeft
  rw [Int64.toInt_sub, hduration, toInt_elapsed, Int.sub_bmod_bmod]

theorem age_lt : m.age now < 2 ^ 64 :=
  Nat.lt_of_le_of_lt (Nat.sub_le _ _) now.toNat_lt

/-- The time left is the duration less the age, or that and the whole range of words once more. -/
theorem toInt_timeLeft_eq :
    (m.timeLeft now).toInt = (m.duration.toNat : Int) - m.age now +
      if m.age now ≤ 2 ^ 63 + m.duration.toNat then 0 else 2 ^ 64 := by
  have hd : m.duration.toNat < 2 ^ 32 := m.duration.toNat_lt
  have hage := m.age_lt now
  rw [toInt_timeLeft_eq_bmod]
  split
  · rw [Int.add_zero]
    apply Int.bmod_eq_of_le <;> omega
  · -- the difference is below the least signed word, and comes back from the top
    rw [← Int.add_bmod_right]
    apply Int.bmod_eq_of_le <;> omega

/-! ## Operations that leave the range -/

/-- The elapsed time is the same number as a signed word, as long as that can hold it. -/
theorem toInt_elapsed_iff :
    (m.elapsed now).toInt64.toInt = m.age now ↔ m.age now < 2 ^ 63 := by
  have hage := m.age_lt now
  rw [toInt_elapsed]
  constructor
  · intro h
    have := @Int.bmod_lt (m.age now) (2 ^ 64) (by decide)
    omega
  · intro h
    apply Int.bmod_eq_of_le <;> omega

/-- Taking the elapsed time from the duration leaves the range of signed words while the elapsed
time is read as a negative number that the duration does not make up for. -/
theorem toInt_sub_elapsed_iff :
    (m.timeLeft now).toInt = m.duration.toNat - (m.elapsed now).toInt64.toInt ↔
      ¬ (2 ^ 63 ≤ m.age now ∧ m.age now ≤ 2 ^ 63 + m.duration.toNat) := by
  have hd : m.duration.toNat < 2 ^ 32 := m.duration.toNat_lt
  have hage := m.age_lt now
  have helapsed : (m.elapsed now).toInt64.toInt =
      (m.age now : Int) - if m.age now < 2 ^ 63 then 0 else 2 ^ 64 := by
    rw [toInt_elapsed]
    split
    · rw [Int.sub_zero]
      apply Int.bmod_eq_of_le <;> omega
    · rw [← Int.sub_bmod_right]
      apply Int.bmod_eq_of_le <;> omega
  rw [toInt_timeLeft_eq, helapsed]
  split <;> split <;> omega

/-- The time left has an opposite, unless it is the least signed word. -/
theorem toInt_neg_timeLeft_iff :
    (-m.timeLeft now).toInt = -(m.timeLeft now).toInt ↔
      m.age now ≠ 2 ^ 63 + m.duration.toNat := by
  have hd : m.duration.toNat < 2 ^ 32 := m.duration.toNat_lt
  have hage := m.age_lt now
  have hleft := m.toInt_timeLeft_eq now
  rw [Int64.toInt_neg]
  constructor
  · intro h
    have := @Int.bmod_lt (-(m.timeLeft now).toInt) (2 ^ 64) (by decide)
    split at hleft <;> omega
  · intro h
    split at hleft <;> apply Int.bmod_eq_of_le <;> omega

/-! ## The rule of expiry -/

/-- So much time has passed that the words do not show any more that the time of the message is
up. -/
def Outlasts : Prop :=
  2 ^ 63 + m.duration.toNat < m.age now ∨
    (m.age now = 2 ^ 63 + m.duration.toNat ∧ m.everDrawn = false)

theorem not_outlasts_of_lt {m : Message} {now : Reading} (h : m.age now < 2 ^ 63) :
    ¬ m.Outlasts now := by
  unfold Outlasts
  omega

/-- The time of a drawn message is up after its duration, and that of an undrawn one five seconds
later, until the words wrap around. -/
theorem isExpired_iff_due :
    m.isExpired (m.timeLeft now) = true ↔
      m.duration.toNat ≤ m.age now ∧
        (m.everDrawn = true ∨ m.duration.toNat + 5000 ≤ m.age now) ∧ ¬ m.Outlasts now := by
  have hd : m.duration.toNat < 2 ^ 32 := m.duration.toNat_lt
  have hage := m.age_lt now
  have hleft := m.toInt_timeLeft_eq now
  have hneg : (-m.timeLeft now).toInt =
      if m.age now = 2 ^ 63 + m.duration.toNat then -2 ^ 63 else -(m.timeLeft now).toInt := by
    split
    · rename_i hmin
      have hvalue : -((m.duration.toNat : Int) - m.age now + 0) = 2 ^ 63 := by omega
      rw [Int64.toInt_neg, hleft, if_pos (by omega), hvalue]
      rfl
    · rename_i hmin
      exact (m.toInt_neg_timeLeft_iff now).mpr hmin
  unfold isExpired Outlasts
  rw [Bool.and_eq_true, Bool.or_eq_true, decide_eq_true_eq, decide_eq_true_eq,
    Int64.le_iff_toInt_le, Int64.le_iff_toInt_le, hneg, hleft, Int64.toInt_zero,
    show dropTimeout.toInt = 5000 from rfl]
  cases m.everDrawn with
  | true =>
    simp only [true_or, true_and, and_true, reduceCtorEq, and_false, or_false]
    split <;> omega
  | false =>
    simp only [Bool.false_eq_true, false_or, and_true]
    split <;> split <;> omega

/-! ## Later readings -/

variable {m : Message} {now now' : Reading}

theorem age_mono (h : now ≤ now') : m.age now ≤ m.age now' :=
  Nat.sub_le_sub_right (UInt64.le_iff_toNat_le.mp h) _

/-- As long as the time left is exact, it does not grow. -/
theorem timeLeft_le (h : now ≤ now') (hexact : m.age now' ≤ 2 ^ 63 + m.duration.toNat) :
    m.timeLeft now' ≤ m.timeLeft now := by
  have hage : m.age now ≤ m.age now' := age_mono h
  rw [Int64.le_iff_toInt_le, toInt_timeLeft_eq, toInt_timeLeft_eq, if_pos hexact,
    if_pos (Nat.le_trans hage hexact)]
  omega

/-- Of an expired message only the wraparound makes another one. -/
theorem isExpired_later_iff (h : now ≤ now') (hexpired : m.isExpired (m.timeLeft now) = true) :
    m.isExpired (m.timeLeft now') = true ↔ ¬ m.Outlasts now' := by
  have hage : m.age now ≤ m.age now' := age_mono h
  obtain ⟨hduration, hdrawn, -⟩ := (m.isExpired_iff_due now).mp hexpired
  rw [isExpired_iff_due]
  constructor
  · intro hdue
    exact hdue.2.2
  · intro hnot
    exact ⟨Nat.le_trans hduration hage,
      hdrawn.imp_right fun htimeout => Nat.le_trans htimeout hage, hnot⟩

theorem isPending_later_iff (h : now ≤ now') (hnot : m.isPending now = false) :
    m.isPending now' = true ↔ m.isLive = true ∧ m.Outlasts now' := by
  cases hlive : m.isLive with
  | false => simp [isPending_of_not_isLive hlive]
  | true =>
    have hexpired : m.isExpired (m.timeLeft now) = true := by
      rw [isPending, hlive, Bool.true_and, Bool.not_eq_false'] at hnot
      exact hnot
    rw [isPending, hlive, Bool.true_and, Bool.not_eq_true', ← Bool.not_eq_true,
      isExpired_later_iff h hexpired, not_not]
    exact (and_iff_right rfl).symm

/-! ## Results -/

/-- What is expired stays so until the words wrap around. The time left is the exact number until
`2 ^ 63` milliseconds more than the duration have passed, and up to there it does not grow; its
operations leave the range of signed words in the last stretch before that, and never else. A
message that is expired is expired at every later reading before the wraparound and at none behind
it; one that is not pending stays so, but if it was not superseded it is pending again behind the
wraparound. -/
theorem expired_until_wraparound (m : Message) {now now' : Reading} (h : now ≤ now') :
    let d := m.duration.toNat
    ((m.timeLeft now).toInt = d - max 0 ((now.toNat : Int) - m.startedAt.toNat) ↔
        m.age now ≤ 2 ^ 63 + d) ∧
      ((m.timeLeft now).toInt = d - (m.elapsed now).toInt64.toInt ∧
          (-m.timeLeft now).toInt = -(m.timeLeft now).toInt ↔
        ¬ (2 ^ 63 ≤ m.age now ∧ m.age now ≤ 2 ^ 63 + d)) ∧
      (m.age now' ≤ 2 ^ 63 + d → m.timeLeft now' ≤ m.timeLeft now) ∧
      (m.isExpired (m.timeLeft now) = true →
        (m.isExpired (m.timeLeft now') = true ↔ ¬ m.Outlasts now')) ∧
      (m.isPending now = false →
        (m.isPending now' = true ↔ m.isLive = true ∧ m.Outlasts now')) := by
  intro d
  have hage : max 0 ((now.toNat : Int) - m.startedAt.toNat) = m.age now := by
    unfold age
    omega
  refine ⟨?_, ?_, timeLeft_le h, isExpired_later_iff h, isPending_later_iff h⟩
  · rw [hage, toInt_timeLeft_eq]
    split <;> omega
  · rw [toInt_sub_elapsed_iff, toInt_neg_timeLeft_iff]
    omega

/-- A message that was never drawn. -/
def unseen : Message where
  type := .typeless
  text := "unseen"
  duration := 1000
  color := Color.green
  scale := Binary.ofNat 1
  startedAt := 0
  picture := .absent

/-- It is dropped six seconds after it was queued, and at every later reading of the lower half of
the clock's range. -/
theorem unseen_expired :
    unseen.isExpired (unseen.timeLeft 6000) = true ∧
      ∀ now : Reading, 6000 ≤ now → now.toNat < 2 ^ 63 →
        unseen.isExpired (unseen.timeLeft now) = true := by
  have hexpired : unseen.isExpired (unseen.timeLeft 6000) = true := by decide
  refine ⟨hexpired, fun now hnow hlow => ?_⟩
  obtain ⟨-, -, -, hlater, -⟩ := unseen.expired_until_wraparound hnow
  exact (hlater hexpired).mpr (not_outlasts_of_lt (Nat.lt_of_le_of_lt (Nat.sub_le _ _) hlow))

/-- At the last reading of the clock it has more than its whole duration left, and is pending. -/
theorem unseen_revived :
    let last : Reading := 18446744073709551615
    (6000 : Reading) ≤ last ∧
      unseen.isExpired (unseen.timeLeft 6000) = true ∧ unseen.isPending 6000 = false ∧
      (unseen.timeLeft last).toInt = 1001 ∧
      unseen.isExpired (unseen.timeLeft last) = false ∧ unseen.isPending last = true := by
  decide

end OnScreen.Message
