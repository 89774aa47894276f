import Mathlib.Algebra.Ring.Nat
import Mathlib.Tactic.Common
import OnScreen.Message

/-!
# When a message is due

The milliseconds left are computed in machine words: the elapsed time as an unsigned word that stops
at zero, then read as a signed word and taken from the duration. As long as less than `2 ^ 63`
milliseconds have passed, nothing wraps, and the rule of expiry can be read in natural numbers.

Results:
* `toInt_timeLeft`: the time left is the duration less the age.
* `isExpired_iff`: a drawn message is due when its duration is over, an undrawn one five seconds
  later.
* `fate_eq_pending_iff`: a frame keeps exactly the pending messages.
* `isPending_of_later`: a message that is not pending is not pending at any later reading.
-/

namespace OnScreen.Message

/-- The milliseconds since the message was queued; none before that. -/
def age (m : Message) (now : Reading) : Nat :=
  now.toNat - m.startedAt.toNat

theorem toNat_elapsed (m : Message) (now : Reading) : (m.elapsed now).toNat = m.age now := by
  unfold elapsed age
  split
  · rename_i h
    have : now.toNat < m.startedAt.toNat := UInt64.lt_iff_toNat_lt.mp h
    rw [UInt64.toNat_zero]
    omega
  · rename_i h
    exact UInt64.toNat_sub_of_le now m.startedAt (UInt64.not_lt.mp h)

/-- A word below half its range is the same number when it is read as signed. -/
theorem toInt_toInt64_of_lt {x : UInt64} (h : x.toNat < 2 ^ 63) : x.toInt64.toInt = x.toNat := by
  rw [← Int64.toInt_toBitVec, UInt64.toBitVec_toInt64, BitVec.toInt_eq_toNat_of_lt]
  · rfl
  · rw [UInt64.toNat_toBitVec]
    omega

theorem toInt_timeLeft {m : Message} {now : Reading} (h : m.age now < 2 ^ 63) :
    (m.timeLeft now).toInt = m.duration.toNat - m.age now := by
  have hd : m.duration.toNat < 2 ^ 32 := m.duration.toNat_lt
  have hduration : m.duration.toUInt64.toInt64.toInt = m.duration.toNat :=
    toInt_toInt64_of_lt (by rw [UInt32.toNat_toUInt64]; omega)
  have helapsed : (m.elapsed now).toInt64.toInt = m.age now := by
    rw [toInt_toInt64_of_lt (by rw [toNat_elapsed]; exact h), toNat_elapsed]
  unfold timeLeft
  rw [Int64.toInt_sub, hduration, helapsed]
  apply Int.bmod_eq_of_le <;> omega

/-- The rule of expiry in natural numbers. -/
theorem isExpired_iff {m : Message} {now : Reading} (h : m.age now < 2 ^ 63) :
    m.isExpired (m.timeLeft now) = true ↔
      m.duration.toNat ≤ m.age now ∧
        (m.everDrawn = true ∨ m.duration.toNat + 5000 ≤ m.age now) := by
  have hd : m.duration.toNat < 2 ^ 32 := m.duration.toNat_lt
  have hleft := toInt_timeLeft h
  have hneg : (-m.timeLeft now).toInt = m.age now - m.duration.toNat := by
    rw [Int64.toInt_neg, hleft]
    have : (-((m.duration.toNat : Int) - m.age now)).bmod (2 ^ 64) =
        -((m.duration.toNat : Int) - m.age now) := by
      apply Int.bmod_eq_of_le <;> omega
    omega
  have hzero : m.timeLeft now ≤ 0 ↔ m.duration.toNat ≤ m.age now := by
    rw [Int64.le_iff_toInt_le, hleft, Int64.toInt_zero]
    omega
  have htimeout : dropTimeout ≤ -m.timeLeft now ↔ m.duration.toNat + 5000 ≤ m.age now := by
    rw [Int64.le_iff_toInt_le, hneg, show dropTimeout.toInt = 5000 from rfl]
    omega
  unfold isExpired
  rw [Bool.and_eq_true, Bool.or_eq_true, decide_eq_true_eq, decide_eq_true_eq, hzero, htimeout]

theorem fate_eq_pending_iff {m : Message} {now : Reading} :
    m.fate now = .pending ↔ m.isPending now = true := by
  unfold fate isPending
  cases m.isExpired (m.timeLeft now) <;> cases m.isLive <;> decide

/-- A superseded message is not pending at any reading. -/
theorem isPending_of_not_isLive {m : Message} (h : m.isLive = false) (now : Reading) :
    m.isPending now = false := by
  rw [isPending, h, Bool.false_and]

theorem isLive_of_isPending {m : Message} {now : Reading} (h : m.isPending now = true) :
    m.isLive = true := by
  cases hlive : m.isLive with
  | true => rfl
  | false =>
    rw [isPending_of_not_isLive hlive] at h
    cases h

/-- A live message is pending as long as it is not due. -/
theorem isPending_iff {m : Message} {now : Reading} (h : m.age now < 2 ^ 63) :
    m.isPending now = true ↔
      m.isLive = true ∧ ¬ (m.duration.toNat ≤ m.age now ∧
        (m.everDrawn = true ∨ m.duration.toNat + 5000 ≤ m.age now)) := by
  unfold isPending
  rw [Bool.and_eq_true, Bool.not_eq_true', ← Bool.not_eq_true, isExpired_iff h]

/-- A message that is pending was pending before. -/
theorem isPending_of_later {m : Message} {now now' : Reading} (h : now.toNat ≤ now'.toNat)
    (hnow' : now'.toNat < 2 ^ 63) (hp : m.isPending now' = true) : m.isPending now = true := by
  have hage : m.age now ≤ m.age now' := Nat.sub_le_sub_right h _
  have hage' : m.age now' < 2 ^ 63 := Nat.lt_of_le_of_lt (Nat.sub_le _ _) hnow'
  rw [isPending_iff hage'] at hp
  rw [isPending_iff (Nat.lt_of_le_of_lt hage hage')]
  obtain ⟨hlive, hdue⟩ := hp
  refine ⟨hlive, ?_⟩
  rintro ⟨hduration, hdrawn⟩
  exact hdue ⟨by omega, hdrawn.imp_right (by omega)⟩

end OnScreen.Message
