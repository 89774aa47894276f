import Mathlib.Data.List.Induction
import OnScreen.Proofs.Lifetime
import OnScreen.Proofs.Rounding

/-!
# Fading

A message is first drawn fully opaque. After that its opacity is the time left over the length of
the fade window, computed with two roundings and clamped to the unit interval. Rounding is monotone,
so the opacity never increases; inside the window two different times left are at least a thousandth
apart as quotients, and as there are multiples of `1 / 4096` between them, which single precision
has, they are not rounded to the same number.

Results:
* `fadeOpacity_pos`, `fadeOpacity_le_one`, `fadeOpacity_mono`, `fadeOpacity_lt`,
  `fadeOpacity_eq_one_iff`: the opacity as a function of the time left.
* `recorded_run`: what a stored message tells of the run.
* `fading_never_flickers`: the opacities of the placements of a run.
-/

namespace OnScreen

open BinaryFormat

/-! ## Numbers of single precision -/

theorem nearest_natCast {n : Nat} (h : n < 2 ^ 24) : single.nearest n = n := by
  have hself := nearest_eq_self (F := single) (e := 0) h (by decide)
  rwa [zpow_zero, mul_one] at hself

/-- Multiples of `1 / 4096` are numbers of single precision. -/
theorem nearest_div_4096 {n : Nat} (h : n < 2 ^ 24) : single.nearest (n / 4096) = n / 4096 := by
  have hself := nearest_eq_self (F := single) (e := -12) h (by decide)
  have hpower : (2 : Rat) ^ (-12 : Int) = (4096 : Rat)⁻¹ := by norm_num
  rwa [hpower, ← div_eq_mul_inv] at hself

theorem nearest_one : single.nearest 1 = 1 := by
  have h := nearest_natCast (n := 1) (by decide)
  rwa [Nat.cast_one] at h

theorem single_nearest_mono {x y : Rat} (hx : 0 ≤ x) (h : x ≤ y) :
    single.nearest x ≤ single.nearest y :=
  nearest_mono (by decide) hx h

/-- Numbers up to `2 ^ 64` are far from the largest one. -/
theorem lastPlace_le_41 {x : Rat} (hx : 0 ≤ x) (h : x ≤ 2 ^ 64) : single.lastPlace x ≤ 41 := by
  refine lastPlace_le hx (by decide) (h.trans_lt ?_)
  show (2 : Rat) ^ 64 < 2 ^ (41 + 24 : Int)
  norm_num

theorem lastPlace_lt_maxExp {x : Rat} (hx : 0 ≤ x) (h : x ≤ 2 ^ 64) :
    single.lastPlace x < single.maxExp :=
  (lastPlace_le_41 hx h).trans_lt (by decide)

theorem nearest_le_two_pow_64 {x : Rat} (hx : 0 ≤ x) (h : x ≤ 2 ^ 64) :
    single.nearest x ≤ 2 ^ 64 := by
  have hle := nearest_le (n := 1) (f := 64) ((lastPlace_le_41 hx h).trans (by decide))
    (by rw [Int.cast_one, one_mul]; exact_mod_cast h)
  rw [Int.cast_one, one_mul] at hle
  exact_mod_cast hle

theorem hasValue_ofNat {n : Nat} (h : n < 2 ^ 24) : (Binary.ofNat n : Single).HasValue n := by
  have hle : (n : Rat) ≤ 2 ^ 64 := by
    have hcast : (n : Rat) < 2 ^ 24 := by exact_mod_cast h
    linarith
  have hvalue := Binary.hasValue_ofInt (F := single) (by decide) (Int.natCast_nonneg n)
    (lastPlace_lt_maxExp (by positivity) (by rw [Int.cast_natCast]; exact hle))
  rw [Int.cast_natCast, nearest_natCast h] at hvalue
  exact hvalue

/-! ## The opacity as a function of the time left -/

/-- The milliseconds at the end of its time over which a message of this duration fades. -/
def fadeWindow (duration : UInt32) : Nat :=
  min (max duration.toNat 1) 1000

/-- The value of the opacity of a fading message, for the milliseconds left and the window. -/
def fadeValue (left : Int) (window : Nat) : Rat :=
  min (single.nearest (single.nearest left / window)) 1

section

variable {left left' : Int} {window : Nat}

theorem fadeValue_mono (hleft : 0 ≤ left) (h : left ≤ left') :
    fadeValue left window ≤ fadeValue left' window := by
  have hcast : (0 : Rat) ≤ left := by exact_mod_cast hleft
  have hnearest : single.nearest left ≤ single.nearest left' :=
    single_nearest_mono hcast (by exact_mod_cast h)
  have hquotient : single.nearest left / window ≤ single.nearest left' / window := by gcongr
  unfold fadeValue
  exact min_le_min_right 1
    (single_nearest_mono (div_nonneg (nearest_nonneg hcast) (Nat.cast_nonneg window)) hquotient)

variable (hpos : 0 < window) (hmax : window ≤ 1000)
include hpos hmax

theorem fadeValue_eq_one (h : (window : Int) ≤ left) : fadeValue left window = 1 := by
  have hcast : (window : Rat) ≤ left := by exact_mod_cast h
  have hnearest : (window : Rat) ≤ single.nearest left := by
    have hmono := single_nearest_mono (Nat.cast_nonneg window) hcast
    rwa [nearest_natCast (by omega)] at hmono
  have hquotient : 1 ≤ single.nearest left / window := by
    rw [le_div_iff₀ (by exact_mod_cast hpos), one_mul]
    exact hnearest
  have hrounded := single_nearest_mono zero_le_one hquotient
  rw [nearest_one] at hrounded
  exact min_eq_right hrounded

theorem fadeValue_pos (hleft : 0 < left) : 0 < fadeValue left window := by
  have hnearest : 1 ≤ single.nearest left := by
    have hmono := single_nearest_mono zero_le_one (y := (left : Rat)) (by exact_mod_cast hleft)
    rwa [nearest_one] at hmono
  have hquotient : ((4 : Nat) : Rat) / 4096 ≤ single.nearest left / window := by
    have hwindow : (window : Rat) ≤ 1000 := by exact_mod_cast hmax
    rw [div_le_div_iff₀ (by norm_num) (by exact_mod_cast hpos)]
    push_cast
    linarith
  have hrounded := single_nearest_mono (by positivity) hquotient
  rw [nearest_div_4096 (by decide)] at hrounded
  exact lt_min (lt_of_lt_of_le (by norm_num) hrounded) one_pos

/-- Inside the window, less time left means a smaller value. -/
theorem fadeValue_lt (hleft : 0 < left) (h : left < left') (hwindow : left' ≤ window) :
    fadeValue left window < fadeValue left' window := by
  obtain ⟨l, rfl⟩ := Int.eq_ofNat_of_zero_le hleft.le
  obtain ⟨l', rfl⟩ := Int.eq_ofNat_of_zero_le (hleft.trans h).le
  have hw : (0 : Rat) < window := by exact_mod_cast hpos
  have hlt : l < l' := by exact_mod_cast h
  have hle : l' ≤ window := by exact_mod_cast hwindow
  -- the least multiple of `1 / 4096` above the smaller quotient is below the greater one
  obtain ⟨k, hlow, hhigh⟩ : ∃ k : Nat, l * 4096 ≤ k * window ∧ (k + 1) * window ≤ l' * 4096 := by
    refine ⟨(l * 4096 + window - 1) / window, ?_, ?_⟩
    · have hceil := Nat.lt_div_mul_add (a := l * 4096 + window - 1) hpos
      omega
    · have hfloor := Nat.div_mul_le_self (l * 4096 + window - 1) window
      rw [Nat.add_mul, one_mul]
      omega
  have hk : k + 1 < 2 ^ 24 := by
    have hbound : (k + 1) * window ≤ 4096 * window := by
      calc (k + 1) * window ≤ l' * 4096 := hhigh
        _ = 4096 * l' := Nat.mul_comm l' 4096
        _ ≤ 4096 * window := Nat.mul_le_mul_left 4096 hle
    exact (Nat.le_of_mul_le_mul_right hbound hpos).trans_lt (by norm_num)
  have hbelow : single.nearest ((l : Rat) / window) ≤ (k : Rat) / 4096 := by
    rw [← nearest_div_4096 (by omega)]
    refine single_nearest_mono (by positivity) ?_
    rw [div_le_div_iff₀ hw (by norm_num)]
    exact_mod_cast hlow
  have habove : ((k + 1 : Nat) : Rat) / 4096 ≤ single.nearest ((l' : Rat) / window) := by
    rw [← nearest_div_4096 hk]
    refine single_nearest_mono (by positivity) ?_
    rw [div_le_div_iff₀ (by norm_num) hw]
    exact_mod_cast hhigh
  have hone : single.nearest ((l' : Rat) / window) ≤ 1 := by
    rw [← nearest_one]
    refine single_nearest_mono (by positivity) ?_
    rw [div_le_one hw]
    exact_mod_cast hle
  have hstep : (k : Rat) / 4096 < ((k + 1 : Nat) : Rat) / 4096 := by
    rw [div_lt_div_iff_of_pos_right (by norm_num)]
    exact_mod_cast Nat.lt_succ_self k
  unfold fadeValue
  rw [Int.cast_natCast, Int.cast_natCast, nearest_natCast (by omega), nearest_natCast (by omega),
    min_eq_left hone]
  exact (min_le_left _ _).trans_lt (hbelow.trans_lt (hstep.trans_le habove))

end

/-! ## The opacity that is computed -/

theorem fadeWindow_pos (duration : UInt32) : 0 < fadeWindow duration := by
  unfold fadeWindow
  omega

theorem fadeWindow_le (duration : UInt32) : fadeWindow duration ≤ 1000 :=
  min_le_right _ _

theorem fadeWindow_eq (duration : UInt32) :
    (if duration < 1 then 1
      else if fadeWindowMax < duration then fadeWindowMax else duration).toNat =
      fadeWindow duration := by
  have hone : (1 : UInt32).toNat = 1 := rfl
  have hmax : fadeWindowMax.toNat = 1000 := rfl
  unfold fadeWindow
  split
  · rename_i h
    rw [UInt32.lt_iff_toNat_lt] at h
    omega
  · rename_i h
    rw [UInt32.lt_iff_toNat_lt] at h
    split
    · rename_i h'
      rw [UInt32.lt_iff_toNat_lt] at h'
      omega
    · rename_i h'
      rw [UInt32.lt_iff_toNat_lt] at h'
      omega

section

variable {left left' : Int64} {duration : UInt32}

/-- As long as there is time left, the opacity is a number between zero and one. -/
theorem hasValue_fadeOpacity (hleft : 0 < left.toInt) :
    (fadeOpacity left duration).HasValue (fadeValue left.toInt (fadeWindow duration)) := by
  have hpos : (0 : Rat) ≤ left.toInt := by exact_mod_cast hleft.le
  have hmax : (left.toInt : Rat) ≤ 2 ^ 64 := by
    have hbound : left.toInt ≤ 2 ^ 64 := left.toInt_le.trans (by decide)
    exact_mod_cast hbound
  have hnumerator : (Binary.ofInt left.toInt : Single).HasValue (single.nearest left.toInt) :=
    Binary.hasValue_ofInt (by decide) hleft.le (lastPlace_lt_maxExp hpos hmax)
  have hwindow : (Binary.ofNat (fadeWindow duration) : Single).HasValue (fadeWindow duration) :=
    hasValue_ofNat ((fadeWindow_le duration).trans_lt (by norm_num))
  have hone : (1 : Rat) ≤ fadeWindow duration := by exact_mod_cast fadeWindow_pos duration
  have hquotient : single.nearest left.toInt / fadeWindow duration ≤ 2 ^ 64 :=
    (div_le_self hnumerator.nonneg hone).trans (nearest_le_two_pow_64 hpos hmax)
  have hdiv := hnumerator.div (by decide) hwindow (zero_lt_one.trans_le hone).ne'
    (lastPlace_lt_maxExp (div_nonneg hnumerator.nonneg hwindow.nonneg) hquotient)
  have hclamp := Binary.HasValue.clamp (hasValue_ofNat (n := 0) (by decide))
    (hasValue_ofNat (n := 1) (by decide)) hdiv
  rw [Nat.cast_zero, Nat.cast_one, max_eq_left hdiv.nonneg] at hclamp
  unfold fadeOpacity
  simp only
  rw [fadeWindow_eq]
  exact hclamp

theorem fadeOpacity_pos (hleft : 0 < left.toInt) : 0 < (fadeOpacity left duration).toRat := by
  rw [(hasValue_fadeOpacity hleft).toRat]
  exact fadeValue_pos (fadeWindow_pos duration) (fadeWindow_le duration) hleft

theorem fadeOpacity_le_one (hleft : 0 < left.toInt) : (fadeOpacity left duration).toRat ≤ 1 := by
  rw [(hasValue_fadeOpacity hleft).toRat]
  exact min_le_right _ _

/-- The opacity does not increase as the time left gets less. -/
theorem fadeOpacity_mono (hleft : 0 < left.toInt) (h : left.toInt ≤ left'.toInt) :
    (fadeOpacity left duration).toRat ≤ (fadeOpacity left' duration).toRat := by
  rw [(hasValue_fadeOpacity hleft).toRat, (hasValue_fadeOpacity (hleft.trans_le h)).toRat]
  exact fadeValue_mono hleft.le h

/-- Inside the window it decreases. -/
theorem fadeOpacity_lt (hleft : 0 < left.toInt) (h : left.toInt < left'.toInt)
    (hwindow : left'.toInt ≤ fadeWindow duration) :
    (fadeOpacity left duration).toRat < (fadeOpacity left' duration).toRat := by
  rw [(hasValue_fadeOpacity hleft).toRat, (hasValue_fadeOpacity (hleft.trans h)).toRat]
  exact fadeValue_lt (fadeWindow_pos duration) (fadeWindow_le duration) hleft h hwindow

theorem hasValue_one : (Binary.ofNat 1 : Single).HasValue 1 := by
  have h := hasValue_ofNat (n := 1) (by decide)
  rwa [Nat.cast_one] at h

/-- The message is fully opaque exactly as long as the window has not begun. -/
theorem fadeOpacity_eq_one_iff (hleft : 0 < left.toInt) :
    fadeOpacity left duration = Binary.ofNat 1 ↔ (fadeWindow duration : Int) ≤ left.toInt := by
  have hvalue : (fadeOpacity left duration).HasValue _ := hasValue_fadeOpacity hleft
  constructor
  · intro heq
    by_contra hlt
    have hfade := fadeValue_lt (fadeWindow_pos duration) (fadeWindow_le duration) hleft
      (not_le.mp hlt) le_rfl
    rw [← hvalue.toRat, heq, hasValue_one.toRat,
      fadeValue_eq_one (fadeWindow_pos duration) (fadeWindow_le duration) le_rfl] at hfade
    exact lt_irrefl _ hfade
  · intro hle
    rw [fadeValue_eq_one (fadeWindow_pos duration) (fadeWindow_le duration) hle] at hvalue
    exact hvalue.unique (by decide) hasValue_one

end

/-! ## What a stored message tells of the run -/

namespace Session

variable {ρ : Type}

/-- A step leaves the duration and the start of a stored message as they are, and marks it as drawn
if it places it. -/
theorem recorded_step {s : Session ρ} {x : Step ρ} (h : s.WellFormed) {id : MessageId}
    {m m' : Message} (hm : s.message? id = some m) (hm' : (s.step x).message? id = some m') :
    m'.duration = m.duration ∧ m'.startedAt = m.startedAt ∧
      (m'.everDrawn = true ↔ m.everDrawn = true ∨ Places id s x) := by
  have hunplaced (hframe : ¬ x.IsFrame) :
      m.everDrawn = true ↔ m.everDrawn = true ∨ Places id s x :=
    (or_iff_left fun hplaces => hframe hplaces.isFrame).symm
  cases (storedStep s x h hm).remained hm' with
  | kept hframe hp hkept =>
    rw [places_iff h hframe hm hp, hkept.fields]
    exact ⟨rfl, rfl, iff_of_eq (Bool.or_eq_true _ _)⟩
  | superseded hframe _ hafter =>
    subst hafter
    exact ⟨rfl, rfl, hunplaced hframe⟩
  | same hframe _ hafter =>
    subst hafter
    exact ⟨rfl, rfl, hunplaced hframe⟩

/-- The duration and the start of a message stay as they are as long as it is stored. -/
theorem schedule_run {s : Session ρ} (h : s.WellFormed) {id : MessageId} {m m' : Message}
    {steps : List (Step ρ)} (hm : s.message? id = some m)
    (hm' : (s.run steps).message? id = some m') :
    m'.duration = m.duration ∧ m'.startedAt = m.startedAt := by
  induction steps using List.reverseRecOn generalizing m' with
  | nil =>
    rw [show (s.run []).message? id = some m from hm] at hm'
    cases hm'
    exact ⟨rfl, rfl⟩
  | append_singleton steps x ih =>
    have hsteps : (s.run steps).WellFormed := wellFormed_run h steps
    rw [run_concat] at hm'
    -- the id was given out, so nothing appears under it again
    have hid : (s.run steps).Issued id := issued_run h (Registry.WellFormed.issued h hm) steps
    obtain ⟨m₀, hbefore, -⟩ := (adds_or_remained _ x hsteps hm').resolve_left (hid.not_adds x)
    obtain ⟨hduration, hstart, -⟩ := recorded_step hsteps hbefore hm'
    obtain ⟨hduration₀, hstart₀⟩ := ih hbefore
    exact ⟨hduration.trans hduration₀, hstart.trans hstart₀⟩

/-- What a frame has placed was given out. -/
theorem WasPlaced.issued {s : Session ρ} (h : s.WellFormed) {id : MessageId}
    {steps : List (Step ρ)} (hplaced : s.WasPlaced id steps) : (s.run steps).Issued id := by
  obtain ⟨past, x, future, rfl, R, -, hmem⟩ := hplaced
  have hpast : (s.run past).WellFormed := wellFormed_run h past
  obtain ⟨-, m, hm, -⟩ := (Overlay.mem_placedIds_iff R hpast).mp hmem
  rw [run_append]
  exact issued_run hpast (Registry.WellFormed.issued hpast hm) (x :: future)

/-- A stored message is marked as drawn exactly if a frame has placed it, and it was queued in a
step of the run. -/
theorem recorded_run (renderer : ρ) (steps : List (Step ρ)) {id : MessageId} {m : Message}
    (hm : ((start renderer).run steps).message? id = some m) :
    (m.everDrawn = true ↔ (start renderer).WasPlaced id steps) ∧
      ∃ x ∈ steps, m.startedAt = x.now := by
  induction steps using List.reverseRecOn generalizing m with
  | nil =>
    rw [show ((start renderer).run []).message? id = none from Registry.message?_empty id] at hm
    cases hm
  | append_singleton steps x ih =>
    have hwf := wellFormed_run (wellFormed_start renderer) steps
    rw [run_concat] at hm
    have hplaced : (start renderer).WasPlaced id (steps ++ [x]) ↔
        (start renderer).WasPlaced id steps ∨ Places id ((start renderer).run steps) x :=
      happens_concat
    rw [hplaced]
    rcases adds_or_remained _ x hwf hm with hadds | ⟨m₀, hbefore, -⟩
    · have hnew : ¬ (start renderer).WasPlaced id steps := fun h =>
        (h.issued (wellFormed_start renderer)).not_adds x hadds
      obtain ⟨now, operation⟩ := x
      obtain ⟨type, request, hop, hq, rfl⟩ := hadds
      cases hop
      cases hm.symm.trans (Overlay.message?_submit_nextId hq)
      refine ⟨⟨fun h => (by cases h), ?_⟩, _, List.mem_concat_self, rfl⟩
      rintro (h | ⟨R, hR, -⟩)
      · exact absurd h hnew
      · cases hR
    · obtain ⟨-, hstart, hdrawn⟩ := recorded_step hwf hbefore hm
      obtain ⟨hdrawn₀, y, hy, hstart₀⟩ := ih hbefore
      rw [hdrawn, hdrawn₀]
      exact ⟨Iff.rfl, y, List.mem_append_left _ hy, hstart.trans hstart₀⟩

/-! ## The placements of a run -/

/-- The step is a frame that places the message stored under the id, and this is the placement. -/
def PlacesAs (id : MessageId) (m : Message) (p : Placement) (s : Session ρ) (x : Step ρ) : Prop :=
  ∃ R, x.operation = .draw R ∧ s.message? id = some m ∧
    (id, p) ∈ s.overlay.placed R x.now s.renderer

section

variable {renderer : ρ} {past : List (Step ρ)} {x : Step ρ} {id : MessageId} {m : Message}
  {p : Placement}

theorem PlacesAs.places {s : Session ρ} (h : PlacesAs id m p s x) : Places id s x := by
  obtain ⟨R, hR, -, hmem⟩ := h
  exact ⟨R, hR, List.mem_map.mpr ⟨_, hmem, rfl⟩⟩

/-- The first placement of a message is fully opaque, and there is time left at all others. -/
theorem PlacesAs.opacity_cases (h : PlacesAs id m p ((start renderer).run past) x)
    (hnow : x.now.toNat < 2 ^ 63) :
    (¬ (start renderer).WasPlaced id past ∧ p.opacity = Binary.ofNat 1) ∨
      ((start renderer).WasPlaced id past ∧ 0 < (m.timeLeft x.now).toInt ∧
        p.opacity = fadeOpacity (m.timeLeft x.now) m.duration) := by
  have hwf := wellFormed_run (wellFormed_start renderer) past
  obtain ⟨R, -, hm, hmem⟩ := h
  obtain ⟨m', hm', hpending, -, -, hopacity⟩ := Overlay.of_mem_placed R hwf hmem
  cases hm.symm.trans hm'
  have hdrawn := (recorded_run renderer past hm).1
  rw [hopacity]
  unfold Message.opacity
  cases hd : m.everDrawn with
  | false =>
    rw [hd] at hdrawn
    exact Or.inl ⟨fun hplaced => Bool.false_ne_true (hdrawn.mpr hplaced), rfl⟩
  | true =>
    refine Or.inr ⟨hdrawn.mp hd, ?_, rfl⟩
    have hage : m.age x.now < 2 ^ 63 := by
      unfold Message.age
      omega
    have hleft := ((Message.isPending_iff hage).mp hpending).2
    rw [Message.toInt_timeLeft hage]
    by_contra hover
    exact hleft ⟨by omega, Or.inl hd⟩

end

/-- Between two frames that find a message, it gets older, and strictly so if the readings are not
the same. -/
theorem timeLeft_antitone {renderer : ρ} {past between future : List (Step ρ)} {x y : Step ρ}
    (htimed : Timed (past ++ x :: (between ++ y :: future))) {id : MessageId} {m m' : Message}
    (hm : ((start renderer).run past).message? id = some m)
    (hm' : ((start renderer).run (past ++ x :: between)).message? id = some m') :
    m'.duration = m.duration ∧ (m'.timeLeft y.now).toInt ≤ (m.timeLeft x.now).toInt ∧
      (x.now ≠ y.now → (m'.timeLeft y.now).toInt < (m.timeLeft x.now).toInt) := by
  have hwf := wellFormed_run (wellFormed_start renderer) past
  rw [run_append] at hm'
  obtain ⟨hduration, hstart⟩ := schedule_run hwf hm hm'
  obtain ⟨-, z, hz, hqueued⟩ := recorded_run renderer past hm
  have hx : x.now.toNat < 2 ^ 63 := htimed.bounded x (by simp)
  have hy : y.now.toNat < 2 ^ 63 := htimed.bounded y (by simp)
  have hqueue : m.startedAt.toNat ≤ x.now.toNat := by
    rw [hqueued]
    exact (List.pairwise_append.mp htimed.ordered).2.2 z hz x (by simp)
  have hxy : x.now.toNat ≤ y.now.toNat := by
    have hafter := (List.pairwise_append.mp htimed.ordered).2.1
    exact (List.pairwise_cons.mp hafter).1 y (by simp)
  have hage : m.age x.now = x.now.toNat - m.startedAt.toNat := rfl
  have hage' : m'.age y.now = y.now.toNat - m.startedAt.toNat := by
    unfold Message.age
    rw [hstart]
  rw [Message.toInt_timeLeft (by omega), Message.toInt_timeLeft (by omega), hduration]
  refine ⟨rfl, by omega, fun hne => ?_⟩
  have hne : x.now.toNat ≠ y.now.toNat := fun heq => hne (UInt64.toNat_inj.mp heq)
  omega

/-- Opacities never flicker. Every placement is for a stored message, and its opacity is a number
above zero and not above one. It is one for the first placement of a message, and for the others
exactly as long as the time left is no less than the fade window. Of two placements of a message the
later one is not more opaque, and less opaque if the earlier is not the first, the readings differ,
and the window has begun at both. -/
theorem fading_never_flickers (renderer : ρ) {steps : List (Step ρ)} (htimed : Timed steps) :
    (∀ past x future, steps = past ++ x :: future →
      let s := (start renderer).run past
      (∀ R, x.operation = .draw R → ∀ p ∈ (s.overlay.draw R x.now s.renderer).report.placements,
        ∃ id m, PlacesAs id m p s x) ∧
      ∀ id m p, PlacesAs id m p s x →
        p.opacity.isFinite = true ∧ 0 < p.opacity.toRat ∧ p.opacity.toRat ≤ 1 ∧
        (¬ (start renderer).WasPlaced id past → p.opacity = Binary.ofNat 1) ∧
        ((start renderer).WasPlaced id past →
          (p.opacity = Binary.ofNat 1 ↔ fadeWindow m.duration ≤ (m.timeLeft x.now).toInt))) ∧
    ∀ past x between y future, steps = past ++ x :: (between ++ y :: future) →
      ∀ id m p m' p', PlacesAs id m p ((start renderer).run past) x →
        PlacesAs id m' p' ((start renderer).run (past ++ x :: between)) y →
        p'.opacity.toRat ≤ p.opacity.toRat ∧
        ((start renderer).WasPlaced id past → x.now ≠ y.now →
          (m.timeLeft x.now).toInt ≤ fadeWindow m.duration →
          (m'.timeLeft y.now).toInt ≤ fadeWindow m'.duration →
          p'.opacity.toRat < p.opacity.toRat) := by
  constructor
  · rintro past x future rfl
    intro s
    have hwf : s.WellFormed := wellFormed_run (wellFormed_start renderer) past
    refine ⟨?_, ?_⟩
    · intro R hR p hp
      rw [← Overlay.map_snd_placed] at hp
      obtain ⟨⟨id, p⟩, hmem, rfl⟩ := List.mem_map.mp hp
      obtain ⟨m, hm, -⟩ := Overlay.of_mem_placed R hwf hmem
      exact ⟨id, m, R, hR, hm, hmem⟩
    · intro id m p hplaces
      rcases hplaces.opacity_cases (htimed.bounded x (by simp)) with
        ⟨hfirst, hp⟩ | ⟨hlater, hleft, hp⟩
      · rw [hp, hasValue_one.toRat]
        exact ⟨hasValue_one.isFinite, one_pos, le_rfl, fun _ => rfl, fun h => absurd h hfirst⟩
      · rw [hp]
        exact ⟨(hasValue_fadeOpacity hleft).isFinite, fadeOpacity_pos hleft,
          fadeOpacity_le_one hleft, fun h => absurd hlater h,
          fun _ => fadeOpacity_eq_one_iff hleft⟩
  · rintro past x between y future rfl
    intro id m p m' p' hplaces hplaces'
    have hx : x.now.toNat < 2 ^ 63 := htimed.bounded x (by simp)
    have hy : y.now.toNat < 2 ^ 63 := htimed.bounded y (by simp)
    obtain ⟨hduration, hle, hlt⟩ : m'.duration = m.duration ∧ _ := by
      obtain ⟨R, -, hm, -⟩ := hplaces
      obtain ⟨R', -, hm', -⟩ := hplaces'
      exact timeLeft_antitone htimed hm hm'
    have hafter : (start renderer).WasPlaced id (past ++ x :: between) :=
      ⟨past, x, between, rfl, hplaces.places⟩
    rcases hplaces'.opacity_cases hy with ⟨hfirst, -⟩ | ⟨-, hleft', hp'⟩
    · exact absurd hafter hfirst
    rw [hp', hduration]
    rcases hplaces.opacity_cases hx with ⟨hfirst, hp⟩ | ⟨-, hleft, hp⟩
    · rw [hp, hasValue_one.toRat]
      exact ⟨fadeOpacity_le_one hleft', fun h => absurd h hfirst⟩
    · rw [hp]
      exact ⟨fadeOpacity_mono hleft' hle,
        fun _ hne hwindow _ => fadeOpacity_lt hleft' (hlt hne) hwindow⟩

/-- A frame that draws and finds a message pending places it and keeps it. -/
theorem exists_placesAs {renderer : ρ} {past : List (Step ρ)} {id : MessageId} {m : Message}
    (R : Renderer ρ) (now : Reading)
    (henabled : ((start renderer).run past).overlay.enabled = true)
    (hm : ((start renderer).run past).message? id = some m) (hp : m.isPending now = true) :
    ∃ p, PlacesAs id m p ((start renderer).run past) ⟨now, .draw R⟩ ∧
      let after := (start renderer).run (past ++ [⟨now, .draw R⟩])
      after.overlay.enabled = true ∧ ∃ m', after.message? id = some m' ∧ m.KeptAs true m' := by
  have hwf := wellFormed_run (wellFormed_start renderer) past
  rw [run_concat]
  generalize (start renderer).run past = s at *
  have hplaced : id ∈ s.overlay.placedIds R now s.renderer :=
    (Overlay.mem_placedIds_iff R hwf).mpr ⟨henabled, m, hm, hp⟩
  obtain ⟨⟨id, p⟩, hmem, rfl⟩ := List.mem_map.mp hplaced
  obtain ⟨m', hm', hkept⟩ := Overlay.message?_draw_of_pending R s.renderer hwf hm hp
  rw [henabled] at hkept
  exact ⟨p, ⟨R, rfl, hm, hmem⟩, henabled, m', hm', hkept⟩

/-- A message of one second that is drawn at once is less opaque after 600 milliseconds than after
400. -/
theorem fades_in_last_second :
    let screen : Headless := { viewport := ⟨Binary.ofNat 640, Binary.ofNat 480⟩ }
    let id : MessageId := ⟨"", .typeless, 0⟩
    let frame (now : Reading) : Step Headless := ⟨now, .draw Headless.renderer⟩
    let past := [⟨0, .submit .typeless oneSecond⟩, frame 0]
    ∃ m p m' p', PlacesAs id m p ((start screen).run past) (frame 400) ∧
      PlacesAs id m' p' ((start screen).run (past ++ [frame 400])) (frame 600) ∧
      p'.opacity.toRat < p.opacity.toRat := by
  intro screen id frame past
  have htimed : Timed (past ++ frame 400 :: ([] ++ frame 600 :: [])) := ⟨by decide, by decide⟩
  have hage (m : Message) {now : Reading} (hnow : now.toNat < 1000) : m.age now < 1000 := by
    unfold Message.age
    omega
  have hpending {m : Message} {now : Reading} (hlive : m.isLive = true)
      (hduration : m.duration = 1000) (hnow : now.toNat < 1000) : m.isPending now = true := by
    have hage := hage m hnow
    rw [Message.isPending_iff (by omega), hduration]
    exact ⟨hlive, fun hdue => absurd hdue.1 (Nat.not_le.mpr hage)⟩
  have hwindow {m : Message} {now : Reading} (hduration : m.duration = 1000)
      (hnow : now.toNat < 1000) : (m.timeLeft now).toInt ≤ fadeWindow m.duration := by
    have hage := hage m hnow
    rw [Message.toInt_timeLeft (by omega), hduration]
    show (1000 : Int) - m.age now ≤ 1000
    omega
  have hqueued : ((start screen).run [⟨0, .submit .typeless oneSecond⟩]).message? id =
      some (oneSecond.toMessage .typeless 0) := rfl
  obtain ⟨p₀, hfirst, henabled₁, m₁, hm₁, hkept₁⟩ :=
    exists_placesAs Headless.renderer 0 rfl hqueued rfl
  have hlive₁ : m₁.isLive = true := hkept₁.isLive
  have hduration₁ : m₁.duration = 1000 := by rw [hkept₁.fields]; rfl
  obtain ⟨p₁, hplaces, henabled₂, m₂, hm₂, hkept₂⟩ := exists_placesAs Headless.renderer 400
    henabled₁ hm₁ (hpending hlive₁ hduration₁ (by decide))
  have hlive₂ : m₂.isLive = true := hkept₂.isLive.trans hlive₁
  have hduration₂ : m₂.duration = 1000 := by rw [hkept₂.fields]; exact hduration₁
  obtain ⟨p₂, hplaces', -⟩ := exists_placesAs Headless.renderer 600
    henabled₂ hm₂ (hpending hlive₂ hduration₂ (by decide))
  refine ⟨m₁, p₁, m₂, p₂, hplaces, hplaces', ?_⟩
  have hpair := (fading_never_flickers screen htimed).2 past (frame 400) [] (frame 600) [] rfl
    id m₁ p₁ m₂ p₂ hplaces hplaces'
  exact hpair.2 ⟨[_], frame 0, [], rfl, hfirst.places⟩ (by decide)
    (hwindow hduration₁ (by decide)) (hwindow hduration₂ (by decide))

end Session

end OnScreen
