import Mathlib.Data.List.Induction
import OnScreen.Proofs.Expiry
import OnScreen.Proofs.Session
import OnScreen.Renderer.Headless

/-!
# The lifetime of a message

A message that was queued is followed through the rest of the run. What a frame does with it depends
on what happened since: whether all messages were dropped, whether a later message superseded it,
whether a frame placed it, and how much time has passed.

Results:
* `tracked_run`: what is stored under the id of a queued message after any run.
* `message_lifetime`: when a frame places the message, and when a frame removes it.
-/

namespace OnScreen.Session

variable {ρ : Type}

/-! ## Messages that are due -/

/-- After the run, a message with the id that was queued at one reading is due at another: it was
superseded, or its duration and five seconds are over, or it was placed and its duration is over. -/
def Due (queued : Session ρ) (id : MessageId) (queuedAt : Reading) (duration : UInt32)
    (steps : List (Step ρ)) (now : Reading) : Prop :=
  queued.WasSuperseded id steps ∨
    duration.toNat + 5000 ≤ now.toNat - queuedAt.toNat ∨
    (queued.WasPlaced id steps ∧ duration.toNat ≤ now.toNat - queuedAt.toNat)

/-- A frame of the run finds the message due. -/
def WasFoundDue (queued : Session ρ) (id : MessageId) (queuedAt : Reading) (duration : UInt32)
    (steps : List (Step ρ)) : Prop :=
  Happens (fun past x => x.IsFrame ∧ queued.Due id queuedAt duration past x.now) steps

section

variable {queued : Session ρ} {id : MessageId} {queuedAt : Reading} {duration : UInt32}
  {steps : List (Step ρ)}

/-- What is due stays due. -/
theorem Due.later {now now' : Reading} (h : queued.Due id queuedAt duration steps now)
    (hnow : now.toNat ≤ now'.toNat) (steps' : List (Step ρ)) :
    queued.Due id queuedAt duration (steps ++ steps') now' := by
  rcases h with h | h | ⟨h, hage⟩
  · exact Or.inl (h.append steps')
  · exact Or.inr (Or.inl (by omega))
  · exact Or.inr (Or.inr ⟨h.append steps', by omega⟩)

/-- A message is not due before its duration and five seconds are over, or its duration if it was
placed. -/
theorem not_due_iff {now : Reading} :
    ¬ queued.Due id queuedAt duration steps now ↔
      ¬ queued.WasSuperseded id steps ∧
        ((¬ queued.WasPlaced id steps ∧
            now.toNat - queuedAt.toNat < duration.toNat + 5000) ∨
          (queued.WasPlaced id steps ∧ now.toNat - queuedAt.toNat < duration.toNat)) := by
  unfold Due
  by_cases hp : queued.WasPlaced id steps
  · simp only [hp, not_true_eq_false, false_and, true_and, false_or, not_or, Nat.not_le]
    constructor
    · rintro ⟨hsup, -, hage⟩
      exact ⟨hsup, hage⟩
    · rintro ⟨hsup, hage⟩
      exact ⟨hsup, by omega, hage⟩
  · simp only [hp, not_false_eq_true, false_and, true_and, or_false, not_or, Nat.not_le]

/-- A message that was found due is due at every later reading. -/
theorem WasFoundDue.due {now : Reading} (h : queued.WasFoundDue id queuedAt duration steps)
    (hnow : ∀ x ∈ steps, x.now.toNat ≤ now.toNat) :
    queued.Due id queuedAt duration steps now := by
  obtain ⟨past, x, future, rfl, -, hdue⟩ := h
  exact hdue.later (hnow x (by simp)) (x :: future)

/-! ## The stored message -/

/-- A stored message is the one that was queued, and tells what the run did to it. -/
structure StoredAfter (queued : Session ρ) (id : MessageId) (m : Message) (steps : List (Step ρ))
    (m' : Message) : Prop where
  text : m'.text = m.text
  duration : m'.duration = m.duration
  startedAt : m'.startedAt = m.startedAt
  placed : m'.everDrawn = true ↔ queued.WasPlaced id steps
  live : m'.isLive = true ↔ ¬ queued.WasSuperseded id steps

variable {m m' : Message}

theorem StoredAfter.nil (hdrawn : m.everDrawn = false) (hlive : m.isLive = true) :
    StoredAfter queued id m [] m where
  text := rfl
  duration := rfl
  startedAt := rfl
  placed := by
    rw [hdrawn]
    exact ⟨fun h => (by cases h), fun h => absurd h not_happens_nil⟩
  live := ⟨fun _ => not_happens_nil, fun _ => hlive⟩

/-- A stored message is pending as long as it is not due. -/
theorem StoredAfter.isPending_iff (h : StoredAfter queued id m steps m') {now : Reading}
    (hnow : now.toNat < 2 ^ 63) :
    m'.isPending now = true ↔ ¬ queued.Due id m.startedAt m.duration steps now := by
  have hage : m'.age now = now.toNat - m.startedAt.toNat := by
    unfold Message.age
    rw [h.startedAt]
  rw [Message.isPending_iff (by omega), h.live, h.placed, h.duration, hage]
  unfold Due
  constructor
  · rintro ⟨hsup, hexp⟩ (hd | hd | ⟨hplaced, hd⟩)
    · exact hsup hd
    · exact hexp ⟨by omega, Or.inr hd⟩
    · exact hexp ⟨hd, Or.inl hplaced⟩
  · intro hdue
    refine ⟨fun hsup => hdue (Or.inl hsup), ?_⟩
    rintro ⟨hd, hplaced | hd'⟩
    · exact hdue (Or.inr (Or.inr ⟨hplaced, hd⟩))
    · exact hdue (Or.inr (Or.inl hd'))

/-- A step changes no more of a stored message than that it was drawn or superseded. -/
theorem StoredAfter.concat (h : StoredAfter queued id m steps m') {x : Step ρ} {m'' : Message}
    (hfields : m''.text = m'.text ∧ m''.duration = m'.duration ∧ m''.startedAt = m'.startedAt)
    (hplaced : m''.everDrawn = true ↔ m'.everDrawn = true ∨ Places id (queued.run steps) x)
    (hlive : m''.isLive = true ↔ m'.isLive = true ∧ ¬ Supersedes id (queued.run steps) x) :
    StoredAfter queued id m (steps ++ [x]) m'' where
  text := hfields.1.trans h.text
  duration := hfields.2.1.trans h.duration
  startedAt := hfields.2.2.trans h.startedAt
  placed := by
    unfold WasPlaced
    rw [hplaced, h.placed, happens_concat]
    rfl
  live := by
    unfold WasSuperseded
    rw [hlive, h.live, happens_concat, not_or]
    rfl

end

/-- A frame places a stored pending message if the overlay draws. -/
theorem places_iff {s : Session ρ} (hs : s.WellFormed) {x : Step ρ} (hx : x.IsFrame)
    {id : MessageId} {m : Message} (hm : s.message? id = some m)
    (hp : m.isPending x.now = true) : Places id s x ↔ s.overlay.enabled = true := by
  constructor
  · rintro ⟨R, -, hplaced⟩
    exact ((Overlay.mem_placedIds_iff R hs).mp hplaced).1
  · intro henabled
    obtain ⟨R, hR⟩ := hx
    exact ⟨R, hR, (Overlay.mem_placedIds_iff R hs).mpr ⟨henabled, m, hm, hp⟩⟩

/-! ## Through a run -/

/-- After the run, the message is not stored because it was dropped or found due, or it is stored
and tells what the run did to it. -/
def Tracked (queued : Session ρ) (id : MessageId) (m : Message) (steps : List (Step ρ)) : Prop :=
  ((Clears steps ∨ queued.WasFoundDue id m.startedAt m.duration steps) ∧
    (queued.run steps).message? id = none) ∨
  (¬ Clears steps ∧ ¬ queued.WasFoundDue id m.startedAt m.duration steps ∧
    ∃ m', (queued.run steps).message? id = some m' ∧ StoredAfter queued id m steps m')

section

variable {queued : Session ρ} {id : MessageId} {m m' : Message} {steps : List (Step ρ)} {x : Step ρ}

/-- A step that neither drops the message nor removes it keeps it tracked. -/
theorem tracked_concat_of_stored {m'' : Message} (hclear : ¬ Clears steps)
    (hfound : ¬ queued.WasFoundDue id m.startedAt m.duration steps)
    (hx : x.operation ≠ .clear)
    (hdue : x.IsFrame → ¬ queued.Due id m.startedAt m.duration steps x.now)
    (hm'' : ((queued.run steps).step x).message? id = some m'')
    (hstored : StoredAfter queued id m (steps ++ [x]) m'') :
    Tracked queued id m (steps ++ [x]) := by
  refine Or.inr ⟨?_, ?_, m'', ?_, hstored⟩
  · unfold Clears
    rw [happens_concat]
    exact not_or.mpr ⟨hclear, hx⟩
  · unfold WasFoundDue
    rw [happens_concat]
    exact not_or.mpr ⟨hfound, fun ⟨hframe, hd⟩ => hdue hframe hd⟩
  · rw [run_concat]
    exact hm''

theorem Tracked.concat (hwf : queued.WellFormed) (hid : queued.Issued id)
    (h : Tracked queued id m steps) (hx : x.now.toNat < 2 ^ 63) :
    Tracked queued id m (steps ++ [x]) := by
  have hs : (queued.run steps).WellFormed := wellFormed_run hwf steps
  rcases h with ⟨hgone, hnone⟩ | ⟨hclear, hfound, m', hm', hstored⟩
  · -- what is gone stays gone, as its id is not given out again
    refine Or.inl ⟨hgone.imp (·.append [x]) (·.append [x]), ?_⟩
    rw [run_concat]
    exact message?_step_of_none _ x hs hnone ((issued_run hwf hid steps).not_adds x)
  · have hpending := hstored.isPending_iff hx
    cases storedStep (queued.run steps) x hs hm' with
    | cleared hop hnone =>
      refine Or.inl ⟨Or.inl (happens_concat.mpr (Or.inr hop)), ?_⟩
      rw [run_concat]
      exact hnone
    | removed hframe hp hnone =>
      have hdue : queued.Due id m.startedAt m.duration steps x.now := by
        by_contra hdue
        rw [hpending.mpr hdue] at hp
        cases hp
      refine Or.inl ⟨Or.inr (happens_concat.mpr (Or.inr ⟨hframe, hdue⟩)), ?_⟩
      rw [run_concat]
      exact hnone
    | kept m'' hframe hp hm'' hkept =>
      have hop : x.operation ≠ .clear := by
        obtain ⟨R, hR⟩ := hframe
        rw [hR]
        simp
      refine tracked_concat_of_stored hclear hfound hop (fun _ => hpending.mp hp) hm''
        (hstored.concat ?_ ?_ ?_)
      · rw [hkept.fields]
        exact ⟨rfl, rfl, rfl⟩
      · rw [places_iff hs hframe hm' hp, hkept.fields, Bool.or_eq_true]
      · rw [hkept.isLive]
        exact ⟨fun hl => ⟨hl, fun hsup => hsup.not_isFrame hframe⟩, And.left⟩
    | superseded hframe hop hsup hm'' =>
      refine tracked_concat_of_stored hclear hfound hop (fun hf => absurd hf hframe) hm''
        (hstored.concat ⟨rfl, rfl, rfl⟩ ?_ ?_)
      · exact ⟨Or.inl, fun h => h.resolve_right fun hplaces => hframe hplaces.isFrame⟩
      · exact ⟨fun h => (by cases h), fun h => absurd hsup h.2⟩
    | same hframe hop hsup hm'' =>
      refine tracked_concat_of_stored hclear hfound hop (fun hf => absurd hf hframe) hm''
        (hstored.concat ⟨rfl, rfl, rfl⟩ ?_ ?_)
      · exact ⟨Or.inl, fun h => h.resolve_right fun hplaces => hframe hplaces.isFrame⟩
      · exact ⟨fun h => ⟨h, hsup⟩, And.left⟩

/-- What is stored under the id of a queued message after any run. -/
theorem tracked_run (hwf : queued.WellFormed) (hm : queued.message? id = some m)
    (hdrawn : m.everDrawn = false) (hlive : m.isLive = true)
    (hnow : ∀ x ∈ steps, x.now.toNat < 2 ^ 63) : Tracked queued id m steps := by
  -- from the end of the run, since what happens in a step depends on what happened before it
  induction steps using List.reverseRecOn with
  | nil =>
    exact Or.inr ⟨not_happens_nil, not_happens_nil, m, hm, StoredAfter.nil hdrawn hlive⟩
  | append_singleton steps x ih =>
    have hbefore : ∀ y ∈ steps, y.now.toNat < 2 ^ 63 := fun y hy =>
      hnow y (List.mem_append_left _ hy)
    exact (ih hbefore).concat hwf (Registry.WellFormed.issued hwf hm) (hnow x (by simp))

end

/-! ## The frames of a run -/

section

variable {queued : Session ρ} {id : MessageId} {m : Message} {steps : List (Step ρ)} {now : Reading}

/-- A tracked message is pending if it was not dropped and is not due. -/
theorem Tracked.pending_iff (h : Tracked queued id m steps) (hnow : now.toNat < 2 ^ 63)
    (horder : ∀ x ∈ steps, x.now.toNat ≤ now.toNat) :
    (∃ m', (queued.run steps).message? id = some m' ∧ m'.isPending now = true) ↔
      ¬ Clears steps ∧ ¬ queued.Due id m.startedAt m.duration steps now := by
  rcases h with ⟨hgone, hnone⟩ | ⟨hclear, hfound, m', hm', hstored⟩
  · rw [hnone]
    constructor
    · rintro ⟨m', hm', -⟩
      cases hm'
    · rintro ⟨hclear, hdue⟩
      exact absurd ((hgone.resolve_left hclear).due horder) hdue
  · rw [hm']
    constructor
    · rintro ⟨m₀, hm₀, hp⟩
      cases hm₀
      exact ⟨hclear, (hstored.isPending_iff hnow).mp hp⟩
    · rintro ⟨-, hdue⟩
      exact ⟨m', rfl, (hstored.isPending_iff hnow).mpr hdue⟩

/-- A tracked message is stored and not pending if it was not dropped, and is due for the first
time. -/
theorem Tracked.not_pending_iff (h : Tracked queued id m steps) (hnow : now.toNat < 2 ^ 63) :
    (∃ m', (queued.run steps).message? id = some m' ∧ m'.isPending now = false) ↔
      ¬ Clears steps ∧ queued.Due id m.startedAt m.duration steps now ∧
        ¬ queued.WasFoundDue id m.startedAt m.duration steps := by
  rcases h with ⟨hgone, hnone⟩ | ⟨hclear, hfound, m', hm', hstored⟩
  · rw [hnone]
    constructor
    · rintro ⟨m', hm', -⟩
      cases hm'
    · rintro ⟨hclear, -, hfound⟩
      exact absurd (hgone.resolve_left hclear) hfound
  · have hpending := hstored.isPending_iff hnow
    rw [hm']
    constructor
    · rintro ⟨m₀, hm₀, hp⟩
      cases hm₀
      refine ⟨hclear, ?_, hfound⟩
      by_contra hdue
      rw [hpending.mpr hdue] at hp
      cases hp
    · rintro ⟨-, hdue, -⟩
      refine ⟨m', rfl, ?_⟩
      cases hp : m'.isPending now with
      | false => rfl
      | true => exact absurd hdue (hpending.mp hp)

theorem Tracked.text {m' : Message} (h : Tracked queued id m steps)
    (hm' : (queued.run steps).message? id = some m') : m'.text = m.text := by
  rcases h with ⟨-, hnone⟩ | ⟨-, -, m₀, hm₀, hstored⟩
  · rw [hnone] at hm'
    cases hm'
  · rw [hm₀] at hm'
    cases hm'
    exact hstored.text

end

/-- A message that was queued at one reading is placed by a frame at a later one exactly if it was
neither dropped nor superseded, the overlay draws, and it is not too late: for a message that was
not placed before, its duration and five seconds must not be over, and for one that was, its
duration. It is removed, and counted, by the first frame that finds it due, and by no other. -/
theorem message_lifetime (renderer : ρ) {before after : List (Step ρ)} {queuedAt now : Reading}
    {type : MessageType} {request : Request} {R : Renderer ρ}
    (htimed : Timed (before ++ ⟨queuedAt, .submit type request⟩ :: (after ++ [⟨now, .draw R⟩])))
    (hqueued : ((start renderer).run before).overlay.Queues queuedAt type request) :
    let id := ((start renderer).run before).overlay.nextId type request
    let queued := (start renderer).run (before ++ [⟨queuedAt, .submit type request⟩])
    let s := queued.run after
    let report := (s.overlay.draw R now s.renderer).report
    (id ∈ s.overlay.placedIds R now s.renderer ↔
      ¬ Clears after ∧ ¬ queued.WasSuperseded id after ∧ s.overlay.enabled = true ∧
        ((¬ queued.WasPlaced id after ∧
            now.toNat - queuedAt.toNat < request.duration.toNat + 5000) ∨
          (queued.WasPlaced id after ∧ now.toNat - queuedAt.toNat < request.duration.toNat))) ∧
    (id ∈ s.overlay.removedIds R now s.renderer ↔
      ¬ Clears after ∧ queued.Due id queuedAt request.duration after now ∧
        ¬ queued.WasFoundDue id queuedAt request.duration after) ∧
    (report.placements = (s.overlay.placed R now s.renderer).map Prod.snd ∧
      (s.overlay.placedIds R now s.renderer).Nodup ∧
      ∀ p, (id, p) ∈ s.overlay.placed R now s.renderer →
        p.stack = id.stack ∧ p.text = request.text) ∧
    (report.pruned = (s.overlay.removedIds R now s.renderer).length ∧
      (s.overlay.removedIds R now s.renderer).Nodup) := by
  intro id queued s report
  have hwf : queued.WellFormed := wellFormed_run (wellFormed_start renderer) _
  have hs : s.WellFormed := wellFormed_run hwf after
  have hstored : queued.message? id = some (request.toMessage type queuedAt) := by
    show ((start renderer).run (before ++ [_])).message? id = _
    rw [run_concat]
    exact Overlay.message?_submit_nextId hqueued
  have hbounded : ∀ x ∈ after, x.now.toNat < 2 ^ 63 := fun x hx =>
    htimed.bounded x (by simp [hx])
  have hnow : now.toNat < 2 ^ 63 := htimed.bounded ⟨now, .draw R⟩ (by simp)
  have horder : ∀ x ∈ after, x.now.toNat ≤ now.toNat := by
    intro x hx
    have hafter := (List.pairwise_cons.mp (List.pairwise_append.mp htimed.ordered).2.1).2
    exact (List.pairwise_append.mp hafter).2.2 x hx _ (List.mem_singleton.mpr rfl)
  have htracked := tracked_run hwf hstored rfl rfl hbounded
  refine ⟨?_, ?_, ⟨(Overlay.map_snd_placed R _ now _).symm, Overlay.nodup_placedIds R hs, ?_⟩,
    Overlay.draw_pruned R hs, Overlay.nodup_removedIds R hs⟩
  · rw [Overlay.mem_placedIds_iff R hs]
    refine (and_congr_right' (htracked.pending_iff hnow horder)).trans ?_
    show s.overlay.enabled = true ∧ ¬ Clears after ∧
      ¬ queued.Due id queuedAt request.duration after now ↔ _
    rw [not_due_iff]
    constructor
    · rintro ⟨henabled, hclear, hsup, hage⟩
      exact ⟨hclear, hsup, henabled, hage⟩
    · rintro ⟨hclear, hsup, henabled, hage⟩
      exact ⟨henabled, hclear, hsup, hage⟩
  · rw [Overlay.mem_removedIds_iff R hs]
    exact htracked.not_pending_iff hnow
  · intro p hp
    obtain ⟨m', hm', -, hstack, htext, -⟩ := Overlay.of_mem_placed R hs hp
    exact ⟨hstack, htext.trans (htracked.text hm')⟩

/-- A message that lasts one second. -/
def oneSecond : Request where
  text := "saved"
  duration := 1000
  color := Color.green

/-- A message that no frame has placed is still placed just before its drop timeout is over, and
removed right after. -/
theorem undrawn_until_timeout :
    let screen : Headless := { viewport := ⟨Binary.ofNat 640, Binary.ofNat 480⟩ }
    let s := (start screen).run [⟨0, .submit .typeless oneSecond⟩]
    (⟨"", ⟨.typeless, 0⟩⟩ : MessageId) ∈ s.overlay.placedIds Headless.renderer 5999 s.renderer ∧
      (⟨"", ⟨.typeless, 0⟩⟩ : MessageId) ∈
        s.overlay.removedIds Headless.renderer 6000 s.renderer := by
  intro screen s
  have htimed : ∀ now : Reading, now.toNat < 2 ^ 63 → Timed (ρ := Headless)
      ([] ++ ⟨0, .submit .typeless oneSecond⟩ :: ([] ++ [⟨now, .draw Headless.renderer⟩])) := by
    intro now hnow
    refine ⟨by simp, ?_⟩
    intro x hx
    rcases List.mem_cons.mp hx with rfl | hx
    · show (0 : Reading).toNat < 2 ^ 63
      decide
    · cases List.mem_singleton.mp hx
      exact hnow
  constructor
  · exact (message_lifetime screen (htimed 5999 (by decide)) rfl).1.mpr
      ⟨not_happens_nil, not_happens_nil, rfl, Or.inl ⟨not_happens_nil, by decide⟩⟩
  · exact (message_lifetime screen (htimed 6000 (by decide)) rfl).2.1.mpr
      ⟨not_happens_nil, Or.inr (Or.inl (by decide)), not_happens_nil⟩

end OnScreen.Session
