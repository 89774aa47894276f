import OnScreen.Proofs.Duplicate
import OnScreen.Proofs.Replacement

/-!
# A message that is queued once

A submission that asks not to be a duplicate is checked when it is made, and never again. That is
enough to keep its message the only one of its type and text that is pending in its stack: what is
not pending at one reading is not pending at any later one, so no older message can come back beside
it.

Results:
* `pending_step`: a message pending after a step was queued in it, or was pending before.
* `pendingOnce_run`: the invariant of a run in which no submission of the message is unchecked.
* `PendingOnce.length_stored`, `PendingOnce.length_placed`: it is stored once and placed once.
* `guarded_unique`: both, in every state of such a run.
-/

namespace OnScreen.Session

variable {ρ : Type}

/-! ## Pending messages -/

/-- A message that is pending after a step was queued in it, or was pending with the same text when
the step was made. -/
theorem pending_step (s : Session ρ) (x : Step ρ) (h : s.WellFormed) {id : MessageId} {m' : Message}
    (hm' : (s.step x).message? id = some m') {now : Reading} (hx : x.now.toNat ≤ now.toNat)
    (hnow : now.toNat < 2 ^ 63) (hp : m'.isPending now = true) :
    Adds id s x ∨
      ∃ m, s.message? id = some m ∧ m.isPending x.now = true ∧ m.text = m'.text := by
  refine (adds_or_remained s x h hm').imp_right ?_
  rintro ⟨m, hm, hremained⟩
  refine ⟨m, hm, ?_, hremained.sameText.text.symm⟩
  cases hremained with
  | kept _ hpending _ => exact hpending
  | superseded _ _ hafter =>
    rw [hafter, Message.isPending_of_not_isLive rfl] at hp
    cases hp
  | same _ _ hafter => exact Message.isPending_of_later hx hnow (hafter ▸ hp)

/-- In the stack of a name, two messages of this type and text that are pending are one message. -/
def PendingOnce (s : Session ρ) (name : String) (type : MessageType) (text : String)
    (now : Reading) : Prop :=
  ∀ key key' m m',
    s.message? ⟨name, key⟩ = some m → key.type = type → m.text = text → m.isPending now = true →
    s.message? ⟨name, key'⟩ = some m' → key'.type = type → m'.text = text →
      m'.isPending now = true → key = key'

/-! ## Guarded submissions -/

section

variable (name : String) (type : MessageType) (text : String)

/-- A step that submits this type and text to the stack asks not to queue a duplicate. -/
def Guards (s : Session ρ) (x : Step ρ) : Prop :=
  ∀ request, x.operation = .submit type request → request.text = text →
    s.overlay.target request = name → request.preventDuplicate = true

/-- Every step of a run that submits this type and text to the stack asks not to queue a
duplicate. -/
def Guarded (s : Session ρ) (steps : List (Step ρ)) : Prop :=
  ∀ past x future, steps = past ++ x :: future → Guards name type text (s.run past) x

end

variable {name text : String} {type : MessageType}

theorem Guarded.of_append {s : Session ρ} {steps steps' : List (Step ρ)}
    (h : Guarded name type text s (steps ++ steps')) : Guarded name type text s steps := by
  rintro past x future rfl
  exact h past x (future ++ steps') (by rw [List.append_assoc, List.cons_append])

/-- A guarded submission is not queued beside a message that is pending. -/
theorem Adds.not_pending {s : Session ρ} {x : Step ρ} (hguards : Guards name type text s x)
    {key key' : Key} (hadds : Adds ⟨name, key⟩ s x) (htype : key.type = type) {m m' : Message}
    (hm : (s.step x).message? ⟨name, key⟩ = some m) (htext : m.text = text)
    (hm' : s.message? ⟨name, key'⟩ = some m') (htype' : key'.type = type)
    (htext' : m'.text = text) :
    m'.isPending x.now = false := by
  obtain ⟨now, operation⟩ := x
  obtain ⟨type', request, hop, hq, hid⟩ := hadds
  cases hop
  obtain ⟨hname, hkey⟩ := MessageId.mk.inj hid
  have hsame : type' = type := (congrArg Key.type hkey).symm.trans htype
  subst hsame
  have hstored : (s.step ⟨now, .submit type' request⟩).message? ⟨name, key⟩ =
      some (request.toMessage type' now) := by
    rw [hid]
    exact Overlay.message?_submit_nextId hq
  rw [hstored] at hm
  cases hm
  have hprevent : request.preventDuplicate = true := hguards request rfl htext hname.symm
  by_contra hp
  refine Overlay.not_queues_iff.mpr ⟨hprevent, Overlay.hasMessage_iff.mpr ⟨key', m', ?_⟩⟩ hq
  have htarget : s.overlay.target request = name := hname.symm
  rw [htarget]
  exact ⟨hm', htype', eq_true_of_ne_false hp, htext'.trans htext.symm⟩

/-- A guarded step keeps a pending message the only one. -/
theorem pendingOnce_step {s : Session ρ} {x : Step ρ} (h : s.WellFormed)
    (hguards : Guards name type text s x) (hs : s.PendingOnce name type text x.now) {now : Reading}
    (hx : x.now.toNat ≤ now.toNat) (hnow : now.toNat < 2 ^ 63) :
    (s.step x).PendingOnce name type text now := by
  intro key key' m m' hm htype htext hp hm' htype' htext' hp'
  rcases pending_step s x h hm hx hnow hp with hadds | ⟨m₀, hm₀, hp₀, htext₀⟩
  · rcases pending_step s x h hm' hx hnow hp' with hadds' | ⟨m₀', hm₀', hp₀', htext₀'⟩
    · exact congrArg MessageId.key (hadds.unique hadds')
    · rw [hadds.not_pending hguards htype hm htext hm₀' htype' (htext₀'.trans htext')] at hp₀'
      cases hp₀'
  · rcases pending_step s x h hm' hx hnow hp' with hadds' | ⟨m₀', hm₀', hp₀', htext₀'⟩
    · rw [hadds'.not_pending hguards htype' hm' htext' hm₀ htype (htext₀.trans htext)] at hp₀
      cases hp₀
    · exact hs key key' m₀ m₀' hm₀ htype (htext₀.trans htext) hp₀ hm₀' htype'
        (htext₀'.trans htext') hp₀'

/-- The invariant is for the present and every later reading, since the next step is made at one of
these. -/
theorem pendingOnce_run (renderer : ρ) {steps : List (Step ρ)} (htimed : Timed steps)
    (hguarded : Guarded name type text (start renderer) steps) {now : Reading}
    (hpast : ∀ x ∈ steps, x.now.toNat ≤ now.toNat) (hnow : now.toNat < 2 ^ 63) :
    ((start renderer).run steps).PendingOnce name type text now := by
  induction steps using List.reverseRecOn generalizing now with
  | nil =>
    intro key key' m m' hm
    rw [show ((start renderer).run []).message? ⟨name, key⟩ = none from
      Registry.message?_empty _] at hm
    cases hm
  | append_singleton steps x ih =>
    obtain ⟨hordered, -, hbefore⟩ := List.pairwise_append.mp htimed.ordered
    have htimed' : Timed steps :=
      ⟨hordered, fun y hy => htimed.bounded y (List.mem_append_left _ hy)⟩
    have hs := ih htimed' hguarded.of_append (fun y hy => hbefore y hy x List.mem_cons_self)
      (htimed.bounded x (by simp))
    rw [run_concat]
    exact pendingOnce_step (wellFormed_run (wellFormed_start renderer) steps)
      (hguarded steps x [] rfl) hs (hpast x (by simp)) hnow

/-! ## Counting pending messages -/

namespace PendingOnce

variable {s : Session ρ} {now : Reading}

/-- At most one of the messages of a stack that have this type and text is pending. -/
theorem length_stored (h : s.PendingOnce name type text now) (hwf : s.WellFormed) {stack : Stack}
    (hs : s.overlay.registry.get? name = some stack) :
    (stack.toList.filter fun m =>
      decide (m.type = type ∧ m.text = text ∧ m.isPending now = true)).length ≤ 1 := by
  refine length_stored_le_one hs ?_
  intro key key' m m' hm hcond hm' hcond'
  obtain ⟨htype, htext, hp⟩ := of_decide_eq_true hcond
  obtain ⟨htype', htext', hp'⟩ := of_decide_eq_true hcond'
  exact h key key' m m' hm ((Registry.WellFormed.type_eq hwf hm).symm.trans htype) htext hp
    hm' ((Registry.WellFormed.type_eq hwf hm').symm.trans htype') htext' hp'

/-- A frame places at most one message of this type and text from the stack. -/
theorem length_placed (h : s.PendingOnce name type text now) (hwf : s.WellFormed) {σ : Type}
    (R : Renderer σ) (renderer : σ) :
    ((s.overlay.placed R now renderer).filter fun e =>
      decide (e.2.stack = name ∧ e.2.text = text ∧
        (s.message? e.1).map Message.type = some type)).length ≤ 1 := by
  have hstored : ∀ e ∈ s.overlay.placed R now renderer,
      decide (e.2.stack = name ∧ e.2.text = text ∧
          (s.message? e.1).map Message.type = some type) = true →
        ∃ key m, e.1 = ⟨name, key⟩ ∧ s.message? ⟨name, key⟩ = some m ∧ key.type = type ∧
          m.text = text ∧ m.isPending now = true := by
    intro e he hcond
    obtain ⟨hstack, htext, htype⟩ := of_decide_eq_true hcond
    obtain ⟨m, hm, hp, hpstack, hptext, -⟩ := Overlay.of_mem_placed R hwf he
    rw [show s.message? e.1 = some m from hm, Option.map_some] at htype
    obtain rfl : e.1.stack = name := hpstack.symm.trans hstack
    exact ⟨e.1.key, m, rfl, hm, (Registry.WellFormed.type_eq hwf hm).symm.trans
      (Option.some.inj htype), hptext.symm.trans htext, hp⟩
  refine length_placed_le_one hwf R fun e he e' he' hcond hcond' => ?_
  obtain ⟨key, m, hid, hm, htype, htext, hp⟩ := hstored e he hcond
  obtain ⟨key', m', hid', hm', htype', htext', hp'⟩ := hstored e' he' hcond'
  rw [hid, hid', h key key' m m' hm htype htext hp hm' htype' htext' hp']

end PendingOnce

/-- If every submission of a type and text to a stack asks not to be queued as a duplicate, the
message is there only once. In every state of the run, at the present and every later reading, at
most one message of this type and text in the stack is pending, and a frame on any renderer places
at most one. -/
theorem guarded_unique (renderer : ρ) {steps : List (Step ρ)} (htimed : Timed steps) {name : String}
    {type : MessageType} {text : String}
    (hguarded : Guarded name type text (start renderer) steps) :
    ∀ past future, steps = past ++ future →
      ∀ now : Reading, (∀ x ∈ past, x.now.toNat ≤ now.toNat) → now.toNat < 2 ^ 63 →
        let s := (start renderer).run past
        (∀ stack, s.overlay.registry.get? name = some stack →
          (stack.toList.filter fun m =>
            decide (m.type = type ∧ m.text = text ∧ m.isPending now = true)).length ≤ 1) ∧
        ∀ {σ : Type} (R : Renderer σ) (r : σ),
          (s.overlay.placed R now r).map Prod.snd = (s.overlay.draw R now r).report.placements ∧
          ((s.overlay.placed R now r).filter fun e =>
            decide (e.2.stack = name ∧ e.2.text = text ∧
              (s.message? e.1).map Message.type = some type)).length ≤ 1 := by
  rintro past future rfl now hpast hnow s
  have htimed' : Timed past :=
    ⟨(List.pairwise_append.mp htimed.ordered).1,
      fun x hx => htimed.bounded x (List.mem_append_left _ hx)⟩
  have hwf : s.WellFormed := wellFormed_run (wellFormed_start renderer) past
  have hs : s.PendingOnce name type text now :=
    pendingOnce_run renderer htimed' hguarded.of_append hpast hnow
  exact ⟨fun stack hstack => hs.length_stored hwf hstack,
    fun R r => ⟨s.overlay.map_snd_placed R now r, hs.length_placed hwf R r⟩⟩

/-- A warning for two seconds, not to be queued as a duplicate. -/
def warn (now : Reading) : Step Headless where
  now := now
  operation := .submit .typeless
    { text := "Disk is full", duration := 2000, color := Color.red, preventDuplicate := true }

/-- After seven seconds a warning that no frame was drawn of is queued again beside the first, but
only one of the two is pending. The frame drawn then removes the other and places this one. -/
theorem warning_pending_once :
    let screen : Headless := { viewport := ⟨Binary.ofNat 640, Binary.ofNat 480⟩ }
    let s := (start screen).run [warn 0, warn 1000, warn 7000]
    let placed := s.overlay.placed Headless.renderer 7000 s.renderer
    let frame := s.overlay.draw Headless.renderer 7000 s.renderer
    s.overlay.messageCount? "" = some 2 ∧
      (∀ stack, s.overlay.registry.get? "" = some stack →
        (stack.toList.filter fun m =>
          decide (m.type = .typeless ∧ m.text = "Disk is full" ∧
            m.isPending 7000 = true)).length ≤ 1) ∧
      placed.map Prod.snd = frame.report.placements ∧
      (placed.filter fun e =>
        decide (e.2.stack = "" ∧ e.2.text = "Disk is full" ∧
          (s.message? e.1).map Message.type = some .typeless)).length ≤ 1 ∧
      frame.report.texts = ["Disk is full"] ∧ frame.report.pruned = 1 := by
  intro screen s placed frame
  have htimed : Timed [warn 0, warn 1000, warn 7000] := ⟨by decide, by decide⟩
  have hguarded : Guarded "" .typeless "Disk is full" (start screen)
      [warn 0, warn 1000, warn 7000] := by
    intro past x future hsteps request hop _ _
    have hx : x ∈ [warn 0, warn 1000, warn 7000] := by
      rw [hsteps]
      simp
    simp only [List.mem_cons, List.not_mem_nil, or_false] at hx
    rcases hx with rfl | rfl | rfl <;>
    · cases hop
      rfl
  obtain ⟨hpending, hplaced⟩ := guarded_unique screen htimed hguarded
    [warn 0, warn 1000, warn 7000] [] (List.append_nil _).symm 7000 (by simp [warn]) (by decide)
  obtain ⟨hreport, honce⟩ := hplaced Headless.renderer s.renderer
  subst s
  exact ⟨by decide +kernel, hpending, hreport, honce, by decide +kernel, by decide +kernel⟩

end OnScreen.Session
