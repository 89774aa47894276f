import OnScreen.Proofs.Frame

/-!
# Runs of an overlay

A run is a list of operations, each with the clock reading at which it is done. Frames may be drawn
by different renderers: all of them have their states in one type, and every frame names the
renderer that draws it. What happens on the way, the calls with their answers and the events, is
kept in the order in which it happens.

Results:
* `submit_cases`: a submission is a duplicate and changes nothing, or it is queued.
* `StoredStep`, `storedStep`: what one operation can do to a stored message.
* `Remained`, `adds_or_remained`: where a message that is stored after an operation comes from.
* `wellFormed_run`, `issued_run`: the invariant of the registry holds in every run, and an id that
  was given out stays so.
-/

namespace OnScreen

/-- What is done with an overlay. -/
inductive Operation (ρ : Type)
  | submit (type : MessageType) (request : Request)
  | register (layout : StackLayout)
  | enable (on : Bool)
  | obscureLeft (pixels : Int32)
  | obscureTop (pixels : Int32)
  | clear
  /-- A frame is drawn by this renderer. -/
  | draw (R : Renderer ρ)

/-- An operation, at a clock reading. -/
structure Step (ρ : Type) where
  now : Reading
  operation : Operation ρ

/-- The step is a frame. -/
def Step.IsFrame {ρ : Type} (step : Step ρ) : Prop :=
  ∃ R, step.operation = .draw R

/-- The clock never goes back, and stays in the lower half of its range. -/
structure Timed {ρ : Type} (steps : List (Step ρ)) : Prop where
  ordered : steps.Pairwise fun a b => a.now.toNat ≤ b.now.toNat
  bounded : ∀ step ∈ steps, step.now.toNat < 2 ^ 63

/-- An overlay in use, with the states of the renderers and the record of what happened. -/
structure Session (ρ : Type) where
  overlay : Overlay
  renderer : ρ
  trace : List TraceEntry := []

/-! ## Histories -/

/-- Something happens in a run: it holds of a step and of the steps before it. -/
def Happens {α : Type} (P : List α → α → Prop) (steps : List α) : Prop :=
  ∃ past x future, steps = past ++ x :: future ∧ P past x

theorem not_happens_nil {α : Type} {P : List α → α → Prop} : ¬ Happens P [] := by
  rintro ⟨past, x, future, h, -⟩
  cases past <;> cases h

/-- What has happened after one more step happened before it or in it. -/
theorem happens_concat {α : Type} {P : List α → α → Prop} {steps : List α} {x : α} :
    Happens P (steps ++ [x]) ↔ Happens P steps ∨ P steps x := by
  constructor
  · rintro ⟨past, y, future, h, hy⟩
    rcases List.eq_nil_or_concat future with rfl | ⟨future, z, rfl⟩
    · obtain ⟨rfl, hxy⟩ := List.append_inj' h rfl
      cases hxy
      exact Or.inr hy
    · rw [List.concat_eq_append, ← List.cons_append, ← List.append_assoc] at h
      obtain ⟨rfl, -⟩ := List.append_inj' h rfl
      exact Or.inl ⟨past, y, future, rfl, hy⟩
  · rintro (⟨past, y, future, rfl, hy⟩ | hx)
    · exact ⟨past, y, future ++ [x], by rw [List.append_assoc, List.cons_append], hy⟩
    · exact ⟨steps, x, [], rfl, hx⟩

theorem Happens.append {α : Type} {P : List α → α → Prop} {steps : List α} (h : Happens P steps)
    (steps' : List α) : Happens P (steps ++ steps') := by
  obtain ⟨past, x, future, rfl, hx⟩ := h
  exact ⟨past, x, future ++ steps', by rw [List.append_assoc, List.cons_append], hx⟩

/-! ## Submissions -/

namespace Overlay

/-- The name of the stack that takes the message of a request. -/
def target (overlay : Overlay) (request : Request) : String :=
  overlay.registry.resolve request.stack

/-- The id under which a submission is stored if it is queued. -/
def nextId (overlay : Overlay) (type : MessageType) (request : Request) : MessageId :=
  overlay.registry.next (overlay.target request) type

/-- The submission is queued. -/
def Queues (overlay : Overlay) (now : Reading) (type : MessageType) (request : Request) : Prop :=
  (overlay.submit now type request).value.2 = .queued

variable {overlay : Overlay} {now : Reading} {type : MessageType} {request : Request}

theorem hasMessage_target (overlay : Overlay) (now : Reading) (type : MessageType)
    (request : Request) :
    overlay.hasMessage now (overlay.target request) type request.text =
      (overlay.registry.stackOf (overlay.target request)).hasMessage type request.text now := by
  have htarget := overlay.registry.get?_resolve request.stack
  unfold hasMessage target
  rw [htarget]

/-- An unwanted duplicate changes nothing; every other submission is queued. -/
theorem submit_cases (overlay : Overlay) (now : Reading) (type : MessageType) (request : Request) :
    (request.preventDuplicate = true ∧
        overlay.hasMessage now (overlay.target request) type request.text = true ∧
        (overlay.submit now type request).value = (overlay, .duplicate)) ∨
      (¬ (request.preventDuplicate = true ∧
          overlay.hasMessage now (overlay.target request) type request.text = true) ∧
        (overlay.submit now type request).value =
          ({ overlay with
              registry := overlay.registry.adjust (overlay.target request)
                (enqueue · (request.toMessage type now)) },
            .queued)) := by
  rw [hasMessage_target]
  unfold submit target
  simp only
  split
  · rename_i h
    rw [Bool.and_eq_true] at h
    exact Or.inl ⟨h.1, h.2, rfl⟩
  · rename_i h
    rw [Bool.and_eq_true] at h
    exact Or.inr ⟨h, rfl⟩

theorem submit_of_queues (h : overlay.Queues now type request) :
    (overlay.submit now type request).value.1 =
      { overlay with
        registry := overlay.registry.adjust (overlay.target request)
          (enqueue · (request.toMessage type now)) } := by
  unfold Queues at h
  rcases submit_cases overlay now type request with ⟨-, -, hv⟩ | ⟨-, hv⟩
  · rw [hv] at h
    cases h
  · rw [hv]

theorem submit_of_not_queues (h : ¬ overlay.Queues now type request) :
    (overlay.submit now type request).value = (overlay, .duplicate) := by
  unfold Queues at h
  rcases submit_cases overlay now type request with ⟨-, -, hv⟩ | ⟨-, hv⟩
  · exact hv
  · rw [hv] at h
    exact absurd rfl h

theorem wellFormed_submit (h : overlay.registry.WellFormed) (now : Reading) (type : MessageType)
    (request : Request) : (overlay.submit now type request).value.1.registry.WellFormed := by
  by_cases hq : overlay.Queues now type request
  · rw [submit_of_queues hq]
    exact h.enqueue _ _
  · rw [submit_of_not_queues hq]
    exact h

/-- A submission is not queued exactly if it asks not to be a duplicate and the check finds its
message. -/
theorem not_queues_iff :
    ¬ overlay.Queues now type request ↔
      request.preventDuplicate = true ∧
        overlay.hasMessage now (overlay.target request) type request.text = true := by
  unfold Queues
  rcases submit_cases overlay now type request with ⟨hprevent, hfound, hv⟩ | ⟨hnot, hv⟩
  · rw [hv]
    exact ⟨fun _ => ⟨hprevent, hfound⟩, fun _ h => (by cases h)⟩
  · rw [hv]
    exact ⟨fun h => absurd rfl h, fun h => absurd h hnot⟩

/-- What is stored after a queued submission. -/
theorem message?_submit (h : overlay.Queues now type request) (id : MessageId) :
    (overlay.submit now type request).value.1.registry.message? id =
      if id = overlay.nextId type request then some (request.toMessage type now)
      else (overlay.registry.message? id).map fun m =>
        if id.stack = overlay.target request ∧ type.Supersedes id.key.type then m.discard
        else m := by
  rw [submit_of_queues h]
  exact Registry.message?_enqueue (overlay.registry.get?_resolve request.stack) _ id

theorem message?_submit_nextId (h : overlay.Queues now type request) :
    (overlay.submit now type request).value.1.registry.message? (overlay.nextId type request) =
      some (request.toMessage type now) := by
  rw [message?_submit h, if_pos rfl]

/-- A message that is stored when another is queued stays under its id. -/
theorem message?_submit_of_some (hwf : overlay.registry.WellFormed)
    (h : overlay.Queues now type request) {id : MessageId} {m : Message}
    (hm : overlay.registry.message? id = some m) :
    (overlay.submit now type request).value.1.registry.message? id =
      some (if id.stack = overlay.target request ∧ type.Supersedes id.key.type then m.discard
        else m) := by
  have hne : id ≠ overlay.nextId type request := (hwf.issued hm).ne_next _ _
  rw [message?_submit h, if_neg hne, hm, Option.map_some]

end Overlay

/-! ## Steps and runs -/

namespace Session

variable {ρ : Type}

/-- A session with a new overlay. -/
def start (renderer : ρ) : Session ρ where
  overlay := {}
  renderer := renderer

/-- The session after a step. -/
def step (s : Session ρ) (step : Step ρ) : Session ρ :=
  match step.operation with
  | .submit type request =>
    let result := s.overlay.submit step.now type request
    { s with overlay := result.value.1, trace := s.trace ++ result.events.map .event }
  | .register layout =>
    let result := s.overlay.register layout
    { s with overlay := result.value.1, trace := s.trace ++ result.events.map .event }
  | .enable on => { s with overlay := { s.overlay with enabled := on } }
  | .obscureLeft pixels =>
    { s with overlay := { s.overlay with obscured := { s.overlay.obscured with left := pixels } } }
  | .obscureTop pixels =>
    { s with overlay := { s.overlay with obscured := { s.overlay.obscured with top := pixels } } }
  | .clear =>
    let result := s.overlay.clear
    { s with overlay := result.value, trace := s.trace ++ result.events.map .event }
  | .draw R =>
    let frame := s.overlay.draw R step.now s.renderer
    { overlay := frame.overlay
      renderer := frame.canvas.renderer
      trace := s.trace ++ frame.canvas.trace }

/-- The session after a run. -/
def run (s : Session ρ) (steps : List (Step ρ)) : Session ρ :=
  steps.foldl step s

theorem run_append (s : Session ρ) (steps steps' : List (Step ρ)) :
    s.run (steps ++ steps') = (s.run steps).run steps' :=
  List.foldl_append

theorem run_concat (s : Session ρ) (steps : List (Step ρ)) (x : Step ρ) :
    s.run (steps ++ [x]) = (s.run steps).step x :=
  List.foldl_concat _ _ _ _

/-- What a run keeps is what every step keeps. -/
theorem run_induction {P : Session ρ → Prop} (hstep : ∀ s x, P s → P (s.step x)) {s : Session ρ}
    (hs : P s) (steps : List (Step ρ)) : P (s.run steps) := by
  induction steps generalizing s with
  | nil => exact hs
  | cons x steps ih => exact ih (hstep s x hs)

/-! ## The invariant of the registry -/

/-- The message stored under an id. -/
def message? (s : Session ρ) (id : MessageId) : Option Message :=
  s.overlay.registry.message? id

/-- The invariant of the registry holds. -/
def WellFormed (s : Session ρ) : Prop :=
  s.overlay.registry.WellFormed

/-- The id was given out. -/
def Issued (s : Session ρ) (id : MessageId) : Prop :=
  s.overlay.registry.Issued id

theorem wellFormed_start (renderer : ρ) : (start renderer).WellFormed :=
  Registry.WellFormed.empty

theorem wellFormed_step (s : Session ρ) (x : Step ρ) (h : s.WellFormed) :
    (s.step x).WellFormed := by
  obtain ⟨now, operation⟩ := x
  unfold WellFormed at h ⊢
  cases operation with
  | submit type request => exact Overlay.wellFormed_submit h now type request
  | register layout => exact h.register layout
  | enable on => exact h
  | obscureLeft pixels => exact h
  | obscureTop pixels => exact h
  | clear => exact h.clear
  | draw R => exact Overlay.wellFormed_draw R h

theorem wellFormed_run {s : Session ρ} (h : s.WellFormed) (steps : List (Step ρ)) :
    (s.run steps).WellFormed :=
  run_induction wellFormed_step h steps

theorem issued_step (s : Session ρ) (x : Step ρ) (h : s.WellFormed) {id : MessageId}
    (hid : s.Issued id) : (s.step x).Issued id := by
  obtain ⟨now, operation⟩ := x
  unfold Issued at hid ⊢
  cases operation with
  | submit type request =>
    show (s.overlay.submit now type request).value.1.registry.Issued id
    by_cases hq : s.overlay.Queues now type request
    · rw [Overlay.submit_of_queues hq]
      exact hid.enqueue _ _
    · rw [Overlay.submit_of_not_queues hq]
      exact hid
  | register layout => exact hid.register layout
  | enable on => exact hid
  | obscureLeft pixels => exact hid
  | obscureTop pixels => exact hid
  | clear => exact hid.clear
  | draw R => exact Overlay.issued_draw R h hid

theorem issued_run {s : Session ρ} (h : s.WellFormed) {id : MessageId} (hid : s.Issued id)
    (steps : List (Step ρ)) : (s.run steps).Issued id :=
  (run_induction (P := fun s => s.WellFormed ∧ s.Issued id)
    (fun s x hs => ⟨wellFormed_step s x hs.1, issued_step s x hs.1 hs.2⟩) ⟨h, hid⟩ steps).2

/-! ## A stored message through a step -/

/-- The step queues a message that supersedes the message with the id. -/
def Supersedes (id : MessageId) (s : Session ρ) (x : Step ρ) : Prop :=
  ∃ type request, x.operation = .submit type request ∧ s.overlay.Queues x.now type request ∧
    id.stack = s.overlay.target request ∧ type.Supersedes id.key.type

/-- The step is a frame that places the message with the id. -/
def Places (id : MessageId) (s : Session ρ) (x : Step ρ) : Prop :=
  ∃ R, x.operation = .draw R ∧ id ∈ s.overlay.placedIds R x.now s.renderer

theorem Places.isFrame {id : MessageId} {s : Session ρ} {x : Step ρ} (h : Places id s x) :
    x.IsFrame := by
  obtain ⟨R, hR, -⟩ := h
  exact ⟨R, hR⟩

theorem Supersedes.not_isFrame {id : MessageId} {s : Session ρ} {x : Step ρ}
    (h : Supersedes id s x) : ¬ x.IsFrame := by
  obtain ⟨type, request, hsubmit, -⟩ := h
  rintro ⟨R, hR⟩
  rw [hsubmit] at hR
  cases hR

/-- The step queues a message under the id. -/
def Adds (id : MessageId) (s : Session ρ) (x : Step ρ) : Prop :=
  ∃ type request, x.operation = .submit type request ∧ s.overlay.Queues x.now type request ∧
    id = s.overlay.nextId type request

/-- An id that was given out is not given out again. -/
theorem Issued.not_adds {s : Session ρ} {id : MessageId} (h : s.Issued id) (x : Step ρ) :
    ¬ Adds id s x := by
  rintro ⟨type, request, -, -, hid⟩
  exact Registry.Issued.ne_next h _ _ hid

/-- A message appears under an id only if it is queued under it. -/
theorem message?_step_of_none (s : Session ρ) (x : Step ρ) (h : s.WellFormed) {id : MessageId}
    (hm : s.message? id = none) (hadds : ¬ Adds id s x) : (s.step x).message? id = none := by
  obtain ⟨now, operation⟩ := x
  unfold message? at hm ⊢
  cases operation with
  | submit type request =>
    show (s.overlay.submit now type request).value.1.registry.message? id = none
    by_cases hq : s.overlay.Queues now type request
    · have hne : id ≠ s.overlay.nextId type request := fun hid =>
        hadds ⟨type, request, rfl, hq, hid⟩
      rw [Overlay.message?_submit hq, if_neg hne, hm]
      rfl
    · rw [Overlay.submit_of_not_queues hq]
      exact hm
  | register layout => exact (Registry.message?_register _ layout id).trans hm
  | enable on => exact hm
  | obscureLeft pixels => exact hm
  | obscureTop pixels => exact hm
  | clear => exact Registry.message?_clear _ id
  | draw R => exact Overlay.message?_draw_of_none R h hm

/-- What a step can do to a stored message: it is dropped with all others; a frame removes it
because it is not pending, or keeps it; it is superseded; or nothing happens to it. -/
inductive StoredStep (s : Session ρ) (x : Step ρ) (id : MessageId) (m : Message) : Prop
  | cleared (hclear : x.operation = .clear) (hafter : (s.step x).message? id = none)
  | removed (hframe : x.IsFrame) (hpending : m.isPending x.now = false)
      (hafter : (s.step x).message? id = none)
  | kept (m' : Message) (hframe : x.IsFrame) (hpending : m.isPending x.now = true)
      (hafter : (s.step x).message? id = some m') (hkept : m.KeptAs s.overlay.enabled m')
  | superseded (hframe : ¬ x.IsFrame) (hclear : x.operation ≠ .clear) (hsup : Supersedes id s x)
      (hafter : (s.step x).message? id = some m.discard)
  | same (hframe : ¬ x.IsFrame) (hclear : x.operation ≠ .clear) (hsup : ¬ Supersedes id s x)
      (hafter : (s.step x).message? id = some m)

/-- Only frames, submissions and clearing can do anything to a stored message. -/
theorem StoredStep.other {s : Session ρ} {x : Step ρ} {id : MessageId} {m : Message}
    (hm : s.message? id = some m) (hframe : ∀ R, x.operation ≠ .draw R)
    (hclear : x.operation ≠ .clear) (hsubmit : ∀ type request, x.operation ≠ .submit type request)
    (hsame : (s.step x).message? id = s.message? id) : StoredStep s x id m := by
  refine .same ?_ hclear ?_ (hsame.trans hm)
  · rintro ⟨R, hR⟩
    exact hframe R hR
  · rintro ⟨type, request, hop, -⟩
    exact hsubmit type request hop

theorem storedStep (s : Session ρ) (x : Step ρ) (h : s.WellFormed) {id : MessageId} {m : Message}
    (hm : s.message? id = some m) : StoredStep s x id m := by
  obtain ⟨now, operation⟩ := x
  cases operation with
  | submit type request =>
    have hframe : ¬ Step.IsFrame (ρ := ρ) ⟨now, .submit type request⟩ := by
      rintro ⟨R, hR⟩
      cases hR
    have hafter : (s.step ⟨now, .submit type request⟩).message? id =
        (s.overlay.submit now type request).value.1.registry.message? id := rfl
    by_cases hq : s.overlay.Queues now type request
    · rw [Overlay.message?_submit_of_some h hq hm] at hafter
      by_cases hsup : id.stack = s.overlay.target request ∧ type.Supersedes id.key.type
      · rw [if_pos hsup] at hafter
        exact .superseded hframe (by simp) ⟨type, request, rfl, hq, hsup⟩ hafter
      · rw [if_neg hsup] at hafter
        refine .same hframe (by simp) ?_ hafter
        rintro ⟨type', request', hop, -, hsup'⟩
        cases hop
        exact hsup hsup'
    · rw [Overlay.submit_of_not_queues hq] at hafter
      refine .same hframe (by simp) ?_ (hafter.trans hm)
      rintro ⟨type', request', hop, hq', -⟩
      cases hop
      exact hq hq'
  | register layout =>
    exact .other hm (by simp) (by simp) (by simp) (Registry.message?_register _ layout id)
  | enable on => exact .other hm (by simp) (by simp) (by simp) rfl
  | obscureLeft pixels => exact .other hm (by simp) (by simp) (by simp) rfl
  | obscureTop pixels => exact .other hm (by simp) (by simp) (by simp) rfl
  | clear => exact .cleared rfl (Registry.message?_clear _ id)
  | draw R =>
    cases hp : m.isPending now with
    | false => exact .removed ⟨R, rfl⟩ hp (Overlay.message?_draw_of_not_pending R h hm hp)
    | true =>
      obtain ⟨m', hm', hkept⟩ := Overlay.message?_draw_of_pending R s.renderer h hm hp
      exact .kept m' ⟨R, rfl⟩ hp hm' hkept

/-- What a step did to a message that is stored before and after it: a frame kept it, it was
superseded, or nothing happened to it. -/
inductive Remained (s : Session ρ) (x : Step ρ) (id : MessageId) (m m' : Message) : Prop
  | kept (hframe : x.IsFrame) (hpending : m.isPending x.now = true)
      (hkept : m.KeptAs s.overlay.enabled m')
  | superseded (hframe : ¬ x.IsFrame) (hsup : Supersedes id s x) (hafter : m' = m.discard)
  | same (hframe : ¬ x.IsFrame) (hsup : ¬ Supersedes id s x) (hafter : m' = m)

theorem StoredStep.remained {s : Session ρ} {x : Step ρ} {id : MessageId} {m m' : Message}
    (h : StoredStep s x id m) (hm' : (s.step x).message? id = some m') :
    Remained s x id m m' := by
  cases h with
  | cleared _ hnone => cases hnone.symm.trans hm'
  | removed _ _ hnone => cases hnone.symm.trans hm'
  | kept m'' hframe hpending hafter hkept =>
    cases hafter.symm.trans hm'
    exact .kept hframe hpending hkept
  | superseded hframe _ hsup hafter =>
    cases hafter.symm.trans hm'
    exact .superseded hframe hsup rfl
  | same hframe _ hsup hafter =>
    cases hafter.symm.trans hm'
    exact .same hframe hsup rfl

theorem Remained.sameText {s : Session ρ} {x : Step ρ} {id : MessageId} {m m' : Message}
    (h : Remained s x id m m') : m.SameText m' := by
  cases h with
  | kept _ _ hkept => exact hkept.sameText
  | superseded _ _ hafter => exact hafter ▸ ⟨rfl, rfl, rfl⟩
  | same _ _ hafter => exact hafter ▸ ⟨rfl, rfl, rfl⟩

/-- A message that is stored after a step was queued in it, or remained from before. -/
theorem adds_or_remained (s : Session ρ) (x : Step ρ) (h : s.WellFormed) {id : MessageId}
    {m' : Message} (hm' : (s.step x).message? id = some m') :
    Adds id s x ∨ ∃ m, s.message? id = some m ∧ Remained s x id m m' := by
  by_cases hadds : Adds id s x
  · exact Or.inl hadds
  · cases hm : s.message? id with
    | none =>
      rw [message?_step_of_none s x h hm hadds] at hm'
      cases hm'
    | some m => exact Or.inr ⟨m, rfl, (storedStep s x h hm).remained hm'⟩

/-! ## What happens in a run -/

/-- All messages are dropped in the run. -/
def Clears (steps : List (Step ρ)) : Prop :=
  Happens (fun _ x => x.operation = .clear) steps

/-- A message that supersedes the one with the id is queued in the run. -/
def WasSuperseded (s : Session ρ) (id : MessageId) (steps : List (Step ρ)) : Prop :=
  Happens (fun past x => Supersedes id (s.run past) x) steps

/-- A frame of the run places the message with the id. -/
def WasPlaced (s : Session ρ) (id : MessageId) (steps : List (Step ρ)) : Prop :=
  Happens (fun past x => Places id (s.run past) x) steps

end Session

end OnScreen
