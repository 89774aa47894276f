import OnScreen.Proofs.Commuting

/-!
# Only elapsed time matters

The clock may have its origin anywhere. A run at a clock that is ahead by a constant goes like the
run itself, as long as that clock does not come to the end of its range: submissions, registrations
and frames answer the same, the same is found and counted, and the same calls and events happen. The
readings need not be in order.

Results:
* `Sense.lawful_ahead`: as much time passes between readings that are ahead.
* `Overlay.Like.events_submit_eq`, `Registry.Like.events_register_eq`,
  `Registry.Like.events_clear_eq`: what is alike reports the same.
* `Session.Behind.step`, `Session.Behind.run`: a step, and a run, at a clock that is ahead.
* `Session.only_elapsed_time_matters`: runs from the start.
-/

namespace OnScreen

/-! ## Readings -/

/-- The second reading is the first one on a clock that is ahead by `c`, which has not come to the
end of its range. -/
structure Reading.Ahead (c now now' : Reading) : Prop where
  fits : now.toNat + c.toNat < 2 ^ 64
  reading : now' = now + c

/-- The sense in which only the clock is ahead. -/
def Sense.ahead (c : Reading) : Sense :=
  .faithful (Reading.Ahead c) (· = ·)

theorem Sense.lawful_ahead (c : Reading) : (ahead c).Lawful := by
  refine lawful_faithful ?_
  rintro a _ b _ ⟨ha, rfl⟩ ⟨hb, rfl⟩
  have hlt : b + c < a + c ↔ b < a := by
    simp only [UInt64.lt_iff_toNat_lt, UInt64.toNat_add]
    omega
  have hsub : b + c - (a + c) = b - a := by grind
  simp only [hlt, hsub]

/-! ## What is alike reports the same -/

namespace Registry

theorem resolveEvents_eq (registry : Registry) (name : String) :
    registry.resolveEvents name =
      if (registry.get? name).isSome then [] else [.unknownStack name] := by
  unfold resolveEvents
  by_cases hname : name = ""
  · simp [hname, get?_default]
  · simp [hname, get?_of_ne hname, OrderedMap.contains]

theorem events_register_eq (registry : Registry) (layout : StackLayout) :
    (registry.register layout).events =
      if layout.name = "" then [.stackWithoutName]
      else if (registry.get? layout.name).isSome then [.stackAlreadyRegistered layout.name]
      else [.stackRegistered layout.name layout.direction] := by
  unfold register
  by_cases hname : layout.name = ""
  · simp [hname]
  · rw [if_neg hname, if_neg hname, get?_of_ne hname]
    unfold OrderedMap.contains
    split <;> rfl

end Registry

theorem Overlay.events_submit_eq (overlay : Overlay) (now : Reading) (type : MessageType)
    (request : Request) :
    (overlay.submit now type request).events =
      overlay.registry.resolveEvents request.stack ++
        if request.preventDuplicate &&
            overlay.hasMessage now (overlay.target request) type request.text then
          [.duplicateSkipped request.text]
        else
          enqueueEvents (overlay.registry.stackOf (overlay.target request))
            (request.toMessage type now) := by
  rw [hasMessage_target]
  unfold submit target
  dsimp only
  split <;> rfl

section

variable {sense : Sense}

/-- As many messages are superseded. -/
theorem Stack.Like.enqueueEvents_eq {stack stack' : Stack} (h : stack.Like sense stack')
    (hkeyed : stack.Keyed) (hkeyed' : stack'.Keyed) {m m' : Message} (hm : m.Like sense m') :
    Overlay.enqueueEvents stack m = Overlay.enqueueEvents stack' m' := by
  have hcount : (stack.discardType m'.type).2 = (stack'.discardType m'.type).2 := by
    rw [discardType_count hkeyed, discardType_count hkeyed', List.countP_eq_length_filter,
      List.countP_eq_length_filter]
    refine (forall₂_filter h.messages fun {a a'} ha => ?_).length_eq
    rw [ha.type]
  unfold Overlay.enqueueEvents
  simp only [hm.type, hm.text, hcount]

namespace Registry.Like

variable {concerns : String → Prop} {registry registry' : Registry}

theorem events_register_eq (h : registry.Like sense concerns registry') (layout : StackLayout) :
    (registry.register layout).events = (registry'.register layout).events := by
  rw [Registry.events_register_eq, Registry.events_register_eq, h.registered]

theorem events_clear_eq (h : registry.Like sense (fun _ => True) registry')
    (hwf : registry.WellFormed) (hwf' : registry'.WellFormed) :
    registry.clear.2 = registry'.clear.2 :=
  (h.messages hwf hwf').length_eq

end Registry.Like

theorem Overlay.Like.events_submit_eq {overlay overlay' : Overlay} {now now' : Reading}
    (h : overlay.Like sense (fun _ => True) overlay') (hwf : overlay.registry.WellFormed)
    (hwf' : overlay'.registry.WellFormed) (hsense : sense.Lawful) (hnow : sense.reading now now')
    (type : MessageType) (request : Request) :
    (overlay.submit now type request).events = (overlay'.submit now' type request).events := by
  have htarget := h.target_eq request
  have hfound : overlay.hasMessage now (overlay.target request) type request.text =
      overlay'.hasMessage now' (overlay.target request) type request.text :=
    h.hasMessage_eq hwf hwf' hsense hnow trivial type request.text
  have hs : overlay.registry.get? (overlay.target request) =
      some (overlay.registry.stackOf (overlay.target request)) :=
    overlay.registry.get?_resolve request.stack
  have hs' : overlay'.registry.get? (overlay.target request) =
      some (overlay'.registry.stackOf (overlay.target request)) := by
    rw [htarget]
    exact overlay'.registry.get?_resolve request.stack
  have hqueued := (h.registry.stack trivial hs hs').enqueueEvents_eq (hwf.keyed _ _ hs)
    (hwf'.keyed _ _ hs') (.toMessage hsense hnow type request)
  rw [Overlay.events_submit_eq, Overlay.events_submit_eq, Registry.resolveEvents_eq,
    Registry.resolveEvents_eq, h.registry.registered, ← htarget, hfound, hqueued]

end

/-! ## Steps and runs -/

/-- The step at a clock that is ahead by `c`. -/
def Step.later {ρ : Type} (c : Reading) (x : Step ρ) : Step ρ :=
  { x with now := x.now + c }

namespace Session

variable {ρ : Type}

/-- What an operation answers. -/
inductive Outcome
  | submitted (result : Submission)
  | registered (added : Bool)
  | drawn (report : FrameReport)
  | done

/-- What a step answers. -/
def outcome (s : Session ρ) (x : Step ρ) : Outcome :=
  match x.operation with
  | .submit type request => .submitted (s.overlay.submit x.now type request).value.2
  | .register layout => .registered (s.overlay.register layout).value.2
  | .draw R => .drawn (s.overlay.draw R x.now s.renderer).report
  | _ => .done

/-- What the steps of a run answer, one after the other. -/
def outcomes : Session ρ → List (Step ρ) → List Outcome
  | _, [] => []
  | s, x :: steps => s.outcome x :: outcomes (s.step x) steps

/-- The second session is the first one at a clock that is ahead by `c`: the same was done in
both. -/
structure Behind (c : Reading) (s s' : Session ρ) : Prop
    extends s.Mirrors (Reading.Ahead c) (· = ·) (· = ·) [] s' where
  trace : s.trace = s'.trace

theorem Behind.start (c : Reading) (initial : ρ) : (start initial).Behind c (start initial) where
  toLike := .start (Sense.lawful_ahead c) rfl
  orphans := ⟨[], rfl, .nil⟩
  trace := rfl

namespace Behind

variable {c : Reading} {s s' : Session ρ} (h : s.Behind c s') (hs : s.WellFormed)
  (hs' : s'.WellFormed)

include h

theorem messageCount?_eq (name : String) :
    s.overlay.messageCount? name = s'.overlay.messageCount? name :=
  h.overlay.messageCount?_eq trivial

include hs hs'

theorem hasMessage_eq {now : Reading} (hnow : now.toNat + c.toNat < 2 ^ 64) (name : String)
    (type : MessageType) (text : String) :
    s.overlay.hasMessage now name type text = s'.overlay.hasMessage (now + c) name type text :=
  h.overlay.hasMessage_eq hs hs' (Sense.lawful_ahead c) ⟨hnow, rfl⟩ trivial type text

/-- The next frame has the same report, and the same happens to the renderer. -/
theorem draw_eq (R : Renderer ρ) {now : Reading} (hnow : now.toNat + c.toNat < 2 ^ 64) :
    (s.overlay.draw R now s.renderer).report =
        (s'.overlay.draw R (now + c) s'.renderer).report ∧
      (s.overlay.draw R now s.renderer).canvas =
        (s'.overlay.draw R (now + c) s'.renderer).canvas := by
  have hcanvas : ({ renderer := s.renderer } : Canvas ρ).destroyAll R [] =
      { renderer := s'.renderer } :=
    congrArg (fun renderer => ({ renderer := renderer } : Canvas ρ)) h.renderer
  obtain ⟨hreport, hafter, -⟩ :=
    h.draw hs hs' (Sense.lawful_ahead c) R.parallel_self hcanvas ⟨hnow, rfl⟩
  exact ⟨hreport, hafter⟩

variable {x : Step ρ} (hx : x.now.toNat + c.toNat < 2 ^ 64)

include hx

theorem outcome_eq : s.outcome x = s'.outcome (x.later c) := by
  obtain ⟨now, operation⟩ := x
  cases operation with
  | submit type request =>
    exact congrArg Outcome.submitted
      (h.overlay.submission_eq hs hs' (Sense.lawful_ahead c) ⟨hx, rfl⟩ type trivial)
  | register layout =>
    exact congrArg Outcome.registered
      (h.overlay.registry.registration_eq (Sense.lawful_ahead c) (rfl : layout = layout))
  | draw R => exact congrArg Outcome.drawn (h.draw_eq hs hs' R hx).1
  | _ => rfl

theorem trace_eq : (s.step x).trace = (s'.step (x.later c)).trace := by
  have htrace := h.trace
  obtain ⟨now, operation⟩ := x
  cases operation with
  | submit type request =>
    have hevents :=
      h.overlay.events_submit_eq hs hs' (Sense.lawful_ahead c) ⟨hx, rfl⟩ type request
    simp only [step, Step.later, htrace, hevents]
  | register layout =>
    have hevents : (s.overlay.register layout).events = (s'.overlay.register layout).events :=
      h.overlay.registry.events_register_eq layout
    simp only [step, Step.later, htrace, hevents]
  | clear =>
    have hcount := h.overlay.registry.events_clear_eq hs hs'
    simp only [step, Step.later, Overlay.clear, htrace, hcount]
  | draw R =>
    have hcanvas := (h.draw_eq hs hs' R hx).2
    simp only [step, Step.later, htrace, hcanvas]
  | _ => exact htrace

/-- A step keeps the sessions together. -/
theorem step : (s.step x).Behind c (s'.step (x.later c)) := by
  have hlike : x.Like (.ahead c) (· = ·) (x.later c) := by
    refine ⟨⟨hx, rfl⟩, ?_⟩
    obtain ⟨now, operation⟩ := x
    cases operation with
    | submit type request => exact .submit type request
    | register layout => exact .register rfl
    | enable on => exact .enable on
    | obscureLeft pixels => exact .obscureLeft rfl
    | obscureTop pixels => exact .obscureTop rfl
    | clear => exact .clear
    | draw R => exact .draw rfl
  have hmirrors := h.toMirrors.step hs hs' (Sense.lawful_ahead c) renderersMirror_self rfl hlike
  unfold owedAfter at hmirrors
  rw [ite_self] at hmirrors
  exact ⟨hmirrors, h.trace_eq hs hs' hx⟩

omit hx

/-- A run keeps the sessions together, and its steps answer the same. -/
theorem run {steps : List (Step ρ)} (hsteps : ∀ x ∈ steps, x.now.toNat + c.toNat < 2 ^ 64) :
    (s.run steps).Behind c (s'.run (steps.map (Step.later c))) ∧
      outcomes s steps = outcomes s' (steps.map (Step.later c)) := by
  induction steps generalizing s s' with
  | nil => exact ⟨h, rfl⟩
  | cons x steps ih =>
    obtain ⟨hx, hrest⟩ := List.forall_mem_cons.mp hsteps
    obtain ⟨hafter, houtcomes⟩ :=
      ih (h.step hs hs' hx) (wellFormed_step s x hs) (wellFormed_step s' _ hs') hrest
    exact ⟨hafter, congrArg₂ List.cons (h.outcome_eq hs hs' hx) houtcomes⟩

end Behind

/-- Only elapsed time matters. At a clock that is ahead by a constant, and does not come to the end
of its range, every run answers the same step by step; and after each part of it the same calls were
made with the same answers, the same events were reported, the renderer is in the same state, and
the same is counted and found. -/
theorem only_elapsed_time_matters (initial : ρ) (c : Reading) {steps : List (Step ρ)}
    (hsteps : ∀ x ∈ steps, x.now.toNat + c.toNat < 2 ^ 64) :
    outcomes (start initial) (steps.map (Step.later c)) = outcomes (start initial) steps ∧
      ∀ past, past <+: steps →
        let s := (start initial).run past
        let s' := (start initial).run (past.map (Step.later c))
        s'.trace = s.trace ∧ s'.renderer = s.renderer ∧
          (∀ name, s'.overlay.messageCount? name = s.overlay.messageCount? name) ∧
          ∀ now : Reading, now.toNat + c.toNat < 2 ^ 64 → ∀ name type text,
            s'.overlay.hasMessage (now + c) name type text =
              s.overlay.hasMessage now name type text := by
  have hstart : (start initial).WellFormed := wellFormed_start initial
  constructor
  · exact ((Behind.start c initial).run hstart hstart hsteps).2.symm
  · intro past hpast s s'
    have hbehind : s.Behind c s' :=
      ((Behind.start c initial).run hstart hstart fun x hx => hsteps x (hpast.subset hx)).1
    have hs : s.WellFormed := wellFormed_run hstart past
    have hs' : s'.WellFormed := wellFormed_run hstart _
    refine ⟨hbehind.trace.symm, hbehind.renderer.symm, ?_, ?_⟩
    · intro name
      exact (hbehind.messageCount?_eq name).symm
    · intro now hnow name type text
      exact (hbehind.hasMessage_eq hs hs' hnow name type text).symm

/-- A clock goes back between a submission and a frame. The message is found until its time is up,
and so it is on a clock that is ahead by half the range. -/
theorem notice_found_ahead :
    let screen : Headless := { viewport := ⟨Binary.ofNat 640, Binary.ofNat 480⟩ }
    let notice : Request := { text := "Connected", duration := 1000, color := Color.green }
    let steps : List (Step Headless) :=
      [⟨500, .submit .typeless notice⟩, ⟨400, .draw Headless.renderer⟩]
    let half : Reading := 0x8000000000000000
    let ahead := (start screen).run (steps.map (Step.later half))
    ahead.overlay.hasMessage (1499 + half) "" .typeless "Connected" = true ∧
      ahead.overlay.hasMessage (1500 + half) "" .typeless "Connected" = false := by
  intro screen notice steps half ahead
  have hsteps : ∀ x ∈ steps, x.now.toNat + half.toNat < 2 ^ 64 := by decide
  obtain ⟨-, hrun⟩ := only_elapsed_time_matters screen half hsteps
  obtain ⟨-, -, -, hfound⟩ := hrun steps List.prefix_rfl
  constructor
  · exact (hfound 1499 (by decide) "" .typeless "Connected").trans (by decide)
  · exact (hfound 1500 (by decide) "" .typeless "Connected").trans (by decide)

end Session

end OnScreen
