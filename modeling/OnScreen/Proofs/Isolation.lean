import OnScreen.Proofs.Parallel
import OnScreen.Proofs.Surfaces

/-!
# Stacks do not interfere

All stacks are drawn by one renderer, one after the other, and a report has the placements of all of
them. Still nothing that is seen of a stack tells what was submitted to other stacks: a headless
renderer measures what is drawn into the open surface by its settings alone, and every message is
drawn into a surface of its own.

Results:
* `Headless.parallel`: a headless renderer answers alike whenever it has the same settings.
* `Overlay.Like.drawn_alike`, `Overlay.Like.forStack_eq`: the turns of stacks that are alike.
* `Session.erase`: a run without the submissions to other stacks; `Session.Like.run_erase`.
* `Session.stacks_isolated`: what is seen of a stack is the same in both runs.
-/

namespace OnScreen

/-- The sense in which a stack is the same in two runs: only the textures may differ. -/
def Sense.isolation : Sense :=
  .faithful (· = ·) fun _ _ => True

theorem Sense.lawful_isolation : isolation.Lawful :=
  lawful_faithful_eq

/-! ## A headless renderer -/

namespace Headless

/-- The headless renderer, with a viewport that is set for the frame, if any is. -/
def rendererIn (viewport? : Option (Size Single)) : Renderer Headless :=
  { renderer with viewport := fun r => viewport?.getD r.viewport }

/-- Two frames are drawn by the headless renderer in the same viewport. -/
def Draws (R R' : Renderer Headless) : Prop :=
  ∃ viewport?, R = rendererIn viewport? ∧ R' = rendererIn viewport?

/-- Two headless renderers have the same settings. -/
def SameSettings (r r' : Headless) : Prop :=
  r.settings = r'.settings

section

variable {r r' : Headless} (h : r.settings = r'.settings)

include h

/-- The settings decide about the size of a text. -/
theorem textSize_eq (text : String) (scale : Single) :
    r.textSize text scale = r'.textSize text scale := by
  have hwidth : r.glyphWidth = r'.glyphWidth := (congrArg Headless.glyphWidth h :)
  have hheight : r.lineHeight = r'.lineHeight := (congrArg Headless.lineHeight h :)
  unfold textSize
  rw [hwidth, hheight]

/-- The settings decide whether an upload fails. -/
theorem rel_texture_upload (icon : Icon) :
    Option.Rel (fun _ _ => True) (r.upload icon).texture
      (r'.upload icon).texture := by
  have hfails : r.failUploads = r'.failUploads := (congrArg Headless.failUploads h :)
  unfold upload
  dsimp only
  rw [hfails]
  split
  · exact .none
  · exact .some trivial

end

/-- Placing a surface moves the open one, if it has the name. -/
theorem current_placeSurface (r : Headless) (name : String) (position : Point Single) :
    (r.placeSurface name position).renderer.current =
      r.current.map fun surface =>
        if surface.name = name then { surface with position := position } else surface := by
  unfold placeSurface
  cases hr : r.current with
  | none => exact hr
  | some surface =>
    dsimp only
    rw [Option.map_some]
    split
    · rfl
    · exact hr

end Headless

variable {settings : Headless}

/-- Both canvases are of headless renderers with these settings. -/
structure Canvas.BothSet (settings : Headless) (canvas canvas' : Canvas Headless) : Prop where
  left : canvas.renderer.settings = settings
  right : canvas'.renderer.settings = settings

/-- Moreover the same was drawn into their open surfaces. -/
structure Canvas.BothOpen (settings : Headless) (canvas canvas' : Canvas Headless) : Prop extends
    canvas.BothSet settings canvas' where
  current : canvas.renderer.current = canvas'.renderer.current

namespace Canvas

variable {canvas canvas' : Canvas Headless} {viewport? : Option (Size Single)}

theorem BothSet.eq (h : BothSet settings canvas canvas') :
    canvas.renderer.settings = canvas'.renderer.settings :=
  h.left.trans h.right.symm

theorem BothSet.perform (h : BothSet settings canvas canvas') (call call' : Call) :
    BothSet settings (canvas.perform (Headless.rendererIn viewport?) call)
      (canvas'.perform (Headless.rendererIn viewport?) call') :=
  ⟨(Headless.settings_perform _ call).trans h.left,
    (Headless.settings_perform _ call').trans h.right⟩

/-- A call after which the open surfaces are the same. -/
theorem BothSet.open_of_perform (h : BothSet settings canvas canvas') {call call' : Call}
    (hcurrent : (canvas.renderer.perform call).renderer.current =
      (canvas'.renderer.perform call').renderer.current) :
    BothOpen settings (canvas.perform (Headless.rendererIn viewport?) call)
      (canvas'.perform (Headless.rendererIn viewport?) call') :=
  ⟨h.perform call call', hcurrent⟩

end Canvas

/-- A headless renderer answers alike whenever it has the same settings and the same was drawn into
the open surface. -/
theorem Headless.parallel (settings : Headless) (viewport? : Option (Size Single)) :
    (rendererIn viewport?).Parallel (rendererIn viewport?) (fun _ _ => True)
      (Canvas.BothSet settings) (Canvas.BothOpen settings) where
  viewport {c c'} h := by
    have hviewport : c.renderer.viewport = c'.renderer.viewport :=
      (congrArg Headless.viewport h.eq :)
    exact congrArg viewport?.getD hviewport
  framebufferScale h := (congrArg Headless.framebufferScale h.eq :)
  report h _ := ⟨h.left, h.right⟩
  destroy h _ := h.perform _ _
  begin h _ _ := h.open_of_perform rfl
  upload {c c'} h icon := by
    have hcurrent (r : Headless) : (r.upload icon).renderer.current =
        r.current := (r.upload_keeps_surfaces icon).1
    refine ⟨h.toBothSet.open_of_perform ?_, Headless.rel_texture_upload h.toBothSet.eq _⟩
    exact (hcurrent _).trans (h.current.trans (hcurrent _).symm)
  reportOpened h _ := ⟨⟨h.left, h.right⟩, h.current⟩
  drawImage h _ size := by
    refine h.toBothSet.open_of_perform ?_
    show Option.map _ _ = Option.map _ _
    rw [h.current]
  drawText {c c'} h text color scale := by
    refine h.toBothSet.open_of_perform ?_
    show (c.renderer.drawText text color scale).current =
      (c'.renderer.drawText text color scale).current
    unfold Headless.drawText
    dsimp only
    rw [Headless.textSize_eq h.toBothSet.eq, h.current]
  measure {c c'} h := by
    refine ⟨?_, (congrArg Headless.framebufferScale h.toBothSet.eq :)⟩
    show c.renderer.surfaceSize = c'.renderer.surfaceSize
    unfold Headless.surfaceSize
    rw [h.current]
  place h name position := by
    have hcurrent (r : Headless) := r.current_placeSurface name position
    refine h.toBothSet.open_of_perform ((hcurrent _).trans (Eq.trans ?_ (hcurrent _).symm))
    rw [h.current]
  close h := h.toBothSet.perform _ _

/-! ## Turns -/

section

variable (viewport? : Option (Size Single))

/-- Drawing a stack does not change the settings. -/
theorem Stack.settings_draw (stack : Stack) (frame : FrameSettings) (canvas : Canvas Headless) :
    (stack.draw (Headless.rendererIn viewport?) frame canvas).canvas.renderer.settings =
      canvas.renderer.settings := by
  -- the same stack is drawn in both frames, on the same canvas
  have hstack : stack.Like .isolation stack := .refl (fun _ => rfl) (fun _ => trivial) stack
  have hcanvas : canvas.BothSet canvas.renderer.settings canvas := ⟨rfl, rfl⟩
  obtain ⟨-, -, hdrawn⟩ := (Headless.parallel canvas.renderer.settings viewport?).draw
    Sense.lawful_isolation (rfl : frame.now = frame.now) hstack hcanvas frame.drawing
    frame.obscured
  exact hdrawn.left

theorem settings_of_mem_turns {frame : FrameSettings} {canvas : Canvas Headless}
    {entries : List (String × Stack)} {t : Turn Headless}
    (ht : t ∈ turns (Headless.rendererIn viewport?) frame canvas entries) :
    t.canvas.renderer.settings = canvas.renderer.settings := by
  induction entries generalizing canvas with
  | nil => cases ht
  | cons e rest ih =>
    rcases List.mem_cons.mp ht with rfl | ht
    · rfl
    · exact (ih ht).trans (Stack.settings_draw viewport? e.2 frame canvas)

theorem settings_canvasAfter (frame : FrameSettings) (canvas : Canvas Headless)
    (entries : List (String × Stack)) :
    (canvasAfter (Headless.rendererIn viewport?) frame canvas entries).renderer.settings =
      canvas.renderer.settings := by
  induction entries generalizing canvas with
  | nil => rfl
  | cons e rest ih => exact (ih _).trans (Stack.settings_draw viewport? e.2 frame canvas)

namespace Overlay

variable {overlay : Overlay} {now : Reading} {screen : Headless}

theorem settings_startCanvas (overlay : Overlay) (screen : Headless) :
    (overlay.startCanvas (Headless.rendererIn viewport?) screen).renderer.settings =
      screen.settings := by
  have hdestroyed (ts : List TextureId) (canvas : Canvas Headless) :
      (canvas.destroyAll (Headless.rendererIn viewport?) ts).renderer.settings =
        canvas.renderer.settings := by
    induction ts generalizing canvas with
    | nil => rfl
    | cons t ts ih => exact (ih _).trans (Headless.settings_perform canvas.renderer _)
  exact hdestroyed _ _

theorem settings_draw (overlay : Overlay) (now : Reading) (screen : Headless) :
    (overlay.draw (Headless.rendererIn viewport?) now screen).canvas.renderer.settings =
      screen.settings := by
  rw [draw_canvas, settings_canvasAfter, settings_startCanvas]

theorem settings_of_mem_frameTurns {t : Turn Headless}
    (ht : t ∈ overlay.frameTurns (Headless.rendererIn viewport?) now screen) :
    t.canvas.renderer.settings = screen.settings :=
  (settings_of_mem_turns viewport? ht).trans (settings_startCanvas viewport? overlay screen)

end Overlay

/-! ## Frames -/

namespace Overlay.Like

variable {overlay overlay' : Overlay} {screen screen' : Headless} {name : String}
  (h : overlay.Like .isolation (· = name) overlay') (hwf : overlay.registry.WellFormed)
  (hwf' : overlay'.registry.WellFormed) (hscreen : screen.settings = screen'.settings)
  (now : Reading)

include h hwf hwf' hscreen

/-- The turns of the stack that is asked about leave it alike, and place the same. -/
theorem drawn_alike {t t' : Turn Headless}
    (ht : t ∈ overlay.frameTurns (Headless.rendererIn viewport?) now screen)
    (ht' : t' ∈ overlay'.frameTurns (Headless.rendererIn viewport?) now screen')
    (hname : t.name = t'.name) (hconcerns : t.name = name) :
    let drawn := t.drawn (Headless.rendererIn viewport?) (overlay.settings now)
    let drawn' := t'.drawn (Headless.rendererIn viewport?) (overlay'.settings now)
    drawn.stack.Like .isolation drawn'.stack ∧ drawn.report = drawn'.report := by
  have hstack := h.stack_of_turns hwf hwf' ht ht' hname hconcerns
  have hsettings : overlay.settings now = overlay'.settings now := by
    have hobscured : overlay.obscured = overlay'.obscured :=
      congrArg₂ Margin.mk (h.left : _ = _) (h.top : _ = _)
    unfold settings
    rw [h.enabled, hobscured]
  have hcanvas : t.canvas.BothSet screen'.settings t'.canvas :=
    ⟨(settings_of_mem_frameTurns viewport? ht).trans hscreen,
      settings_of_mem_frameTurns viewport? ht'⟩
  obtain ⟨hdrawn, hreport, -⟩ := (Headless.parallel screen'.settings viewport?).draw
    Sense.lawful_isolation (rfl : now = now) hstack hcanvas overlay'.enabled overlay'.obscured
  rw [hsettings]
  exact ⟨hdrawn, hreport⟩

/-- The same is placed in the stack that is asked about. -/
theorem forStack_eq :
    (overlay.draw (Headless.rendererIn viewport?) now screen).report.forStack name =
      (overlay'.draw (Headless.rendererIn viewport?) now screen').report.forStack name := by
  cases hs : overlay.registry.get? name with
  | none =>
    have hs' := (h.registry.get?_eq_none_iff name).mp hs
    rw [forStack_of_get?_eq_none _ hwf hs, forStack_of_get?_eq_none _ hwf' hs']
  | some stack =>
    obtain ⟨stack', hs'⟩ := h.registry.exists_get? hs
    obtain ⟨t, ht, hname, -, -⟩ :=
      exists_turn_forStack (Headless.rendererIn viewport?) hs now screen hwf
    obtain ⟨t', ht', hname', -, -⟩ :=
      exists_turn_forStack (Headless.rendererIn viewport?) hs' now screen' hwf'
    have hreport :=
      (h.drawn_alike viewport? hwf hwf' hscreen now ht ht' (hname.trans hname'.symm) hname).2
    have hforStack := forStack_draw _ hwf ht
    have hforStack' := forStack_draw _ hwf' ht'
    rw [hname] at hforStack
    rw [hname'] at hforStack'
    rw [hforStack, hforStack', hreport]

end Overlay.Like

end

/-- Frames of headless renderers with the same settings leave a stack alike. -/
theorem Sense.frames_isolation (name : String) :
    isolation.Frames (· = name) Headless.Draws Headless.SameSettings := by
  rintro overlay overlay' now _ _ _ screen screen' hwf hwf' h rfl ⟨viewport?, rfl, rfl⟩ hscreen
  refine ⟨⟨h.enabled, h.left, h.top, ?_⟩, ?_⟩
  · refine h.registry_draw hwf hwf' fun t ht t' ht' hname hconcerns => ?_
    exact (h.drawn_alike viewport? hwf hwf' hscreen now ht ht' hname hconcerns).1
  · calc (overlay.draw (Headless.rendererIn viewport?) now screen).canvas.renderer.settings
        = screen.settings := Overlay.settings_draw viewport? overlay now screen
      _ = screen'.settings := hscreen
      _ = (overlay'.draw (Headless.rendererIn viewport?) now screen').canvas.renderer.settings :=
        (Overlay.settings_draw viewport? overlay' now screen').symm

/-! ## Runs -/

/-- A step is like itself, if it is not a frame of another renderer than a headless one. -/
theorem Step.Like.headless {texture : TextureId → TextureId → Prop} {step : Step Headless}
    (hframe : ∀ R, step.operation = .draw R → ∃ viewport?, R = Headless.rendererIn viewport?) :
    step.Like (.faithful (· = ·) texture) Headless.Draws step := by
  refine .same (fun _ => rfl) (fun _ => rfl) (fun _ => rfl) fun R hR => ?_
  obtain ⟨viewport?, hviewport⟩ := hframe R hR
  exact ⟨viewport?, hviewport, hviewport⟩

namespace Session

variable {ρ : Type}

/-- The step is a submission to another stack than the one of this name. -/
def submitsElsewhere (s : Session ρ) (name : String) (step : Step ρ) : Bool :=
  match step.operation with
  | .submit _ request => decide (s.overlay.target request ≠ name)
  | _ => false

/-- What is left of a run without the submissions to other stacks than the one of this name. -/
def erase (name : String) (s : Session ρ) : List (Step ρ) → List (Step ρ)
  | [] => []
  | step :: steps =>
    if s.submitsElsewhere name step then erase name (s.step step) steps
    else step :: erase name (s.step step) steps

theorem erase_append (name : String) (s : Session ρ) (past future : List (Step ρ)) :
    s.erase name (past ++ future) = s.erase name past ++ (s.run past).erase name future := by
  induction past generalizing s with
  | nil => rfl
  | cons step past ih =>
    rw [List.cons_append, erase, erase, ih]
    split <;> rfl

/-- A session stays like one that is spared the submissions to stacks not asked about. -/
theorem Like.run_erase {sense : Sense} {draws : Renderer ρ → Renderer ρ → Prop}
    {screens : ρ → ρ → Prop} {name : String} {s s' : Session ρ}
    (h : s.Like sense (· = name) screens s') (hs : s.WellFormed) (hs' : s'.WellFormed)
    (hsense : sense.Lawful) (hframes : sense.Frames (· = name) draws screens)
    {steps : List (Step ρ)} (hsteps : ∀ step ∈ steps, step.Like sense draws step) :
    (s.run steps).Like sense (· = name) screens (s'.run (s.erase name steps)) := by
  induction steps generalizing s s' with
  | nil => exact h
  | cons step steps ih =>
    obtain ⟨hstep, hsteps⟩ := List.forall_mem_cons.mp hsteps
    have hwf := wellFormed_step s step hs
    rw [erase]
    split
    · rename_i herased
      -- only one of the sessions makes the step, which is to a stack not asked about
      refine ih ?_ hwf hs' hsteps
      obtain ⟨now, operation⟩ := step
      cases operation with
      | submit type request =>
        exact ⟨h.overlay.submit_left (of_decide_eq_true herased) now type, h.renderer⟩
      | _ => cases herased
    · rename_i hkept
      refine ih ?_ hwf (wellFormed_step s' step hs') hsteps
      refine h.step hs hs' hsense hframes hstep ?_
      intro type request hsubmit
      unfold submitsElsewhere at hkept
      rw [hsubmit] at hkept
      by_contra htarget
      exact hkept (decide_eq_true htarget)

/-- Stacks do not interfere. If the submissions to all other stacks are erased from a run with
headless frames, then at every point of the run the same is placed in a stack as before, it has as
many messages, questions about it have the same answers, and submissions to it the same results. -/
theorem stacks_isolated (screen : Headless) (name : String) (past future : List (Step Headless))
    (hframes : ∀ step ∈ past, ∀ R, step.operation = .draw R →
      ∃ viewport?, R = Headless.rendererIn viewport?) :
    let s := (start screen).run past
    let kept := (start screen).erase name past
    let s' := (start screen).run kept
    (start screen).erase name (past ++ future) = kept ++ s.erase name future ∧
      (∀ viewport? now,
        (s.overlay.draw (Headless.rendererIn viewport?) now s.renderer).report.forStack name =
          (s'.overlay.draw (Headless.rendererIn viewport?) now s'.renderer).report.forStack
            name) ∧
      s.overlay.messageCount? name = s'.overlay.messageCount? name ∧
      (∀ now type text,
        s.overlay.hasMessage now name type text = s'.overlay.hasMessage now name type text) ∧
      ∀ now type request, s.overlay.target request = name →
        s'.overlay.target request = name ∧
          (s.overlay.submit now type request).value.2 =
            (s'.overlay.submit now type request).value.2 := by
  intro s kept s'
  have hwf : s.WellFormed := wellFormed_run (wellFormed_start screen) past
  have hwf' : s'.WellFormed := wellFormed_run (wellFormed_start screen) kept
  have hstart : (start screen).Like .isolation (· = name) Headless.SameSettings (start screen) :=
    .start Sense.lawful_isolation rfl
  have hlike : s.Like .isolation (· = name) Headless.SameSettings s' :=
    hstart.run_erase (wellFormed_start screen) (wellFormed_start screen) Sense.lawful_isolation
      (Sense.frames_isolation name) fun step hstep => .headless (hframes step hstep)
  refine ⟨erase_append name (start screen) past future, ?_, ?_, ?_, ?_⟩
  · intro viewport? now
    exact hlike.overlay.forStack_eq viewport? hwf hwf' hlike.renderer now
  · exact hlike.overlay.messageCount?_eq rfl
  · intro now type text
    exact hlike.overlay.hasMessage_eq hwf hwf' Sense.lawful_isolation rfl rfl type text
  · intro now type request htarget
    exact ⟨(hlike.overlay.target_eq request).symm.trans htarget,
      hlike.overlay.submission_eq hwf hwf' Sense.lawful_isolation rfl type htarget⟩

/-- A stack in a corner is registered, a message goes to the default stack and one to the corner,
and two frames are drawn, the second in a viewport that was set for it. -/
def cornerSteps : List (Step Headless) :=
  [⟨0, .register (StackLayout.named "corner")⟩,
    ⟨0, .submit .typeless { text := "Saved", duration := 1000, color := Color.cyan }⟩,
    ⟨0, .submit .typeless
      { text := "Disk is full", duration := 2000, color := Color.red, stack := "corner" }⟩,
    ⟨50, .draw Headless.renderer⟩,
    ⟨100, .draw (Headless.rendererIn (some ⟨Binary.ofNat 320, Binary.ofNat 240⟩))⟩]

/-- Without the message of the default stack, the next frame shows the corner as before. -/
theorem corner_shown_alone :
    let screen : Headless := { viewport := ⟨Binary.ofNat 640, Binary.ofNat 480⟩ }
    let kept := (start screen).erase "corner" cornerSteps
    let s := (start screen).run cornerSteps
    let s' := (start screen).run kept
    kept.length = 4 ∧
      (s.overlay.draw (Headless.rendererIn none) 900 s.renderer).report.forStack "corner" =
        (s'.overlay.draw (Headless.rendererIn none) 900 s'.renderer).report.forStack "corner" := by
  intro screen
  have hframes : ∀ step ∈ cornerSteps, ∀ R, step.operation = .draw R →
      ∃ viewport?, R = Headless.rendererIn viewport? := by
    unfold cornerSteps
    simp only [List.forall_mem_cons, List.not_mem_nil, false_implies, implies_true, and_true]
    refine ⟨?_, ?_, ?_, ?_, ?_⟩
    · intro R hR
      cases hR
    · intro R hR
      cases hR
    · intro R hR
      cases hR
    · intro R hR
      cases hR
      exact ⟨none, rfl⟩
    · intro R hR
      cases hR
      exact ⟨_, rfl⟩
  exact ⟨rfl, (stacks_isolated screen "corner" cornerSteps [] hframes).2.1 none 900⟩

end Session

end OnScreen
