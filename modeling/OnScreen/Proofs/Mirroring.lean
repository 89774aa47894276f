import OnScreen.Proofs.Drawings
import OnScreen.Proofs.Parallel
import OnScreen.Proofs.Textures

/-!
# Runs that mirror each other

Two runs whose frames are drawn by renderers that answer alike show the same all along, up to the
readings of the clock and the textures that the renderers give out. The textures that wait for the
next frame to destroy them correspond too, but for some that one of the runs may owe to its past.

Results:
* `Renderer.Parallel.turns`, `Renderer.Parallel.frame`: overlays that are alike are drawn alike.
* `Canvas.CallsLike`, `Renderer.Parallel.recorded`: the calls of the renderers.
* `Overlay.Like.sameAnswers`: overlays that are alike answer all questions alike.
* `Session.Mirrors`: what is kept along the runs.
* `Session.Mirrors.step`, `Session.Mirrors.draw`: an operation, and a frame, after which nothing is
  owed.
* `Session.Mirrors.run`, `Session.Mirrors.frames`: corresponding runs mirror each other if their
  renderers do, and then the next frames show the same.
-/

namespace OnScreen

variable {ρ ρ' : Type}

/-! ## Frames -/

/-- Of lists that correspond, elements with the same name correspond, if no name occurs twice. -/
theorem forall₂_of_mem {α β γ : Type} {r : α → β → Prop} {f : α → γ} {g : β → γ} {as : List α}
    {bs : List β} (h : List.Forall₂ r as bs) (hname : ∀ a b, r a b → f a = g b)
    (hnodup : (bs.map g).Nodup) {a : α} {b : β} (ha : a ∈ as) (hb : b ∈ bs) (hab : f a = g b) :
    r a b := by
  induction h with
  | nil => cases ha
  | @cons a₀ b₀ as bs hr hrest ih =>
    rw [List.map_cons, List.nodup_cons] at hnodup
    have hrests : as.map f = bs.map g := by
      rw [← List.forall₂_eq_eq_eq, List.forall₂_map_left_iff, List.forall₂_map_right_iff]
      exact hrest.imp hname
    rcases List.mem_cons.mp ha with rfl | ha <;> rcases List.mem_cons.mp hb with rfl | hb
    · exact hr
    · exact absurd (List.mem_map.mpr ⟨b, hb, hab.symm.trans (hname _ _ hr)⟩) hnodup.1
    · refine absurd ?_ hnodup.1
      rw [← hrests]
      exact List.mem_map.mpr ⟨a, ha, hab⟩
    · exact ih hnodup.2 ha hb

/-- In a faithful sense, the margins are the same. -/
theorem Overlay.Like.obscured_eq {reading : Reading → Reading → Prop}
    {texture : TextureId → TextureId → Prop} {overlay overlay' : Overlay}
    (h : overlay.Like (.faithful reading texture) (fun _ => True) overlay') :
    overlay.obscured = overlay'.obscured :=
  congrArg₂ Margin.mk (h.left : _ = _) (h.top : _ = _)

namespace Renderer.Parallel

variable {R : Renderer ρ} {R' : Renderer ρ'} {texture : TextureId → TextureId → Prop}
  {closed opened : Canvas ρ → Canvas ρ' → Prop} (h : R.Parallel R' texture closed opened)
  {reading : Reading → Reading → Prop} (hsense : (Sense.faithful reading texture).Lawful)
  {now now' : Reading} (hnow : reading now now')

include h hsense hnow

/-- Stacks that are alike, one by one and under the same names, are drawn alike one after the
other. -/
theorem turns (drawing : Bool) (obscured : Margin) {canvas : Canvas ρ} {canvas' : Canvas ρ'}
    (hcanvas : closed canvas canvas') {entries entries' : List (String × Stack)}
    (hentries : List.Forall₂
      (fun e e' => e.1 = e'.1 ∧ e.2.Like (.faithful reading texture) e'.2) entries entries') :
    closed (canvasAfter R ⟨now, drawing, obscured⟩ canvas entries)
        (canvasAfter R' ⟨now', drawing, obscured⟩ canvas' entries') ∧
      List.Forall₂
        (fun t t' => t.name = t'.name ∧
          (t.drawn R ⟨now, drawing, obscured⟩).stack.Like (.faithful reading texture)
            (t'.drawn R' ⟨now', drawing, obscured⟩).stack ∧
          (t.drawn R ⟨now, drawing, obscured⟩).report =
            (t'.drawn R' ⟨now', drawing, obscured⟩).report)
        (OnScreen.turns R ⟨now, drawing, obscured⟩ canvas entries)
        (OnScreen.turns R' ⟨now', drawing, obscured⟩ canvas' entries') := by
  induction hentries generalizing canvas canvas' with
  | nil => exact ⟨hcanvas, .nil⟩
  | cons he _ ih =>
    obtain ⟨hname, hstack⟩ := he
    obtain ⟨hdrawn, hreport, hafter⟩ := h.draw hsense hnow hstack hcanvas drawing obscured
    obtain ⟨hlast, hturns⟩ := ih hafter
    exact ⟨hlast, .cons ⟨hname, hdrawn, hreport⟩ hturns⟩

/-- Overlays that are alike are drawn alike: the reports are the same, the canvases correspond, and
what is left of the overlays is alike. -/
theorem frame {overlay overlay' : Overlay}
    (hlike : overlay.Like (.faithful reading texture) (fun _ => True) overlay')
    (hwf : overlay.registry.WellFormed) (hwf' : overlay'.registry.WellFormed) {renderer : ρ}
    {renderer' : ρ'}
    (hstart : closed (overlay.startCanvas R renderer) (overlay'.startCanvas R' renderer')) :
    (overlay.draw R now renderer).report = (overlay'.draw R' now' renderer').report ∧
      closed (overlay.draw R now renderer).canvas (overlay'.draw R' now' renderer').canvas ∧
      (overlay.draw R now renderer).overlay.Like (.faithful reading texture) (fun _ => True)
        (overlay'.draw R' now' renderer').overlay := by
  have hsettings (now : Reading) :
      overlay'.settings now = (⟨now, overlay.enabled, overlay.obscured⟩ : FrameSettings) := by
    unfold Overlay.settings
    rw [hlike.enabled, hlike.obscured_eq]
  have hentries : List.Forall₂
      (fun e e' => e.1 = e'.1 ∧ e.2.Like (.faithful reading texture) e'.2)
      overlay.registry.entries overlay'.registry.entries :=
    (hlike.registry.forall₂_entries hwf hwf').imp fun _ _ he => ⟨he.1, he.2 trivial⟩
  obtain ⟨hcanvas, hturns⟩ :=
    h.turns hsense hnow overlay.enabled overlay.obscured hstart hentries
  have hframe : overlay'.frameTurns R' now' renderer' =
      OnScreen.turns R' ⟨now', overlay.enabled, overlay.obscured⟩
        (overlay'.startCanvas R' renderer') overlay'.registry.entries := by
    unfold Overlay.frameTurns
    rw [hsettings]
  have hnodup : ((overlay'.frameTurns R' now' renderer').map Turn.name).Nodup := by
    have hnames := hwf'.nodup_names
    rw [← map_turns R' (overlay'.settings now') (overlay'.startCanvas R' renderer')
      overlay'.registry.entries, List.map_map] at hnames
    exact hnames
  have hreports : (overlay.frameTurns R now renderer).map
        (fun t => (t.drawn R (overlay.settings now)).report) =
      (overlay'.frameTurns R' now' renderer').map
        fun t => (t.drawn R' (overlay'.settings now')).report := by
    rw [← List.forall₂_eq_eq_eq, List.forall₂_map_left_iff, List.forall₂_map_right_iff, hframe,
      hsettings]
    exact hturns.imp fun _ _ ht => ht.2.2
  refine ⟨?_, ?_, ⟨hlike.enabled, hlike.left, hlike.top, ?_⟩⟩
  · have hplacements := congrArg (List.flatMap FrameReport.placements) hreports
    have hpruned := congrArg (fun reports => (reports.map FrameReport.pruned).sum) hreports
    rw [List.flatMap_map, List.flatMap_map] at hplacements
    rw [List.map_map, List.map_map] at hpruned
    rw [(overlay.draw_eq R now renderer).1, (overlay'.draw_eq R' now' renderer').1]
    exact congrArg₂ FrameReport.mk hplacements hpruned
  · rw [Overlay.draw_canvas, Overlay.draw_canvas, hsettings]
    exact hcanvas
  · refine hlike.registry_draw hwf hwf' fun t ht t' ht' hname _ => ?_
    rw [hsettings]
    rw [← hframe] at hturns
    exact (forall₂_of_mem hturns (fun _ _ ht => ht.1) hnodup ht ht' hname).2.1

end Renderer.Parallel

/-! ## Calls -/

/-- Two calls are the same but for the textures in them, which correspond. -/
inductive Call.Like (texture : TextureId → TextureId → Prop) : Call → Call → Prop
  | beginSurface (name : String) (opacity : Single) :
    Like texture (.beginSurface name opacity) (.beginSurface name opacity)
  | upload (icon : Icon) : Like texture (.upload icon) (.upload icon)
  | drawImage {t t' : TextureId} (h : texture t t') (size : Size Single) :
    Like texture (.drawImage t size) (.drawImage t' size)
  | drawText (text : String) (color : Rgba) (scale : Single) :
    Like texture (.drawText text color scale) (.drawText text color scale)
  | placeSurface (name : String) (position : Point Single) :
    Like texture (.placeSurface name position) (.placeSurface name position)
  | endSurface : Like texture .endSurface .endSurface
  | destroy {t t' : TextureId} (h : texture t t') : Like texture (.destroy t) (.destroy t')

/-- On one canvas some calls were made first. The others, and the answers to them, correspond to the
calls that were made on the other canvas. -/
def Canvas.CallsLike (texture : TextureId → TextureId → Prop)
    (before : List (Call × Option TextureId)) (canvas : Canvas ρ) (canvas' : Canvas ρ') : Prop :=
  ∃ calls, canvas.calls = before ++ calls ∧
    List.Forall₂ (fun c c' => c.1.Like texture c'.1 ∧ Option.Rel texture c.2 c'.2) calls
      canvas'.calls

namespace Canvas.CallsLike

variable {texture : TextureId → TextureId → Prop} {before : List (Call × Option TextureId)}
  {canvas : Canvas ρ} {canvas' : Canvas ρ'} (h : canvas.CallsLike texture before canvas')

include h

theorem report (event : Event) :
    (canvas.report event).CallsLike texture before (canvas'.report event) := by
  unfold CallsLike
  rw [calls_report, calls_report]
  exact h

theorem perform (R : Renderer ρ) (R' : Renderer ρ') {call call' : Call}
    (hcall : call.Like texture call') (hupload : call.isUpload = false) :
    (canvas.perform R call).CallsLike texture before (canvas'.perform R' call') := by
  have hupload' : call'.isUpload = false := by
    cases hcall <;> exact hupload
  obtain ⟨calls, hcalls, hlike⟩ := h
  refine ⟨calls ++ [(call, none)], ?_, ?_⟩
  · rw [calls_perform R canvas hupload, hcalls, List.append_assoc]
  · rw [calls_perform R' canvas' hupload']
    exact List.rel_append hlike (.cons ⟨hcall, .none⟩ .nil)

theorem upload (R : Renderer ρ) (R' : Renderer ρ') (icon : Icon)
    (hanswer : Option.Rel texture (canvas.upload R icon).2 (canvas'.upload R' icon).2) :
    (canvas.upload R icon).1.CallsLike texture before (canvas'.upload R' icon).1 := by
  obtain ⟨calls, hcalls, hlike⟩ := h
  refine ⟨calls ++ [(.upload icon, (canvas.upload R icon).2)], ?_, ?_⟩
  · rw [calls_upload, hcalls, List.append_assoc]
  · rw [calls_upload]
    exact List.rel_append hlike (.cons ⟨.upload icon, hanswer⟩ .nil)

end Canvas.CallsLike

/-- Renderers that are used alike are called alike. -/
theorem Renderer.Parallel.recorded {R : Renderer ρ} {R' : Renderer ρ'}
    {texture : TextureId → TextureId → Prop} {closed opened : Canvas ρ → Canvas ρ' → Prop}
    (h : R.Parallel R' texture closed opened) (before : List (Call × Option TextureId)) :
    R.Parallel R' texture (fun c c' => closed c c' ∧ c.CallsLike texture before c')
      (fun c c' => opened c c' ∧ c.CallsLike texture before c') where
  viewport hc := h.viewport hc.1
  framebufferScale hc := h.framebufferScale hc.1
  report hc event := ⟨h.report hc.1 event, hc.2.report event⟩
  destroy hc ht := ⟨h.destroy hc.1 ht, hc.2.perform R R' (.destroy ht) rfl⟩
  begin hc name opacity :=
    ⟨h.begin hc.1 name opacity, hc.2.perform R R' (.beginSurface name opacity) rfl⟩
  upload hc icon :=
    have hupload := h.upload hc.1 icon
    ⟨⟨hupload.1, hc.2.upload R R' icon hupload.2⟩, hupload.2⟩
  reportOpened hc event := ⟨h.reportOpened hc.1 event, hc.2.report event⟩
  drawImage hc ht size := ⟨h.drawImage hc.1 ht size, hc.2.perform R R' (.drawImage ht size) rfl⟩
  drawText hc text color scale :=
    ⟨h.drawText hc.1 text color scale, hc.2.perform R R' (.drawText text color scale) rfl⟩
  measure hc := h.measure hc.1
  place hc name position :=
    ⟨h.place hc.1 name position, hc.2.perform R R' (.placeSurface name position) rfl⟩
  close hc := ⟨h.close hc.1, hc.2.perform R R' .endSurface rfl⟩

/-! ## What is alike has the same answers -/

/-- A stack is registered exactly if nothing is found under its name. -/
theorem Registry.register_eq_isNone (registry : Registry) (layout : StackLayout) :
    (registry.register layout).value.2 = (registry.get? layout.name).isNone := by
  rcases register_cases registry layout with hr | ⟨-, hfree, hr⟩
  · have hafter := get?_register_eq registry layout layout.name
    rw [hr] at hafter
    rw [hr]
    cases hs : registry.get? layout.name with
    | some stack => rfl
    | none =>
      rw [hs, if_pos ⟨rfl, rfl⟩] at hafter
      cases hafter
  · rw [hr, hfree]
    rfl

/-- Stacks of corresponding layouts are registered, or not, in both registries. -/
theorem Registry.Like.registration_eq {sense : Sense} {concerns : String → Prop}
    {registry registry' : Registry} (h : registry.Like sense concerns registry')
    (hsense : sense.Lawful) {layout layout' : StackLayout} (hlayout : sense.layout layout layout') :
    (registry.register layout).value.2 = (registry'.register layout').value.2 := by
  rw [register_eq_isNone, register_eq_isNone, ← hsense.name hlayout, ← Option.not_isSome,
    ← Option.not_isSome, h.registered]

/-- Two overlays give the same answers: the names of their stacks are the same, and so are the
answers to every question and the results of every submission and registration. -/
structure Overlay.SameAnswers (overlay overlay' : Overlay) : Prop where
  names : overlay.registry.names = overlay'.registry.names
  messageCount? : ∀ name, overlay.messageCount? name = overlay'.messageCount? name
  hasMessage : ∀ now name type text,
    overlay.hasMessage now name type text = overlay'.hasMessage now name type text
  submission : ∀ now type request,
    (overlay.submit now type request).value.2 = (overlay'.submit now type request).value.2
  registration : ∀ layout, (overlay.register layout).value.2 = (overlay'.register layout).value.2

/-- Overlays that are alike give the same answers, if readings and layouts are like themselves. -/
theorem Overlay.Like.sameAnswers {sense : Sense} {overlay overlay' : Overlay}
    (h : overlay.Like sense (fun _ => True) overlay') (hwf : overlay.registry.WellFormed)
    (hwf' : overlay'.registry.WellFormed) (hsense : sense.Lawful)
    (hreading : ∀ now, sense.reading now now) (hlayout : ∀ layout, sense.layout layout layout) :
    overlay.SameAnswers overlay' where
  names := h.registry.names_eq hwf.unnamed hwf'.unnamed
  messageCount? _ := h.messageCount?_eq trivial
  hasMessage now _ type text :=
    h.hasMessage_eq hwf hwf' hsense (hreading now) trivial type text
  submission now type _ := h.submission_eq hwf hwf' hsense (hreading now) type trivial
  registration layout := h.registry.registration_eq hsense (hlayout layout)

/-! ## Textures that wait -/

section

variable {reading : Reading → Reading → Prop} {texture : TextureId → TextureId → Prop}

/-- The messages of registries that are alike hold textures that correspond. -/
theorem Registry.Like.textures {registry registry' : Registry}
    (h : registry.Like (.faithful reading texture) (fun _ => True) registry')
    (hwf : registry.WellFormed) (hwf' : registry'.WellFormed) :
    List.Forall₂ texture registry.textures registry'.textures :=
  Renderer.Parallel.forall₂_textureIds (h.messages hwf hwf')

end

/-! ## Runs -/

/-- The step is a frame. -/
def Step.isFrame (step : Step ρ) : Bool :=
  match step.operation with
  | .draw _ => true
  | _ => false

/-- What is still owed after some steps: a frame settles all of it. -/
def owedAfter (owed : List TextureId) (steps : List (Step ρ)) : List TextureId :=
  if steps.any Step.isFrame then [] else owed

theorem owedAfter_cons (owed : List TextureId) (x : Step ρ) (steps : List (Step ρ)) :
    owedAfter owed (x :: steps) = owedAfter (owedAfter owed [x]) steps := by
  unfold owedAfter
  rw [List.any_cons, List.any_cons, List.any_nil, Bool.or_false]
  cases x.isFrame <;> cases steps.any Step.isFrame <;> rfl

/-- Renderers that correspond answer alike, from states that correspond to states that correspond;
one of them may have to destroy textures first, if these are owed. -/
def RenderersMirror (texture : TextureId → TextureId → Prop)
    (draws : Renderer ρ → Renderer ρ' → Prop) (screens : ρ → ρ' → Prop)
    (owes : List TextureId → Prop) : Prop :=
  ∀ {R R' renderer renderer' owed}, draws R R' → screens renderer renderer' → owes owed →
    ∃ closed opened, R.Parallel R' texture closed opened ∧
      closed (({ renderer := renderer } : Canvas ρ).destroyAll R owed) { renderer := renderer' } ∧
      ∀ {canvas canvas'}, closed canvas canvas' → screens canvas.renderer canvas'.renderer

namespace Session

/-- Two sessions mirror each other: their overlays are alike, the states of their renderers
correspond, and so do the textures that wait to be destroyed, behind those that the first session
owes. -/
structure Mirrors (reading : Reading → Reading → Prop) (texture : TextureId → TextureId → Prop)
    (screens : ρ → ρ' → Prop) (owed : List TextureId) (s : Session ρ) (s' : Session ρ') : Prop
    extends s.Like (.faithful reading texture) (fun _ => True) screens s' where
  orphans : ∃ waiting, s.overlay.registry.orphans = owed ++ waiting ∧
    List.Forall₂ texture waiting s'.overlay.registry.orphans

namespace Mirrors

variable {reading : Reading → Reading → Prop} {texture : TextureId → TextureId → Prop}
  {draws : Renderer ρ → Renderer ρ' → Prop} {screens : ρ → ρ' → Prop}
  {owes : List TextureId → Prop} {owed : List TextureId} {s : Session ρ} {s' : Session ρ'}
  (h : s.Mirrors reading texture screens owed s') (hs : s.WellFormed) (hs' : s'.WellFormed)
  (hsense : (Sense.faithful reading texture).Lawful)

include h hs hs' hsense

/-- A frame shows the same in both sessions, and settles what is owed. -/
theorem draw {R : Renderer ρ} {R' : Renderer ρ'} {closed opened : Canvas ρ → Canvas ρ' → Prop}
    (hparallel : R.Parallel R' texture closed opened)
    (hcanvas : closed (({ renderer := s.renderer } : Canvas ρ).destroyAll R owed)
      { renderer := s'.renderer }) {now now' : Reading} (hnow : reading now now') :
    (s.overlay.draw R now s.renderer).report = (s'.overlay.draw R' now' s'.renderer).report ∧
      closed (s.overlay.draw R now s.renderer).canvas
        (s'.overlay.draw R' now' s'.renderer).canvas ∧
      (s.overlay.draw R now s.renderer).overlay.Like (.faithful reading texture) (fun _ => True)
        (s'.overlay.draw R' now' s'.renderer).overlay := by
  refine hparallel.frame hsense hnow h.overlay hs hs' ?_
  obtain ⟨waiting, horphans, hwaiting⟩ := h.orphans
  unfold Overlay.startCanvas
  rw [horphans]
  unfold Canvas.destroyAll at hcanvas ⊢
  rw [List.foldl_append]
  exact hparallel.destroyAll hcanvas hwaiting

/-- Corresponding steps keep sessions that mirror each other so. -/
theorem step (hrenderers : RenderersMirror texture draws screens owes) (howed : owes owed)
    {x : Step ρ} {x' : Step ρ'} (hx : x.Like (.faithful reading texture) draws x') :
    (s.step x).Mirrors reading texture screens (owedAfter owed [x]) (s'.step x') := by
  obtain ⟨now, operation⟩ := x
  obtain ⟨now', operation'⟩ := x'
  obtain ⟨hnow, hoperation⟩ := hx
  obtain ⟨waiting, horphans, hwaiting⟩ := h.orphans
  cases hoperation with
  | submit type request =>
    refine ⟨⟨h.overlay.submit hs hs' hsense hnow type trivial, h.renderer⟩, waiting, ?_, ?_⟩
    · exact (Overlay.orphans_submit s.overlay now type request).trans horphans
    · rw [show (s'.step ⟨now', .submit type request⟩).overlay.registry.orphans = _ from
        Overlay.orphans_submit s'.overlay now' type request]
      exact hwaiting
  | @register layout layout' hlayout =>
    refine ⟨⟨{ h.overlay with registry := h.overlay.registry.register hsense hlayout }, h.renderer⟩,
      waiting, ?_, ?_⟩
    · exact (Registry.orphans_register s.overlay.registry layout).trans horphans
    · rw [show (s'.step ⟨now', .register layout'⟩).overlay.registry.orphans = _ from
        Registry.orphans_register s'.overlay.registry layout']
      exact hwaiting
  | enable on => exact ⟨⟨{ h.overlay with enabled := rfl }, h.renderer⟩, h.orphans⟩
  | obscureLeft hpixels => exact ⟨⟨{ h.overlay with left := hpixels }, h.renderer⟩, h.orphans⟩
  | obscureTop hpixels => exact ⟨⟨{ h.overlay with top := hpixels }, h.renderer⟩, h.orphans⟩
  | clear =>
    have hcleared := h.overlay.registry.textures hs hs'
    refine ⟨⟨{ h.overlay with registry := h.overlay.registry.clear }, h.renderer⟩,
      waiting ++ s.overlay.registry.textures, ?_, List.rel_append hwaiting hcleared⟩
    show s.overlay.registry.orphans ++ s.overlay.registry.textures = _
    rw [horphans, List.append_assoc]
    rfl
  | draw hdraws =>
    obtain ⟨closed, opened, hparallel, hcanvas, hscreens⟩ :=
      hrenderers hdraws h.renderer howed
    obtain ⟨-, hafter, hoverlay⟩ := h.draw hs hs' hsense hparallel hcanvas hnow
    exact ⟨⟨hoverlay, hscreens hafter⟩, [], rfl, .nil⟩

/-- Corresponding runs keep sessions that mirror each other so. -/
theorem run (hrenderers : RenderersMirror texture draws screens owes) (hnone : owes [])
    (howed : owes owed) {steps : List (Step ρ)} {steps' : List (Step ρ')}
    (hsteps : List.Forall₂ (Step.Like (.faithful reading texture) draws) steps steps') :
    (s.run steps).Mirrors reading texture screens (owedAfter owed steps) (s'.run steps') := by
  induction hsteps generalizing s s' owed with
  | nil => exact h
  | @cons x x' steps steps' hx _ ih =>
    rw [owedAfter_cons]
    have howed' : owes (owedAfter owed [x]) := by
      unfold owedAfter
      split
      · exact hnone
      · exact howed
    exact ih (h.step hs hs' hsense hrenderers howed hx) (wellFormed_step s x hs)
      (wellFormed_step s' x' hs') howed'

/-- Whatever corresponding renderers draw next, the reports are the same, and beside the destruction
of what is owed, which comes first, the calls are. -/
theorem frames (hrenderers : RenderersMirror texture draws screens owes) (howed : owes owed)
    {R : Renderer ρ} {R' : Renderer ρ'} (hdraws : draws R R') {now now' : Reading}
    (hnow : reading now now') :
    let frame := s.overlay.draw R now s.renderer
    let frame' := s'.overlay.draw R' now' s'.renderer
    frame.report = frame'.report ∧ screens frame.canvas.renderer frame'.canvas.renderer ∧
      frame.canvas.CallsLike texture (owed.map destruction) frame'.canvas := by
  obtain ⟨closed, opened, hparallel, hcanvas, hscreens⟩ := hrenderers hdraws h.renderer howed
  have hcalls : (({ renderer := s.renderer } : Canvas ρ).destroyAll R owed).CallsLike texture
      (owed.map destruction) ({ renderer := s'.renderer } : Canvas ρ') :=
    ⟨[], by rw [Canvas.calls_destroyAll, List.append_nil]; rfl, .nil⟩
  obtain ⟨hreport, hafter, -⟩ :=
    h.draw hs hs' hsense (hparallel.recorded (owed.map destruction)) ⟨hcanvas, hcalls⟩ hnow
  exact ⟨hreport, hscreens hafter.1, hafter.2⟩

end Mirrors

end Session

end OnScreen
