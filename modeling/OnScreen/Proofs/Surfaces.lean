import OnScreen.Proofs.Drawings
import OnScreen.Proofs.Session

/-!
# The surfaces of a headless renderer

A headless renderer keeps a record of every surface that is closed. A frame closes every surface
that it opens, and the records are what the report of the frame says of the placements.

Results:
* `Headless.settings_perform`: no call changes the settings of a headless renderer.
* `Canvas.Opened`: what holds while a surface is open, kept by every call for the message.
* `Canvas.Shows`: drawings and the surfaces that are kept of them; `Overlay.draw_shows`.
* `Overlay.DrawnBy`: drawings that account for a frame; `Overlay.drawnBy_drawings`.
* `Session.report_matches_renderer`: the report and the renderer see the same frame.
-/

namespace OnScreen

/-! ## Calls on a headless renderer -/

namespace Headless

/-- The settings of a headless renderer, without anything that calls change. -/
def settings (r : Headless) : Headless where
  viewport := r.viewport
  framebufferScale := r.framebufferScale
  glyphWidth := r.glyphWidth
  lineHeight := r.lineHeight
  failUploads := r.failUploads

/-- No call changes the settings. -/
theorem settings_perform (r : Headless) (call : Call) :
    (r.perform call).renderer.settings = r.settings := by
  cases call with
  | beginSurface name opacity => rfl
  | upload icon =>
    unfold perform upload
    dsimp only
    split <;> rfl
  | drawImage texture size => rfl
  | drawText text color scale => rfl
  | placeSurface name position =>
    unfold perform placeSurface
    cases r.current with
    | none => rfl
    | some surface =>
      dsimp only
      split <;> rfl
  | endSurface =>
    unfold perform endSurface
    cases r.current <;> rfl
  | destroy texture =>
    unfold perform destroy
    dsimp only
    split <;> rfl

/-- An upload has nothing to do with surfaces. -/
theorem upload_keeps_surfaces (r : Headless) (icon : Icon) :
    (r.upload icon).renderer.current = r.current ∧
      (r.upload icon).renderer.surfaces = r.surfaces ∧
      (r.upload icon).events = [] := by
  unfold upload
  dsimp only
  split <;> exact ⟨rfl, rfl, rfl⟩

end Headless

/-- The event tells of a surface that was not closed, or not open when it was to be placed. -/
def Event.isUnbalanced : Event → Bool
  | .surfaceNeverEnded _ | .surfaceNotOpen _ => true
  | _ => false

namespace Canvas

variable {ρ : Type}

/-- The events about surfaces that were reported on a canvas. -/
def unbalanced (canvas : Canvas ρ) : List Event :=
  (TraceEntry.events canvas.trace).filter Event.isUnbalanced

theorem unbalanced_report (canvas : Canvas ρ) {event : Event} (h : event.isUnbalanced = false) :
    (canvas.report event).unbalanced = canvas.unbalanced := by
  unfold unbalanced report TraceEntry.events
  rw [List.filterMap_append, List.filter_append]
  show _ ++ List.filter Event.isUnbalanced [event] = _
  rw [List.filter_cons, h]
  exact List.append_nil _

theorem unbalanced_perform (R : Renderer ρ) (canvas : Canvas ρ) (call : Call) :
    (canvas.perform R call).unbalanced =
      canvas.unbalanced ++
        (R.perform canvas.renderer call).events.filter Event.isUnbalanced := by
  have hevents (events : List Event) : TraceEntry.events (events.map .event) = events := by
    unfold TraceEntry.events
    rw [List.filterMap_map]
    exact List.filterMap_some
  unfold unbalanced perform
  dsimp only
  rw [← List.filter_append]
  refine congrArg _ ?_
  unfold TraceEntry.events at hevents ⊢
  rw [List.filterMap_append]
  refine congrArg (_ ++ ·) (Eq.trans ?_ (hevents _))
  exact (R.perform canvas.renderer call).filterMap_entries fun _ => rfl

/-! ## An open surface -/

/-- Since the first canvas a surface was opened, and is still open. -/
structure Opened (canvas canvas' : Canvas Headless) (surface : Surface) : Prop where
  current : canvas'.renderer.current = some surface
  surfaces : canvas'.renderer.surfaces = canvas.renderer.surfaces
  settings : canvas'.renderer.settings = canvas.renderer.settings
  balanced : canvas.renderer.current = none → canvas'.unbalanced = canvas.unbalanced

namespace Opened

variable {canvas canvas' : Canvas Headless} {surface : Surface}

theorem begin (canvas : Canvas Headless) (name : String) (opacity : Single) :
    canvas.Opened (canvas.perform Headless.renderer (.beginSurface name opacity))
      { name := name, opacity := opacity } where
  current := rfl
  surfaces := rfl
  settings := Headless.settings_perform canvas.renderer _
  balanced h := by
    have hevents : (Headless.renderer.perform canvas.renderer
        (.beginSurface name opacity)).events = [] := by
      show (canvas.renderer.beginSurface name opacity).events = []
      unfold Headless.beginSurface
      rw [h]
    rw [unbalanced_perform, hevents]
    exact List.append_nil _

theorem report (h : canvas.Opened canvas' surface) {event : Event}
    (he : event.isUnbalanced = false) : canvas.Opened (canvas'.report event) surface where
  current := h.current
  surfaces := h.surfaces
  settings := h.settings
  balanced hnone := (unbalanced_report canvas' he).trans (h.balanced hnone)

/-- A call that reports nothing about surfaces and closes none changes only the open surface. -/
theorem perform (h : canvas.Opened canvas' surface) {call : Call} {surface' : Surface}
    (hcurrent : (canvas'.renderer.perform call).renderer.current = some surface')
    (hsurfaces : (canvas'.renderer.perform call).renderer.surfaces = canvas'.renderer.surfaces)
    (hevents : (canvas'.renderer.perform call).events = []) :
    canvas.Opened (canvas'.perform Headless.renderer call) surface' where
  current := hcurrent
  surfaces := hsurfaces.trans h.surfaces
  settings := (Headless.settings_perform canvas'.renderer call).trans h.settings
  balanced hnone := by
    have hnothing : (Headless.renderer.perform canvas'.renderer call).events = [] := hevents
    rw [unbalanced_perform, hnothing, h.balanced hnone]
    exact List.append_nil _

theorem upload (h : canvas.Opened canvas' surface) (icon : Icon) :
    canvas.Opened (canvas'.upload Headless.renderer icon).1 surface := by
  obtain ⟨hcurrent, hsurfaces, hevents⟩ :=
    canvas'.renderer.upload_keeps_surfaces icon
  exact h.perform (hcurrent.trans h.current) hsurfaces hevents

/-- The icon changes nothing about the surface until it is drawn. -/
theorem uploadIcon (h : canvas.Opened canvas' surface) (m : Message) :
    canvas.Opened (uploadIcon Headless.renderer canvas' m).1 surface := by
  rcases uploadIcon_cases Headless.renderer canvas' m with
    ⟨-, heq⟩ | ⟨icon, -, ⟨t, -, heq⟩ | ⟨-, heq⟩⟩
  · rw [heq]
    exact h
  · rw [heq]
    exact h.upload icon
  · rw [heq]
    exact (h.upload icon).report rfl

/-- The image changes the size of the surface only. -/
theorem drawPicture (h : canvas.Opened canvas' surface) (m : Message) :
    ∃ size image, canvas.Opened (drawPicture Headless.renderer canvas' m)
      { surface with size := size, image := image } := by
  unfold OnScreen.drawPicture
  cases m.picture with
  | absent => exact ⟨surface.size, surface.image, h⟩
  | waiting icon => exact ⟨surface.size, surface.image, h⟩
  | uploaded texture =>
    refine ⟨(surface.grow texture.size.width texture.size.height).size, some texture.size,
      h.perform ?_ rfl rfl⟩
    show canvas'.renderer.current.map _ = _
    rw [h.current]
    rfl

theorem drawText (h : canvas.Opened canvas' surface) (text : String) (color : Rgba)
    (scale : Single) :
    ∃ size, canvas.Opened (canvas'.perform Headless.renderer (.drawText text color scale))
      { surface with size := size, text := surface.text ++ text, color := color } := by
  let size := canvas'.renderer.textSize text scale
  refine ⟨(surface.grow size.width size.height).size, h.perform ?_ rfl rfl⟩
  show canvas'.renderer.current.map _ = _
  rw [h.current]
  rfl

theorem place (h : canvas.Opened canvas' surface) (position : Point Single) :
    canvas.Opened (canvas'.perform Headless.renderer (.placeSurface surface.name position))
      { surface with position := position } := by
  have hplace : canvas'.renderer.placeSurface surface.name position =
      { renderer :=
          { canvas'.renderer with current := some { surface with position := position } } } := by
    unfold Headless.placeSurface
    rw [h.current]
    exact if_pos rfl
  refine h.perform ?_ ?_ ?_
  · exact congrArg (fun r => r.renderer.current) hplace
  · exact congrArg (fun r => r.renderer.surfaces) hplace
  · exact congrArg Response.events hplace

end Opened

end Canvas

/-! ## Drawings and records -/

/-- A surface that is the record of a drawing. -/
structure Drawing.RecordedAs (d : Drawing) (scale : Point Single) (surface : Surface) : Prop where
  name : surface.name = surfaceName d.placement.stack d.placement.index
  text : surface.text = d.placement.text
  opacity : surface.opacity = d.placement.opacity
  position : surface.position = d.placement.position
  color : surface.color = d.before.color.unpack
  size : d.placement.size = paddedSize surface.size scale

namespace Canvas

/-- Between the two canvases the drawings were made, and a record was kept of each. If no surface
was open before, none is open after, and nothing about surfaces was reported. -/
structure Shows (canvas canvas' : Canvas Headless) (drawings : List Drawing) : Prop where
  records : ∃ records : List Surface,
    canvas'.renderer.surfaces = canvas.renderer.surfaces ++ records ∧
      List.Forall₂ (fun d => d.RecordedAs canvas.renderer.framebufferScale) drawings records
  settings : canvas'.renderer.settings = canvas.renderer.settings
  balanced : canvas.renderer.current = none →
    canvas'.renderer.current = none ∧ canvas'.unbalanced = canvas.unbalanced

namespace Shows

variable {canvas canvas' canvas'' : Canvas Headless} {drawings drawings' : List Drawing}

theorem refl (canvas : Canvas Headless) : canvas.Shows canvas [] :=
  ⟨⟨[], (List.append_nil _).symm, .nil⟩, rfl, fun h => ⟨h, rfl⟩⟩

theorem trans (h : canvas.Shows canvas' drawings) (h' : canvas'.Shows canvas'' drawings') :
    canvas.Shows canvas'' (drawings ++ drawings') := by
  obtain ⟨records, hrecords, hdrawings⟩ := h.records
  obtain ⟨records', hrecords', hdrawings'⟩ := h'.records
  have hscale : canvas'.renderer.framebufferScale = canvas.renderer.framebufferScale :=
    (congrArg Headless.framebufferScale h.settings :)
  rw [hscale] at hdrawings'
  refine ⟨⟨records ++ records', ?_, ?_⟩, h'.settings.trans h.settings, ?_⟩
  · rw [hrecords', hrecords, List.append_assoc]
  · exact List.rel_append hdrawings hdrawings'
  · intro hnone
    obtain ⟨hclosed, hquiet⟩ := h.balanced hnone
    obtain ⟨hclosed', hquiet'⟩ := h'.balanced hclosed
    exact ⟨hclosed', hquiet'.trans hquiet⟩

theorem report (h : canvas.Shows canvas' drawings) {event : Event}
    (he : event.isUnbalanced = false) : canvas.Shows (canvas'.report event) drawings := by
  refine ⟨h.records, h.settings, fun hnone => ?_⟩
  rw [unbalanced_report canvas' he]
  exact h.balanced hnone

theorem destroy (canvas : Canvas Headless) (t : TextureId) :
    canvas.Shows (canvas.perform Headless.renderer (.destroy t)) [] := by
  have hdestroy : (canvas.renderer.destroy t).renderer.surfaces = canvas.renderer.surfaces ∧
      (canvas.renderer.destroy t).renderer.current = canvas.renderer.current ∧
      (canvas.renderer.destroy t).events.filter Event.isUnbalanced = [] := by
    unfold Headless.destroy
    split <;> exact ⟨rfl, rfl, rfl⟩
  obtain ⟨hsurfaces, hcurrent, hevents⟩ := hdestroy
  have hquiet : (Headless.renderer.perform canvas.renderer (.destroy t)).events.filter
      Event.isUnbalanced = [] := hevents
  refine ⟨⟨[], ?_, .nil⟩, Headless.settings_perform canvas.renderer _, fun hnone => ⟨?_, ?_⟩⟩
  · exact hsurfaces.trans (List.append_nil _).symm
  · exact hcurrent.trans hnone
  · rw [unbalanced_perform, hquiet]
    exact List.append_nil _

theorem destroyAll (canvas : Canvas Headless) (textures : List TextureId) :
    canvas.Shows (canvas.destroyAll Headless.renderer textures) [] := by
  induction textures generalizing canvas with
  | nil => exact refl canvas
  | cons t textures ih => exact (destroy canvas t).trans (ih _)

end Shows

/-- Closing the open surface keeps it. -/
theorem Opened.close {canvas canvas' : Canvas Headless} {surface : Surface}
    (h : canvas.Opened canvas' surface) {d : Drawing}
    (hd : d.RecordedAs canvas.renderer.framebufferScale surface) :
    canvas.Shows (canvas'.perform Headless.renderer .endSurface) [d] := by
  have hclose : canvas'.renderer.endSurface =
      { canvas'.renderer with
        current := none
        surfaces := canvas'.renderer.surfaces ++ [surface] } := by
    unfold Headless.endSurface
    rw [h.current]
  refine ⟨⟨[surface], ?_, .cons hd .nil⟩, ?_, fun hnone => ⟨?_, ?_⟩⟩
  · rw [← h.surfaces]
    exact congrArg Headless.surfaces hclose
  · exact (Headless.settings_perform canvas'.renderer .endSurface).trans h.settings
  · exact congrArg Headless.current hclose
  · rw [unbalanced_perform, h.balanced hnone]
    exact List.append_nil _

end Canvas

/-- Drawing a message keeps one surface, which is the record of the drawing. -/
theorem drawMessage_shows (layout : StackLayout) (viewport : Size Single) (now : Reading)
    (pass : Pass Headless) (m : Message) {p : Placement}
    (hp : (drawMessage Headless.renderer layout viewport now pass m).1.placements =
      pass.placements ++ [p]) :
    pass.canvas.Shows (drawMessage Headless.renderer layout viewport now pass m).1.canvas
      [⟨m, (drawMessage Headless.renderer layout viewport now pass m).2, p⟩] := by
  unfold drawMessage at hp ⊢
  dsimp only at hp ⊢
  have hbegin := Canvas.Opened.begin pass.canvas
    (surfaceName layout.name pass.placements.length) (m.opacity (m.timeLeft now))
  generalize pass.canvas.perform Headless.renderer (.beginSurface _ _) = canvas₁ at hbegin hp ⊢
  have hupload := hbegin.uploadIcon m
  have hfields := uploadIcon_fields Headless.renderer canvas₁ m
  generalize uploadIcon Headless.renderer canvas₁ m = uploaded at hupload hfields hp ⊢
  obtain ⟨canvas₂, m'⟩ := uploaded
  dsimp only at hupload hfields hp ⊢
  obtain ⟨_, _, hpicture⟩ := hupload.drawPicture m'
  obtain ⟨size, htext⟩ := hpicture.drawText m'.text m'.color.unpack m'.scale
  generalize (drawPicture Headless.renderer canvas₂ m').perform Headless.renderer
    (.drawText _ _ _) = canvas₃ at htext hp ⊢
  have hplacement := List.singleton_inj.mp (List.append_cancel_left hp)
  have hmeasured : Headless.renderer.surfaceSize canvas₃.renderer = size := by
    show canvas₃.renderer.surfaceSize = size
    unfold Headless.surfaceSize
    rw [htext.current]
  have hscale : Headless.renderer.framebufferScale canvas₃.renderer =
      pass.canvas.renderer.framebufferScale :=
    (congrArg Headless.framebufferScale htext.settings :)
  refine (htext.place _).close ?_
  rw [← hplacement, hfields]
  refine ⟨rfl, rfl, rfl, rfl, rfl, ?_⟩
  dsimp only
  rw [hmeasured, hscale]

/-! ## Frames -/

namespace Stack

/-- A visit keeps the record of its drawing, if it draws. -/
theorem visitMessage_shows (frame : FrameSettings) (layout : StackLayout) (viewport : Size Single)
    (pass : Pass Headless) (key : Key) (m : Message) :
    pass.canvas.Shows (visitMessage Headless.renderer frame layout viewport pass m).1.canvas
      (Visited.mk pass key m
        (visitMessage Headless.renderer frame layout viewport pass m)).drawings := by
  unfold Visited.drawings Visited.placed Visited.result
  dsimp only
  rcases visitMessage_cases Headless.renderer frame layout viewport pass m with
    ⟨-, event, he, hv⟩ | ⟨-, -, hv⟩ | ⟨-, -, hv⟩
  · rw [hv, List.drop_length]
    refine (Canvas.Shows.refl pass.canvas).report ?_
    rcases he with rfl | rfl <;> rfl
  · rw [hv, List.drop_length]
    exact Canvas.Shows.refl pass.canvas
  · obtain ⟨p, hplaced, -⟩ :=
      drawMessage_placements Headless.renderer layout viewport frame.now pass m
    have hshows := drawMessage_shows layout viewport frame.now pass m hplaced
    rw [hv]
    dsimp only
    rw [hplaced, List.drop_left]
    exact hshows

theorem stateAfter_shows (frame : FrameSettings) (layout : StackLayout) (viewport : Size Single)
    (pass : Pass Headless) (entries : List (Key × Message)) :
    pass.canvas.Shows
      (stateAfter (visitMessage Headless.renderer frame layout viewport) pass entries).canvas
      ((visits (visitMessage Headless.renderer frame layout viewport) pass entries).flatMap
        Visited.drawings) := by
  induction entries generalizing pass with
  | nil => exact Canvas.Shows.refl pass.canvas
  | cons e rest ih =>
    obtain ⟨key, m⟩ := e
    rw [visits, List.flatMap_cons]
    exact (visitMessage_shows frame layout viewport pass key m).trans (ih _)

theorem draw_shows (stack : Stack) (frame : FrameSettings) (canvas : Canvas Headless) :
    canvas.Shows (stack.draw Headless.renderer frame canvas).canvas
      (stack.drawings Headless.renderer frame canvas) := by
  have hcanvas : (stack.draw Headless.renderer frame canvas).canvas =
      (stack.walk stack.layout.reversed (stack.passVisit Headless.renderer frame canvas)
        (stack.passStart Headless.renderer frame canvas)).state.canvas.destroyAll Headless.renderer
      (textureIds (stack.walk stack.layout.reversed
        (stack.passVisit Headless.renderer frame canvas)
        (stack.passStart Headless.renderer frame canvas)).removed) := rfl
  rw [hcanvas, walk_state, ← List.append_nil (stack.drawings Headless.renderer frame canvas)]
  exact (stateAfter_shows frame _ _ (stack.passStart Headless.renderer frame canvas) _).trans
    (Canvas.Shows.destroyAll _ _)

end Stack

theorem canvasAfter_shows (settings : FrameSettings) (canvas : Canvas Headless)
    (entries : List (String × Stack)) :
    canvas.Shows (canvasAfter Headless.renderer settings canvas entries)
      ((turns Headless.renderer settings canvas entries).flatMap fun t =>
        t.stack.drawings Headless.renderer settings t.canvas) := by
  induction entries generalizing canvas with
  | nil => exact Canvas.Shows.refl canvas
  | cons e rest ih =>
    rw [turns, List.flatMap_cons]
    exact (e.2.draw_shows settings canvas).trans (ih _)

/-- The surfaces that are kept of a frame are the records of its drawings. -/
theorem Overlay.draw_shows (overlay : Overlay) (now : Reading) (screen : Headless) :
    Canvas.Shows { renderer := screen } (overlay.draw Headless.renderer now screen).canvas
      ((overlay.frameTurns Headless.renderer now screen).flatMap fun t =>
        t.stack.drawings Headless.renderer (overlay.settings now) t.canvas) := by
  rw [draw_canvas]
  exact (Canvas.Shows.destroyAll _ _).trans (canvasAfter_shows _ _ _)

/-! ## The report and the renderer -/

section

variable {ρ : Type} (R : Renderer ρ)

/-- The messages of a stack that are not stored any more after a frame, in the order of the
visits. -/
def Frame.removedFrom (frame : Frame ρ) (name : String) (stack : Stack) : List Message :=
  ((Stack.inOrder stack.layout.reversed stack.messages.entries).filter fun e =>
    (frame.overlay.registry.message? ⟨name, e.1⟩).isNone).map Prod.snd

/-- The drawings of every stack, which account for a frame: they are for the placements of the
report and for the pending messages, as they are before and after. With the destruction of the
textures that wait for the frame and of those that removed messages hold, they are all its
calls. -/
structure Overlay.DrawnBy (overlay : Overlay) (now : Reading) (frame : Frame ρ)
    (drawings : String → List Drawing) : Prop where
  calls : frame.canvas.calls =
    overlay.registry.orphans.map destruction ++
      overlay.registry.entries.flatMap fun e =>
        (drawings e.1).flatMap Drawing.calls ++
          (textureIds (frame.removedFrom e.1 e.2)).map destruction
  placements : (("" :: overlay.registry.names).flatMap drawings).map Drawing.placement =
    frame.report.placements
  forStack : ∀ name stack, overlay.registry.get? name = some stack →
    (drawings name).map Drawing.placement = frame.report.forStack name
  before : ∀ name stack, overlay.registry.get? name = some stack →
    (drawings name).map Drawing.before =
      if overlay.enabled then (stack.pendingEntries now).map Prod.snd else []
  after : ∀ name stack', frame.overlay.registry.get? name = some stack' →
    overlay.enabled = true →
      (drawings name).map Drawing.after = Stack.inOrder stack'.layout.reversed stack'.toList

namespace Overlay

/-- The drawings of a frame in the stack of a name. -/
def drawings (overlay : Overlay) (now : Reading) (renderer : ρ) (name : String) : List Drawing :=
  (overlay.frameTurns R now renderer).flatMap fun t =>
    if t.name = name then t.stack.drawings R (overlay.settings now) t.canvas else []

variable {overlay : Overlay} {now : Reading} {renderer : ρ}

theorem drawings_of_mem (h : overlay.registry.WellFormed) {t : Turn ρ}
    (ht : t ∈ overlay.frameTurns R now renderer) :
    overlay.drawings R now renderer t.name =
      t.stack.drawings R (overlay.settings now) t.canvas := by
  have hnodup : ((overlay.frameTurns R now renderer).map Turn.name).Nodup := by
    rw [map_name_frameTurns]
    exact h.nodup_names
  exact flatMap_ite_eq hnodup ht fun t => t.stack.drawings R (overlay.settings now) t.canvas

/-- The stacks' drawings, one after the other, are those of the turns. -/
theorem flatMap_drawings (h : overlay.registry.WellFormed) :
    ("" :: overlay.registry.names).flatMap (overlay.drawings R now renderer) =
      (overlay.frameTurns R now renderer).flatMap fun t =>
        t.stack.drawings R (overlay.settings now) t.canvas := by
  rw [← map_name_frameTurns R overlay now renderer, List.flatMap_map]
  exact List.flatMap_congr fun t ht => drawings_of_mem R h ht

/-- A frame removes what it does not find pending. -/
theorem removedFrom_draw (h : overlay.registry.WellFormed) {name : String} {stack : Stack}
    (hs : overlay.registry.get? name = some stack) :
    (overlay.draw R now renderer).removedFrom name stack = stack.dropped now := by
  unfold Frame.removedFrom Stack.dropped
  refine congrArg (List.map Prod.snd) (List.filter_congr fun e he => ?_)
  have hm : overlay.registry.message? ⟨name, e.1⟩ = some e.2 := by
    rw [Registry.message?_of_get? hs, OrderedMap.find?_eq_some_iff]
    exact (Stack.inOrder_perm _ _).mem_iff.mp he
  cases hp : e.2.isPending now with
  | false =>
    rw [message?_draw_of_not_pending R h hm hp]
    rfl
  | true =>
    obtain ⟨m', hm', -⟩ := message?_draw_of_pending R renderer h hm hp
    rw [hm']
    rfl

/-- The drawings of a frame account for it. -/
theorem drawnBy_drawings (h : overlay.registry.WellFormed) :
    overlay.DrawnBy now (overlay.draw R now renderer) (overlay.drawings R now renderer) where
  calls := by
    rw [draw_calls, ← map_turns R (overlay.settings now) (overlay.startCanvas R renderer)
      overlay.registry.entries, List.flatMap_map]
    refine congrArg _ (List.flatMap_congr fun t ht => ?_)
    have hs := (Registry.get?_iff_mem h.unnamed).mpr (mem_entries_of_mem_frameTurns R ht)
    dsimp only
    rw [drawings_of_mem R h ht, removedFrom_draw R h hs]
  placements := by
    rw [flatMap_drawings R h, List.map_flatMap, draw_placements]
    exact List.flatMap_congr fun t _ => Stack.map_placement_drawings R t.stack _ t.canvas
  forStack name stack hs := by
    obtain ⟨t, ht, rfl, rfl⟩ : ∃ t ∈ overlay.frameTurns R now renderer,
        t.name = name ∧ t.stack = stack :=
      exists_turn R ((Registry.get?_iff_mem h.unnamed).mp hs)
    rw [drawings_of_mem R h ht, forStack_draw R h ht]
    exact Stack.map_placement_drawings R t.stack _ t.canvas
  before name stack hs := by
    obtain ⟨t, ht, rfl, rfl⟩ : ∃ t ∈ overlay.frameTurns R now renderer,
        t.name = name ∧ t.stack = stack :=
      exists_turn R ((Registry.get?_iff_mem h.unnamed).mp hs)
    rw [drawings_of_mem R h ht]
    split
    · rename_i henabled
      exact Stack.map_before_drawings R t.stack t.canvas henabled
    · rename_i hdisabled
      have hoff : (overlay.settings now).drawing = false := eq_false_of_ne_true hdisabled
      rw [Stack.drawings_of_not_drawing R t.stack t.canvas hoff]
      rfl
  after name stack' hs' henabled := by
    obtain ⟨t, ht, rfl, rfl⟩ := (get?_draw R h).mp hs'
    rw [drawings_of_mem R h ht]
    exact Stack.map_after_drawings R t.stack t.canvas henabled

end Overlay

end

namespace Session

/-- The report and the renderer see the same frame: for each placement of the report, in order, the
calls that draw its message are made, and beside these only textures are destroyed. A headless
renderer, whatever it did before, keeps one surface for each placement, which is as the report says;
if it had no open surface it has none afterwards, and finds nothing wrong with any. -/
theorem report_matches_renderer {ρ : Type} (initial : ρ) (steps : List (Step ρ)) (now : Reading) :
    let overlay := ((start initial).run steps).overlay
    (∀ {σ : Type} (R : Renderer σ) (renderer : σ), ∃ drawings : String → List Drawing,
      overlay.DrawnBy now (overlay.draw R now renderer) drawings) ∧
    ∀ screen : Headless,
      let frame := overlay.draw Headless.renderer now screen
      ∃ (drawings : String → List Drawing) (records : List Surface),
        overlay.DrawnBy now frame drawings ∧
        frame.canvas.renderer.surfaces = screen.surfaces ++ records ∧
        List.Forall₂ (fun d => d.RecordedAs screen.framebufferScale)
          (("" :: overlay.registry.names).flatMap drawings) records ∧
        (screen.current = none → frame.canvas.renderer.current = none ∧
          ∀ event ∈ TraceEntry.events frame.canvas.trace, event.isUnbalanced = false) := by
  intro overlay
  have hwf : overlay.registry.WellFormed := wellFormed_run (wellFormed_start initial) steps
  refine ⟨fun R renderer => ⟨_, Overlay.drawnBy_drawings R hwf⟩, fun screen => ?_⟩
  obtain ⟨⟨records, hrecords, hdrawings⟩, -, hbalanced⟩ := overlay.draw_shows now screen
  rw [← Overlay.flatMap_drawings Headless.renderer hwf] at hdrawings
  refine ⟨_, records, Overlay.drawnBy_drawings Headless.renderer hwf, hrecords, hdrawings, ?_⟩
  intro hnone
  obtain ⟨hclosed, hquiet⟩ := hbalanced hnone
  refine ⟨hclosed, fun event hevent => ?_⟩
  rw [← Bool.not_eq_true]
  exact List.filter_eq_nil_iff.mp hquiet event hevent

end Session

end OnScreen
