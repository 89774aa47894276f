import OnScreen.Proofs.Parallel
import OnScreen.Proofs.Placements
import OnScreen.Renderer.Headless

/-!
# What a frame depends on

A frame asks the renderer for sizes and textures, and goes by the messages that it finds pending.
Messages that are not pending, and whatever of the renderer's state does not show in its answers,
make no difference to what is placed, or to the messages that are left.

Results:
* `Renderer.View`: a part of a renderer's state that determines its answers, and that the
  destruction of textures does not change; `Headless.view` is one.
* `Renderer.View.parallel`: renderers that show the same view answer alike.
* `Stack.draw_congr`, `Overlay.draw_congr`: stacks with the same pending messages, drawn on
  renderers that show the same view, are drawn alike.
* `Canvas.Swept.draw`: a frame that does not draw reports events and destroys textures, and makes no
  other call.
-/

namespace OnScreen

variable {ρ β : Type}

/-- A part of a renderer's state that determines all its answers. Destroying a texture does not
change it. -/
structure Renderer.View (R : Renderer ρ) (view : ρ → β) : Prop where
  viewport : ∀ {r r'}, view r = view r' → R.viewport r = R.viewport r'
  framebufferScale : ∀ {r r'}, view r = view r' → R.framebufferScale r = R.framebufferScale r'
  surfaceSize : ∀ {r r'}, view r = view r' → R.surfaceSize r = R.surfaceSize r'
  texture : ∀ {r r'}, view r = view r' → ∀ call,
    (R.perform r call).texture = (R.perform r' call).texture
  perform : ∀ {r r'}, view r = view r' → ∀ call,
    view (R.perform r call).renderer = view (R.perform r' call).renderer
  destroy : ∀ r t, view (R.perform r (.destroy t)).renderer = view r

/-! ## The headless renderer -/

namespace Headless

/-- The state of a headless renderer but for the live textures. -/
def view (r : Headless) : Headless :=
  { r with liveTextures := [] }

theorem view_upload (r : Headless) (icon : Icon) :
    (r.view.upload icon).texture = (r.upload icon).texture ∧
      (r.view.upload icon).renderer.view = (r.upload icon).renderer.view := by
  unfold upload
  dsimp only [view]
  split <;> exact ⟨rfl, rfl⟩

theorem view_destroy (r : Headless) (t : TextureId) : (r.destroy t).renderer.view = r.view := by
  unfold destroy
  split <;> rfl

/-- A call is answered, and changes the view, by the view alone. -/
theorem view_perform (r : Headless) (call : Call) :
    (r.view.perform call).texture = (r.perform call).texture ∧
      (r.view.perform call).renderer.view = (r.perform call).renderer.view := by
  cases call with
  | beginSurface name opacity => exact ⟨rfl, rfl⟩
  | upload icon => exact view_upload r icon
  | drawImage texture size => exact ⟨rfl, rfl⟩
  | drawText text color scale => exact ⟨rfl, rfl⟩
  | placeSurface name position =>
    have hcurrent : r.view.current = r.current := rfl
    unfold perform placeSurface
    rw [hcurrent]
    cases r.current with
    | none => exact ⟨rfl, rfl⟩
    | some surface =>
      dsimp only
      split <;> exact ⟨rfl, rfl⟩
  | endSurface =>
    have hcurrent : r.view.current = r.current := rfl
    unfold perform endSurface
    rw [hcurrent]
    cases r.current <;> exact ⟨rfl, rfl⟩
  | destroy t =>
    refine ⟨?_, ?_⟩
    · show (r.view.destroy t).texture = (r.destroy t).texture
      unfold destroy
      split <;> split <;> rfl
    · show (r.view.destroy t).renderer.view = (r.destroy t).renderer.view
      rw [view_destroy, view_destroy]
      rfl

theorem view_renderer : renderer.View view where
  viewport h := (congrArg Headless.viewport h :)
  framebufferScale h := (congrArg Headless.framebufferScale h :)
  surfaceSize {r r'} h := by
    have hcurrent : r.current = r'.current := (congrArg Headless.current h :)
    show r.surfaceSize = r'.surfaceSize
    unfold surfaceSize
    rw [hcurrent]
  texture {r r'} h call := by
    show (r.perform call).texture = (r'.perform call).texture
    rw [← (view_perform r call).1, ← (view_perform r' call).1, h]
  perform {r r'} h call := by
    show (r.perform call).renderer.view = (r'.perform call).renderer.view
    rw [← (view_perform r call).2, ← (view_perform r' call).2, h]
  destroy r t := view_destroy r t

end Headless

/-! ## Passes that look alike -/

/-- Two passes have placed the same, and their renderers show the same view. -/
structure Pass.Alike (view : ρ → β) (pass pass' : Pass ρ) : Prop where
  view : view pass.canvas.renderer = view pass'.canvas.renderer
  cursor : pass.cursor = pass'.cursor
  placements : pass.placements = pass'.placements

theorem Pass.Alike.refl (view : ρ → β) (pass : Pass ρ) : pass.Alike view pass :=
  ⟨rfl, rfl, rfl⟩

theorem Pass.Alike.symm {view : ρ → β} {pass pass' : Pass ρ} (h : pass.Alike view pass') :
    pass'.Alike view pass :=
  ⟨h.view.symm, h.cursor.symm, h.placements.symm⟩

theorem Pass.Alike.trans {view : ρ → β} {pass pass' pass'' : Pass ρ} (h : pass.Alike view pass')
    (h' : pass'.Alike view pass'') : pass.Alike view pass'' :=
  ⟨h.view.trans h'.view, h.cursor.trans h'.cursor, h.placements.trans h'.placements⟩

/-- What a frame at this reading depends on in a stack: the layout, the next number, and the pending
messages. -/
def Stack.view (stack : Stack) (now : Reading) : StackLayout × Nat × List (Key × Message) :=
  (stack.layout, stack.nextSequence, stack.messages.entries.filter fun e => e.2.isPending now)

section

variable {R : Renderer ρ} {view : ρ → β} (hview : R.View view) {canvas canvas' : Canvas ρ}
  {pass pass' : Pass ρ}

/-- A message that is not pending makes no difference to a pass. -/
theorem visitMessage_of_not_pending (R : Renderer ρ) {frame : FrameSettings} {m : Message}
    (hp : m.isPending frame.now = false) (h : pass.Alike view pass') (layout : StackLayout)
    (viewport : Size Single) :
    (visitMessage R frame layout viewport pass m).1.Alike view pass' ∧
      (visitMessage R frame layout viewport pass m).2.2 = .remove := by
  rcases visitMessage_cases R frame layout viewport pass m with
    ⟨-, event, -, hv⟩ | ⟨hp', -⟩ | ⟨hp', -⟩
  · rw [hv]
    exact ⟨⟨h.view, h.cursor, h.placements⟩, rfl⟩
  · rw [hp] at hp'
    cases hp'
  · rw [hp] at hp'
    cases hp'

include hview

/-- Renderers that show the same view answer alike. -/
theorem Renderer.View.parallel :
    R.Parallel R (· = ·) (fun c c' => view c.renderer = view c'.renderer)
      fun c c' => view c.renderer = view c'.renderer where
  viewport h := hview.viewport h
  framebufferScale h := hview.framebufferScale h
  report h _ := h
  destroy h ht := by
    rw [ht]
    exact hview.perform h _
  begin h _ _ := hview.perform h _
  upload {c c'} h icon := by
    have hanswer := hview.texture h (.upload icon)
    refine ⟨hview.perform h _, ?_⟩
    unfold Canvas.upload
    rw [hanswer]
    cases (R.perform c'.renderer (.upload icon)).texture with
    | none => exact .none
    | some id => exact .some rfl
  reportOpened h _ := h
  drawImage h ht _ := by
    rw [ht]
    exact hview.perform h _
  drawText h _ _ _ := hview.perform h _
  measure h := ⟨hview.surfaceSize h, hview.framebufferScale h⟩
  place h _ _ := hview.perform h _
  close h := hview.perform h _

theorem drawMessage_congr (h : pass.Alike view pass') (layout : StackLayout)
    (viewport : Size Single) (now : Reading) (m : Message) :
    (drawMessage R layout viewport now pass m).1.Alike view
        (drawMessage R layout viewport now pass' m).1 ∧
      (drawMessage R layout viewport now pass m).2 =
        (drawMessage R layout viewport now pass' m).2 := by
  have hsame : m.Like (.faithful (· = ·) (· = ·)) m := .refl (fun _ => rfl) (fun _ => rfl) m
  obtain ⟨hpass, hmessage⟩ := hview.parallel.drawMessage Sense.lawful_faithful_eq
    (rfl : now = now) layout viewport ⟨h.view, h.cursor, h.placements⟩ hsame
  exact ⟨⟨hpass.canvas, hpass.cursor, hpass.placements⟩, hmessage.eq⟩

/-- Passes that look alike go on alike with a pending message. -/
theorem visitMessage_congr {frame : FrameSettings} {m : Message}
    (hp : m.isPending frame.now = true) (h : pass.Alike view pass') (layout : StackLayout)
    (viewport : Size Single) :
    (visitMessage R frame layout viewport pass m).1.Alike view
        (visitMessage R frame layout viewport pass' m).1 ∧
      (visitMessage R frame layout viewport pass m).2 =
        (visitMessage R frame layout viewport pass' m).2 := by
  have hfate : m.fate frame.now = .pending := Message.fate_eq_pending_iff.mpr hp
  unfold visitMessage
  rw [hfate]
  dsimp only
  obtain ⟨hdrawn, hmessage⟩ := drawMessage_congr hview h layout viewport frame.now m
  split
  · exact ⟨hdrawn, congrArg (·, Visit.keep) hmessage⟩
  · exact ⟨h, rfl⟩

/-- A pass over entries is like a pass over the pending ones, and keeps the same. -/
theorem visits_pending (frame : FrameSettings) (layout : StackLayout) (viewport : Size Single)
    (h : pass.Alike view pass') (entries : List (Key × Message)) :
    (Stack.stateAfter (visitMessage R frame layout viewport) pass entries).Alike view
        (Stack.stateAfter (visitMessage R frame layout viewport) pass'
          (entries.filter fun e => e.2.isPending frame.now)) ∧
      keptBy (Stack.visits (visitMessage R frame layout viewport) pass entries) =
        keptBy (Stack.visits (visitMessage R frame layout viewport) pass'
          (entries.filter fun e => e.2.isPending frame.now)) := by
  induction entries generalizing pass pass' with
  | nil => exact ⟨h, rfl⟩
  | cons e rest ih =>
    obtain ⟨key, m⟩ := e
    rw [List.filter_cons]
    cases hp : m.isPending frame.now with
    | false =>
      obtain ⟨hpass, hremove⟩ := visitMessage_of_not_pending R hp h layout viewport
      obtain ⟨hstate, hkept⟩ := ih hpass
      refine ⟨hstate, Eq.trans ?_ hkept⟩
      rw [Stack.visits, keptBy_cons, Visited.isKept, hremove]
      rfl
    | true =>
      obtain ⟨hpass, hanswer⟩ := visitMessage_congr hview hp h layout viewport
      obtain ⟨hstate, hkept⟩ := ih hpass
      refine ⟨hstate, ?_⟩
      rw [if_pos rfl, Stack.visits, Stack.visits, keptBy_cons, keptBy_cons, hkept]
      simp only [Visited.isKept, Visited.result, hanswer]
      rfl

/-! ## Stacks and frames that look alike -/

theorem view_destroyAll (canvas : Canvas ρ) (textures : List TextureId) :
    view (canvas.destroyAll R textures).renderer = view canvas.renderer := by
  induction textures generalizing canvas with
  | nil => rfl
  | cons t textures ih => exact (ih (canvas.perform R (.destroy t))).trans (hview.destroy _ t)

/-- The passes over stacks that look alike end alike, and keep the same. -/
theorem Stack.pass_congr {stack stack' : Stack} {frame : FrameSettings}
    (hs : stack.view frame.now = stack'.view frame.now)
    (h : view canvas.renderer = view canvas'.renderer) :
    (stateAfter (stack.passVisit R frame canvas) (stack.passStart R frame canvas)
        (inOrder stack.layout.reversed stack.messages.entries)).Alike view
      (stateAfter (stack'.passVisit R frame canvas') (stack'.passStart R frame canvas')
        (inOrder stack'.layout.reversed stack'.messages.entries)) ∧
      keptBy (stack.passVisits R frame canvas) = keptBy (stack'.passVisits R frame canvas') := by
  obtain ⟨hlayout, hs⟩ := Prod.mk.inj hs
  obtain ⟨-, hpending⟩ := Prod.mk.inj hs
  have hvisit : stack.passVisit R frame canvas = stack'.passVisit R frame canvas' := by
    unfold passVisit
    rw [hlayout, hview.viewport h]
  have hstart : (stack.passStart R frame canvas).Alike view
      (stack'.passStart R frame canvas') := by
    refine ⟨h, ?_, rfl⟩
    unfold passStart
    rw [hlayout, hview.viewport h, hview.framebufferScale h]
  have hfilter : (inOrder stack'.layout.reversed stack.messages.entries).filter
        (fun e => e.2.isPending frame.now) =
      (inOrder stack'.layout.reversed stack'.messages.entries).filter
        fun e => e.2.isPending frame.now := by
    rw [← inOrder_filter, ← inOrder_filter, hpending]
  have hpass := visits_pending hview frame stack'.layout (R.viewport canvas'.renderer) hstart
    (inOrder stack'.layout.reversed stack.messages.entries)
  have hpass' := visits_pending hview frame stack'.layout (R.viewport canvas'.renderer)
    (Pass.Alike.refl view (stack'.passStart R frame canvas'))
    (inOrder stack'.layout.reversed stack'.messages.entries)
  rw [hfilter] at hpass
  unfold passVisits walkVisits
  rw [hvisit, hlayout]
  exact ⟨hpass.1.trans hpass'.1.symm, hpass.2.trans hpass'.2.symm⟩

/-- Stacks that look alike are drawn alike, and are the same stack afterwards. -/
theorem Stack.draw_congr {stack stack' : Stack} {frame : FrameSettings}
    (hs : stack.view frame.now = stack'.view frame.now)
    (h : view canvas.renderer = view canvas'.renderer) :
    (stack.draw R frame canvas).stack = (stack'.draw R frame canvas').stack ∧
      (stack.draw R frame canvas).report.placements =
        (stack'.draw R frame canvas').report.placements ∧
      view (stack.draw R frame canvas).canvas.renderer =
        view (stack'.draw R frame canvas').canvas.renderer := by
  obtain ⟨hstate, hkept⟩ := pass_congr hview hs h
  obtain ⟨hlayout, hs⟩ := Prod.mk.inj hs
  have hwalk (stack : Stack) (canvas : Canvas ρ) :
      view (stack.draw R frame canvas).canvas.renderer =
        view (stateAfter (stack.passVisit R frame canvas) (stack.passStart R frame canvas)
          (inOrder stack.layout.reversed stack.messages.entries)).canvas.renderer := by
    rw [← walk_state]
    exact view_destroyAll hview _ _
  refine ⟨?_, ?_, ?_⟩
  · have hentries : (stack.draw R frame canvas).stack.messages =
        (stack'.draw R frame canvas').stack.messages := by
      apply OrderedMap.ext_entries
      rw [draw_entries, draw_entries, hkept, hlayout]
    have hnext : stack.nextSequence = stack'.nextSequence := (Prod.mk.inj hs).1
    have heta (stack : Stack) : stack = ⟨stack.layout, stack.messages, stack.nextSequence⟩ := rfl
    rw [heta (stack.draw R frame canvas).stack, heta (stack'.draw R frame canvas').stack, hentries,
      draw_layout, draw_layout, draw_nextSequence, draw_nextSequence, hlayout, hnext]
  · rw [draw_report_placements, draw_report_placements]
    exact hstate.placements
  · rw [hwalk, hwalk]
    exact hstate.view

/-- Stacks that look alike, one by one and under the same names, are drawn alike one after the
other. -/
theorem turns_congr (settings : FrameSettings) {entries entries' : List (String × Stack)}
    (he : entries.map (fun e => (e.1, e.2.view settings.now)) =
      entries'.map fun e => (e.1, e.2.view settings.now))
    (h : view canvas.renderer = view canvas'.renderer) :
    view (canvasAfter R settings canvas entries).renderer =
        view (canvasAfter R settings canvas' entries').renderer ∧
      (turns R settings canvas entries).flatMap (fun t => (t.drawn R settings).report.placements) =
        (turns R settings canvas' entries').flatMap
          (fun t => (t.drawn R settings).report.placements) ∧
      (turns R settings canvas entries).map (fun t => (t.name, (t.drawn R settings).stack)) =
        (turns R settings canvas' entries').map fun t => (t.name, (t.drawn R settings).stack) := by
  induction entries generalizing entries' canvas canvas' with
  | nil =>
    rw [List.map_nil, eq_comm, List.map_eq_nil_iff] at he
    rw [he]
    exact ⟨h, rfl, rfl⟩
  | cons e rest ih =>
    cases entries' with
    | nil => cases he
    | cons e' rest' =>
      rw [List.map_cons, List.map_cons] at he
      obtain ⟨hhead, htail⟩ := List.cons.inj he
      obtain ⟨hname, hs⟩ := Prod.mk.inj hhead
      obtain ⟨hstack, hplacements, hcanvas⟩ := Stack.draw_congr hview hs h
      obtain ⟨hafter, hrest, hstacks⟩ := ih htail hcanvas
      refine ⟨hafter, ?_, ?_⟩
      · rw [turns, turns, List.flatMap_cons, List.flatMap_cons, hrest]
        exact congrArg (· ++ _) hplacements
      · rw [turns, turns, List.map_cons, List.map_cons, hstacks]
        exact congrArg (· :: _) (Prod.ext hname hstack)

omit hview in
theorem Registry.ext_entries {registry registry' : Registry}
    (hentries : registry.entries = registry'.entries)
    (horphans : registry.orphans = registry'.orphans) : registry = registry' := by
  obtain ⟨stack, named, orphans⟩ := registry
  obtain ⟨stack', named', orphans'⟩ := registry'
  obtain ⟨hdefault, hnamed⟩ := List.cons.inj hentries
  obtain rfl := congrArg Prod.snd hdefault
  obtain rfl := OrderedMap.ext_entries hnamed
  cases horphans
  rfl

/-- Overlays that look alike draw the same, and are the same overlay afterwards. -/
theorem Overlay.draw_congr {overlay overlay' : Overlay} {now : Reading} {renderer renderer' : ρ}
    (henabled : overlay.enabled = overlay'.enabled)
    (hobscured : overlay.obscured = overlay'.obscured)
    (hentries : overlay.registry.entries.map (fun e => (e.1, e.2.view now)) =
      overlay'.registry.entries.map fun e => (e.1, e.2.view now))
    (h : view renderer = view renderer') :
    (overlay.draw R now renderer).overlay = (overlay'.draw R now renderer').overlay ∧
      (overlay.draw R now renderer).report.placements =
        (overlay'.draw R now renderer').report.placements ∧
      view (overlay.draw R now renderer).canvas.renderer =
        view (overlay'.draw R now renderer').canvas.renderer := by
  have hsettings : overlay.settings now = overlay'.settings now := by
    unfold settings
    rw [henabled, hobscured]
  have hstart : view (overlay.startCanvas R renderer).renderer =
      view (overlay'.startCanvas R renderer').renderer := by
    unfold startCanvas
    rw [view_destroyAll hview, view_destroyAll hview]
    exact h
  obtain ⟨hcanvas, hplacements, hstacks⟩ :=
    turns_congr hview (overlay'.settings now) hentries hstart
  refine ⟨?_, ?_, ?_⟩
  · have hregistry : (overlay.draw R now renderer).overlay.registry =
        (overlay'.draw R now renderer').overlay.registry := by
      refine Registry.ext_entries ?_ (by rw [draw_orphans, draw_orphans])
      rw [draw_registry_entries, draw_registry_entries]
      unfold frameTurns
      rw [hsettings]
      exact hstacks
    have hfields (overlay : Overlay) (renderer : ρ) : (overlay.draw R now renderer).overlay =
        { overlay with registry := (overlay.draw R now renderer).overlay.registry } := rfl
    rw [hfields overlay, hfields overlay', hregistry, henabled, hobscured]
  · rw [draw_placements, draw_placements]
    unfold frameTurns
    rw [hsettings]
    exact hplacements
  · rw [draw_canvas, draw_canvas, hsettings]
    exact hcanvas

end

/-! ## Frames that do not draw -/

namespace TraceEntry

theorem calls_report (canvas : Canvas ρ) (event : Event) :
    calls (canvas.report event).trace = calls canvas.trace := by
  show calls (canvas.trace ++ [.event event]) = _
  unfold calls
  rw [List.filterMap_append]
  exact List.append_nil _

/-- A call adds itself, with its answer, to the calls of a trace. -/
theorem calls_perform (R : Renderer ρ) (canvas : Canvas ρ) (c : Call) :
    calls (canvas.perform R c).trace =
      calls canvas.trace ++ [(c, (R.perform canvas.renderer c).texture)] := by
  have hentries : calls (R.perform canvas.renderer c).entries = [] := by
    refine (Response.filterMap_entries _ fun _ => rfl).trans ?_
    rw [List.filterMap_map, List.filterMap_eq_nil_iff]
    intro e _
    rfl
  show calls (canvas.trace ++ ([call c _] ++ Response.entries _)) = _
  unfold calls at hentries ⊢
  rw [List.filterMap_append, List.filterMap_append, hentries, List.append_nil]
  rfl

end TraceEntry

/-- Between the two canvases nothing happened but reports and the destruction of textures. -/
inductive Canvas.Swept (R : Renderer ρ) (canvas : Canvas ρ) : Canvas ρ → Prop
  | refl : Swept R canvas canvas
  | report {canvas' : Canvas ρ} (h : Swept R canvas canvas') (event : Event) :
    Swept R canvas (canvas'.report event)
  | destroy {canvas' : Canvas ρ} (h : Swept R canvas canvas') (t : TextureId) :
    Swept R canvas (canvas'.perform R (.destroy t))

namespace Canvas.Swept

variable {R : Renderer ρ} {canvas canvas' canvas'' : Canvas ρ}

theorem view {view : ρ → β} (hview : R.View view) (h : canvas.Swept R canvas') :
    view canvas'.renderer = view canvas.renderer := by
  induction h with
  | refl => rfl
  | report _ event ih => exact ih
  | destroy _ t ih => exact (hview.destroy _ t).trans ih

/-- The calls that were made are all destructions. -/
theorem calls (h : canvas.Swept R canvas')
    (hcalls : ∀ c ∈ TraceEntry.calls canvas.trace, ∃ t, c.1 = .destroy t) :
    ∀ c ∈ TraceEntry.calls canvas'.trace, ∃ t, c.1 = .destroy t := by
  induction h with
  | refl => exact hcalls
  | report _ event ih =>
    rw [TraceEntry.calls_report]
    exact ih
  | destroy _ t ih =>
    rw [TraceEntry.calls_perform]
    intro c hc
    rcases List.mem_append.mp hc with hc | hc
    · exact ih c hc
    · rw [List.mem_singleton.mp hc]
      exact ⟨t, rfl⟩

theorem destroyAll (h : canvas.Swept R canvas') (textures : List TextureId) :
    canvas.Swept R (canvas'.destroyAll R textures) := by
  induction textures generalizing canvas' with
  | nil => exact h
  | cons t textures ih => exact ih (h.destroy t)

theorem stateAfter {frame : FrameSettings} (hdrawing : frame.drawing = false)
    (layout : StackLayout) (viewport : Size Single) {pass : Pass ρ}
    (h : canvas.Swept R pass.canvas) (entries : List (Key × Message)) :
    canvas.Swept R
      (Stack.stateAfter (visitMessage R frame layout viewport) pass entries).canvas := by
  induction entries generalizing pass with
  | nil => exact h
  | cons e rest ih =>
    apply ih
    show canvas.Swept R (visitMessage R frame layout viewport pass e.2).1.canvas
    rcases visitMessage_cases R frame layout viewport pass e.2 with
      ⟨-, event, -, hv⟩ | ⟨-, -, hv⟩ | ⟨-, hd, -⟩
    · rw [hv]
      exact h.report event
    · rw [hv]
      exact h
    · rw [hdrawing] at hd
      cases hd

theorem canvasAfter {frame : FrameSettings} (hdrawing : frame.drawing = false)
    (h : canvas.Swept R canvas') (entries : List (String × Stack)) :
    canvas.Swept R (canvasAfter R frame canvas' entries) := by
  induction entries generalizing canvas' with
  | nil => exact h
  | cons e rest ih =>
    refine ih (destroyAll ?_ _)
    rw [Stack.walk_state]
    exact stateAfter hdrawing _ _ h _

/-- A frame that does not draw reports events and destroys textures. -/
theorem draw (R : Renderer ρ) (overlay : Overlay) (now : Reading) (renderer : ρ) :
    Canvas.Swept R { renderer := renderer }
      (({ overlay with enabled := false } : Overlay).draw R now renderer).canvas := by
  rw [Overlay.draw_canvas]
  exact canvasAfter rfl (destroyAll .refl _) _

end Canvas.Swept

end OnScreen
