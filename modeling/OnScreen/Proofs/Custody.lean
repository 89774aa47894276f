import OnScreen.Proofs.Frame

/-!
# Textures through a frame

A texture comes into being in the middle of a pass, when a message with an icon is drawn for the
first time, and is destroyed at the end of the pass that removes its message. Whatever is said about
a renderer in use and the textures that messages hold, it survives a frame if it survives the single
calls.

Results:
* `Custody`: what has to be shown for single calls and reports.
* `Custody.drawMessage`, `Custody.visits`, `Custody.drawStack`, `Custody.draw`: what follows for the
  parts of a frame and for a whole frame.
* `Custody.after`, `Custody.reports`: what follows when something happened before the frame.
-/

namespace OnScreen

variable {ρ : Type}

/-- The texture that a message holds, if any. -/
def Message.textureId? (m : Message) : Option TextureId :=
  m.picture.texture?.map Texture.id

/-- The textures that messages hold. -/
def textureIds (ms : List Message) : List TextureId :=
  ms.filterMap Message.textureId?

theorem textureIds_cons (m : Message) (ms : List Message) :
    textureIds (m :: ms) = m.textureId?.toList ++ textureIds ms := by
  unfold textureIds
  rw [List.filterMap_cons]
  cases m.textureId? <;> rfl

theorem textureIds_append (ms ms' : List Message) :
    textureIds (ms ++ ms') = textureIds ms ++ textureIds ms' :=
  List.filterMap_append

theorem textureIds_perm {ms ms' : List Message} (h : ms.Perm ms') :
    (textureIds ms).Perm (textureIds ms') :=
  h.filterMap _

theorem Registry.textures_eq (registry : Registry) :
    registry.textures = textureIds (registry.entries.flatMap fun e => e.2.toList) := by
  have hstacks : registry.allStacks = registry.entries.map Prod.snd := rfl
  unfold textures messages
  rw [hstacks, List.flatMap_map]
  rfl

/-- A visited message is kept or removed. -/
theorem results_perm {σ : Type} (vs : List (Visited σ)) :
    (vs.map Visited.result).Perm (removedBy vs ++ (keptBy vs).map Prod.snd) := by
  have hkept : (keptBy vs).map Prod.snd = (vs.filter Visited.isKept).map Visited.result := by
    unfold keptBy
    rw [List.map_map]
    rfl
  rw [hkept, removedBy, ← List.map_append]
  exact ((List.filter_append_perm Visited.isKept vs).symm.trans List.perm_append_comm).map _

namespace Canvas

/-- The canvas, with a trace of what happened before it was taken up. -/
def after (canvas : Canvas ρ) (trace : List TraceEntry) : Canvas ρ where
  renderer := canvas.renderer
  trace := trace ++ canvas.trace

theorem after_report (canvas : Canvas ρ) (event : Event) (trace : List TraceEntry) :
    (canvas.report event).after trace = (canvas.after trace).report event := by
  simp only [after, report, List.append_assoc]

theorem after_perform (R : Renderer ρ) (canvas : Canvas ρ) (call : Call) (trace : List TraceEntry) :
    (canvas.perform R call).after trace = (canvas.after trace).perform R call := by
  simp only [after, perform, List.append_assoc]

end Canvas

/-- The event is the destruction of a texture that a renderer does not know. -/
def Event.IsUnknownTexture (event : Event) : Prop :=
  ∃ t, event = .unknownTexture t

/-- A relation between a canvas and the textures that are held on it, which is kept by every report
and every call of the renderers concerned: an upload adds the texture that it is answered with, if
any, and destroying a held texture takes it away. Images are only drawn of held textures. -/
structure Custody (concerns : Renderer ρ → Prop) (Holds : Canvas ρ → List TextureId → Prop) :
    Prop where
  perm : ∀ {canvas held held'}, held.Perm held' → Holds canvas held → Holds canvas held'
  report : ∀ {canvas held} event, ¬ event.IsUnknownTexture → Holds canvas held →
    Holds (canvas.report event) held
  call : ∀ {R canvas held}, concerns R → ∀ call, (∀ icon, call ≠ .upload icon) →
    (∀ t, call ≠ .destroy t) → (∀ t size, call = .drawImage t size → t ∈ held) →
    Holds canvas held → Holds (canvas.perform R call) held
  upload : ∀ {R canvas held}, concerns R → ∀ icon, Holds canvas held →
    Holds (canvas.upload R icon).1 ((canvas.upload R icon).2.toList ++ held)
  destroy : ∀ {R canvas held}, concerns R → ∀ t, Holds canvas (t :: held) →
    Holds (canvas.perform R (.destroy t)) held

namespace Custody

variable {concerns : Renderer ρ → Prop} {Holds : Canvas ρ → List TextureId → Prop}
  {R : Renderer ρ} {canvas : Canvas ρ} {held : List TextureId}

/-! ## One message -/

theorem destroyAll (h : Custody concerns Holds) (hR : concerns R) (textures : List TextureId)
    (hc : Holds canvas (textures ++ held)) : Holds (canvas.destroyAll R textures) held := by
  induction textures generalizing canvas with
  | nil => exact hc
  | cons t textures ih => exact ih (h.destroy hR t hc)

/-- The texture that an upload is answered with goes to the message. -/
theorem uploadIcon (h : Custody concerns Holds) (hR : concerns R) (m : Message)
    (hc : Holds canvas (m.textureId?.toList ++ held)) :
    Holds (uploadIcon R canvas m).1 ((uploadIcon R canvas m).2.textureId?.toList ++ held) := by
  rcases uploadIcon_cases R canvas m with ⟨-, heq⟩ | ⟨icon, hp, hanswer⟩
  · rw [heq]
    exact hc
  · have hnone : m.textureId? = none := by
      unfold Message.textureId?
      rw [hp]
      rfl
    rw [hnone] at hc
    have hup := h.upload hR icon hc
    rcases hanswer with ⟨t, ht, heq⟩ | ⟨hfails, heq⟩
    · rw [ht] at hup
      rw [heq]
      exact hup
    · rw [hfails] at hup
      rw [heq]
      exact h.report _ (by simp [Event.IsUnknownTexture]) hup

theorem drawPicture (h : Custody concerns Holds) (hR : concerns R) (m : Message)
    (hc : Holds canvas (m.textureId?.toList ++ held)) :
    Holds (drawPicture R canvas m) (m.textureId?.toList ++ held) := by
  unfold OnScreen.drawPicture
  cases hp : m.picture with
  | absent => exact hc
  | waiting icon => exact hc
  | uploaded texture =>
    have hheld : m.textureId? = some texture.id := by
      unfold Message.textureId?
      rw [hp]
      rfl
    refine h.call hR _ (by simp) (by simp) ?_ hc
    rintro t size ⟨⟩
    simp [hheld]

theorem drawMessage (h : Custody concerns Holds) (hR : concerns R) (layout : StackLayout)
    (viewport : Size Single) (now : Reading) (pass : Pass ρ) (m : Message)
    (hc : Holds pass.canvas (m.textureId?.toList ++ held)) :
    Holds (drawMessage R layout viewport now pass m).1.canvas
      ((drawMessage R layout viewport now pass m).2.textureId?.toList ++ held) := by
  unfold OnScreen.drawMessage
  dsimp only
  have hbegin := h.call hR (.beginSurface (surfaceName layout.name pass.placements.length)
    (m.opacity (m.timeLeft now))) (by simp) (by simp) (by simp) hc
  have hupload := h.uploadIcon hR m hbegin
  generalize OnScreen.uploadIcon R _ m = uploaded at hupload ⊢
  obtain ⟨canvas, m'⟩ := uploaded
  have hpicture := h.drawPicture hR m' hupload
  refine h.call hR .endSurface (by simp) (by simp) (by simp) ?_
  refine h.call hR (.placeSurface _ _) (by simp) (by simp) (by simp) ?_
  exact h.call hR (.drawText _ _ _) (by simp) (by simp) (by simp) hpicture

/-! ## A pass over a stack -/

theorem visit (h : Custody concerns Holds) (hR : concerns R) (frame : FrameSettings)
    (layout : StackLayout) (viewport : Size Single) (pass : Pass ρ) (m : Message)
    (hc : Holds pass.canvas (m.textureId?.toList ++ held)) :
    Holds (visitMessage R frame layout viewport pass m).1.canvas
      ((visitMessage R frame layout viewport pass m).2.1.textureId?.toList ++ held) := by
  rcases visitMessage_cases R frame layout viewport pass m with
    ⟨-, e, he, hv⟩ | ⟨-, -, hv⟩ | ⟨-, -, hv⟩
  · rw [hv]
    refine h.report e ?_ hc
    rcases he with rfl | rfl <;> simp [Event.IsUnknownTexture]
  · rw [hv]
    exact hc
  · rw [hv]
    exact h.drawMessage hR layout viewport frame.now pass m hc

/-- What the visited messages hold after a pass is held by the messages as they were left. -/
theorem visits (h : Custody concerns Holds) (hR : concerns R) (frame : FrameSettings)
    (layout : StackLayout) (viewport : Size Single) (pass : Pass ρ) (entries : List (Key × Message))
    (hc : Holds pass.canvas (textureIds (entries.map Prod.snd) ++ held)) :
    Holds (Stack.stateAfter (visitMessage R frame layout viewport) pass entries).canvas
      (textureIds ((Stack.visits (visitMessage R frame layout viewport) pass entries).map
        Visited.result) ++ held) := by
  induction entries generalizing pass held with
  | nil => exact hc
  | cons e rest ih =>
    rw [List.map_cons, textureIds_cons, List.append_assoc] at hc
    -- what this message holds is put aside while the others are visited
    have hvisit := h.perm (List.perm_append_comm_assoc _ _ _)
      (h.visit hR frame layout viewport pass e.2 hc)
    have hrest := h.perm (List.perm_append_comm_assoc _ _ _) (ih _ hvisit)
    rw [Stack.visits, List.map_cons, textureIds_cons, List.append_assoc]
    exact hrest

theorem drawStack (h : Custody concerns Holds) (hR : concerns R) (frame : FrameSettings)
    (stack : Stack)
    (hc : Holds canvas (textureIds stack.toList ++ held)) :
    Holds (stack.draw R frame canvas).canvas
      (textureIds (stack.draw R frame canvas).stack.toList ++ held) := by
  have hcanvas : (stack.draw R frame canvas).canvas =
      (stack.walk stack.layout.reversed (stack.passVisit R frame canvas)
        (stack.passStart R frame canvas)).state.canvas.destroyAll R
      (textureIds (stack.walk stack.layout.reversed (stack.passVisit R frame canvas)
        (stack.passStart R frame canvas)).removed) := rfl
  have hleft : (stack.draw R frame canvas).stack.toList =
      (Stack.inOrder stack.layout.reversed (keptBy (stack.passVisits R frame canvas))).map
        Prod.snd := congrArg (List.map Prod.snd) (Stack.draw_entries R stack frame canvas)
  have hstart : Holds (stack.passStart R frame canvas).canvas
      (textureIds ((Stack.inOrder stack.layout.reversed stack.messages.entries).map Prod.snd) ++
        held) :=
    h.perm ((textureIds_perm ((Stack.inOrder_perm _ _).map _).symm).append_right held) hc
  rw [hcanvas, Stack.walk_state, Stack.walk_removed]
  apply h.destroyAll hR
  refine h.perm ?_ (h.visits hR frame stack.layout (R.viewport canvas.renderer) _ _ hstart)
  rw [hleft, ← List.append_assoc, ← textureIds_append]
  apply List.Perm.append_right
  apply textureIds_perm
  exact (results_perm _).trans (((Stack.inOrder_perm _ _).map _).symm.append_left _)

/-! ## A frame -/

theorem canvasAfter (h : Custody concerns Holds) (hR : concerns R) (frame : FrameSettings)
    (entries : List (String × Stack))
    (hc : Holds canvas (textureIds (entries.flatMap fun e => e.2.toList) ++ held)) :
    Holds (canvasAfter R frame canvas entries)
      (textureIds ((turns R frame canvas entries).flatMap fun t =>
        (t.drawn R frame).stack.toList) ++ held) := by
  induction entries generalizing canvas held with
  | nil => exact hc
  | cons e rest ih =>
    rw [List.flatMap_cons, textureIds_append, List.append_assoc] at hc
    have hstack := h.perm (List.perm_append_comm_assoc _ _ _) (h.drawStack hR frame e.2 hc)
    have hrest := h.perm (List.perm_append_comm_assoc _ _ _) (ih hstack)
    rw [turns, List.flatMap_cons, textureIds_append, List.append_assoc]
    exact hrest

/-- A frame that starts with the textures of the stored messages and those that wait to be destroyed
ends with the textures of the messages that are stored then. -/
theorem draw (h : Custody concerns Holds) (hR : concerns R) (overlay : Overlay) (now : Reading)
    (renderer : ρ)
    (hc : Holds { renderer := renderer } (overlay.registry.orphans ++ overlay.registry.textures)) :
    Holds (overlay.draw R now renderer).canvas
      (overlay.draw R now renderer).overlay.registry.textures := by
  have hstart : Holds (overlay.startCanvas R renderer) (overlay.registry.textures ++ []) := by
    rw [List.append_nil]
    exact h.destroyAll hR _ hc
  rw [Registry.textures_eq] at hstart
  have hdrawn := h.canvasAfter hR (overlay.settings now) _ hstart
  rw [List.append_nil] at hdrawn
  rw [Overlay.draw_canvas, Registry.textures_eq, Overlay.draw_registry_entries, List.flatMap_map]
  exact hdrawn

/-! ## What happened outside of the frame -/

/-- Events that are reported one after the other. -/
theorem reports (h : Custody concerns Holds) {renderer : ρ} {trace : List TraceEntry}
    {held : List TextureId} {events : List Event} (he : ∀ e ∈ events, ¬ e.IsUnknownTexture)
    (hc : Holds ⟨renderer, trace⟩ held) :
    Holds ⟨renderer, trace ++ events.map .event⟩ held := by
  induction events generalizing trace with
  | nil =>
    rw [List.map_nil, List.append_nil]
    exact hc
  | cons e events ih =>
    have hreport : Holds ⟨renderer, trace ++ [.event e]⟩ held :=
      h.report e (he e List.mem_cons_self) hc
    have hrest := ih (fun e' he' => he e' (List.mem_cons_of_mem _ he')) hreport
    rw [List.append_assoc] at hrest
    exact hrest

/-- What is said of a canvas can be said of the canvas with everything that happened before. -/
theorem after (h : Custody concerns Holds) (trace : List TraceEntry) :
    Custody concerns fun canvas held => Holds (canvas.after trace) held where
  perm hheld hc := h.perm hheld hc
  report event he hc := by
    rw [Canvas.after_report]
    exact h.report event he hc
  call hR call hup hdestroy himage hc := by
    rw [Canvas.after_perform]
    exact h.call hR call hup hdestroy himage hc
  upload hR icon hc := by
    show Holds ((Canvas.perform _ _ _).after trace) _
    rw [Canvas.after_perform]
    exact h.upload hR icon hc
  destroy hR t hc := by
    rw [Canvas.after_perform]
    exact h.destroy hR t hc

end Custody

end OnScreen
