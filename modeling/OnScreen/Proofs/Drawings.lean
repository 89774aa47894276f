import OnScreen.Proofs.Custody
import OnScreen.Proofs.Views

/-!
# The calls of a frame

Every placement of a frame comes with the calls that draw its message: a surface is opened, the
icon and the text are drawn into it, and it is placed and closed. Before the first stack, and after
the last surface of each stack, textures are destroyed. A frame makes no other calls.

Results:
* `drawMessage_calls`: the calls that draw one message.
* `Stack.draw_calls`: the calls of a stack's turn.
* `Stack.map_placement_drawings`, `Stack.map_before_drawings`, `Stack.map_after_drawings`: the
  drawings of a turn are for its placements, and for the pending messages as they were before and
  are after it.
* `Overlay.draw_calls`: the calls of a frame.
-/

namespace OnScreen

variable {ρ : Type} (R : Renderer ρ)

/-! ## Calls and their answers -/

/-- The call is an upload. -/
def Call.isUpload : Call → Bool
  | .upload _ => true
  | _ => false

namespace Canvas

/-- The calls that were made on a canvas, in order, the uploads with their answers. -/
def calls (canvas : Canvas ρ) : List (Call × Option TextureId) :=
  (TraceEntry.calls canvas.trace).map fun c => (c.1, if c.1.isUpload then c.2 else none)

theorem calls_report (canvas : Canvas ρ) (event : Event) :
    (canvas.report event).calls = canvas.calls := by
  unfold calls
  rw [TraceEntry.calls_report]

theorem calls_perform (canvas : Canvas ρ) {call : Call} (h : call.isUpload = false) :
    (canvas.perform R call).calls = canvas.calls ++ [(call, none)] := by
  unfold calls
  rw [TraceEntry.calls_perform, List.map_append, List.map_singleton, h]
  rfl

theorem calls_upload (canvas : Canvas ρ) (icon : Icon) :
    (canvas.upload R icon).1.calls =
      canvas.calls ++ [(.upload icon, (canvas.upload R icon).2)] := by
  show (canvas.perform R (.upload icon)).calls = _
  unfold calls
  rw [TraceEntry.calls_perform, List.map_append, List.map_singleton]
  rfl

end Canvas

/-- The call that destroys a texture. -/
def destruction (texture : TextureId) : Call × Option TextureId :=
  (.destroy texture, none)

theorem Canvas.calls_destroyAll (canvas : Canvas ρ) (textures : List TextureId) :
    (canvas.destroyAll R textures).calls = canvas.calls ++ textures.map destruction := by
  induction textures generalizing canvas with
  | nil => exact (List.append_nil _).symm
  | cons t textures ih =>
    show ((canvas.perform R (.destroy t)).destroyAll R textures).calls = _
    rw [ih, Canvas.calls_perform R canvas rfl, List.append_assoc]
    rfl

/-! ## Drawing a message -/

/-- A message that is drawn: as it is before and after, and where it is placed. -/
structure Drawing where
  before : Message
  after : Message
  placement : Placement

namespace Drawing

/-- The name of the surface. -/
def surface (d : Drawing) : String :=
  surfaceName d.placement.stack d.placement.index

/-- The calls that draw the message: an icon that is left is uploaded, and a texture that is there
then is drawn above the text. -/
def calls (d : Drawing) : List (Call × Option TextureId) :=
  [(.beginSurface d.surface d.placement.opacity, none)] ++
    (d.before.picture.icon?.toList.map fun icon => (.upload icon, d.after.textureId?)) ++
    (d.after.picture.texture?.toList.map fun texture =>
      (.drawImage texture.id texture.size, none)) ++
    [(.drawText d.before.text d.before.color.unpack d.before.scale, none),
      (.placeSurface d.surface d.placement.position, none), (.endSurface, none)]

end Drawing

theorem uploadIcon_calls (canvas : Canvas ρ) (m : Message) :
    (uploadIcon R canvas m).1.calls =
      canvas.calls ++ m.picture.icon?.toList.map fun icon =>
        (.upload icon, (uploadIcon R canvas m).2.textureId?) := by
  rcases uploadIcon_cases R canvas m with ⟨hnone, heq⟩ | ⟨icon, hp, ⟨t, ht, heq⟩ | ⟨hfails, heq⟩⟩
  · rw [heq, hnone]
    exact (List.append_nil _).symm
  · have hcalls := Canvas.calls_upload R canvas icon
    rw [ht] at hcalls
    rw [heq, hp]
    exact hcalls
  · have hcalls := Canvas.calls_upload R canvas icon
    rw [hfails] at hcalls
    rw [heq, hp]
    exact (Canvas.calls_report _ _).trans hcalls

theorem drawPicture_calls (canvas : Canvas ρ) (m : Message) :
    (drawPicture R canvas m).calls =
      canvas.calls ++ m.picture.texture?.toList.map fun texture =>
        (.drawImage texture.id texture.size, none) := by
  unfold drawPicture
  cases m.picture with
  | absent => exact (List.append_nil _).symm
  | waiting icon => exact (List.append_nil _).symm
  | uploaded texture => exact Canvas.calls_perform R canvas rfl

/-- Drawing a message adds one placement, and makes the calls of the drawing. -/
theorem drawMessage_calls (layout : StackLayout) (viewport : Size Single) (now : Reading)
    (pass : Pass ρ) (m : Message) :
    ∃ p : Placement,
      (drawMessage R layout viewport now pass m).1.placements = pass.placements ++ [p] ∧
      (drawMessage R layout viewport now pass m).1.canvas.calls =
        pass.canvas.calls ++
          Drawing.calls ⟨m, (drawMessage R layout viewport now pass m).2, p⟩ := by
  unfold drawMessage
  dsimp only
  generalize hcall : Call.beginSurface (surfaceName layout.name pass.placements.length)
    (m.opacity (m.timeLeft now)) = begin
  have hbegin : (pass.canvas.perform R begin).calls = pass.canvas.calls ++ [(begin, none)] :=
    Canvas.calls_perform R pass.canvas (by rw [← hcall]; rfl)
  generalize pass.canvas.perform R begin = canvas at hbegin ⊢
  subst hcall
  have hupload := uploadIcon_calls R canvas m
  have hfields := uploadIcon_fields R canvas m
  generalize uploadIcon R canvas m = uploaded at hupload hfields ⊢
  obtain ⟨canvas', m'⟩ := uploaded
  dsimp only at hupload hfields ⊢
  refine ⟨_, rfl, ?_⟩
  rw [Canvas.calls_perform R _ rfl, Canvas.calls_perform R _ rfl, Canvas.calls_perform R _ rfl,
    drawPicture_calls, hupload, hbegin, hfields]
  unfold Drawing.calls
  simp only [List.append_assoc, List.cons_append, List.nil_append]
  rfl

/-! ## The turn of a stack -/

/-- The drawing that a visit adds, if it draws. -/
def Visited.drawings (v : Visited (Pass ρ)) : List Drawing :=
  v.placed.map fun p => ⟨v.message, v.result, p⟩

namespace Stack

/-- A visit makes the calls of its drawing. -/
theorem visitMessage_calls (frame : FrameSettings) (layout : StackLayout) (viewport : Size Single)
    (pass : Pass ρ) (key : Key) (m : Message) :
    (visitMessage R frame layout viewport pass m).1.canvas.calls =
      pass.canvas.calls ++
        (Visited.mk pass key m (visitMessage R frame layout viewport pass m)).drawings.flatMap
          Drawing.calls := by
  unfold Visited.drawings Visited.placed Visited.result
  dsimp only
  rcases visitMessage_cases R frame layout viewport pass m with
    ⟨-, event, -, hv⟩ | ⟨-, -, hv⟩ | ⟨-, -, hv⟩
  · rw [hv, List.drop_length]
    exact (Canvas.calls_report pass.canvas event).trans (List.append_nil _).symm
  · rw [hv, List.drop_length]
    exact (List.append_nil _).symm
  · obtain ⟨p, hplaced, hcalls⟩ := drawMessage_calls R layout viewport frame.now pass m
    rw [hv]
    dsimp only
    rw [hplaced, List.drop_left, hcalls]
    simp

theorem stateAfter_calls (frame : FrameSettings) (layout : StackLayout) (viewport : Size Single)
    (pass : Pass ρ) (entries : List (Key × Message)) :
    (stateAfter (visitMessage R frame layout viewport) pass entries).canvas.calls =
      pass.canvas.calls ++
        ((visits (visitMessage R frame layout viewport) pass entries).flatMap
          Visited.drawings).flatMap Drawing.calls := by
  induction entries generalizing pass with
  | nil => exact (List.append_nil _).symm
  | cons e rest ih =>
    obtain ⟨key, m⟩ := e
    show (stateAfter _ (visitMessage R frame layout viewport pass m).1 rest).canvas.calls = _
    rw [ih, visitMessage_calls R frame layout viewport pass key m, visits, List.flatMap_cons,
      List.flatMap_append, List.append_assoc]

/-- The drawings of a stack's turn, in order. -/
def drawings (stack : Stack) (frame : FrameSettings) (canvas : Canvas ρ) : List Drawing :=
  (stack.passVisits R frame canvas).flatMap Visited.drawings

/-- The messages that a frame does not find pending, in the order of its visits. -/
def dropped (stack : Stack) (now : Reading) : List Message :=
  ((inOrder stack.layout.reversed stack.messages.entries).filter fun e =>
    !e.2.isPending now).map Prod.snd

/-- The pass removes them, and leaves them as they are. -/
theorem removedBy_passVisits (stack : Stack) (frame : FrameSettings) (canvas : Canvas ρ) :
    removedBy (stack.passVisits R frame canvas) = stack.dropped frame.now := by
  unfold removedBy dropped
  rw [filter_not_isKept_passVisits, ← map_entry_passVisits R stack frame canvas, List.filter_map,
    List.map_map]
  refine List.map_congr_left fun v hv => ?_
  obtain ⟨hv, hp⟩ := List.mem_filter.mp hv
  unfold Visited.result
  rw [answer_of_mem_passVisits hv]
  rcases visitMessage_cases R frame stack.layout (R.viewport canvas.renderer) v.state v.message with
    ⟨-, e, -, h⟩ | ⟨hp', -⟩ | ⟨hp', -⟩
  · rw [h]
    rfl
  · rw [hp'] at hp
    cases hp
  · rw [hp'] at hp
    cases hp

/-- The calls of a turn: those of the drawings, and then the textures of the removed messages are
destroyed. -/
theorem draw_calls (stack : Stack) (frame : FrameSettings) (canvas : Canvas ρ) :
    (stack.draw R frame canvas).canvas.calls =
      canvas.calls ++ (stack.drawings R frame canvas).flatMap Drawing.calls ++
        (textureIds (stack.dropped frame.now)).map destruction := by
  have hcanvas : (stack.draw R frame canvas).canvas =
      (stack.walk stack.layout.reversed (stack.passVisit R frame canvas)
        (stack.passStart R frame canvas)).state.canvas.destroyAll R
      (textureIds (stack.walk stack.layout.reversed (stack.passVisit R frame canvas)
        (stack.passStart R frame canvas)).removed) := rfl
  have hremoved : (stack.walk stack.layout.reversed (stack.passVisit R frame canvas)
      (stack.passStart R frame canvas)).removed = stack.dropped frame.now :=
    (walk_removed _ _ _ _).trans (removedBy_passVisits R stack frame canvas)
  rw [hcanvas, Canvas.calls_destroyAll, hremoved, walk_state]
  exact congrArg (· ++ _) (stateAfter_calls R frame _ _ _ _)

/-! ### What is drawn in a turn -/

/-- The drawings are for the placements. -/
theorem map_placement_drawings (stack : Stack) (frame : FrameSettings) (canvas : Canvas ρ) :
    (stack.drawings R frame canvas).map Drawing.placement =
      (stack.draw R frame canvas).report.placements := by
  rw [← map_snd_placed]
  unfold drawings placed
  rw [List.map_flatMap, List.map_flatMap]
  refine List.flatMap_congr fun v _ => ?_
  unfold Visited.drawings
  rw [List.map_map, List.map_map]
  rfl

/-- Visits of a frame that draws go with drawings of the pending messages, from how they were found
to how they are left. -/
theorem map_messages_drawings {frame : FrameSettings} (hdrawing : frame.drawing = true)
    {stack : Stack} {canvas : Canvas ρ} {vs : List (Visited (Pass ρ))}
    (hvs : ∀ v ∈ vs, v ∈ stack.passVisits R frame canvas) :
    (vs.flatMap Visited.drawings).map (fun d => (d.before, d.after)) =
      (vs.filter fun v => v.message.isPending frame.now).map fun v => (v.message, v.result) := by
  induction vs with
  | nil => rfl
  | cons v vs ih =>
    have hv := hvs v List.mem_cons_self
    rw [List.flatMap_cons, List.map_append, ih fun w hw => hvs w (List.mem_cons_of_mem _ hw),
      List.filter_cons]
    unfold Visited.drawings
    cases hp : v.message.isPending frame.now with
    | false =>
      rw [placed_of_not_drawn hv (by rw [hp, Bool.false_and])]
      rfl
    | true =>
      obtain ⟨p, hplaced, -⟩ := placed_of_drawn hv hp hdrawing
      rw [hplaced]
      rfl

/-- A frame that does not draw makes no drawing. -/
theorem drawings_of_not_drawing (stack : Stack) {frame : FrameSettings} (canvas : Canvas ρ)
    (hdrawing : frame.drawing = false) : stack.drawings R frame canvas = [] := by
  refine List.flatMap_eq_nil_iff.mpr fun v hv => ?_
  unfold Visited.drawings
  rw [placed_of_not_drawn hv (by rw [hdrawing, Bool.and_false])]
  rfl

/-- The drawn messages, as they are before the turn, are the pending ones. -/
theorem map_before_drawings (stack : Stack) {frame : FrameSettings} (canvas : Canvas ρ)
    (hdrawing : frame.drawing = true) :
    (stack.drawings R frame canvas).map Drawing.before =
      (stack.pendingEntries frame.now).map Prod.snd := by
  have hmessages := congrArg (List.map Prod.fst)
    (map_messages_drawings R hdrawing fun v hv => (hv : v ∈ stack.passVisits R frame canvas))
  rw [List.map_map, List.map_map] at hmessages
  unfold pendingEntries
  rw [← map_entry_passVisits R stack frame canvas, List.filter_map, List.map_map]
  exact hmessages

/-- The drawn messages, as they are after the turn, are those that it leaves. -/
theorem map_after_drawings (stack : Stack) {frame : FrameSettings} (canvas : Canvas ρ)
    (hdrawing : frame.drawing = true) :
    (stack.drawings R frame canvas).map Drawing.after =
      inOrder stack.layout.reversed (stack.draw R frame canvas).stack.toList := by
  have hmessages := congrArg (List.map Prod.snd)
    (map_messages_drawings R hdrawing fun v hv => (hv : v ∈ stack.passVisits R frame canvas))
  rw [List.map_map, List.map_map] at hmessages
  unfold toList OrderedMap.values
  rw [draw_entries, ← inOrder_map, inOrder_inOrder, keptBy, filter_isKept_passVisits,
    List.map_map]
  exact hmessages

end Stack

/-! ## A frame -/

theorem canvasAfter_calls (settings : FrameSettings) (canvas : Canvas ρ)
    (entries : List (String × Stack)) :
    (canvasAfter R settings canvas entries).calls =
      canvas.calls ++ (turns R settings canvas entries).flatMap fun t =>
        (t.stack.drawings R settings t.canvas).flatMap Drawing.calls ++
          (textureIds (t.stack.dropped settings.now)).map destruction := by
  induction entries generalizing canvas with
  | nil => exact (List.append_nil _).symm
  | cons e rest ih =>
    show (canvasAfter R settings (e.2.draw R settings canvas).canvas rest).calls = _
    rw [ih, Stack.draw_calls, turns, List.flatMap_cons, List.append_assoc, List.append_assoc,
      List.append_assoc]

/-- A frame destroys the textures that waited for it, and then makes the calls of the stacks'
turns. -/
theorem Overlay.draw_calls (overlay : Overlay) (now : Reading) (renderer : ρ) :
    (overlay.draw R now renderer).canvas.calls =
      overlay.registry.orphans.map destruction ++
        (overlay.frameTurns R now renderer).flatMap fun t =>
          (t.stack.drawings R (overlay.settings now) t.canvas).flatMap Drawing.calls ++
            (textureIds (t.stack.dropped now)).map destruction := by
  rw [draw_canvas, canvasAfter_calls]
  unfold startCanvas
  rw [Canvas.calls_destroyAll]
  rfl

end OnScreen
