import OnScreen.Proofs.Drawings
import OnScreen.Proofs.Surfaces

/-!
# Messages are placed one past the other

In the turn of a stack a cursor starts at the anchor and moves past every message that is drawn, by
the size that the renderer measured for it. Nothing else moves the cursor: neither the messages that
are removed, nor the place that a message got beside it.

Results:
* `Renderer.after`: the state of a renderer after some calls.
* `Drawing.MadeAt`, `drawMessage_made`: how one message is measured and placed.
* `Stack.accumulated_drawings`: the drawings of a turn are made one past the other.
* `Stack.take_placements`: the first pending messages decide about the first placements.
* `Stack.drawing_made`: each drawing of a turn is made with the cursor past the ones before it.
* `Stack.placements_accumulate`: the placements of a turn.
-/

namespace OnScreen

variable {ρ : Type} (R : Renderer ρ)

/-! ## Renderers after calls -/

/-- The state of a renderer after some calls. -/
def Renderer.after (renderer : ρ) (calls : List (Call × Option TextureId)) : ρ :=
  calls.foldl (fun r c => (R.perform r c.1).renderer) renderer

@[simp] theorem Renderer.after_append (renderer : ρ)
    (calls calls' : List (Call × Option TextureId)) :
    R.after renderer (calls ++ calls') = R.after (R.after renderer calls) calls' :=
  List.foldl_append

/-- What does not change in single calls does not change in many. -/
theorem Renderer.after_eq {α : Type} {f : ρ → α}
    (h : ∀ r call, f (R.perform r call).renderer = f r) (renderer : ρ)
    (calls : List (Call × Option TextureId)) : f (R.after renderer calls) = f renderer := by
  induction calls generalizing renderer with
  | nil => rfl
  | cons c calls ih => exact (ih _).trans (h renderer c.1)

/-! ## One message -/

/-- The calls that draw the message, up to the text: what is measured. -/
def Drawing.content (d : Drawing) : List (Call × Option TextureId) :=
  [(.beginSurface d.surface d.placement.opacity, none)] ++
    (d.before.picture.icon?.toList.map fun icon => (.upload icon, d.after.textureId?)) ++
    (d.after.picture.texture?.toList.map fun texture =>
      (.drawImage texture.id texture.size, none)) ++
    [(.drawText d.before.text d.before.color.unpack d.before.scale, none)]

theorem Drawing.calls_eq (d : Drawing) :
    d.calls = d.content ++
      [(.placeSurface d.surface d.placement.position, none), (.endSurface, none)] := by
  simp [calls, content]

theorem uploadIcon_renderer (canvas : Canvas ρ) (m : Message) (answer : Option TextureId) :
    (uploadIcon R canvas m).1.renderer =
      R.after canvas.renderer (m.picture.icon?.toList.map fun icon => (.upload icon, answer)) := by
  rcases uploadIcon_cases R canvas m with ⟨hnone, heq⟩ | ⟨icon, hp, ⟨t, -, heq⟩ | ⟨-, heq⟩⟩
  · rw [heq, hnone]
    rfl
  · rw [heq, hp]
    rfl
  · rw [heq, hp]
    rfl

theorem drawPicture_renderer (canvas : Canvas ρ) (m : Message) :
    (drawPicture R canvas m).renderer =
      R.after canvas.renderer (m.picture.texture?.toList.map fun texture =>
        (.drawImage texture.id texture.size, none)) := by
  unfold drawPicture
  cases m.picture <;> rfl

/-- A drawing is made with the cursor at a point, by a renderer in a state: the message takes up
what the renderer measures, and is placed by the cursor. -/
structure Drawing.MadeAt (layout : StackLayout) (viewport : Size Single) (renderer : ρ)
    (cursor : Point Single) (d : Drawing) : Prop where
  size : d.placement.size =
    paddedSize (R.surfaceSize (R.after renderer d.content))
      (R.framebufferScale (R.after renderer d.content))
  position : d.placement.position = layout.position cursor d.placement.size viewport

/-- Drawing a message makes its drawing at the cursor, and moves the cursor past it. -/
theorem drawMessage_made (layout : StackLayout) (viewport : Size Single) (now : Reading)
    (pass : Pass ρ) (m : Message) :
    ∃ p : Placement,
      let drawn := drawMessage R layout viewport now pass m
      drawn.1.placements = pass.placements ++ [p] ∧
        drawn.1.canvas.renderer = R.after pass.canvas.renderer (Drawing.calls ⟨m, drawn.2, p⟩) ∧
        drawn.1.cursor = layout.direction.advance pass.cursor p.size ∧
        Drawing.MadeAt R layout viewport pass.canvas.renderer pass.cursor ⟨m, drawn.2, p⟩ := by
  unfold drawMessage
  dsimp only
  generalize hcall : Call.beginSurface (surfaceName layout.name pass.placements.length)
    (m.opacity (m.timeLeft now)) = begin
  have hbegin : (pass.canvas.perform R begin).renderer =
      R.after pass.canvas.renderer [(begin, none)] := rfl
  generalize pass.canvas.perform R begin = canvas at hbegin ⊢
  subst hcall
  have hupload := uploadIcon_renderer R canvas m (uploadIcon R canvas m).2.textureId?
  have hfields := uploadIcon_fields R canvas m
  generalize uploadIcon R canvas m = uploaded at hupload hfields ⊢
  obtain ⟨canvas', m'⟩ := uploaded
  dsimp only at hupload hfields ⊢
  have htext := drawPicture_renderer R canvas' m'
  generalize hdrawn : (drawPicture R canvas' m').perform R
    (.drawText m'.text m'.color.unpack m'.scale) = canvas''
  have hcontent : ∀ p : Placement,
      p.stack = layout.name ∧ p.index = pass.placements.length ∧
        p.opacity = m.opacity (m.timeLeft now) →
      canvas''.renderer =
        R.after pass.canvas.renderer (Drawing.content ⟨m, m'.markDrawn, p⟩) := by
    rintro ⟨stack, index, text, position, size, opacity⟩ ⟨rfl, rfl, rfl⟩
    have hsame : m'.text = m.text ∧ m'.color = m.color ∧ m'.scale = m.scale := by
      rw [hfields]
      exact ⟨rfl, rfl, rfl⟩
    obtain ⟨htext', hcolor, hscale⟩ := hsame
    unfold Drawing.content
    rw [R.after_append, R.after_append, R.after_append, ← hdrawn, ← htext', ← hcolor, ← hscale]
    show (R.perform (drawPicture R canvas' m').renderer _).renderer = _
    rw [htext, hupload, hbegin]
    rfl
  refine ⟨_, rfl, ?_, rfl, ?_⟩
  · rw [Drawing.calls_eq, R.after_append, ← hcontent _ ⟨rfl, rfl, rfl⟩]
    rfl
  · constructor
    · rw [← hcontent _ ⟨rfl, rfl, rfl⟩]
    · rfl

/-! ## The turn of a stack -/

/-- The cursor past some drawings. -/
def cursorAfter (layout : StackLayout) (cursor : Point Single) (ds : List Drawing) : Point Single :=
  (ds.map fun d => d.placement.size).foldl layout.direction.advance cursor

/-- Drawings are made one past the other, the first one with the cursor at a point. -/
def Accumulated (layout : StackLayout) (viewport : Size Single) :
    ρ → Point Single → List Drawing → Prop
  | _, _, [] => True
  | renderer, cursor, d :: ds =>
    d.MadeAt R layout viewport renderer cursor ∧
      Accumulated layout viewport (R.after renderer d.calls)
        (layout.direction.advance cursor d.placement.size) ds

theorem accumulated_append {layout : StackLayout} {viewport : Size Single} {renderer : ρ}
    {cursor : Point Single} {ds ds' : List Drawing} :
    Accumulated R layout viewport renderer cursor (ds ++ ds') ↔
      Accumulated R layout viewport renderer cursor ds ∧
        Accumulated R layout viewport (R.after renderer (ds.flatMap Drawing.calls))
          (cursorAfter layout cursor ds) ds' := by
  induction ds generalizing renderer cursor with
  | nil => exact (iff_of_eq (true_and _)).symm
  | cons d ds ih =>
    simp only [List.cons_append, Accumulated, ih, List.flatMap_cons, R.after_append, and_assoc]
    rfl

namespace Stack

/-- A visit makes its drawing, if any, at the cursor, and moves the cursor past it. -/
theorem visitMessage_made (frame : FrameSettings) (layout : StackLayout) (viewport : Size Single)
    (pass : Pass ρ) (key : Key) (m : Message) :
    let answer := visitMessage R frame layout viewport pass m
    let ds := (Visited.mk pass key m answer).drawings
    Accumulated R layout viewport pass.canvas.renderer pass.cursor ds ∧
      answer.1.canvas.renderer = R.after pass.canvas.renderer (ds.flatMap Drawing.calls) ∧
      answer.1.cursor = cursorAfter layout pass.cursor ds := by
  unfold Visited.drawings Visited.placed Visited.result
  dsimp only
  rcases visitMessage_cases R frame layout viewport pass m with
    ⟨-, event, -, hv⟩ | ⟨-, -, hv⟩ | ⟨-, -, hv⟩
  · rw [hv, List.drop_length]
    exact ⟨trivial, rfl, rfl⟩
  · rw [hv, List.drop_length]
    exact ⟨trivial, rfl, rfl⟩
  · obtain ⟨p, hplaced, hrenderer, hcursor, hmade⟩ :=
      drawMessage_made R layout viewport frame.now pass m
    rw [hv]
    dsimp only at hplaced hrenderer hcursor hmade ⊢
    rw [hplaced, List.drop_left, hrenderer, hcursor]
    exact ⟨⟨hmade, trivial⟩, by simp, rfl⟩

/-- A pass over entries makes its drawings one past the other. -/
theorem accumulated_visits (frame : FrameSettings) (layout : StackLayout) (viewport : Size Single)
    (pass : Pass ρ) (entries : List (Key × Message)) :
    Accumulated R layout viewport pass.canvas.renderer pass.cursor
      ((visits (visitMessage R frame layout viewport) pass entries).flatMap Visited.drawings) := by
  induction entries generalizing pass with
  | nil => trivial
  | cons e rest ih =>
    obtain ⟨key, m⟩ := e
    obtain ⟨hmade, hrenderer, hcursor⟩ :=
      visitMessage_made R frame layout viewport pass key m
    have hrest := ih (visitMessage R frame layout viewport pass m).1
    rw [hrenderer, hcursor] at hrest
    rw [visits, List.flatMap_cons, accumulated_append]
    exact ⟨hmade, hrest⟩

theorem accumulated_drawings (stack : Stack) (frame : FrameSettings) (canvas : Canvas ρ) :
    Accumulated R stack.layout (R.viewport canvas.renderer) canvas.renderer
      (stack.layout.startCursor (R.viewport canvas.renderer) (R.framebufferScale canvas.renderer)
        frame.obscured)
      (stack.drawings R frame canvas) :=
  accumulated_visits R frame stack.layout (R.viewport canvas.renderer)
    (stack.passStart R frame canvas) (inOrder stack.layout.reversed stack.messages.entries)

end Stack

/-- The messages that a frame finds pending, in the order of the walk. -/
def Stack.pendingMessages (stack : Stack) (now : Reading) : List Message :=
  (stack.pendingEntries now).map Prod.snd

/-! ## Messages that are removed -/

/-- A renderer in the same state answers alike, whatever happened before. -/
theorem Renderer.parallel_renderer :
    R.Parallel R (· = ·) (fun c c' => c.renderer = c'.renderer)
      fun c c' => c.renderer = c'.renderer where
  viewport h := by rw [h]
  framebufferScale h := by rw [h]
  report h _ := h
  destroy h ht := by simp only [Canvas.perform, h, ht]
  begin h _ _ := by simp only [Canvas.perform, h]
  upload {c c'} h icon := by
    simp only [Canvas.upload, Canvas.perform, h, true_and]
    cases (R.perform c'.renderer (.upload icon)).texture with
    | none => exact .none
    | some t => exact .some rfl
  reportOpened h _ := h
  drawImage h ht _ := by simp only [Canvas.perform, h, ht]
  drawText h _ _ _ := by simp only [Canvas.perform, h]
  measure h := by
    rw [h]
    exact ⟨rfl, rfl⟩
  place h _ _ := by simp only [Canvas.perform, h]
  close h := by simp only [Canvas.perform, h]

namespace Stack

variable {R} {frame : FrameSettings} {layout : StackLayout} {viewport : Size Single}

/-- A pass over entries shows what a pass over the pending messages among them shows. -/
theorem stateAfter_pending {pass pass' : Pass ρ} (h : pass.Alike id pass')
    (entries : List (Key × Message)) :
    (stateAfter (visitMessage R frame layout viewport) pass entries).Alike id
      (((entries.filter fun e => e.2.isPending frame.now).map Prod.snd).foldl
        (fun pass m => (visitMessage R frame layout viewport pass m).1) pass') := by
  induction entries generalizing pass pass' with
  | nil => exact h
  | cons e rest ih =>
    obtain ⟨key, m⟩ := e
    rw [List.filter_cons]
    cases hp : m.isPending frame.now with
    | false => exact ih (visitMessage_of_not_pending R hp h layout viewport).1
    | true =>
      have hsame : m.Like (.faithful (· = ·) (· = ·)) m := .refl (fun _ => rfl) (fun _ => rfl) m
      obtain ⟨hvisit, -, -⟩ := R.parallel_renderer.visit Sense.lawful_faithful_eq
        (rfl : frame.now = frame.now) layout viewport ⟨h.view, h.cursor, h.placements⟩ hsame
        frame.drawing frame.obscured
      exact ih ⟨hvisit.canvas, hvisit.cursor, hvisit.placements⟩

/-- A pass that draws adds one placement for every pending message, behind those of the pass. -/
theorem placements_foldl (hdrawing : frame.drawing = true) (pass : Pass ρ) {ms : List Message}
    (hms : ∀ m ∈ ms, m.isPending frame.now = true) :
    ∃ placed : List Placement, placed.length = ms.length ∧
      (ms.foldl (fun pass m => (visitMessage R frame layout viewport pass m).1) pass).placements =
        pass.placements ++ placed := by
  induction ms generalizing pass with
  | nil => exact ⟨[], rfl, (List.append_nil _).symm⟩
  | cons m ms ih =>
    obtain ⟨hm, hms⟩ := List.forall_mem_cons.mp hms
    obtain ⟨placed, hlength, hplaced⟩ :=
      ih (visitMessage R frame layout viewport pass m).1 hms
    rcases visitMessage_cases R frame layout viewport pass m with
      ⟨hm', -⟩ | ⟨-, hd, -⟩ | ⟨-, -, hv⟩
    · rw [hm] at hm'
      cases hm'
    · rw [hdrawing] at hd
      cases hd
    · obtain ⟨p, hp, -⟩ := drawMessage_placements R layout viewport frame.now pass m
      refine ⟨p :: placed, by simp [hlength], ?_⟩
      rw [List.foldl_cons, hplaced, hv, hp, List.append_assoc]
      rfl

/-- The turn of a stack places the pending messages, and nothing else shows in the placements. -/
theorem placements_eq_foldl (stack : Stack) (canvas : Canvas ρ) {pass : Pass ρ}
    (hpass : (stack.passStart R frame canvas).Alike id pass) :
    (stack.draw R frame canvas).report.placements =
      ((stack.pendingMessages frame.now).foldl
        (fun pass m => (stack.passVisit R frame canvas pass m).1) pass).placements := by
  rw [draw_report_placements]
  exact (stateAfter_pending hpass _).placements

/-- The first placements of a turn come from the first pending messages alone. -/
theorem take_placements (stack : Stack) (canvas : Canvas ρ) {pass : Pass ρ}
    (hpass : (stack.passStart R frame canvas).Alike id pass) (hdrawing : frame.drawing = true)
    {ms : List Message} (hms : ms <+: stack.pendingMessages frame.now) :
    (stack.draw R frame canvas).report.placements.take ms.length =
      (ms.foldl (fun pass m => (stack.passVisit R frame canvas pass m).1) pass).placements := by
  obtain ⟨rest, hrest⟩ := hms
  have hpending : ∀ m ∈ ms ++ rest, m.isPending frame.now = true := by
    intro m hm
    rw [hrest] at hm
    obtain ⟨e, he, rfl⟩ := List.mem_map.mp hm
    exact (List.mem_filter.mp he).2
  obtain ⟨hms, hrests⟩ := List.forall_mem_append.mp hpending
  rw [placements_eq_foldl stack canvas hpass, ← hrest, List.foldl_append]
  unfold passVisit
  obtain ⟨placed, hlength, hplaced⟩ := placements_foldl hdrawing pass hms
  obtain ⟨more, -, hmore⟩ := placements_foldl hdrawing
    (ms.foldl (fun pass m =>
      (visitMessage R frame stack.layout (R.viewport canvas.renderer) pass m).1) pass) hrests
  have hnone : pass.placements = [] := hpass.placements.symm
  rw [hmore, hplaced, hnone, List.nil_append, List.take_left' hlength]

/-- Stacks of one layout that begin with the same pending messages begin with the same placements,
on renderers in the same state. -/
theorem take_placements_congr {stack stack' : Stack} {canvas canvas' : Canvas ρ}
    (hlayout : stack'.layout = stack.layout) (hrenderer : canvas'.renderer = canvas.renderer)
    {shared : List Message} (hshared : shared <+: stack.pendingMessages frame.now)
    (hshared' : shared <+: stack'.pendingMessages frame.now) :
    (stack'.draw R frame canvas').report.placements.take shared.length =
      (stack.draw R frame canvas).report.placements.take shared.length := by
  cases hdrawing : frame.drawing with
  | false =>
    rw [← map_placement_drawings, ← map_placement_drawings,
      drawings_of_not_drawing R stack canvas hdrawing,
      drawings_of_not_drawing R stack' canvas' hdrawing]
  | true =>
    have hstart : (stack'.passStart R frame canvas').Alike id
        (stack.passStart R frame canvas) := by
      refine ⟨hrenderer, ?_, rfl⟩
      unfold passStart
      rw [hrenderer, hlayout]
    rw [take_placements stack canvas (.refl id _) hdrawing hshared,
      take_placements stack' canvas' hstart hdrawing hshared']
    unfold passVisit
    rw [hrenderer, hlayout]

end Stack

/-! ## Placements -/

namespace Stack

variable {R}

/-- Every drawing of a turn is made with the cursor past the ones before it. -/
theorem drawing_made (stack : Stack) (frame : FrameSettings) (canvas : Canvas ρ)
    {before after : List Drawing} {d : Drawing}
    (h : stack.drawings R frame canvas = before ++ d :: after) :
    d.MadeAt R stack.layout (R.viewport canvas.renderer)
      (R.after canvas.renderer (before.flatMap Drawing.calls))
      (cursorAfter stack.layout
        (stack.layout.startCursor (R.viewport canvas.renderer)
          (R.framebufferScale canvas.renderer) frame.obscured) before) := by
  have haccumulated := accumulated_drawings R stack frame canvas
  rw [h] at haccumulated
  exact ((accumulated_append R).mp haccumulated).2.1

/-- What is drawn before a message is measured. -/
theorem content_prefix (before after : List Drawing) (d : Drawing) :
    before.flatMap Drawing.calls ++ d.content <+:
      (before ++ d :: after).flatMap Drawing.calls := by
  rw [List.flatMap_append, List.flatMap_cons, Drawing.calls_eq, List.append_assoc,
    List.prefix_append_right_inj]
  exact List.prefix_append _ _

/-- Placements accumulate. Let the framebuffer scale be the same throughout the turn of a stack; the
viewport is only read at its beginning. There is one drawing for each placement, of the pending
messages in the order of the walk. The cursor starts at the anchor and moves, in the direction of
the stack, past each drawing by the size that was measured after its text was drawn; every message
is placed by the cursor that the drawings before it have left. Centering does not show in the
cursor. Whatever else is stored, pending or to be removed, the first messages that are pending get
the same placements, if the renderer is in the same state. -/
theorem placements_accumulate (stack : Stack) (frame : FrameSettings) (canvas : Canvas ρ)
    (hscale : ∀ calls, calls <+: (stack.drawings R frame canvas).flatMap Drawing.calls →
      R.framebufferScale (R.after canvas.renderer calls) = R.framebufferScale canvas.renderer) :
    let layout := stack.layout
    let viewport := R.viewport canvas.renderer
    let scale := R.framebufferScale canvas.renderer
    let drawings := stack.drawings R frame canvas
    drawings.map Drawing.placement = (stack.draw R frame canvas).report.placements ∧
      drawings.map Drawing.before =
        (if frame.drawing then stack.pendingMessages frame.now else []) ∧
      canvas.calls ++ drawings.flatMap Drawing.calls <+: (stack.draw R frame canvas).canvas.calls ∧
      (∀ before d after, drawings = before ++ d :: after → ∀ centered,
        let start := { layout with centered := centered }.startCursor viewport scale frame.obscured
        let cursor := (before.map fun d => d.placement.size).foldl layout.direction.advance start
        let measured :=
          R.surfaceSize (R.after canvas.renderer (before.flatMap Drawing.calls ++ d.content))
        d.placement.size = paddedSize measured scale ∧
          d.placement.position = layout.position cursor d.placement.size viewport) ∧
      ∀ (stack' : Stack) (canvas' : Canvas ρ) (shared : List Message), stack'.layout = layout →
        canvas'.renderer = canvas.renderer → shared <+: stack.pendingMessages frame.now →
        shared <+: stack'.pendingMessages frame.now →
          (stack'.draw R frame canvas').report.placements.take shared.length =
            (stack.draw R frame canvas).report.placements.take shared.length := by
  intro layout viewport scale drawings
  refine ⟨map_placement_drawings R stack frame canvas, ?_, ?_, ?_, ?_⟩
  · cases hdrawing : frame.drawing with
    | true => exact map_before_drawings R stack canvas hdrawing
    | false =>
      rw [show drawings = [] from drawings_of_not_drawing R stack canvas hdrawing]
      rfl
  · rw [draw_calls]
    exact List.prefix_append _ _
  · intro before d after hsplit centered start cursor measured
    have hmade := drawing_made stack frame canvas hsplit
    have hmeasuring : before.flatMap Drawing.calls ++ d.content <+:
        (stack.drawings R frame canvas).flatMap Drawing.calls := by
      rw [show stack.drawings R frame canvas = _ from hsplit]
      exact content_prefix before after d
    have hsize := hmade.size
    rw [← R.after_append, hscale _ hmeasuring] at hsize
    exact ⟨hsize, hmade.position⟩
  · intro stack' canvas' shared hlayout hrenderer hshared hshared'
    exact take_placements_congr hlayout hrenderer hshared hshared'

/-- The framebuffer scale of a headless renderer never changes. -/
theorem framebufferScale_after (r : Headless) (calls : List (Call × Option TextureId)) :
    Headless.renderer.framebufferScale (Headless.renderer.after r calls) =
      Headless.renderer.framebufferScale r :=
  Headless.renderer.after_eq
    (fun r call => (congrArg Headless.framebufferScale (Headless.settings_perform r call) :))
    r calls

/-- In a stack of three the time of the middle message is up. The others are placed as if it had
never been there. -/
theorem gap_closed :
    let screen : Canvas Headless :=
      { renderer := { viewport := ⟨Binary.ofNat 640, Binary.ofNat 480⟩ } }
    let layout : StackLayout :=
      { StackLayout.named "side" with direction := .upward, centered := true }
    let notice (text : String) (duration : UInt32) : Message :=
      { text := text, duration := duration, color := Color.green : Request }.toMessage .typeless 0
    let two := (insert { layout := layout } (notice "Saved" 9000)).insert (notice "Sent" 9000)
    let three :=
      ((insert { layout := layout } (notice "Saved" 9000)).insert (notice "Paused" 500)).insert
        (notice "Sent" 9000)
    let frame : FrameSettings := ⟨7000, true, {}⟩
    (two.draw Headless.renderer frame screen).report.placements.length = 2 ∧
      (two.draw Headless.renderer frame screen).report.placements.take 2 =
        (three.draw Headless.renderer frame screen).report.placements.take 2 := by
  intro screen layout notice two three frame
  obtain ⟨-, -, -, -, hshared⟩ := placements_accumulate three frame screen
    fun calls _ => framebufferScale_after screen.renderer calls
  have hsaved : (notice "Saved" 9000).isPending frame.now = true := by decide
  have hpaused : (notice "Paused" 500).isPending frame.now = false := by decide
  have hsent : (notice "Sent" 9000).isPending frame.now = true := by decide
  have htwo : two.pendingMessages frame.now = [notice "Saved" 9000, notice "Sent" 9000] := by
    have hentries : two.messages.entries =
        [(⟨.typeless, 0⟩, notice "Saved" 9000), (⟨.typeless, 1⟩, notice "Sent" 9000)] := rfl
    have hreversed : two.layout.reversed = false := rfl
    simp [pendingMessages, pendingEntries, inOrder, hentries, hreversed, hsaved, hsent]
  have hthree : three.pendingMessages frame.now = [notice "Saved" 9000, notice "Sent" 9000] := by
    have hentries : three.messages.entries =
        [(⟨.typeless, 0⟩, notice "Saved" 9000), (⟨.typeless, 1⟩, notice "Paused" 500),
          (⟨.typeless, 2⟩, notice "Sent" 9000)] := rfl
    have hreversed : three.layout.reversed = false := rfl
    simp [pendingMessages, pendingEntries, inOrder, hentries, hreversed, hsaved, hpaused, hsent]
  exact ⟨by decide, hshared two screen [notice "Saved" 9000, notice "Sent" 9000] rfl rfl
    (hthree ▸ List.prefix_rfl) (htwo ▸ List.prefix_rfl)⟩

end Stack

end OnScreen
