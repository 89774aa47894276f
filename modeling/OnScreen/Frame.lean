import OnScreen.Renderer
import OnScreen.Stack

/-!
# Frames

A frame passes over a stack once. Messages whose time is up and messages that were superseded are
removed; the others are drawn one after the other, each placed past the one before. A frame that is
not to draw removes the same messages and leaves the others as they are.

* `surfaceName`: the name of the surface of a message.
* `drawMessage`: the calls that draw one message, and where it goes.
* `Stack.draw`: the pass over a stack.
-/

namespace OnScreen

/-- What all stacks of a frame have in common (`FrameContext`). -/
structure FrameSettings where
  now : Reading
  /-- Messages are drawn; otherwise they are only removed. -/
  drawing : Bool
  obscured : Margin

/-- Where a message was drawn (`Placement`). -/
structure Placement where
  stack : String
  /-- The messages of the stack drawn before it. -/
  index : Nat
  text : String
  position : Point Single
  size : Size Single
  opacity : Single
  deriving DecidableEq

/-- What a frame did (`FrameReport`). -/
structure FrameReport where
  placements : List Placement := []
  /-- The number of messages removed. -/
  pruned : Nat := 0
  deriving DecidableEq

namespace FrameReport

/-- The placements of one stack (`for_stack`). -/
def forStack (report : FrameReport) (stack : String) : List Placement :=
  report.placements.filter fun p => decide (p.stack = stack)

/-- The texts drawn (`texts`). -/
def texts (report : FrameReport) : List String :=
  report.placements.map Placement.text

end FrameReport

/-- The name of the surface of a drawn message (`surface_name`). -/
def surfaceName (stack : String) (index : Nat) : String :=
  "osd_" ++ stack ++ "_" ++ toString index

section

variable {ρ : Type} (R : Renderer ρ)

/-- Turns the icon of a message into a texture (`upload_icon`). An icon whose upload fails is
dropped for good. -/
def uploadIcon (canvas : Canvas ρ) (m : Message) : Canvas ρ × Message :=
  match m.picture with
  | .waiting icon =>
    match canvas.upload R icon with
    | (canvas, some id) =>
      let size : Size Single := ⟨Binary.ofNat icon.width.toNat, Binary.ofNat icon.height.toNat⟩
      (canvas, { m with picture := .uploaded ⟨id, size⟩ })
    | (canvas, none) =>
      (canvas.report (.uploadFailed icon.width icon.height m.text), { m with picture := .absent })
  | _ => (canvas, m)

/-- Draws the image of a message that has one (a part of `draw_message`). -/
def drawPicture (canvas : Canvas ρ) (m : Message) : Canvas ρ :=
  match m.picture with
  | .uploaded texture => canvas.perform R (.drawImage texture.id texture.size)
  | _ => canvas

/-- The state of a pass over a stack. -/
structure Pass (ρ : Type) where
  canvas : Canvas ρ
  cursor : Point Single
  placements : List Placement := []

/-- Draws a message at the cursor (`draw_message`). -/
def drawMessage (layout : StackLayout) (viewport : Size Single) (now : Reading) (pass : Pass ρ)
    (m : Message) : Pass ρ × Message :=
  let index := pass.placements.length
  let name := surfaceName layout.name index
  let opacity := m.opacity (m.timeLeft now)
  let canvas := pass.canvas.perform R (.beginSurface name opacity)
  let (canvas, m) := uploadIcon R canvas m
  let canvas := drawPicture R canvas m
  let canvas := canvas.perform R (.drawText m.text m.color.unpack m.scale)
  let size := paddedSize (R.surfaceSize canvas.renderer) (R.framebufferScale canvas.renderer)
  let position := layout.position pass.cursor size viewport
  let canvas := canvas.perform R (.placeSurface name position)
  let canvas := canvas.perform R .endSurface
  let placement : Placement := ⟨layout.name, index, m.text, position, size, opacity⟩
  ({ canvas := canvas
     cursor := layout.direction.advance pass.cursor size
     placements := pass.placements ++ [placement] },
    m.markDrawn)

/-- What a frame does when it comes to a message (the visitor in `draw_stack`). -/
def visitMessage (frame : FrameSettings) (layout : StackLayout) (viewport : Size Single)
    (pass : Pass ρ) (m : Message) : Pass ρ × Message × Visit :=
  match m.fate frame.now with
  | .expired => ({ pass with canvas := pass.canvas.report (.expiredDropped m.text) }, m, .remove)
  | .superseded =>
    ({ pass with canvas := pass.canvas.report (.supersededDropped m.text) }, m, .remove)
  | .pending =>
    if frame.drawing then
      let (pass, m) := drawMessage R layout viewport frame.now pass m
      (pass, m, .keep)
    else (pass, m, .keep)

/-- A stack after a frame, with the renderer and what was done. -/
structure DrawnStack (ρ : Type) where
  stack : Stack
  canvas : Canvas ρ
  report : FrameReport

/-- Draws a stack (`draw_stack`). The textures of the removed messages are destroyed at the end. -/
def Stack.draw (stack : Stack) (frame : FrameSettings) (canvas : Canvas ρ) : DrawnStack ρ :=
  let viewport := R.viewport canvas.renderer
  let scale := R.framebufferScale canvas.renderer
  let start : Pass ρ :=
    { canvas := canvas, cursor := stack.layout.startCursor viewport scale frame.obscured }
  let walk :=
    stack.walk stack.layout.reversed (visitMessage R frame stack.layout viewport) start
  let textures := walk.removed.filterMap fun m => m.picture.texture?.map Texture.id
  { stack := stack.afterWalk walk
    canvas := walk.state.canvas.destroyAll R textures
    report := ⟨walk.state.placements, walk.removed.length⟩ }

end

end OnScreen
