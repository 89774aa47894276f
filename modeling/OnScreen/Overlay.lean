import OnScreen.Frame
import OnScreen.Registry

/-!
# The overlay

Producers submit messages to stacks; once a frame, everything is drawn. The overlay is a value, and
every operation takes the clock reading at which it happens. Names in parentheses are those of the
functions that are modeled, here and in the other modules of the overlay.

* `Overlay.submit`: queues a message, unless it is a duplicate that is not wanted.
* `Overlay.draw`: draws one frame, the default stack first and then the named stacks in order.
* `Overlay.clear`: drops every message; their textures are destroyed by the next frame.
-/

namespace OnScreen

/-- A message to be queued (`MessageRequest`). -/
structure Request where
  text : String
  duration : UInt32
  color : Color
  icon : Option Icon := none
  /-- The stack it is for; the default stack takes the messages for unknown names. -/
  stack : String := ""
  /-- Not to be queued if the stack still draws the same text under the same type. -/
  preventDuplicate : Bool := false
  scale : Single := Binary.ofNat 1

namespace Request

/-- The message that the request asks for. -/
def toMessage (request : Request) (type : MessageType) (now : Reading) : Message where
  type := type
  text := request.text
  duration := request.duration
  color := request.color
  scale := request.scale
  startedAt := now
  picture := Picture.ofIcon? request.icon

end Request

/-- What became of a submission (`Submission`). -/
inductive Submission
  | queued
  | duplicate
  deriving DecidableEq

/-- The name of a submission's outcome. -/
def Submission.name : Submission → String
  | queued => "Queued"
  | duplicate => "Duplicate"

/-- The overlay: its stacks, whether it draws, and the screen space it keeps free (`Overlay`). -/
structure Overlay where
  registry : Registry := Registry.empty
  enabled : Bool := true
  obscured : Margin := {}

instance : Inhabited Overlay := ⟨{}⟩

/-- The result of a frame. -/
structure Frame (ρ : Type) where
  overlay : Overlay
  canvas : Canvas ρ
  report : FrameReport

namespace Overlay

/-! ## Submitting messages -/

/-- A stack after a message was queued: earlier messages of the same type are superseded (the part
of `add_typed_message` behind the duplicate check). -/
def enqueue (stack : Stack) (m : Message) : Stack :=
  match m.type with
  | .typed _ => (stack.discardType m.type).1.insert m
  | .typeless => stack.insert m

/-- What is reported when a message is queued. -/
def enqueueEvents (stack : Stack) (m : Message) : List Event :=
  match m.type with
  | .typed _ =>
    let count := (stack.discardType m.type).2
    if count = 0 then [] else [.superseded m.text count m.type]
  | .typeless => []

/-- Submits a message of a type (`add_typed_message`; `add_message` is the case without a type). -/
def submit (overlay : Overlay) (now : Reading) (type : MessageType) (request : Request) :
    Reported (Overlay × Submission) :=
  let registry := overlay.registry
  let target := registry.resolve request.stack
  let stack := registry.stackOf target
  let unknown := registry.resolveEvents request.stack
  if request.preventDuplicate && stack.hasMessage type request.text now then
    ⟨(overlay, .duplicate), unknown ++ [.duplicateSkipped request.text]⟩
  else
    let m := request.toMessage type now
    ⟨({ overlay with registry := registry.adjust target (enqueue · m) }, .queued),
      unknown ++ enqueueEvents stack m⟩

/-! ## Stacks and settings -/

/-- Registers a stack, unless its name is empty or taken (`add_message_stack`). -/
def register (overlay : Overlay) (layout : StackLayout) : Reported (Overlay × Bool) :=
  let result := overlay.registry.register layout
  ⟨({ overlay with registry := result.value.1 }, result.value.2), result.events⟩

/-- Registers several stacks, one after the other (the loop of `from_config`). -/
def registerAll (overlay : Overlay) : List StackLayout → Reported Overlay
  | [] => ⟨overlay, []⟩
  | layout :: layouts =>
    let first := overlay.register layout
    let rest := first.value.1.registerAll layouts
    ⟨rest.value, first.events ++ rest.events⟩

/-- Drops every message (`clear_messages`). -/
def clear (overlay : Overlay) : Reported Overlay :=
  let (registry, count) := overlay.registry.clear
  ⟨{ overlay with registry := registry }, [.messagesCleared count]⟩

/-- The number of messages of a stack, those waiting to be removed included (`message_count`). -/
def messageCount? (overlay : Overlay) (stack : String) : Option Nat :=
  (overlay.registry.get? stack).map Stack.size

/-- The stack of this name holds a message of this type and text that a frame would draw
(`has_message`). -/
def hasMessage (overlay : Overlay) (now : Reading) (stack : String) (type : MessageType)
    (text : String) : Bool :=
  match overlay.registry.get? stack with
  | some stack => stack.hasMessage type text now
  | none => false

/-- The settings of the overlay as they are shown to a reader. -/
def describe (overlay : Overlay) : String :=
  let enabled := if overlay.enabled then "true" else "false"
  "Overlay \x7b messages_enabled: " ++ enabled
    ++ ", obscured: ObscuredMargin \x7b left: " ++ toString overlay.obscured.left.toInt
    ++ ", top: " ++ toString overlay.obscured.top.toInt ++ " \x7d, .. \x7d"

/-! ## Drawing -/

variable {ρ : Type} (R : Renderer ρ)

/-- Draws a stack after others of the same frame (one round of the loop in `draw_messages`). -/
def drawNext (settings : FrameSettings) (state : Canvas ρ × FrameReport) (stack : Stack) :
    (Canvas ρ × FrameReport) × Stack :=
  let drawn := stack.draw R settings state.1
  ((drawn.canvas,
      { placements := state.2.placements ++ drawn.report.placements
        pruned := state.2.pruned + drawn.report.pruned }),
    drawn.stack)

/-- Draws one frame (`draw_messages`). -/
def draw (overlay : Overlay) (now : Reading) (renderer : ρ) : Frame ρ :=
  let registry := overlay.registry
  let settings : FrameSettings := ⟨now, overlay.enabled, overlay.obscured⟩
  let start : Canvas ρ := { renderer := renderer }
  let canvas := start.destroyAll R registry.orphans
  let (state, defaultStack) := drawNext R settings (canvas, {}) registry.defaultStack
  let (state, named) := registry.named.mapAccum (drawNext R settings) state
  { overlay := { overlay with registry := ⟨defaultStack, named, []⟩ }
    canvas := state.1
    report := state.2 }

end Overlay

end OnScreen
