import OnScreen.Config
import OnScreen.Demo.Options
import OnScreen.Image.File
import OnScreen.Renderer.Headless

/-!
# The demo

Draws frames of an overlay on a headless renderer and tells where every message went. One message is
queued at the start, a typed one before every frame, and a few by every producer: the producer with
the number `p` makes its events every `p + 1` frames.

* `Demo.start`: the overlay and the renderer before the first frame.
* `Demo.frame`: one frame; `FrameReport.lines`: what is printed about it.
* `Demo.finish`: drops all messages and draws the frame that destroys their textures.
* `Demo.run`: a run during which the clock stands still.
* `Demo.outcome`: what a command line leads to.
-/

namespace OnScreen

namespace Demo

/-- The overlay and the renderer of a run. -/
structure State where
  overlay : Overlay
  renderer : Headless

/-! ## Messages -/

/-- The stacks of a demo whose configuration lists none. -/
def layouts : List StackLayout :=
  [{ StackLayout.named "perf" with direction := .leftward },
    { StackLayout.named "status" with direction := .upward, centered := true }]

/-- The message queued at the start. -/
def greeting (icon : Option Icon) : Request where
  text := "Overlay demo started"
  duration := normalDuration
  color := Color.cyan
  icon := icon

/-- The type of the message about the frame rate. -/
def rateType : MessageType :=
  .typed 0

/-- The message about the frame rate, which replaces the one of the frame before. -/
def rateMessage (interval : UInt64) : Request where
  text := "FPS: " ++ toString (1000 / max interval.toNat 1)
  duration := 0
  color := Color.green
  stack := "perf"

/-- The events of a producer. -/
def eventCount : Nat := 4

/-- What a producer queues at one of its events. -/
def eventRequests (producer event : Nat) : List Request :=
  let plain : Request :=
    { text := "Producer " ++ toString producer ++ ": event " ++ toString event
      duration := shortDuration
      color := Color.yellow
      preventDuplicate := true }
  let urgent : Request :=
    { text := "Producer " ++ toString producer ++ " needs attention"
      duration := shortDuration
      color := Color.red
      stack := "status" }
  if event = 2 then [plain, urgent] else [plain]

/-- What a producer queues before a frame (`spawn_producer`). -/
def producerRequests (frame producer : Nat) : List Request :=
  let event := frame / (producer + 1)
  if frame % (producer + 1) = 0 ∧ event < eventCount then eventRequests producer event else []

/-- What all producers queue before a frame. -/
def requestsBefore (producers frame : Nat) : List Request :=
  (List.range producers).flatMap (producerRequests frame)

/-- The number of frames, drawn or not, after which no producer has anything left to queue, so that
all of them can be joined. -/
def producerFrames (producers : Nat) : Nat :=
  if producers = 0 then 0 else (eventCount - 1) * producers + 1

/-- The state after plain messages were queued. -/
def State.queue (state : State) (now : Reading) (requests : List Request) : State :=
  { state with
    overlay :=
      requests.foldl (fun overlay r => (overlay.submit now .typeless r).value.1) state.overlay }

/-! ## Frames -/

/-- The state before the first frame (`main`, up to its loop). -/
def start (options : Options) (config : Config) (icon : Option Icon) (now : Reading) : State :=
  let overlay := config.overlay.value
  let overlay := if config.layouts.isEmpty then (overlay.registerAll layouts).value else overlay
  let state : State :=
    { overlay := overlay, renderer := { viewport := ⟨options.width, options.height⟩ } }
  state.queue now [greeting icon]

/-- Draws the overlay. The surfaces of the frame are not kept. -/
def State.draw (state : State) (now : Reading) : State × FrameReport :=
  let frame := state.overlay.draw Headless.renderer now state.renderer
  (⟨frame.overlay, frame.canvas.renderer.takeSurfaces.2⟩, frame.report)

/-- The state after the producers queued what is due before a frame. -/
def produce (options : Options) (number : Nat) (now : Reading) (state : State) : State :=
  state.queue now (requestsBefore options.producers.toNat number)

/-- One frame: the producers and the message about the frame rate, then everything is drawn (one
round of the loop in `main`). -/
def frame (options : Options) (number : Nat) (now : Reading) (state : State) :
    State × FrameReport :=
  let state := produce options number now state
  let queued := state.overlay.submit now rateType (rateMessage options.interval)
  { state with overlay := queued.value.1 }.draw now

/-- Drops all messages and draws the frame that destroys their textures (the end of `main`). -/
def finish (now : Reading) (state : State) : State × FrameReport :=
  { state with overlay := state.overlay.clear.value }.draw now

/-! ## What is printed -/

/-- A placement as one line. -/
def placementLine (p : Placement) : String :=
  let whole (x : Single) : String := String.ofList (x.fixed 0)
  "  [" ++ (if p.stack = "" then "default" else p.stack) ++ "#" ++ toString p.index ++ "] ("
    ++ whole p.position.x ++ ", " ++ whole p.position.y ++ ") "
    ++ whole p.size.width ++ "x" ++ whole p.size.height
    ++ " a=" ++ String.ofList (p.opacity.fixed 2) ++ " " ++ p.text

/-- A frame as a line, and a line for every placement. -/
def reportLines (number : Nat) (report : FrameReport) : List String :=
  ("frame " ++ toString number ++ ": " ++ toString report.placements.length ++ " drawn, "
      ++ toString report.pruned ++ " pruned")
    :: report.placements.map placementLine

/-! ## Runs -/

/-- The given number of frames at one clock reading, from the frame with the given number on. -/
def frames (options : Options) (now : Reading) : Nat → Nat → State → State × List FrameReport
  | _, 0, state => (state, [])
  | number, count + 1, state =>
    let first := frame options number now state
    let rest := frames options now (number + 1) count first.1
    (rest.1, first.2 :: rest.2)

/-- What a run prints during which the clock stands still. -/
def run (options : Options) (config : Config) (icon : Option Icon) (now : Reading) : List String :=
  let drawn := frames options now 0 options.frames.toNat (start options config icon now)
  (drawn.2.zipIdx.map fun r => reportLines r.2 r.1).flatten

/-! ## From the command line to a run -/

/-- The file that the configuration is read from. -/
def Options.configPath (options : Options) (environment : Environment) : String :=
  options.config.getD environment.configPath

/-- The configuration, given what is in its file. A file that the options name has to be usable. -/
def Options.configOf (options : Options) (path : String) (contents : Except FileFault ByteArray) :
    Except Error Config :=
  let text :=
    match contents with
    | .ok bytes => FileTree.textOf bytes
    | .error fault => .error fault
  if options.config.isSome then Config.ofFile path text
  else .ok (Config.ofFileOrDefault path text).value

/-- The end of a program: its exit status and the lines it has printed. -/
structure Outcome where
  status : UInt32
  lines : List String := []

/-- The status of a run that could not begin. -/
def failureStatus : UInt32 := 1

/-- The status for arguments that cannot be used. -/
def usageStatus : UInt32 := 2

/-- What a run leads to, with files in a tree and a clock that stands still. -/
def Options.outcome (options : Options) (environment : Environment) (tree : FileTree)
    (now : Reading) : Outcome :=
  let path := options.configPath environment
  match options.configOf path (tree.read path) with
  | .error _ => { status := failureStatus }
  | .ok config =>
    match options.icon with
    | none => { status := 0, lines := run options config none now }
    | some path =>
      match Icon.load tree path with
      | .error _ => { status := failureStatus }
      | .ok icon => { status := 0, lines := run options config (some icon) now }

/-- What a command line leads to, with files in a tree and a clock that stands still. -/
def outcome (arguments : List String) (environment : Environment) (tree : FileTree)
    (now : Reading) : Outcome :=
  match Command.ofArguments arguments with
  | .error _ => { status := usageStatus }
  | .ok .help => { status := 0, lines := helpLines }
  | .ok (.run options) => options.outcome environment tree now

end Demo

end OnScreen
