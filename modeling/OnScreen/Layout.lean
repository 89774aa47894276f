import OnScreen.Number.Binary

/-!
# Layout of a stack

Where the messages of a stack go on the screen. A cursor starts at the stack's anchor; each message
is placed at the cursor, and the cursor moves past it in the stack's direction.

The rules hold for coordinates of any arithmetic: single-precision numbers when a frame is drawn,
rational numbers when its geometry is reasoned about.

* `Layout.startCursor`: the anchor; stacks that grow from a far edge start there.
* `Layout.position`: where a message of a given size goes when the cursor is at a given point.
* `Layout.advance`: the cursor past a message.
* `Layout.positions`: the positions of a list of messages, given their sizes.
-/

namespace OnScreen

/-- A point on the screen, or a factor for each axis. -/
structure Point (α : Type) where
  x : α
  y : α
  deriving DecidableEq

/-- The extent of a rectangle. -/
structure Size (α : Type) where
  width : α
  height : α
  deriving DecidableEq

/-- The direction in which a stack grows (`StackDirection`). -/
inductive Direction
  | downward
  | upward
  | leftward
  | rightward
  deriving DecidableEq, Inhabited

namespace Direction

/-- The stack grows along the vertical axis (`is_vertical`). -/
def isVertical : Direction → Bool
  | downward | upward => true
  | leftward | rightward => false

/-- Every direction. -/
def all : List Direction :=
  [downward, upward, leftward, rightward]

/-- The name of a direction. -/
def name : Direction → String
  | downward => "Downward"
  | upward => "Upward"
  | leftward => "Leftward"
  | rightward => "Rightward"

end Direction

/-- Screen space in use by others, along the left and the top edge (`ObscuredMargin`). -/
structure Margin where
  left : Int32 := 0
  top : Int32 := 0
  deriving DecidableEq

/-- Placement settings of a stack (`StackLayout`). They never change once the stack is
registered. -/
structure Layout (α : Type) where
  /-- The key of the stack; empty for the default stack. -/
  name : String
  /-- Added to the anchor. -/
  offset : Point α
  direction : Direction
  /-- Messages are centered on the axis across the direction. -/
  centered : Bool
  /-- Messages are drawn in reverse key order. -/
  reversed : Bool
  deriving DecidableEq

/-- The layout of a stack on the screen. -/
abbrev StackLayout := Layout Single

/-- The space left of the first message, before scaling. -/
def leftMargin : Int := 10

/-- The space above the first message, before scaling. -/
def topMargin : Int := 10

/-- The space between two messages, before scaling. -/
def windowPadding : Int := 4

section Placement

variable {α : Type} [Add α] [Sub α] [Mul α] [Div α] [IntCast α]

/-- The size that a drawn message takes up: what was measured and the gap to the next message
(`padded_size`). -/
def paddedSize (measured : Size α) (scale : Point α) : Size α where
  width := measured.width + (windowPadding : α) * scale.x
  height := measured.height + (windowPadding : α) * scale.y

namespace Layout

/-- The cursor for the first message (`start_cursor`). Leftward and upward stacks start at the far
edge. -/
def startCursor (layout : Layout α) (viewport : Size α) (scale : Point α) (obscured : Margin) :
    Point α :=
  let x := (leftMargin : α) * scale.x + (obscured.left.toInt : α) + layout.offset.x
  let y := (topMargin : α) * scale.y + (obscured.top.toInt : α) + layout.offset.y
  match layout.direction with
  | .leftward => ⟨viewport.width - x, y⟩
  | .upward => ⟨x, viewport.height - y⟩
  | .downward | .rightward => ⟨x, y⟩

/-- The cursor with the coordinate across the direction moved so that the message is centered, if
the stack is (the first part of `surface_position`). -/
def centeredCursor (layout : Layout α) (cursor : Point α) (size : Size α) (viewport : Size α) :
    Point α :=
  if layout.centered then
    if layout.direction.isVertical then
      { cursor with x := viewport.width / ((2 : Int) : α) - size.width / ((2 : Int) : α) }
    else
      { cursor with y := viewport.height / ((2 : Int) : α) - size.height / ((2 : Int) : α) }
  else cursor

/-- The position of a message (`surface_position`). In leftward and upward stacks the message hangs
off the cursor, so that it stays on the screen. -/
def position (layout : Layout α) (cursor : Point α) (size : Size α) (viewport : Size α) :
    Point α :=
  let base := layout.centeredCursor cursor size viewport
  match layout.direction with
  | .leftward => { base with x := base.x - size.width }
  | .upward => { base with y := base.y - size.height }
  | .downward | .rightward => base

end Layout

/-- The cursor past a message of the given size (`advance`). -/
def Direction.advance (direction : Direction) (cursor : Point α) (size : Size α) : Point α :=
  match direction with
  | .downward => { cursor with y := cursor.y + size.height }
  | .upward => { cursor with y := cursor.y - size.height }
  | .rightward => { cursor with x := cursor.x + size.width }
  | .leftward => { cursor with x := cursor.x - size.width }

/-- The positions of messages of the given sizes, placed one after the other, as `draw_stack` does
it. -/
def Layout.positions (layout : Layout α) (viewport : Size α) :
    Point α → List (Size α) → List (Point α)
  | _, [] => []
  | cursor, size :: sizes =>
    layout.position cursor size viewport ::
      layout.positions viewport (layout.direction.advance cursor size) sizes

end Placement

namespace StackLayout

/-- The layout with this name and every other setting at its default. -/
def named (name : String) : StackLayout where
  name := name
  offset := ⟨Binary.zero false, Binary.zero false⟩
  direction := .downward
  centered := false
  reversed := false

end StackLayout

instance : Inhabited StackLayout := ⟨StackLayout.named ""⟩

end OnScreen
