import Mathlib.Data.Rat.Defs
import Mathlib.Tactic.Linarith
import Mathlib.Tactic.Ring
import OnScreen.Proofs.Accumulation

/-!
# The geometry of a stack

The messages of a stack stand one next to the other. In exact arithmetic each begins where the one
before it ends, the gap included, so that none overlaps another. A stack that grows from a far edge
is the mirror image of the one that grows from the near edge.

Results:
* `Layout.spots`, `Layout.pass`: messages in their places, in any arithmetic.
* `Layout.along_position`, `Layout.across_position`, `Layout.along_advance`: the rules of placement
  by axis.
* `Layout.isChain_spots`, `Layout.pairwise_spots`: neighbours abut, and no two messages overlap.
* `Layout.spots_opposite`: a stack and its mirror image.
* `map_spots_drawings`: the placements of a frame are such spots.
* `Layout.messages_abut`: all of this for the pass over a stack.
-/

namespace OnScreen

/-! ## Axes -/

namespace Direction

variable {α : Type}

/-- The stack grows towards greater coordinates. -/
def isForward : Direction → Bool
  | downward | rightward => true
  | upward | leftward => false

/-- The other direction along the same axis. -/
def opposite : Direction → Direction
  | downward => upward
  | upward => downward
  | leftward => rightward
  | rightward => leftward

/-- The coordinate, or the factor, along the axis of the stack. -/
def along (direction : Direction) (p : Point α) : α :=
  if direction.isVertical then p.y else p.x

/-- The coordinate across the axis of the stack. -/
def across (direction : Direction) (p : Point α) : α :=
  if direction.isVertical then p.x else p.y

/-- The extent along the axis of the stack. -/
def length (direction : Direction) (size : Size α) : α :=
  if direction.isVertical then size.height else size.width

/-- The extent across the axis of the stack. -/
def breadth (direction : Direction) (size : Size α) : α :=
  if direction.isVertical then size.width else size.height

theorem along_opposite (direction : Direction) (p : Point α) :
    direction.opposite.along p = direction.along p := by
  cases direction <;> rfl

theorem across_opposite (direction : Direction) (p : Point α) :
    direction.opposite.across p = direction.across p := by
  cases direction <;> rfl

theorem length_opposite (direction : Direction) (size : Size α) :
    direction.opposite.length size = direction.length size := by
  cases direction <;> rfl

theorem breadth_opposite (direction : Direction) (size : Size α) :
    direction.opposite.breadth size = direction.breadth size := by
  cases direction <;> rfl

theorem isForward_opposite (direction : Direction) :
    direction.opposite.isForward = !direction.isForward := by
  cases direction <;> rfl

theorem ext_point (direction : Direction) {p q : Point α}
    (halong : direction.along p = direction.along q)
    (hacross : direction.across p = direction.across q) : p = q := by
  obtain ⟨x, y⟩ := p
  obtain ⟨x', y'⟩ := q
  cases direction <;> exact congrArg₂ Point.mk (by assumption) (by assumption)

end Direction

/-! ## Messages in their places -/

/-- A message in its place: what was measured of it, and the size that it takes up. -/
structure Spot (α : Type) where
  position : Point α
  measured : Size α
  size : Size α

namespace Layout

section

variable {α : Type} [Add α] [Sub α] [Mul α] [Div α] [IntCast α]

/-- Messages of the measured sizes, placed one after the other with the cursor at a point. -/
def spots (layout : Layout α) (viewport : Size α) (scale : Point α) :
    Point α → List (Size α) → List (Spot α)
  | _, [] => []
  | cursor, measured :: rest =>
    let size := paddedSize measured scale
    ⟨layout.position cursor size viewport, measured, size⟩ ::
      layout.spots viewport scale (layout.direction.advance cursor size) rest

/-- Messages of the measured sizes, placed one after the other from the anchor of the stack. -/
def pass (layout : Layout α) (viewport : Size α) (scale : Point α) (obscured : Margin)
    (measured : List (Size α)) : List (Spot α) :=
  layout.spots viewport scale (layout.startCursor viewport scale obscured) measured

variable (layout : Layout α) (viewport : Size α) (scale : Point α) (cursor : Point α)

theorem map_position_spots (measured : List (Size α)) :
    (layout.spots viewport scale cursor measured).map Spot.position =
      layout.positions viewport cursor (measured.map fun m => paddedSize m scale) := by
  induction measured generalizing cursor with
  | nil => rfl
  | cons m rest ih => rw [spots, List.map_cons, ih, List.map_cons, positions]

theorem map_measured_spots (measured : List (Size α)) :
    (layout.spots viewport scale cursor measured).map Spot.measured = measured := by
  induction measured generalizing cursor with
  | nil => rfl
  | cons m rest ih => rw [spots, List.map_cons, ih]

theorem mem_spots {measured : List (Size α)} {s : Spot α}
    (h : s ∈ layout.spots viewport scale cursor measured) :
    s.size = paddedSize s.measured scale ∧
      ∃ cursor, s.position = layout.position cursor s.size viewport := by
  induction measured generalizing cursor with
  | nil => cases h
  | cons m rest ih =>
    rcases List.mem_cons.mp h with rfl | h
    · exact ⟨rfl, cursor, rfl⟩
    · exact ih _ h

end

/-! ## The rules of placement by axis -/

section

variable (layout : Layout ℚ) (viewport : Size ℚ) (scale : Point ℚ) (cursor : Point ℚ)
  (size : Size ℚ)

theorem length_paddedSize (direction : Direction) :
    direction.length (paddedSize size scale) =
      direction.length size + (windowPadding : ℚ) * direction.along scale := by
  cases direction <;> rfl

/-- Along the axis, a message begins or ends at the cursor; centering does not matter. -/
theorem along_position :
    layout.direction.along (layout.position cursor size viewport) =
      if layout.direction.isForward then layout.direction.along cursor
      else layout.direction.along cursor - layout.direction.length size := by
  obtain ⟨name, offset, direction, centered, reversed⟩ := layout
  cases direction <;> cases centered <;> rfl

/-- Across the axis, a message is centered or at the cursor. -/
theorem across_position :
    layout.direction.across (layout.position cursor size viewport) =
      if layout.centered then
        layout.direction.breadth viewport / 2 - layout.direction.breadth size / 2
      else layout.direction.across cursor := by
  obtain ⟨name, offset, direction, centered, reversed⟩ := layout
  cases direction <;> cases centered <;> rfl

theorem along_advance (direction : Direction) :
    direction.along (direction.advance cursor size) =
      if direction.isForward then direction.along cursor + direction.length size
      else direction.along cursor - direction.length size := by
  cases direction <;> rfl

theorem across_advance (direction : Direction) :
    direction.across (direction.advance cursor size) = direction.across cursor := by
  cases direction <;> rfl

end

end Layout

/-! ## Neighbours -/

namespace Direction

/-- The second message follows the first without a gap, each taken with the size that it takes
up. -/
def Abuts (direction : Direction) (a b : Spot ℚ) : Prop :=
  if direction.isForward then
    direction.along b.position = direction.along a.position + direction.length a.size
  else direction.along b.position + direction.length b.size = direction.along a.position

/-- The space between what was measured of the first message and of the second. -/
def gap (direction : Direction) (a b : Spot ℚ) : ℚ :=
  if direction.isForward then
    direction.along b.position - (direction.along a.position + direction.length a.measured)
  else direction.along a.position - (direction.along b.position + direction.length b.measured)

/-- One of the messages ends before the other begins, by what was measured of them. -/
def Apart (direction : Direction) (a b : Spot ℚ) : Prop :=
  direction.along a.position + direction.length a.measured ≤ direction.along b.position ∨
    direction.along b.position + direction.length b.measured ≤ direction.along a.position

end Direction

namespace Layout

variable (layout : Layout ℚ) (viewport : Size ℚ) (scale : Point ℚ) (cursor : Point ℚ)

/-- The message at the cursor and the message past it. -/
theorem abuts_advance (m m' : Size ℚ) :
    let size := paddedSize m scale
    let size' := paddedSize m' scale
    let a : Spot ℚ := ⟨layout.position cursor size viewport, m, size⟩
    let b : Spot ℚ :=
      ⟨layout.position (layout.direction.advance cursor size) size' viewport, m', size'⟩
    layout.direction.Abuts a b ∧
      layout.direction.gap a b = (windowPadding : ℚ) * layout.direction.along scale := by
  unfold Direction.Abuts Direction.gap
  simp only [along_position, along_advance, length_paddedSize]
  cases layout.direction.isForward with
  | true =>
    simp only [if_true]
    exact ⟨trivial, by ring⟩
  | false =>
    simp only [Bool.false_eq_true, if_false]
    exact ⟨by ring, by ring⟩

/-- Neighbours abut, and the space between them is the padding. -/
theorem isChain_spots (measured : List (Size ℚ)) :
    (layout.spots viewport scale cursor measured).IsChain fun a b =>
      layout.direction.Abuts a b ∧
        layout.direction.gap a b = (windowPadding : ℚ) * layout.direction.along scale := by
  induction measured generalizing cursor with
  | nil => exact .nil
  | cons m rest ih =>
    have hrest := ih (layout.direction.advance cursor (paddedSize m scale))
    cases rest with
    | nil => exact .singleton _
    | cons m' rest => exact .cons_cons (layout.abuts_advance viewport scale cursor m m') hrest

/-! ### No two messages overlap -/

theorem length_nonneg (direction : Direction) {size : Size ℚ}
    (h : 0 ≤ size.width ∧ 0 ≤ size.height) : 0 ≤ direction.length size := by
  unfold Direction.length
  split
  · exact h.2
  · exact h.1

/-- With its gap, a message is no smaller than without. -/
theorem length_le_paddedSize {scale : Point ℚ} (hscale : 0 ≤ scale.x ∧ 0 ≤ scale.y)
    (direction : Direction) (size : Size ℚ) :
    direction.length size ≤ direction.length (paddedSize size scale) := by
  have hfactor : 0 ≤ direction.along scale := by
    unfold Direction.along
    split
    · exact hscale.2
    · exact hscale.1
  have hpadding : (0 : ℚ) ≤ (windowPadding : ℚ) := Int.cast_nonneg (by decide)
  rw [length_paddedSize]
  exact le_add_of_nonneg_right (mul_nonneg hpadding hfactor)

variable {scale} {measured : List (Size ℚ)} (hscale : 0 ≤ scale.x ∧ 0 ≤ scale.y)
  (hmeasured : ∀ m ∈ measured, 0 ≤ m.width ∧ 0 ≤ m.height)

include hscale hmeasured

/-- Every message stands on the far side of the cursor. -/
theorem beyond_cursor {s : Spot ℚ} (h : s ∈ layout.spots viewport scale cursor measured) :
    if layout.direction.isForward then
      layout.direction.along cursor ≤ layout.direction.along s.position
    else
      layout.direction.along s.position + layout.direction.length s.size ≤
        layout.direction.along cursor := by
  induction measured generalizing cursor with
  | nil => cases h
  | cons m rest ih =>
    obtain ⟨hm, hrest⟩ := List.forall_mem_cons.mp hmeasured
    rcases List.mem_cons.mp h with rfl | h
    · rw [along_position]
      split
      · exact le_refl _
      · rw [sub_add_cancel]
    · have hbeyond := ih (layout.direction.advance cursor (paddedSize m scale)) hrest h
      have hsize : 0 ≤ layout.direction.length (paddedSize m scale) :=
        (length_nonneg _ hm).trans (length_le_paddedSize hscale _ m)
      rw [along_advance] at hbeyond
      split at hbeyond
      · rename_i hforward
        rw [if_pos hforward]
        exact (le_add_of_nonneg_right hsize).trans hbeyond
      · rename_i hbackward
        rw [if_neg hbackward]
        exact hbeyond.trans (sub_le_self _ hsize)

/-- No two messages overlap along the axis. -/
theorem pairwise_spots :
    (layout.spots viewport scale cursor measured).Pairwise layout.direction.Apart := by
  induction measured generalizing cursor with
  | nil => exact .nil
  | cons m rest ih =>
    obtain ⟨hm, hrest⟩ := List.forall_mem_cons.mp hmeasured
    refine List.pairwise_cons.mpr ⟨fun s hs => ?_, ih _ hrest⟩
    have hbeyond := layout.beyond_cursor viewport _ hscale hrest hs
    have hgap := length_le_paddedSize hscale layout.direction m
    have hgap' := length_le_paddedSize hscale layout.direction s.measured
    have hsize := (layout.mem_spots viewport scale _ hs).1
    rw [← hsize] at hgap'
    unfold Direction.Apart
    rw [along_position]
    rw [along_advance] at hbeyond
    split at hbeyond
    · rename_i hforward
      rw [if_pos hforward]
      left
      linarith
    · rename_i hbackward
      rw [if_neg hbackward]
      right
      linarith

end Layout

/-! ## Mirror images -/

/-- The spot on the other side of the viewport, at the same distance from its edge. -/
def Spot.reflected (direction : Direction) (viewport : Size ℚ) (s : Spot ℚ) : Spot ℚ where
  position :=
    if direction.isVertical then
      ⟨s.position.x, viewport.height - (s.position.y + s.size.height)⟩
    else ⟨viewport.width - (s.position.x + s.size.width), s.position.y⟩
  measured := s.measured
  size := s.size

theorem along_reflected (direction : Direction) (viewport : Size ℚ) (s : Spot ℚ) :
    direction.along (s.reflected direction viewport).position =
      direction.length viewport - (direction.along s.position + direction.length s.size) := by
  cases direction <;> rfl

theorem across_reflected (direction : Direction) (viewport : Size ℚ) (s : Spot ℚ) :
    direction.across (s.reflected direction viewport).position = direction.across s.position := by
  cases direction <;> rfl

namespace Layout

/-- The layout of the stack that grows the other way. -/
def opposite {α : Type} (layout : Layout α) : Layout α :=
  { layout with direction := layout.direction.opposite }

variable (layout : Layout ℚ) (viewport : Size ℚ) (scale : Point ℚ) (obscured : Margin)

/-- The cursor of a stack and the cursor of its mirror image have the same distance from the two
edges. -/
structure Mirrored (cursor cursor' : Point ℚ) : Prop where
  along : layout.direction.along cursor' =
    layout.direction.length viewport - layout.direction.along cursor
  across : layout.direction.across cursor' = layout.direction.across cursor

theorem mirrored_startCursor :
    layout.Mirrored viewport (layout.startCursor viewport scale obscured)
      (layout.opposite.startCursor viewport scale obscured) := by
  obtain ⟨name, offset, direction, centered, reversed⟩ := layout
  cases direction with
  | downward => exact ⟨rfl, rfl⟩
  | rightward => exact ⟨rfl, rfl⟩
  | upward => exact ⟨(sub_sub_cancel _ _).symm, rfl⟩
  | leftward => exact ⟨(sub_sub_cancel _ _).symm, rfl⟩

variable {layout viewport} {cursor cursor' : Point ℚ}

/-- Both cursors move past a message alike. -/
theorem Mirrored.advance (h : layout.Mirrored viewport cursor cursor') (size : Size ℚ) :
    layout.Mirrored viewport (layout.direction.advance cursor size)
      (layout.opposite.direction.advance cursor' size) := by
  have halong := along_advance cursor' size layout.direction.opposite
  have hacross := across_advance cursor' size layout.direction.opposite
  rw [Direction.along_opposite, Direction.along_opposite, Direction.length_opposite,
    Direction.isForward_opposite, h.along] at halong
  rw [Direction.across_opposite, Direction.across_opposite, h.across] at hacross
  constructor
  · refine halong.trans ?_
    rw [along_advance]
    cases layout.direction.isForward with
    | true => exact sub_sub _ _ _
    | false =>
      simp only [Bool.not_false, if_true, Bool.false_eq_true, if_false]
      ring
  · exact hacross.trans (across_advance _ _ _).symm

/-- A message of the mirror image goes to the mirror image of its place. -/
theorem Mirrored.position (h : layout.Mirrored viewport cursor cursor') (m size : Size ℚ) :
    layout.opposite.position cursor' size viewport =
      (Spot.reflected layout.direction viewport
        ⟨layout.position cursor size viewport, m, size⟩).position := by
  have halong := along_position layout.opposite viewport cursor' size
  have hacross := across_position layout.opposite viewport cursor' size
  unfold opposite at halong hacross ⊢
  rw [Direction.along_opposite, Direction.along_opposite, Direction.length_opposite,
    Direction.isForward_opposite, h.along] at halong
  rw [Direction.across_opposite, Direction.across_opposite, Direction.breadth_opposite,
    Direction.breadth_opposite, h.across] at hacross
  refine layout.direction.ext_point ?_ ?_
  · rw [along_reflected, along_position, halong]
    cases layout.direction.isForward with
    | true => exact sub_sub _ _ _
    | false =>
      simp only [Bool.not_false, if_true, Bool.false_eq_true, if_false]
      ring
  · rw [across_reflected, across_position, hacross]

/-- A stack that grows the other way is the mirror image, if its cursor is. -/
theorem Mirrored.spots (h : layout.Mirrored viewport cursor cursor') (scale : Point ℚ)
    (measured : List (Size ℚ)) :
    layout.opposite.spots viewport scale cursor' measured =
      (layout.spots viewport scale cursor measured).map
        (Spot.reflected layout.direction viewport) := by
  induction measured generalizing cursor cursor' with
  | nil => rfl
  | cons m rest ih =>
    rw [Layout.spots, Layout.spots, List.map_cons, ih (h.advance _), h.position m]
    rfl

end Layout

/-! ## The pass of a frame -/

section

variable {ρ : Type} {R : Renderer ρ}

variable (R) in
/-- The sizes that a renderer measures for drawings that are made one after the other. -/
def measurements : ρ → List Drawing → List (Size Single)
  | _, [] => []
  | renderer, d :: ds =>
    R.surfaceSize (R.after renderer d.content) :: measurements (R.after renderer d.calls) ds

/-- Drawings that are made one past the other are where the messages of the measured sizes go, if
the framebuffer scale never changes. -/
theorem map_spots_drawings
    (hscale : ∀ r call, R.framebufferScale (R.perform r call).renderer = R.framebufferScale r)
    {layout : StackLayout} {viewport : Size Single} {renderer : ρ} {cursor : Point Single}
    {ds : List Drawing} (h : Accumulated R layout viewport renderer cursor ds) :
    (layout.spots viewport (R.framebufferScale renderer) cursor (measurements R renderer ds)).map
        (fun s => (s.position, s.size)) =
      ds.map fun d => (d.placement.position, d.placement.size) := by
  induction ds generalizing renderer cursor with
  | nil => rfl
  | cons d ds ih =>
    obtain ⟨hmade, hrest⟩ := h
    have hsize := hmade.size
    rw [R.after_eq hscale] at hsize
    have hds := ih hrest
    rw [R.after_eq hscale] at hds
    rw [measurements, Layout.spots, List.map_cons, List.map_cons, ← hsize, hds, hmade.position]

end

/-- Messages abut. For messages of any sizes, placed in exact arithmetic by one pass: each neighbour
begins along the axis of the stack where the one before it ends, the padding included, so that the
space between what was measured of them is the padding at the scale of the axis, and no two of them
overlap along the axis. The stack that grows the other way is the mirror image in the viewport, and
the messages of a centered stack have their middle in the middle of the viewport across the axis.
The same rules, with single-precision numbers, give the placements of a frame, as long as the
framebuffer scale does not change. -/
theorem messages_abut (layout : Layout ℚ) (viewport : Size ℚ) (scale : Point ℚ) (obscured : Margin)
    (measured : List (Size ℚ)) (hscale : 0 ≤ scale.x ∧ 0 ≤ scale.y)
    (hmeasured : ∀ m ∈ measured, 0 ≤ m.width ∧ 0 ≤ m.height) :
    let direction := layout.direction
    let spots := layout.pass viewport scale obscured measured
    (spots.map Spot.measured = measured ∧
      spots.map Spot.position =
        layout.positions viewport (layout.startCursor viewport scale obscured)
          (measured.map fun m => paddedSize m scale) ∧
      ∀ s ∈ spots, s.size = paddedSize s.measured scale) ∧
    (spots.IsChain fun a b =>
      direction.Abuts a b ∧ direction.gap a b = (windowPadding : ℚ) * direction.along scale) ∧
    spots.Pairwise direction.Apart ∧
    layout.opposite.pass viewport scale obscured measured =
      spots.map (Spot.reflected direction viewport) ∧
    (layout.centered = true → ∀ s ∈ spots,
      direction.across s.position + direction.breadth s.size / 2 =
        direction.breadth viewport / 2) ∧
    ∀ {ρ : Type} (R : Renderer ρ),
      (∀ r call, R.framebufferScale (R.perform r call).renderer = R.framebufferScale r) →
      ∀ (stack : Stack) (frame : FrameSettings) (canvas : Canvas ρ),
        (stack.draw R frame canvas).report.placements.map (fun p => (p.position, p.size)) =
          (stack.layout.pass (R.viewport canvas.renderer) (R.framebufferScale canvas.renderer)
            frame.obscured (measurements R canvas.renderer (stack.drawings R frame canvas))).map
              fun s => (s.position, s.size) := by
  intro direction spots
  have hspots : ∀ s ∈ spots, s.size = paddedSize s.measured scale ∧
      ∃ cursor, s.position = layout.position cursor s.size viewport :=
    fun s hs => layout.mem_spots viewport scale _ hs
  refine ⟨⟨layout.map_measured_spots viewport scale _ measured,
    layout.map_position_spots viewport scale _ measured, fun s hs => (hspots s hs).1⟩,
    layout.isChain_spots viewport scale _ measured,
    layout.pairwise_spots viewport _ hscale hmeasured,
    (layout.mirrored_startCursor viewport scale obscured).spots scale measured, ?_, ?_⟩
  · intro hcentered s hs
    obtain ⟨-, cursor, hposition⟩ := hspots s hs
    rw [hposition, Layout.across_position, if_pos hcentered, sub_add_cancel]
  · intro ρ R hscale' stack frame canvas
    rw [← Stack.map_placement_drawings, List.map_map]
    exact (map_spots_drawings hscale' (Stack.accumulated_drawings R stack frame canvas)).symm

/-- Three messages in an upward, centered stack at twice the scale, the last one without content:
eight pixels are left between two of them. -/
theorem three_messages_abut :
    let layout : Layout ℚ := ⟨"side", ⟨0, 0⟩, .upward, true, false⟩
    let viewport : Size ℚ := ⟨640, 480⟩
    let scale : Point ℚ := ⟨2, 2⟩
    let measured : List (Size ℚ) := [⟨80, 32⟩, ⟨40, 16⟩, ⟨0, 0⟩]
    let spots := layout.pass viewport scale {} measured
    spots.map (fun s => s.position.y) = [420, 396, 388] ∧
      spots.IsChain (fun a b => layout.direction.gap a b = 8) ∧
      spots.Pairwise layout.direction.Apart := by
  intro layout viewport scale measured spots
  obtain ⟨-, hchain, hapart, -⟩ := messages_abut layout viewport scale {} measured (by decide)
    (by decide)
  refine ⟨by decide +kernel, hchain.imp fun a b h => ?_, hapart⟩
  rw [h.2]
  decide +kernel

end OnScreen
