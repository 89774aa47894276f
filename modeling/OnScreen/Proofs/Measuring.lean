import OnScreen.Proofs.Geometry
import OnScreen.Proofs.Icons
import OnScreen.Proofs.Isolation

/-!
# What a headless renderer measures

A headless renderer measures a message by its text and by the texture that is drawn above it. When a
surface is measured, the icon of its message has been uploaded or dropped. So the places of messages
in a frame depend on what the frame leaves of them, and a frame that has icons to upload places its
messages where later frames do.

Results:
* `Headless.surfaceSize_content`: the size of a surface is that of the message, as it is after the
  drawing.
* `Stack.map_area_draw`, `Overlay.map_area_forStack`: where messages are placed.
* `Overlay.map_label_forStack`: what else is in their placements.
* `Placement.eq_of_maps`: there is nothing more in a placement.
-/

namespace OnScreen

/-! ## Messages of a size -/

/-- The size of two things, one above the other. -/
def Size.above (size below : Size Single) : Size Single :=
  ⟨Binary.larger size.width below.width, size.height + below.height⟩

namespace Headless

/-- The sizes of what is drawn for a message, from the top. -/
def partSizes (r : Headless) (m : Message) : List (Size Single) :=
  m.picture.texture?.toList.map Texture.size ++ [r.textSize m.text m.scale]

/-- The size of what is drawn for a message. -/
def messageSize (r : Headless) (m : Message) : Size Single :=
  (r.partSizes m).foldl Size.above ⟨Binary.zero false, Binary.zero false⟩

/-- The settings decide about it. -/
theorem messageSize_congr {r r' : Headless} (h : r.settings = r'.settings) :
    r.messageSize = r'.messageSize := by
  funext m
  unfold messageSize partSizes
  rw [textSize_eq h]

/-- What is drawn into an open surface is put below what is there. -/
theorem surfaceSize_parts {r : Headless} {surface : Surface} (h : r.current = some surface)
    (texture? : Option Texture) (text : String) (color : Rgba) (scale : Single) :
    renderer.surfaceSize (renderer.after r
        ((texture?.toList.map fun texture => (.drawImage texture.id texture.size, none)) ++
          [(.drawText text color scale, none)])) =
      (texture?.toList.map Texture.size ++ [r.textSize text scale]).foldl Size.above
        surface.size := by
  obtain ⟨viewport, framebufferScale, glyphWidth, lineHeight, fails, next, live, uploads, current,
    surfaces⟩ := r
  cases h
  cases texture? <;> rfl

/-- The surface of a drawing has the size of the message, as it is after the drawing. -/
theorem surfaceSize_content (r : Headless) {d : Drawing} (h : d.before.SameText d.after) :
    renderer.surfaceSize (renderer.after r d.content) = r.messageSize d.after := by
  have hopened : (renderer.after r ([(.beginSurface d.surface d.placement.opacity, none)] ++
      d.before.picture.icon?.toList.map fun icon => (.upload icon, d.after.textureId?))).current =
        some { name := d.surface, opacity := d.placement.opacity } := by
    cases d.before.picture.icon? with
    | none => rfl
    | some icon => exact (upload_keeps_surfaces _ icon).1
  have hsettings := renderer.after_eq settings_perform r
    ([(.beginSurface d.surface d.placement.opacity, none)] ++
      d.before.picture.icon?.toList.map fun icon => (.upload icon, d.after.textureId?))
  unfold Drawing.content messageSize partSizes
  rw [List.append_assoc, renderer.after_append, surfaceSize_parts hopened, textSize_eq hsettings,
    h.text, h.scale]

/-- Of drawings that are made one after the other, each is measured by itself. -/
theorem measurements_eq (r : Headless) {ds : List Drawing}
    (h : ∀ d ∈ ds, d.before.SameText d.after) :
    measurements renderer r ds = ds.map fun d => r.messageSize d.after := by
  induction ds generalizing r with
  | nil => rfl
  | cons d ds ih =>
    obtain ⟨hd, hds⟩ := List.forall_mem_cons.mp h
    rw [measurements, surfaceSize_content r hd, ih _ hds,
      messageSize_congr (renderer.after_eq settings_perform r d.calls), List.map_cons]

end Headless

/-! ## Areas and labels -/

namespace Placement

/-- Where it is, and how large. -/
def area (p : Placement) : Point Single × Size Single :=
  (p.position, p.size)

/-- Which one it is, and what it shows. -/
def label (p : Placement) : String × Nat × String × Single :=
  (p.stack, p.index, p.shown)

/-- Placements are their labels and areas. -/
theorem eq_of_maps {ps ps' : List Placement} (hlabel : ps.map label = ps'.map label)
    (harea : ps.map area = ps'.map area) : ps = ps' := by
  have hinjective : Function.Injective fun p : Placement => (p.label, p.area) := by
    rintro ⟨_, _, _, _, _, _⟩ ⟨_, _, _, _, _, _⟩ h
    cases h
    rfl
  have hzip (ps : List Placement) :
      ps.map (fun p => (p.label, p.area)) = (ps.map label).zip (ps.map area) := List.zip_map'.symm
  refine hinjective.list_map ?_
  rw [hzip, hzip, hlabel, harea]

/-- Placements of one stack that are numbered from zero have the labels of what they show. -/
theorem map_label {ps : List Placement} {name : String} (hstack : ∀ p ∈ ps, p.stack = name)
    (hindex : ps.map index = List.range ps.length) :
    ps.map label = (ps.map shown).zipIdx.map fun e => (name, e.2, e.1) := by
  have hzip : (ps.map shown).zipIdx = ps.map fun p => (p.shown, p.index) := by
    rw [List.zipIdx_eq_zip_range', List.length_map, ← List.range_eq_range', ← hindex,
      List.zip_map']
  rw [hzip, List.map_map]
  refine List.map_congr_left fun p hp => ?_
  show (p.stack, p.index, p.shown) = (name, p.index, p.shown)
  rw [hstack p hp]

end Placement

/-- Where the messages of a stack are placed that a frame leaves in it. -/
def Headless.areas (r : Headless) (obscured : Margin) (layout : StackLayout) (ms : List Message) :
    List (Point Single × Size Single) :=
  (layout.pass r.viewport r.framebufferScale obscured
    ((Stack.inOrder layout.reversed ms).map r.messageSize)).map fun s => (s.position, s.size)

/-- The settings decide about them. -/
theorem Headless.areas_congr {r r' : Headless} (h : r.settings = r'.settings) :
    r.areas = r'.areas := by
  have hviewport : r.viewport = r'.viewport := (congrArg Headless.viewport h :)
  have hscale : r.framebufferScale = r'.framebufferScale :=
    (congrArg Headless.framebufferScale h :)
  funext obscured layout ms
  unfold areas
  rw [hviewport, hscale, messageSize_congr h]

/-! ## Turns and frames -/

theorem Stack.map_area_draw (stack : Stack) {frame : FrameSettings}
    (hdrawing : frame.drawing = true) (canvas : Canvas Headless) :
    let drawn := stack.draw Headless.renderer frame canvas
    drawn.report.placements.map Placement.area =
      canvas.renderer.areas frame.obscured stack.layout drawn.stack.toList := by
  intro drawn
  have hscale (r : Headless) (call : Call) :
      Headless.renderer.framebufferScale (Headless.renderer.perform r call).renderer =
        Headless.renderer.framebufferScale r :=
    (congrArg Headless.framebufferScale (Headless.settings_perform r call) :)
  have hspots := map_spots_drawings hscale
    (accumulated_drawings Headless.renderer stack frame canvas)
  have hsame : ∀ d ∈ stack.drawings Headless.renderer frame canvas,
      d.before.SameText d.after := by
    intro d hd
    rw [← map_snd_drawn] at hd
    obtain ⟨e, he, rfl⟩ := List.mem_map.mp hd
    exact (of_mem_drawn he).2.2.kept.sameText
  have hmeasured : measurements Headless.renderer canvas.renderer
      (stack.drawings Headless.renderer frame canvas) =
        (inOrder stack.layout.reversed drawn.stack.toList).map canvas.renderer.messageSize := by
    rw [Headless.measurements_eq _ hsame,
      ← map_after_drawings Headless.renderer stack canvas hdrawing, List.map_map]
    rfl
  rw [hmeasured] at hspots
  rw [← map_placement_drawings, List.map_map]
  exact hspots.symm

namespace Overlay

variable {overlay : Overlay} (h : overlay.registry.WellFormed) (henabled : overlay.enabled = true)
  (now : Reading) (screen : Headless) {name : String}

include h henabled

/-- Where a frame places the messages of a stack, by what it leaves of them. -/
theorem map_area_forStack {stack' : Stack}
    (hs' : (overlay.draw Headless.renderer now screen).overlay.registry.get? name = some stack') :
    ((overlay.draw Headless.renderer now screen).report.forStack name).map Placement.area =
      screen.areas overlay.obscured stack'.layout stack'.toList := by
  obtain ⟨t, ht, rfl, rfl⟩ := (get?_draw Headless.renderer h).mp hs'
  rw [forStack_draw Headless.renderer h ht,
    ← Headless.areas_congr (settings_of_mem_frameTurns none ht)]
  exact t.stack.map_area_draw henabled t.canvas

/-- What the placements of a stack show, in their order. -/
theorem map_label_forStack {stack : Stack} (hs : overlay.registry.get? name = some stack) :
    ((overlay.draw Headless.renderer now screen).report.forStack name).map Placement.label =
      ((stack.pendingMessages now).map (Message.shown · now)).zipIdx.map
        fun e => (name, e.2, e.1) := by
  have hname : ∀ p ∈ (overlay.draw Headless.renderer now screen).report.forStack name,
      p.stack = name := fun p hp => of_decide_eq_true (List.mem_filter.mp hp).2
  rw [Placement.map_label hname (map_index_forStack Headless.renderer hs h),
    map_shown_forStack Headless.renderer hs h henabled]
  unfold Stack.pendingMessages
  rw [List.map_map]
  rfl

end Overlay

end OnScreen
