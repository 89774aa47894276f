import OnScreen.Renderer

/-!
# The headless renderer

A renderer without a screen. Every character is as wide as every other, text is one line high, both
times the scale of the text; images go above the text. The surfaces that were closed are kept as
records, in order.

* `Headless.beginSurface`, `drawImage`, `drawText`, `placeSurface`, `endSurface`: the open surface.
* `Headless.upload`, `Headless.destroy`: the textures.
* `Headless.renderer`: all of it as a `Renderer`.
-/

namespace OnScreen

/-- A surface, as it was drawn and placed (`SurfaceRecord`). -/
structure Surface where
  name : String
  opacity : Single
  text : String := ""
  color : Rgba := Rgba.clear
  position : Point Single := ⟨Binary.zero false, Binary.zero false⟩
  size : Size Single := ⟨Binary.zero false, Binary.zero false⟩
  /-- The size of the image drawn into it, if any. -/
  image : Option (Size Single) := none
  deriving DecidableEq

namespace Surface

/-- The surface with something drawn below what is there. -/
def grow (surface : Surface) (width height : Single) : Surface :=
  { surface with
    size := ⟨Binary.larger surface.size.width width, surface.size.height + height⟩ }

end Surface

/-- The state of a headless renderer (`HeadlessRenderer`). -/
structure Headless where
  viewport : Size Single
  framebufferScale : Point Single := ⟨Binary.ofNat 1, Binary.ofNat 1⟩
  glyphWidth : Single := Binary.ofNat 8
  lineHeight : Single := Binary.ofNat 16
  /-- No upload succeeds. -/
  failUploads : Bool := false
  nextTexture : Nat := 1
  /-- The textures that were uploaded and not destroyed. -/
  liveTextures : List TextureId := []
  /-- The uploads tried. -/
  uploads : Nat := 0
  current : Option Surface := none
  /-- The closed surfaces, in order. -/
  surfaces : List Surface := []

namespace Headless

/-! ## Textures -/

/-- Tries to upload an icon (`upload_texture`). That its buffer holds the pixels and nothing else is
asserted. -/
def upload (r : Headless) (icon : Icon) : Response Headless :=
  let r := { r with uploads := r.uploads + 1 }
  if r.failUploads || icon.width == 0 || icon.height == 0 then { renderer := r }
  else
    { renderer :=
        { r with
          nextTexture := r.nextTexture + 1
          liveTextures := r.liveTextures ++ [⟨r.nextTexture⟩] }
      texture := some ⟨r.nextTexture⟩
      failure := icon.failure? }

/-- Destroys a texture (`destroy_texture`). -/
def destroy (r : Headless) (texture : TextureId) : Response Headless :=
  if r.liveTextures.contains texture then
    { renderer := { r with liveTextures := r.liveTextures.filter fun t => decide (t ≠ texture) } }
  else { renderer := r, events := [.unknownTexture texture] }

/-! ## The open surface -/

/-- Opens a surface (`begin_surface`). One that is still open is dropped. -/
def beginSurface (r : Headless) (name : String) (opacity : Single) : Response Headless where
  renderer := { r with current := some { name := name, opacity := opacity } }
  events :=
    match r.current with
    | some surface => [.surfaceNeverEnded surface.name]
    | none => []

/-- Draws an image of the given size into the open surface (`draw_image`). -/
def drawImage (r : Headless) (size : Size Single) : Headless :=
  { r with
    current := r.current.map fun surface =>
      { surface.grow size.width size.height with image := some size } }

/-- The size of a text. -/
def textSize (r : Headless) (text : String) (scale : Single) : Size Single where
  width := Binary.ofNat text.length * r.glyphWidth * scale
  height := r.lineHeight * scale

/-- Draws a text into the open surface (`draw_text`). -/
def drawText (r : Headless) (text : String) (color : Rgba) (scale : Single) : Headless :=
  let size := r.textSize text scale
  { r with
    current := r.current.map fun surface =>
      { surface.grow size.width size.height with text := surface.text ++ text, color := color } }

/-- The size of the open surface; nothing if none is open (`surface_size`). -/
def surfaceSize (r : Headless) : Size Single :=
  match r.current with
  | some surface => surface.size
  | none => ⟨Binary.zero false, Binary.zero false⟩

/-- Places the open surface, if it has the given name (`set_surface_position`). -/
def placeSurface (r : Headless) (name : String) (position : Point Single) : Response Headless :=
  match r.current with
  | some surface =>
    if surface.name = name then
      { renderer := { r with current := some { surface with position := position } } }
    else { renderer := r, events := [.surfaceNotOpen name] }
  | none => { renderer := r, events := [.surfaceNotOpen name] }

/-- Closes the open surface and keeps it (`end_surface`). -/
def endSurface (r : Headless) : Headless :=
  match r.current with
  | some surface => { r with current := none, surfaces := r.surfaces ++ [surface] }
  | none => r

/-- The kept surfaces, which are forgotten (`take_surfaces`). -/
def takeSurfaces (r : Headless) : List Surface × Headless :=
  (r.surfaces, { r with surfaces := [] })

/-- The reaction to a call. -/
def perform (r : Headless) : Call → Response Headless
  | .beginSurface name opacity => r.beginSurface name opacity
  | .upload icon => r.upload icon
  | .drawImage _ size => { renderer := r.drawImage size }
  | .drawText text color scale => { renderer := r.drawText text color scale }
  | .placeSurface name position => r.placeSurface name position
  | .endSurface => { renderer := r.endSurface }
  | .destroy texture => r.destroy texture

/-- The headless renderer. -/
def renderer : Renderer Headless where
  viewport r := r.viewport
  framebufferScale r := r.framebufferScale
  surfaceSize := surfaceSize
  perform := perform

end Headless

end OnScreen
