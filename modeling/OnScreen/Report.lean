import OnScreen.Frame
import OnScreen.Json.Writer
import OnScreen.Renderer.Headless

/-!
# Reports as JSON

What a frame did, and what a headless renderer kept, written as JSON.
-/

namespace OnScreen

/-- A point as JSON. -/
def Point.toJson (p : Point Single) : Json :=
  .object [("x", Json.ofBinary p.x), ("y", Json.ofBinary p.y)]

/-- A size as JSON. -/
def Size.toJson (s : Size Single) : Json :=
  .object [("width", Json.ofBinary s.width), ("height", Json.ofBinary s.height)]

/-- A placement as JSON. -/
def Placement.toJson (p : Placement) : Json :=
  .object
    [("stack", .text p.stack),
      ("index", Json.ofNat p.index),
      ("text", .text p.text),
      ("position", p.position.toJson),
      ("size", p.size.toJson),
      ("alpha", Json.ofBinary p.opacity)]

/-- A report as JSON. -/
def FrameReport.toJson (report : FrameReport) : Json :=
  .object
    [("placements", .array (report.placements.map Placement.toJson)),
      ("pruned", Json.ofNat report.pruned)]

/-- A surface as JSON. -/
def Surface.toJson (surface : Surface) : Json :=
  .object
    [("name", .text surface.name),
      ("text", .text surface.text),
      ("color", .array (surface.color.toList.map Json.ofBinary)),
      ("alpha", Json.ofBinary surface.opacity),
      ("position", surface.position.toJson),
      ("size", surface.size.toJson),
      ("image",
        match surface.image with
        | some size => size.toJson
        | none => .null)]

end OnScreen
