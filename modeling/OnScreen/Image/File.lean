import OnScreen.Image.Farbfeld
import OnScreen.Image.Netpbm
import OnScreen.Image.Unread

/-!
# Image files

The ending of a file's name tells its format. Formats that store their pixels uncompressed are read;
of the others only the names are known, and why a file of theirs is refused.
-/

namespace OnScreen

/-- The format of an image file. -/
inductive ImageFormat
  | netpbm
  | farbfeld
  /-- A format that is known and not read. -/
  | unread (format : UnreadFormat)
  deriving DecidableEq

namespace ImageFormat

/-- The endings of the formats that are not read. -/
def unreadEndings : List (String × UnreadFormat) :=
  [("png", .png), ("apng", .png), ("jpg", .jpeg), ("jpeg", .jpeg), ("jfif", .jpeg), ("gif", .gif),
    ("webp", .webp), ("tif", .tiff), ("tiff", .tiff), ("tga", .tga), ("dds", .dds), ("bmp", .bmp),
    ("ico", .ico), ("hdr", .hdr), ("exr", .exr), ("qoi", .qoi)]

/-- The endings of the formats. -/
def endings : List (String × ImageFormat) :=
  ["pbm", "pgm", "ppm", "pnm", "pam"].map (·, netpbm) ++ [("ff", farbfeld)] ++
    unreadEndings.map fun e => (e.1, unread e.2)

/-- The ending of the file that a path names: what follows the last dot of its name, unless the name
begins with that dot. -/
def endingOf (path : String) : Option String :=
  match FileTree.lastName? path with
  | none => none
  | some name =>
    let reversed := name.toList.reverse
    let ending := (reversed.takeWhile (· != '.')).reverse
    let stem := (reversed.dropWhile (· != '.')).drop 1
    if stem.isEmpty then none else some (String.ofList ending)

/-- The format of the file that a path names, whatever the case of its ending. -/
def ofPath? (path : String) : Option ImageFormat :=
  match endingOf path with
  | none => none
  | some ending => (endings.find? fun e => decide (e.1 = ending.toLower)).map Prod.snd

/-- Reads a file of a format. -/
def read (format : ImageFormat) (bytes : List UInt8) : Except ImageError Raster :=
  match format with
  | netpbm => Netpbm.read bytes
  | farbfeld => Farbfeld.read bytes
  | unread format => .error (format.refusal bytes)

end ImageFormat

/-- The icon in a file with these contents. That a path leads to a directory is noticed only when
the contents are asked for, behind the ending of its name; any other fault comes before that. -/
def Icon.ofFile (path : String) (contents : Except FileFault ByteArray) : Except Error Icon :=
  match ImageFormat.ofPath? path, contents with
  | none, .error .isDirectory => .error (.image .unsupported)
  | _, .error fault => .error (.image (.file fault))
  | none, .ok _ => .error (.image .unsupported)
  | some format, .ok bytes =>
    match format.read bytes.data.toList with
    | .error e => .error (.image e)
    | .ok raster => raster.toIcon

/-- Loads an icon from a file. -/
def Icon.load (tree : FileTree) (path : String) : Except Error Icon :=
  Icon.ofFile path (tree.read path)

end OnScreen
