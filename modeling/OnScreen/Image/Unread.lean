import OnScreen.Image.Dds
import OnScreen.Image.Hdr
import OnScreen.Image.Ico
import OnScreen.Image.Tga
import OnScreen.Image.Tiff
import OnScreen.Image.Webp

/-!
# Image formats that are not read

No file of these formats is accepted. The reason is the first thing in it that is not as the format
has it; a whole file is refused because its format is not read.

* `UnreadFormat.refusal`: why a file of such a format is refused.
-/

namespace OnScreen

/-- A format of image files that is known and not read. -/
inductive UnreadFormat
  | png
  | jpeg
  | gif
  | webp
  | tiff
  | tga
  | dds
  | bmp
  | ico
  | hdr
  | exr
  | qoi
  deriving DecidableEq

namespace UnreadFormat

/-- Looks for the first thing in a file that is not as its format has it. Of some formats nothing is
looked at, because whatever is wrong with a file of theirs is called malformed. -/
def examine (format : UnreadFormat) (file : List UInt8) : Except ImageError Unit :=
  match format with
  | png => Png.examine file
  | webp => Webp.examine file
  | tiff => Tiff.examine file
  | tga => Tga.examine file
  | dds => Dds.examine file
  | bmp => Bmp.examine file
  | ico => Ico.examine file
  | hdr => Hdr.examine file
  | jpeg | gif | exr | qoi => .error .malformed

/-- Why a file of a format is refused. -/
def refusal (format : UnreadFormat) (file : List UInt8) : ImageError :=
  match format.examine file with
  | .error e => e
  | .ok () => .unsupported

end UnreadFormat

end OnScreen
