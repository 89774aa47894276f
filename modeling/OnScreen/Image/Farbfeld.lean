import OnScreen.Image.Bytes
import OnScreen.Image.Raster

/-!
# Farbfeld images

The word `farbfeld`, the width and the height as four bytes each, then the pixels: red, green, blue
and opacity, two bytes each, the more significant byte first.
-/

namespace OnScreen.Farbfeld

/-- The bytes that a file begins with. -/
def signature : List UInt8 :=
  [102, 97, 114, 98, 102, 101, 108, 100]

/-- Takes a number of bytes that belong to the header. An image without a whole header is not in the
format at all. -/
def headerBytes (count : Nat) (file : List UInt8) : Except ImageError (List UInt8 × List UInt8) :=
  (takeBytes count file).mapError fun _ => .malformed

/-- Reads an image. -/
def read (file : List UInt8) : Except ImageError Raster := do
  let (start, file) ← headerBytes 8 file
  if start ≠ signature then throw .malformed
  let (width, file) ← headerBytes 4 file
  let (height, file) ← headerBytes 4 file
  let (width, height) := (bigEndian width, bigEndian height)
  if 18446744073709551615 / 8 < width * height then throw .unsupported
  let (pixels, _) ← takeBytes (width * height * 8) file
  return ⟨UInt32.ofNat width, UInt32.ofNat height, .rgbAlpha, .word, samplesOf .word pixels⟩

end OnScreen.Farbfeld
