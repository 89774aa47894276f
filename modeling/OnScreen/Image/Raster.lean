import OnScreen.Error

/-!
# Rasters

A raster is an image as a file holds it: samples of one or two bytes, one to four for each pixel.
An icon needs four one-byte samples for each pixel.

* `Raster.toRgba`: the bytes of the image as red, green, blue and opacity.
* `Raster.toIcon`: the icon of a raster.
* `rescale`: samples counted up to one maximum, counted up to another.
-/

namespace OnScreen

/-- What the samples of a pixel stand for. -/
inductive Channels
  | gray
  | grayAlpha
  | rgb
  | rgbAlpha
  deriving DecidableEq

/-- The samples of a pixel. -/
def Channels.count : Channels → Nat
  | gray => 1
  | grayAlpha => 2
  | rgb => 3
  | rgbAlpha => 4

/-- The size of a sample. -/
inductive Depth
  | byte
  | word
  deriving DecidableEq

namespace Depth

/-- The greatest sample. -/
def top : Depth → Nat
  | byte => 255
  | word => 65535

/-- The bytes of a sample. -/
def bytes : Depth → Nat
  | byte => 1
  | word => 2

/-- A sample as a byte; two-byte samples are rounded. -/
def toByte : Depth → Nat → UInt8
  | byte, n => UInt8.ofNat n
  | word, n => UInt8.ofNat ((n + 128) / 257)

end Depth

/-- An image with its samples in rows from the top. -/
structure Raster where
  width : UInt32
  height : UInt32
  channels : Channels
  depth : Depth
  samples : List Nat

/-- A nonnegative number rounded to the nearest integer, upward at a tie, and held below a limit. -/
def saturate (limit : Nat) (x : Single) : Nat :=
  match x with
  | .nan => 0
  | .infinite negative => if negative then 0 else limit
  | x@(.finite ..) =>
    let q := x.toRat
    let n := ((2 * q.num + q.den) / (2 * q.den)).toNat
    if limit < n then limit else n

/-- A sample that counts up to `maximum`, as one that counts up to the top of its depth. -/
def rescale (depth : Depth) (maximum : Nat) (sample : Nat) : Nat :=
  if maximum = depth.top then sample
  else
    let factor : Single := Binary.ofNat depth.top / Binary.ofNat maximum
    saturate depth.top (Binary.ofNat sample * factor)

namespace Raster

/-- The bytes of some pixels. -/
def pixels (channels : Channels) (toByte : Nat → UInt8) : List Nat → List UInt8
  | a :: rest =>
    match channels, rest with
    | .gray, rest => toByte a :: toByte a :: toByte a :: 255 :: pixels channels toByte rest
    | .grayAlpha, b :: rest =>
      toByte a :: toByte a :: toByte a :: toByte b :: pixels channels toByte rest
    | .rgb, b :: c :: rest =>
      toByte a :: toByte b :: toByte c :: 255 :: pixels channels toByte rest
    | .rgbAlpha, b :: c :: d :: rest =>
      toByte a :: toByte b :: toByte c :: toByte d :: pixels channels toByte rest
    | _, _ => []
  | [] => []

/-- The image as red, green, blue and opacity bytes. -/
def toRgba (raster : Raster) : ByteArray :=
  ⟨(pixels raster.channels raster.depth.toByte raster.samples).toArray⟩

/-- The icon of a raster that has the samples of all of its pixels. -/
def toIcon (raster : Raster) : Except Error Icon :=
  let bytes := raster.toRgba
  if h : bytes.size = raster.width.toNat * raster.height.toNat * 4 ∧ bytes.size < UInt64.size then
    .ok (Icon.ofImage ⟨raster.width, raster.height, bytes, Nat.le_of_eq h.1.symm, h.2⟩)
  else .error (.image .malformed)

end Raster

/-- Samples of two bytes, the more significant first. -/
def wordSamples : List UInt8 → List Nat
  | a :: b :: rest => (a.toNat * 256 + b.toNat) :: wordSamples rest
  | _ => []

/-- The samples that some bytes hold. -/
def samplesOf (depth : Depth) (bytes : List UInt8) : List Nat :=
  match depth with
  | .byte => bytes.map UInt8.toNat
  | .word => wordSamples bytes

end OnScreen
