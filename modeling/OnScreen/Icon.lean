/-!
# Icons

An icon is an image of red, green, blue and opacity bytes, drawn above the text of a message.

* `Failure`: what stops a program that counts the bytes of an image, or relies on their number.
* `Icon.byteCount`: the bytes that an image of given dimensions takes, counted in a machine word.
* `Icon.ofBytes`: a buffer is an icon exactly when it has that many bytes.
* `Icon.ofImage`: the icon of an image, with the whole buffer of that.
* `Icon.failure?`: what comes of the assertion that the buffer has the size of the pixels.
-/

namespace OnScreen

/-- What stops a program. -/
inductive Failure
  /-- A count does not fit a machine word. -/
  | overflow
  /-- Two sizes are not the same, against an assertion. -/
  | unequal (actual expected : Nat)
  deriving DecidableEq

/-- The product of two counts, in a 64-bit word. -/
def wordProduct (a b : Nat) : Except Failure Nat :=
  if a * b < UInt64.size then .ok (a * b) else .error .overflow

/-- The bytes of an image of the given dimensions, four for each pixel, as `Icon.ofBytes` and the
assertion of a renderer count them. -/
def Icon.byteCount (width height : UInt32) : Except Failure Nat := do
  let pixels ← wordProduct width.toNat height.toNat
  wordProduct pixels 4

/-- An image with its bytes in rows from the top (`Icon`). -/
structure Icon where
  width : UInt32
  height : UInt32
  rgba : ByteArray

/-- A buffer that holds the pixels of an image of the given dimensions, four bytes for each. There
may be more in it behind them; its size is a 64-bit word. -/
structure RgbaImage where
  width : UInt32
  height : UInt32
  bytes : ByteArray
  holds : width.toNat * height.toNat * 4 ≤ bytes.size
  fits : bytes.size < UInt64.size

/-- A buffer has not the size that its dimensions call for. -/
structure IconSizeError where
  width : UInt32
  height : UInt32
  expected : Nat
  actual : Nat
  deriving DecidableEq

namespace IconSizeError

/-- The error as a sentence. -/
def message (e : IconSizeError) : String :=
  "Icon buffer has " ++ toString e.actual ++ " bytes, expected " ++ toString e.expected ++ " for "
    ++ toString e.width.toNat ++ "x" ++ toString e.height.toNat ++ " RGBA"

end IconSizeError

namespace Icon

/-- The icon of the given dimensions and bytes, if the bytes fill it exactly; otherwise the error
that tells both sizes (`new`). That fails if the bytes of the dimensions cannot be counted. -/
def ofBytes (width height : UInt32) (rgba : ByteArray) :
    Except Failure (Except IconSizeError Icon) := do
  let expected ← byteCount width height
  if rgba.size = expected then return .ok ⟨width, height, rgba⟩
  else return .error ⟨width, height, expected, rgba.size⟩

/-- The icon of an image, with its whole buffer (`from_image`). -/
def ofImage (image : RgbaImage) : Icon where
  width := image.width
  height := image.height
  rgba := image.bytes

/-- What stops a program that asserts that the buffer holds the pixels and nothing else, as
`upload_texture` of the headless renderer does. -/
def failure? (icon : Icon) : Option Failure :=
  match byteCount icon.width icon.height with
  | .error failure => some failure
  | .ok expected =>
    if icon.rgba.size = expected then none else some (.unequal icon.rgba.size expected)

/-- An icon as it is shown to a reader: its dimensions and the size of its buffer. -/
def describe (icon : Icon) : String :=
  "Icon \x7b width: " ++ toString icon.width.toNat ++ ", height: " ++ toString icon.height.toNat
    ++ ", bytes: " ++ toString icon.rgba.size ++ " \x7d"

end Icon

end OnScreen
