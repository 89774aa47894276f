import OnScreen.Number.Binary

/-!
# Colors

A color is packed into a 32-bit word, from the most significant byte: opacity, red, green, blue.
Renderers take each part as a number from zero to one.
-/

namespace OnScreen

/-- A color as the word `0xAARRGGBB`. -/
abbrev Color := UInt32

namespace Color

def cyan : Color := 0xFF00FFFF

def green : Color := 0xFF00FF00

def red : Color := 0xFFFF0000

def yellow : Color := 0xFFFFFF30

/-- The byte of a color at a bit offset, as a part of 255. -/
def part (color : Color) (offset : UInt32) : Single :=
  Binary.ofNat ((color >>> offset) &&& 0xFF).toNat / Binary.ofNat 255

end Color

/-- The parts of a color, each from zero to one. -/
structure Rgba where
  red : Single
  green : Single
  blue : Single
  opacity : Single
  deriving DecidableEq

/-- The parts of a packed color (`argb_to_rgba`). -/
def Color.unpack (color : Color) : Rgba where
  red := color.part 16
  green := color.part 8
  blue := color.part 0
  opacity := color.part 24

namespace Rgba

/-- Transparent black. -/
def clear : Rgba :=
  ⟨Binary.zero false, Binary.zero false, Binary.zero false, Binary.zero false⟩

/-- The parts in the order red, green, blue, opacity. -/
def toList (c : Rgba) : List Single :=
  [c.red, c.green, c.blue, c.opacity]

end Rgba

end OnScreen
