import OnScreen.Image.Bytes

/-!
# TGA images

A header of 18 bytes is followed by a text, by a table of colors if there is one, and by the pixels,
plain or in runs.

* `Tga.header`: what a file says about its image.
* `Tga.runs`: takes pixels that come in runs.
* `Tga.examine`: whether a file is of a known kind and has all its pixels.
-/

namespace OnScreen.Tga

/-- The bits for the opacity and for the rest of a pixel, by whether it has a color. -/
def pixelKinds (color : Bool) : List (Nat × Nat) :=
  if color then [(0, 32), (8, 24), (0, 24), (1, 15), (0, 15), (0, 16)]
  else [(8, 8), (0, 8), (8, 0)]

/-- What a file says about its image. -/
structure Header where
  /-- The bytes of a text behind the header. -/
  textBytes : Nat
  hasTable : Bool
  kind : Nat
  /-- The number of the first color in the table. -/
  tableStart : Nat
  /-- How many colors fill the table. -/
  tableLength : Nat
  /-- The bits of a color in the table. -/
  tableBits : Nat
  width : Nat
  height : Nat
  /-- The bits of a pixel. -/
  bits : Nat
  /-- The bits of a pixel, or of its color in the table, for the opacity. -/
  opacityBits : Nat

/-- Takes the header. -/
def header (s : List UInt8) : Except ImageError (Header × List UInt8) := do
  let (textBytes, s) ← takeLittle 1 s
  let (table, s) ← takeLittle 1 s
  let (kind, s) ← takeLittle 1 s
  let (tableStart, s) ← takeLittle 2 s
  let (tableLength, s) ← takeLittle 2 s
  let (tableBits, s) ← takeLittle 1 s
  let (_, s) ← takeBytes 4 s
  let (width, s) ← takeLittle 2 s
  let (height, s) ← takeLittle 2 s
  let (bits, s) ← takeLittle 1 s
  let (flags, s) ← takeLittle 1 s
  return (⟨textBytes, table == 1, kind, tableStart, tableLength, tableBits, width, height, bits,
    flags % 16⟩, s)

/-- Pixels are numbers of colors in the table. -/
def Header.usesTable (header : Header) : Bool :=
  header.kind == 1 || header.kind == 9

/-- Pixels come in runs. -/
def Header.hasRuns (header : Header) : Bool :=
  9 ≤ header.kind && header.kind ≤ 11

/-- The bytes of a pixel. -/
def Header.pixelBytes (header : Header) : Nat :=
  (header.bits + 7) / 8

/-- The dimensions and the kind of pixels are possible and known. -/
def Header.examine (header : Header) : Except ImageError Unit := do
  require (header.width ≠ 0 && header.height ≠ 0)
  if header.usesTable then
    require (header.hasTable && (header.bits == 8 || header.bits == 16))
    support (header.bits ≤ header.tableBits)
  let bits := if header.usesTable then header.tableBits else header.bits
  require (header.opacityBits ≤ bits)
  let kinds := pixelKinds ([1, 2, 9, 10].contains header.kind)
  support (kinds.contains (header.opacityBits, bits - header.opacityBits))

/-- Takes the table of colors, which have some number of bits. -/
def table (header : Header) (s : List UInt8) : Except ImageError (Unit × List UInt8) := do
  support ([15, 16, 24, 32].contains header.tableBits)
  let (_, s) ← takeBytes (header.tableLength * ((header.tableBits + 7) / 8)) s
  return ((), s)

/-- Takes runs of pixels, at most as many as the fuel, until there are enough; a last run may be
longer. -/
def runs (pixelBytes : Nat) : Nat → Nat → List UInt8 → Except ImageError (List UInt8)
  | _, 0, _ => .ok []
  | 0, _, _ => .error .endOfData
  | fuel + 1, pixels, s => do
    let (start, s) ← takeLittle 1 s
    let length := min (start % 128 + 1) pixels
    let (run, s) ← takeBytes ((if start < 128 then length else 1) * pixelBytes) s
    let rest ← runs pixelBytes fuel (pixels - length) s
    return run ++ rest

/-- Numbers of two bytes each, the least significant first. -/
def pairs : List UInt8 → List Nat
  | low :: high :: rest => littleEndian [low, high] :: pairs rest
  | _ => []

/-- A color with this number is in the table. -/
def Header.hasColor (header : Header) (number : Nat) : Bool :=
  header.tableStart ≤ number && number < header.tableStart + header.tableLength

/-- The colors of the pixels are in the table. -/
def Header.hasColors (header : Header) (pixels : List UInt8) : Bool :=
  let numbers := if header.bits = 8 then pixels.map UInt8.toNat else pairs pixels
  numbers.all header.hasColor

/-- Looks for the first thing in a file that is not as the format has it. -/
def examine (file : List UInt8) : Except ImageError Unit := do
  let (header, s) ← header file
  header.examine
  let (_, s) ← takeBytes header.textBytes s
  let (_, s) ← if header.hasTable then table header s else .ok ((), s)
  let pixels := header.width * header.height
  let pixels ←
    if header.hasRuns then runs header.pixelBytes (s.length + 1) pixels s
    else (takeBytes (pixels * header.pixelBytes) s).map Prod.fst
  require (!header.usesTable || header.hasColors pixels)

end OnScreen.Tga
