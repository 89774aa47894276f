import OnScreen.Image.Bytes

/-!
# BMP images

Behind a short file header is the header of the image, of which there are several sizes, then come
masks or a table of colors, and at a given place the pixels.

* `Bmp.metadata`: what the header of an image says, if it is as the format has it.
* `Bmp.pixels`: takes the pixels of an image.
* `Bmp.examine`: whether a file has such a header and all its pixels.
-/

namespace OnScreen.Bmp

/-- What is known about an image before its pixels. -/
structure Header where
  width : Nat
  height : Nat
  /-- The bits of a pixel. -/
  bits : Nat
  /-- The number of the way in which the pixels are stored. -/
  storage : Nat := 0
  /-- The length of the table of colors; zero for the longest one. -/
  colors : Nat := 0

/-- The pixels are numbers of entries in a table of colors. -/
def Header.hasTable (header : Header) : Bool :=
  header.storage == 1 || header.storage == 2 || (header.storage == 0 && header.bits ≤ 8)

/-- Takes the rest of the shortest header. -/
def shortHeader (s : List UInt8) : Except ImageError (Header × List UInt8) := do
  let (width, s) ← takeLittle 2 s
  let (height, s) ← takeLittle 2 s
  support (width ≠ 0 && height ≠ 0)
  let (planes, s) ← takeLittle 2 s
  require (planes == 1)
  let (bits, s) ← takeLittle 2 s
  require ([1, 4, 8, 24].contains bits)
  return ({ width := width, height := height, bits := bits }, s)

/-- The bits of a pixel go with the way in which the pixels are stored. -/
def examineStorage (storage bits : Nat) : Except ImageError Unit := do
  if storage = 0 then require ([1, 2, 4, 8, 16, 24, 32].contains bits)
  else if storage = 1 then require (bits == 8)
  else if storage = 2 then require (bits == 4)
  else if storage = 3 then require (bits == 16 || bits == 32)
  else if [4, 5, 11, 12, 13].contains storage then throw .unsupported
  else throw .malformed

/-- Takes the rest of a longer header. Rows go up, or down if the height is negative; then the
pixels are not compressed. -/
def longHeader (s : List UInt8) : Except ImageError (Header × List UInt8) := do
  let (width, s) ← takeLittle 4 s
  let (height, s) ← takeLittle 4 s
  let down := decide (2147483648 ≤ height)
  require (width ≤ 65535 && (height ≤ 65535 || down) && height ≠ 2147483648)
  support (width ≠ 0 && height ≠ 0)
  let (planes, s) ← takeLittle 2 s
  require (planes == 1)
  let (bits, s) ← takeLittle 2 s
  let (storage, s) ← takeLittle 4 s
  require (!down || storage == 0 || storage == 3)
  examineStorage storage bits
  let (_, s) ← takeBytes 12 s
  let (colors, s) ← takeLittle 4 s
  let (_, s) ← takeBytes 4 s
  return (⟨width, if down then 4294967296 - height else height, bits, storage, colors⟩, s)

/-- The bits of a pixel that a mask selects are consecutive and among those that a pixel has. -/
def isMask (bits mask : Nat) : Bool :=
  let places := (List.range 32).filter mask.testBit
  match places.head?, places.getLast? with
  | some first, some last => last - first + 1 == places.length && last < bits
  | _, _ => true

/-- Takes the masks of the colors, which are not empty, and of the opacity, if there is one. -/
def masks (bits : Nat) (hasOpacity : Bool) (s : List UInt8) : Except ImageError Unit := do
  let (red, s) ← takeLittle 4 s
  let (green, s) ← takeLittle 4 s
  let (blue, s) ← takeLittle 4 s
  let (opacity, _) ← takeLittle (if hasOpacity then 4 else 0) s
  require ([red, green, blue, opacity].all (isMask bits))
  require (red ≠ 0 && green ≠ 0 && blue ≠ 0)

/-- The bytes of the table of colors. At most 256 entries are taken. -/
def tableBytes (header : Header) (entryBytes : Nat) : Except ImageError Nat := do
  if header.hasTable then
    let most := Nat.pow 2 header.bits
    require (header.colors ≤ most)
    let count := if header.colors = 0 then most else header.colors
    return min count 256 * entryBytes
  else return 0

/-- What the header of an image says, and the bytes behind the header and the table of colors. -/
def metadata (image : List UInt8) : Except ImageError (Header × List UInt8) := do
  let (size, s) ← takeLittle 4 image
  require (12 ≤ size)
  support ([12, 40, 52, 56, 108, 124].contains size)
  let (header, s) ← if size = 12 then shortHeader s else longHeader s
  if header.storage = 3 then masks header.bits ([56, 108, 124].contains size) s
  let maskBytes := if header.storage = 3 ∧ [40, 108, 124].contains size then 12 else 0
  let bytes ← tableBytes header (if size = 12 then 3 else 4)
  let (_, s) ← takeBytes bytes (image.drop (size + maskBytes))
  return (header, s)

/-! ## Pixels -/

/-- A step in compressed rows. -/
inductive Step
  /-- So many pixels of one color. -/
  | run (count : Nat)
  /-- So many pixels. -/
  | pixels (count : Nat)
  | rowEnd
  | imageEnd
  /-- Goes so many pixels to the side and so many rows on. -/
  | skip (columns rows : Nat)

/-- Takes a step. Pixels of one color are a byte for their number, and one for the color; the other
steps begin with a zero. Pixels of several colors fill a multiple of two bytes. -/
def takeStep (bits : Nat) (s : List UInt8) : Except ImageError (Step × List UInt8) := do
  let (count, s) ← takeLittle 1 s
  let (code, s) ← takeLittle 1 s
  if count ≠ 0 then return (.run count, s)
  else if code = 0 then return (.rowEnd, s)
  else if code = 1 then return (.imageEnd, s)
  else if code = 2 then
    let (columns, s) ← takeLittle 1 s
    let (rows, s) ← takeLittle 1 s
    return (.skip columns rows, s)
  else
    let (_, s) ← takeBytes ((code * bits + 15) / 16 * 2) s
    return (.pixels code, s)

/-- Takes compressed rows, at most as many steps as the fuel, and leaves what follows. So many rows
are yet to come behind the present one, of which there are so many pixels. Pixels stay in their row,
but what a run of bytes has too much is left out. Every row has an end. -/
def compressedRows (header : Header) : Nat → Nat → Nat → ByteReader Unit
  | 0, _, _, _ => .error .endOfData
  | fuel + 1, rows, column, s => do
    let (step, s) ← takeStep header.bits s
    match step with
    | .imageEnd => return ((), s)
    | .rowEnd => if rows = 0 then return ((), s) else compressedRows header fuel (rows - 1) 0 s
    | .run count =>
      require (header.bits == 8 || column + count ≤ header.width)
      compressedRows header fuel rows (column + count) s
    | .pixels count =>
      require (min column header.width + count ≤ header.width)
      compressedRows header fuel rows (column + count) s
    | .skip columns down =>
      require (down ≤ rows)
      let present := if down = 0 then min column header.width else column
      require (present + columns ≤ header.width)
      compressedRows header fuel (rows - down) (column + columns) s

/-- Takes the pixels of an image. Rows that are not compressed fill multiples of four bytes. -/
def pixels (header : Header) (s : List UInt8) : Except ImageError (Unit × List UInt8) :=
  if header.storage = 1 ∨ header.storage = 2 then
    compressedRows header (s.length + 1) (header.height - 1) 0 s
  else
    let rowBytes := (header.width * header.bits + 31) / 32 * 4
    (takeBytes (rowBytes * header.height) s).map fun r => ((), r.2)

/-- Looks for the first thing in a file that is not as the format has it. -/
def examine (file : List UInt8) : Except ImageError Unit := do
  let (name, s) ← takeBytes 2 file
  require (name == ascii "BM")
  let (_, s) ← takeBytes 8 s
  let (place, s) ← takeLittle 4 s
  let (header, _) ← metadata s
  let _ ← pixels header (file.drop place)

end OnScreen.Bmp
