import OnScreen.Image.Inflate

/-!
# PNG images

A file begins with eight bytes of its own. Parts follow, each with its length, its name of four
letters, its data and a check sum of the name and the data. The first part tells the dimensions and
the kind of pixels; consecutive parts further on hold the compressed pixels. A part whose name
begins with a small letter is not needed, and it does not matter whether its check sum is right. Of
a moving image only the first picture counts.

* `Png.crc`: the check sum.
* `Png.metadata`: what the parts before the pixels say.
* `Png.examine`: whether a file has these parts and all its pixels.
-/

namespace OnScreen.Png

/-- The bytes that a file begins with. -/
def signature : List UInt8 :=
  [137, 80, 78, 71, 13, 10, 26, 10]

/-! ## The check sum -/

/-- Divides a remainder by the polynomial of the check sum, one bit further. -/
def crcBit (crc : UInt32) : UInt32 :=
  if crc &&& 1 = 1 then (crc >>> 1) ^^^ 0xEDB88320 else crc >>> 1

/-- The remainder with a byte added. -/
def crcByte (crc : UInt32) (b : UInt8) : UInt32 :=
  Nat.repeat crcBit 8 (crc ^^^ b.toUInt32)

/-- The check sum of some bytes. -/
def crc (bytes : List UInt8) : UInt32 :=
  bytes.foldl crcByte 0xFFFFFFFF ^^^ 0xFFFFFFFF

/-! ## Parts -/

/-- A part is needed to understand the image. -/
def isNeeded (name : List UInt8) : Bool :=
  name.head?.all fun b => b &&& 32 == 0

/-- A needed part is a known one, and the length is possible. That also goes for parts of a moving
image, before and in each of its pictures. -/
def hasKnownLength (name : List UInt8) (length : Nat) : Bool :=
  if name = ascii "IHDR" then length == 13
  else if name = ascii "PLTE" then 3 ≤ length && length ≤ 768
  else if name = ascii "IEND" then length == 0
  else if name = ascii "fcTL" then length == 26
  else if name = ascii "fdAT" then 4 ≤ length
  else name == ascii "IDAT" || !isNeeded name

/-- Takes the length and the name of a part. -/
def partStart (s : List UInt8) : Except ImageError ((Nat × List UInt8) × List UInt8) := do
  let (length, s) ← takeBig 4 s
  let (name, s) ← takeBytes 4 s
  return ((length, name), s)

/-- Takes the data of a part and the check sum. Data that are not needed are nothing if the check
sum is wrong. -/
def partRest (length : Nat) (name s : List UInt8) :
    Except ImageError (Option (List UInt8) × List UInt8) := do
  let (data, s) ← takeBytes length s
  let (sum, s) ← takeBig 4 s
  let right := sum == (crc (name ++ data)).toNat
  require (right || !isNeeded name)
  return (if right then some data else none, s)

/-- What is known about an image before its pixels. -/
structure Header where
  width : Nat
  height : Nat
  /-- The bits of a sample. -/
  depth : Nat
  /-- The number of the kind of pixels. -/
  kind : Nat
  /-- The pixels come in seven passes, and not row by row. -/
  interlaced : Bool
  hasTable : Bool := false
  hasOpacities : Bool := false
  /-- It is told what kind of colors there are. -/
  hasColors : Bool := false
  /-- The number of the next part of a moving image, if the image is one. -/
  next : Option Nat := none

/-- The depths that samples of a kind of pixels may have. -/
def depthsOf (kind : Nat) : List Nat :=
  if kind = 0 then [1, 2, 4, 8, 16]
  else if kind = 3 then [1, 2, 4, 8]
  else if kind = 2 ∨ kind = 4 ∨ kind = 6 then [8, 16]
  else []

/-- The first part of a file: dimensions, depth and kind of pixels, and how they are compressed,
filtered and interlaced. -/
def start (data : List UInt8) : Except ImageError Header := do
  let (width, s) ← takeBig 4 data
  let (height, s) ← takeBig 4 s
  require (width ≠ 0 && height ≠ 0)
  let (depth, s) ← takeBig 1 s
  let (kind, s) ← takeBig 1 s
  require ((depthsOf kind).contains depth)
  let (compression, s) ← takeBig 1 s
  let (filter, s) ← takeBig 1 s
  let (interlacing, _) ← takeBig 1 s
  require (compression == 0 && filter == 0 && interlacing < 2)
  return ⟨width, height, depth, kind, interlacing == 1, false, false, false, none⟩

/-- What is said about the first picture of a moving image, which is as large as all of it. -/
def Header.withPicture (header : Header) (data : List UInt8) : Except ImageError Header := do
  let number := header.next.getD 0
  let (n, s) ← takeBig 4 data
  let (width, s) ← takeBig 4 s
  let (height, s) ← takeBig 4 s
  let (left, s) ← takeBig 4 s
  let (top, s) ← takeBig 4 s
  let (_, s) ← takeBig 4 s
  let (removal, s) ← takeBig 1 s
  let (mixing, _) ← takeBig 1 s
  require (n == number && removal < 3 && mixing < 2)
  require (left == 0 && top == 0 && width == header.width && height == header.height)
  return { header with next := some (number + 1) }

/-- What kind of colors there are, if that is told first and before the table: the last two of four
numbers say that all colors are meant. One that is not so ends the reading as if the file had
ended. -/
def Header.withColors (header : Header) (data : List UInt8) : Except ImageError Header :=
  match header.hasTable || header.hasColors, data with
  | false, [_, _, matrix, range] =>
    if matrix = 0 ∧ range < 2 then .ok { header with hasColors := true } else .error .endOfData
  | _, _ => .ok header

/-- The color behind the image. If it is the number of a color, and the table does not stand before
it, the reading ends as if the file had ended. -/
def Header.withBackground (header : Header) (data : List UInt8) : Except ImageError Header :=
  if header.kind = 3 ∧ !header.hasTable ∧ data ≠ [] ∧ data.length ≤ 6 then .error .endOfData
  else .ok header

/-- What is known with a part before the pixels. The end is no such part, the first part comes only
once, and so does the table of colors. -/
def Header.withPart (header : Header) (name data : List UInt8) : Except ImageError Header := do
  require (name ≠ ascii "IHDR" && name ≠ ascii "IEND")
  if name = ascii "PLTE" then
    require (!header.hasTable)
    return { header with hasTable := true }
  else if name = ascii "tRNS" then
    let least? := if header.kind = 2 then some 6 else if header.kind = 3 then some 1 else none
    let fits := (least?.any fun n => n ≤ data.length && data.length ≤ 256) &&
      (header.kind ≠ 3 || header.hasTable)
    return { header with hasOpacities := header.hasOpacities || fits }
  else if name = ascii "fcTL" then header.withPicture data
  else if name = ascii "cICP" then header.withColors data
  else if name = ascii "bKGD" then header.withBackground data
  else return header

/-- A part holds pixels. -/
def Header.isPixels (header : Header) (name : List UInt8) : Bool :=
  name == ascii "IDAT" || (name == ascii "fdAT" && header.next.isSome)

/-- The parts behind the first one, up to the pixels, at most as many as the fuel. -/
def partsBefore : Nat → Header → List UInt8 → Except ImageError (Header × List UInt8)
  | 0, _, _ => .error .endOfData
  | fuel + 1, header, s => do
    let ((length, name), rest) ← partStart s
    require (hasKnownLength name length && (name ≠ ascii "fdAT" || header.next.isSome))
    if header.isPixels name then return (header, s)
    let (data?, rest) ← partRest length name rest
    let header ← data?.elim (.ok header) (header.withPart name)
    partsBefore fuel header rest

/-- What the parts before the pixels say, and the parts from the pixels on. -/
def metadata (file : List UInt8) : Except ImageError (Header × List UInt8) := do
  let (first, s) ← takeBytes 4 file
  require (first == signature.take 4)
  let (second, s) ← takeBytes 4 s
  require (second == signature.drop 4)
  let ((length, name), s) ← partStart s
  require (name == ascii "IHDR" && hasKnownLength name length)
  let (data?, s) ← partRest length name s
  let header ← start (data?.getD [])
  partsBefore (s.length + 1) header s

/-! ## Pixels -/

/-- The samples of a pixel. -/
def Header.samples (header : Header) : Nat :=
  if header.kind = 2 then 3
  else if header.kind = 4 then 2
  else if header.kind = 6 then 4
  else 1

/-- Pixels have a color and an opacity of eight bits each, if need be after a look at the table. -/
def Header.isPlain (header : Header) : Bool :=
  (header.kind == 6 && header.depth == 8) ||
    (header.hasOpacities && (header.kind == 3 || header.depth == 8))

/-- The first column and row of every pass of an interlaced image, and the steps to the next. -/
def passes : List ((Nat × Nat) × (Nat × Nat)) :=
  [((0, 0), (8, 8)), ((4, 0), (8, 8)), ((0, 4), (4, 8)), ((2, 0), (4, 4)), ((0, 2), (2, 4)),
    ((1, 0), (2, 2)), ((0, 1), (1, 2))]

/-- The width and the height of all that comes row by row, which is the image or each of its passes.
A pass may be empty. -/
def Header.sizes (header : Header) : List (Nat × Nat) :=
  if header.interlaced then
    passes.map fun (first, step) =>
      ((header.width - first.1 + step.1 - 1) / step.1,
        (header.height - first.2 + step.2 - 1) / step.2)
  else [(header.width, header.height)]

/-- The bytes of a row of so many pixels. A byte before them tells how the row is filtered. -/
def Header.rowBytes (header : Header) (pixels : Nat) : Nat :=
  1 + (pixels * header.samples * header.depth + 7) / 8

/-- The rows that follow each other, as the bytes of one and their number. There are none without a
pixel. -/
def Header.rows (header : Header) : List (Nat × Nat) :=
  (header.sizes.filter fun size => size.1 ≠ 0).map fun (width, height) =>
    (header.rowBytes width, height)

/-- The bytes from a place on hold all of the rows. Those that are there have a known filter. -/
def examineRows (text : Array UInt8) : List (Nat × Nat) → Nat → Except ImageError Bool
  | [], _ => .ok true
  | (bytes, count) :: rows, place => do
    let whole := min count ((text.size - place) / bytes)
    require ((List.range whole).all fun row => text.getD (place + row * bytes) 0 ≤ 4)
    if whole < count then return false else examineRows text rows (place + count * bytes)

/-- How many bytes are wanted of the compressed pixels. Rows without a pixel count as a byte. -/
def Header.wanted (header : Header) : Nat :=
  header.sizes.foldl (fun bytes size => bytes + header.rowBytes size.1 * size.2) 0

/-- The compressed pixels so far hold all of the rows, and need not be looked at any further: they
are whole, or as many bytes have come out of them as are wanted. Pixels that are numbers of colors
need the table from the first row on. -/
def Header.examineData (header : Header) (data : List UInt8) : Except ImageError Bool := do
  let (text, stop?) := Inflate.inflate header.wanted data
  require (stop? ≠ some .corrupt)
  let first := header.rows.headD (0, 0)
  require (header.kind ≠ 3 || header.hasTable || text.size < first.1)
  let complete ← examineRows text header.rows 0
  return complete && (stop?.isNone || header.wanted ≤ text.size)

/-- The parts with the pixels, which all have one name, at most as many as the fuel. The data of the
parts before are given until all rows are there; what compressed pixels follow does not matter then.
Only the start of the next part tells that there are no more. Parts of a moving image have numbers
before their data. -/
def examinePixels (header : Header) (pixels : List UInt8) :
    Nat → Option Nat → Option (List UInt8) → List UInt8 → Except ImageError Unit
  | 0, _, _, _ => .error .endOfData
  | fuel + 1, next, before?, s => do
    let ((length, name), s) ← partStart s
    if name ≠ pixels then require before?.isNone
    else
      require (hasKnownLength name length)
      let numberBytes := if name = ascii "fdAT" then 4 else 0
      let (number, data) ← takeBig numberBytes s
      require (numberBytes = 0 || next == some number)
      let before? ← match before? with
        | none => .ok none
        | some before =>
          let data := before ++ data.take (length - numberBytes)
          (header.examineData data).map fun complete => if complete then none else some data
      let (_, s) ← partRest length name s
      examinePixels header pixels fuel (next.map (· + 1)) before? s

/-- The pixels of a file, from their first part on. -/
def pixels (header : Header) (s : List UInt8) : Except ImageError Unit := do
  let ((_, name), _) ← partStart s
  examinePixels header name (s.length + 1) header.next (some []) s

/-- Looks for the first thing in a file that is not as the format has it. -/
def examine (file : List UInt8) : Except ImageError Unit := do
  let (header, s) ← metadata file
  pixels header s

end OnScreen.Png
