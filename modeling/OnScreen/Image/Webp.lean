import OnScreen.Image.Bytes

/-!
# WebP images

A file is a part that holds the others. The first of these is a lossy image, a lossless image, or a
list of what else there is; then further parts hold the image and its opacities, or the pictures of
a moving image. A lossy image consists of partitions; the first of them begins with its properties,
in bits that are packed by arithmetic coding.

* `Webp.examineLossy`: whether a lossy image has all its partitions.
* `Webp.examine`: whether a file begins so.
-/

namespace OnScreen.Webp

/-! ## Packed bits -/

/-- A place among packed bits: a number that tells the next bits, of which so many are taken in, and
the range in which the first eight of these are. -/
structure PackedBits where
  number : Nat := 0
  bits : Nat := 0
  range : Nat := 255
  /-- The bytes that are not taken in. -/
  rest : List UInt8
  /-- A zero stands for the byte behind the last one. -/
  ended : Bool := false

/-- Takes in a byte if fewer than eight bits are left. One byte may be missing. -/
def PackedBits.fill (p : PackedBits) : Except ImageError PackedBits :=
  if 8 ≤ p.bits then .ok p
  else
    match p.rest with
    | b :: rest =>
      .ok { p with number := p.number * 256 + b.toNat, bits := p.bits + 8, rest := rest }
    | [] =>
      if p.ended then .error .malformed
      else .ok { p with number := p.number * 256, bits := p.bits + 8, ended := true }

/-- Takes bits off the front of packed ones. -/
abbrev PackedReader := StateT PackedBits (Except ImageError)

/-- Takes a bit, which is as likely set as not. It tells the half of the range. -/
def takeBit : PackedReader Bool := do
  let p ← (← get).fill
  let half := 1 + (p.range - 1) / 2
  let limit := half * Nat.pow 2 (p.bits - 8)
  let bit := decide (limit ≤ p.number)
  let number := if bit then p.number - limit else p.number
  let range := if bit then p.range - half else half
  if range < 128 then set { p with number, range := 2 * range, bits := p.bits - 1 }
  else set { p with number, range }
  return bit

/-- Takes a number of some bits, the most significant first. -/
def takeNumber : Nat → PackedReader Nat
  | 0 => return 0
  | count + 1 => do
    let n ← takeNumber count
    let bit ← takeBit
    return 2 * n + bit.toNat

/-- Takes some numbers with signs that may be missing, of some bits each. -/
def takeOptions (bits : Nat) : Nat → PackedReader Unit
  | 0 => return
  | count + 1 => do
    if ← takeBit then
      let _ ← takeNumber (bits + 1)
    takeOptions bits count

/-- Takes some numbers of eight bits that may be missing. -/
def takeChances : Nat → PackedReader Unit
  | 0 => return
  | count + 1 => do
    if ← takeBit then
      let _ ← takeNumber 8
    takeChances count

/-! ## Lossy images -/

/-- Takes the properties of the segments of an image. -/
def takeSegments : PackedReader Unit := do
  let hasMap ← takeBit
  if ← takeBit then
    let _ ← takeBit
    takeOptions 7 4
    takeOptions 6 4
  if hasMap then takeChances 3

/-- Takes what kind of colors a whole picture has, of which there is only one, and whether they stay
in their range. -/
def takeColors : PackedReader Unit := do
  let otherColors ← takeBit
  if otherColors then throw .malformed
  let _ ← takeBit

/-- How many partitions follow the first one, which tells about the colors only if the picture is a
whole one. -/
def takePartitionCount (whole : Bool) : PackedReader Nat := do
  if whole then takeColors
  if ← takeBit then takeSegments
  let _ ← takeNumber 10
  if ← takeBit then
    if ← takeBit then takeOptions 6 8
  let n ← takeNumber 2
  return Nat.pow 2 n

/-- Takes partitions with these numbers of bytes. -/
def takePartitions : List (List UInt8) → ByteReader Unit
  | [], s => .ok ((), s)
  | size :: sizes, s => do
    let (_, s) ← takeBytes (littleEndian size) s
    takePartitions sizes s

/-- Takes numbers of three bytes each. -/
def takeSizes : Nat → ByteReader (List (List UInt8))
  | 0, s => .ok ([], s)
  | count + 1, s => do
    let (size, s) ← takeBytes 3 s
    let (sizes, s) ← takeSizes count s
    return (size :: sizes, s)

/-- The start of a lossy image. -/
structure LossyStart where
  /-- It is a whole picture with dimensions, and not what is different from the one before. -/
  whole : Bool
  width : Nat
  height : Nat
  /-- The bytes of the first partition. -/
  bytes : Nat

/-- Takes the start of a lossy image. Without dimensions it has no pixels. -/
def takeLossyStart : ByteReader LossyStart := fun s => do
  let (tag, s) ← takeLittle 3 s
  if tag % 2 = 1 then return (⟨false, 0, 0, tag / 32⟩, s)
  let (code, s) ← takeBytes 3 s
  require (code == [157, 1, 42])
  let (width, s) ← takeLittle 2 s
  let (height, s) ← takeLittle 2 s
  return (⟨true, width % 16384, height % 16384, tag / 32⟩, s)

/-- The partitions of a lossy image. The sizes of all but the first and the last are in front of
them; the last is what is left. -/
def examineLossy (data : List UInt8) : Except ImageError LossyStart := do
  let (start, s) ← takeLossyStart data
  let (first, s) ← takeBytes start.bytes s
  let (count, _) ← (takePartitionCount start.whole).run ({ rest := first } : PackedBits)
  let (sizes, s) ← takeSizes (count - 1) s
  let _ ← takePartitions sizes s
  return start

/-! ## Files -/

/-- The start of a lossless image, of a known version. -/
def examineLossless (data : List UInt8) : Except ImageError Unit := do
  let (code, s) ← takeLittle 1 data
  require (code == 47)
  let (dimensions, _) ← takeLittle 4 s
  require (dimensions < 536870912)

/-- A part of a file. -/
structure Part where
  name : List UInt8
  /-- How many bytes of data it has. -/
  length : Nat
  /-- The file from the data on. -/
  rest : List UInt8

/-- The data of a part, as far as they are there. -/
def Part.data (part : Part) : List UInt8 :=
  part.rest.take part.length

/-- The bytes of a part behind its length. An odd one at the end is filled up. -/
def Part.bytes (part : Part) : Nat :=
  part.length + part.length % 2

/-- The file behind a part. -/
def Part.behind (part : Part) : List UInt8 :=
  part.rest.drop part.bytes

/-- The part at the front of some bytes. -/
def part (s : List UInt8) : Except ImageError Part := do
  let (name, s) ← takeBytes 4 s
  let (length, s) ← takeLittle 4 s
  return ⟨name, length, s⟩

/-- The first part with a name. -/
def part? (parts : List Part) (name : String) : Option Part :=
  parts.find? fun part => part.name == ascii name

/-- A picture of a moving image, or any other part. Until a picture is lossy, for which opacities in
front of it are enough, the first part in each is looked at. Tells whether a picture was lossy so
far. -/
def examinePart (lossy : Bool) (found : Part) : Except ImageError Bool := do
  if found.name ≠ ascii "ANMF" then return lossy
  require (24 ≤ found.length)
  let (_, s) ← takeBytes 16 found.rest
  if lossy then return true
  let first ← part s
  return first.name == ascii "VP8 " || first.name == ascii "ALPH"

/-- The parts of a file, in so many bytes and at most as many as the fuel. They end where the file
ends. -/
def parts : Nat → Nat → Bool → List UInt8 → Except ImageError (List Part)
  | 0, _, _, _ => .ok []
  | _, 0, _, _ => .ok []
  | fuel + 1, bytes, lossy, s =>
    match part s with
    | .error _ => .ok []
    | .ok first => do
      let lossy ← examinePart lossy first
      let others ← parts fuel (bytes - (8 + first.bytes)) lossy first.behind
      return first :: others

/-- The first two parts in a picture of a moving image; the second only if it may fit. Its data are
in their place behind the first part, but its name and its length are what the data of the first
begin with. -/
def pictureParts (picture : Part) : Except ImageError (List Part) := do
  let first ← part (picture.rest.drop 16)
  if picture.length < 32 + first.bytes then return [first]
  let second ← part first.rest
  return [first, { second with rest := first.behind.drop 8 }]

/-- The opacities of an image with these dimensions, which are not compressed. -/
def examineOpacities (dimensions : Nat × Nat) (data : List UInt8) : Except ImageError Unit := do
  let (kind, s) ← takeLittle 1 data
  require (kind / 16 % 4 < 2 && kind % 4 = 0)
  let _ ← takeBytes (dimensions.1 * dimensions.2) s

/-- The first picture of a moving image with these dimensions. -/
def examinePicture (dimensions : Nat × Nat) (picture : Part) : Except ImageError Unit := do
  require (32 ≤ picture.length)
  let (left, s) ← takeLittle 3 picture.rest
  let (top, s) ← takeLittle 3 s
  let (width, s) ← takeLittle 3 s
  let (height, s) ← takeLittle 3 s
  require (width < 16384 && height < 16384)
  require (2 * left + width < dimensions.1 && 2 * top + height < dimensions.2)
  let (_, s) ← takeBytes 4 s
  let first ← part s
  require (24 + first.bytes ≤ picture.length)
  if first.name = ascii "VP8 " then
    let _ ← examineLossy first.data
  else
    require (first.name == ascii "ALPH" && 32 + first.bytes ≤ picture.length)
    examineOpacities (width + 1, height + 1) first.data
    let second ← part first.behind
    require (32 + first.length + second.length ≤ picture.length)
    let _ ← examineLossy second.data

/-- The part of a moving image that is about all of its pictures. -/
def examineMotion (motion : Part) : Except ImageError Unit := do
  require (motion.length ≤ 6)
  let (data, _) ← takeBytes motion.length motion.rest
  let _ ← takeBytes 6 data

/-- The lossy image in the parts of a file. -/
def examineImage (hasOpacities : Bool) (dimensions : Nat × Nat) (parts : List Part) :
    Except ImageError Unit := do
  match part? parts "VP8 ", part? parts "VP8L" with
  | some image, none =>
    let found ← examineLossy image.data
    require (found.width == dimensions.1 && found.height == dimensions.2)
    if hasOpacities then
      match part? parts "ALPH" with
      | none => throw .malformed
      | some opacities => examineOpacities dimensions opacities.data
  | _, _ => throw .malformed

/-- The parts of a file with these properties and dimensions: all are there that the properties
tell. -/
def examineParts (properties : Nat) (dimensions : Nat × Nat) (parts : List Part) :
    Except ImageError Unit := do
  let has (name : String) : Bool := (part? parts name).isSome
  let moving := properties.testBit 1
  require (if moving then has "ANIM" && has "ANMF" else has "VP8 " != has "VP8L")
  require (!properties.testBit 3 || has "EXIF")
  require (!properties.testBit 2 || has "XMP ")
  if moving then (part? parts "ANIM").forM examineMotion
  let further ← ((part? parts "ANMF").map pictureParts).getD (.ok [])
  if moving then (part? parts "ANMF").forM (examinePicture dimensions)
  else examineImage (properties.testBit 4) dimensions (parts ++ further)

/-- A list of what else there is, and the further parts. So many bytes are in the whole file. -/
def examineList (bytes : Nat) (list : Part) : Except ImageError Unit := do
  let (properties, s) ← takeLittle 1 list.rest
  let (_, s) ← takeBytes 3 s
  let (width, s) ← takeLittle 3 s
  let (height, _) ← takeLittle 3 s
  require ((width + 1) * (height + 1) < 4294967296)
  let further ← parts (list.rest.length + 1) (bytes - 12) false list.behind
  examineParts properties (width + 1, height + 1) further

/-- Looks for the first thing in a file that is not as the format has it. Whatever is wrong behind
what is looked at is called malformed. -/
def examine (file : List UInt8) : Except ImageError Unit := do
  let (name, s) ← takeBytes 4 file
  let (bytes, s) ← takeLittle 4 s
  require (name == ascii "RIFF")
  let (kind, s) ← takeBytes 4 s
  require (kind == ascii "WEBP")
  let first ← part s
  if first.name = ascii "VP8 " then
    let (start, _) ← takeLossyStart first.rest
    require (start.whole && start.width ≠ 0 && start.height ≠ 0)
    let _ ← examineLossy first.data
  else if first.name = ascii "VP8L" then examineLossless first.rest
  else
    require (first.name == ascii "VP8X")
    examineList bytes first
  throw .malformed

end OnScreen.Webp
