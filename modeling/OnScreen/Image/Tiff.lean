import OnScreen.Image.Bytes

/-!
# TIFF images

A file begins with its order of bytes and a version, then comes the place of its directory. Each
entry of the directory has a number that tells what it is about, and values or their place. The
pixels are in strips or in tiles, of which the directory tells the places.

* `Tiff.Directory`: the entries, and what values they have.
* `Tiff.header`: what a directory says about the pixels.
* `Tiff.grid`: the strips or tiles that hold the pixels.
* `Tiff.examine`: whether a file has a directory with the entries that every image needs, and all
  its pixels.
-/

namespace OnScreen.Tiff

/-! ## Directories -/

/-- How the numbers of a file are taken. -/
structure Numbers where
  /-- Takes a number of some bytes. -/
  take : Nat → ByteReader Nat
  /-- The bytes of a place, and of how many values an entry has. -/
  placeBytes : Nat
  /-- The bytes of a count of entries. -/
  countBytes : Nat

/-- An entry of a directory. -/
structure Entry where
  /-- The number that tells what the entry is about. -/
  tag : Nat
  /-- The number of the kind of values. -/
  kind : Nat
  /-- How many values there are. -/
  count : Nat
  /-- The values, if they fit; otherwise their place. -/
  field : List UInt8

/-- The entries of a directory, and the file with their values. -/
structure Directory where
  numbers : Numbers
  entries : List Entry
  file : List UInt8

/-- The bytes of a value of a kind. -/
def valueBytes? (kind : Nat) : Option Nat :=
  if [1, 2, 6, 7].contains kind then some 1
  else if [3, 8].contains kind then some 2
  else if [4, 9, 11, 13].contains kind then some 4
  else if [5, 10, 12, 16, 17, 18].contains kind then some 8
  else none

/-- The values of a kind are places of directories. -/
def isPlace (kind : Nat) : Bool :=
  kind == 13 || kind == 18

/-- The values of a kind are numbers from zero on. -/
def isNatural (kind : Nat) : Bool :=
  [1, 3, 4, 7, 16].contains kind

/-- The bytes of a file from a place on, which is no farther than a file may go. -/
def seek (file : List UInt8) (place : Nat) : Except ImageError (List UInt8) :=
  if place ≤ maxFileBytes then .ok (file.drop place) else .error (.file .placeTooFar)

/-- Takes entries. One with values of an unknown kind is left out, and has eight more bytes, however
many a place has. -/
def entries (numbers : Numbers) : Nat → List UInt8 → Except ImageError (List Entry × List UInt8)
  | 0, s => .ok ([], s)
  | count + 1, s => do
    let (tag, s) ← numbers.take 2 s
    let (kind, s) ← numbers.take 2 s
    if (valueBytes? kind).isNone then
      let (_, s) ← takeBytes 8 s
      entries numbers count s
    else
      let (values, s) ← numbers.take numbers.placeBytes s
      let (field, s) ← takeBytes numbers.placeBytes s
      let (more, s) ← entries numbers count s
      return (⟨tag, kind, values, field⟩ :: more, s)

/-- The directory at a place of a file. Behind its entries comes the place of the next one, which is
not itself. -/
def directory (numbers : Numbers) (file : List UInt8) (place : Nat) :
    Except ImageError Directory := do
  let s ← seek file place
  let (count, s) ← numbers.take numbers.countBytes s
  let (found, s) ← entries numbers count s
  let (next, _) ← numbers.take numbers.placeBytes s
  require (next = 0 || next ≠ place)
  return ⟨numbers, found, file⟩

/-- What an entry is about. -/
inductive Subject
  | width
  | height
  /-- The bits of a sample. -/
  | bits
  | compression
  /-- What the samples of a pixel stand for. -/
  | meaning
  | stripPlaces
  /-- The samples of a pixel. -/
  | samples
  | stripRows
  | stripBytes
  /-- Whether the samples of a pixel are together. -/
  | planes
  /-- How pixels differ from those before. -/
  | predictor
  | tileWidth
  | tileHeight
  | tilePlaces
  | tileBytes
  /-- The samples of a pixel behind those for its color. -/
  | extraSamples
  /-- What kind of numbers the samples are. -/
  | sampleKind
  /-- What the compressed pixels of all strips or tiles begin with. -/
  | start
  /-- How many pixels share a color, across and down. -/
  | sharing

/-- The number of what an entry is about. -/
def Subject.tag : Subject → Nat
  | width => 256
  | height => 257
  | bits => 258
  | compression => 259
  | meaning => 262
  | stripPlaces => 273
  | samples => 277
  | stripRows => 278
  | stripBytes => 279
  | planes => 284
  | predictor => 317
  | tileWidth => 322
  | tileHeight => 323
  | tilePlaces => 324
  | tileBytes => 325
  | extraSamples => 338
  | sampleKind => 339
  | start => 347
  | sharing => 530

/-- The entry that is about something; of several the last. -/
def Directory.entry? (directory : Directory) (subject : Subject) : Option Entry :=
  directory.entries.reverse.find? fun e => e.tag == subject.tag

/-- Takes some numbers of some bytes each. -/
def takeList (take : ByteReader Nat) : Nat → ByteReader (List Nat)
  | 0, s => .ok ([], s)
  | count + 1, s => do
    let (first, s) ← take s
    let (rest, s) ← takeList take count s
    return (first :: rest, s)

/-- The values of an entry fit where their place would be. -/
def Directory.fits (directory : Directory) (entry : Entry) : Bool :=
  (valueBytes? entry.kind).getD 0 * entry.count ≤ directory.numbers.placeBytes

/-- The bytes of the values of an entry. -/
def Directory.bytes (directory : Directory) (entry : Entry) : Except ImageError (List UInt8) := do
  let numbers := directory.numbers
  let (place, _) ← numbers.take numbers.placeBytes entry.field
  let s ← if directory.fits entry then .ok entry.field else seek directory.file place
  let (bytes, _) ← takeBytes ((valueBytes? entry.kind).getD 0 * entry.count) s
  return bytes

/-- The numbers of the characters of a text that ends with a zero. One that fits in the entry has
only ASCII characters. -/
def characters (fits : Bool) (bytes : List UInt8) : Except ImageError (List Nat) := do
  if fits then
    require (bytes.all (· < 128) && bytes.getLast? == some 0)
    let text := bytes.dropWhile (· == 0)
    return (text.reverse.dropWhile (· == 0)).reverse.map UInt8.toNat
  else
    let text := bytes.takeWhile (· ≠ 0)
    match String.fromUTF8? ⟨text.toArray⟩ with
    | some text => return text.toList.map Char.toNat
    | none => throw .malformed

/-- The values of an entry, which are numbers from zero on, places or characters. A single fraction
counts as two numbers. -/
def Directory.values (directory : Directory) (entry : Entry) : Except ImageError (List Nat) := do
  if entry.count = 0 then return []
  let bytes ← directory.bytes entry
  if entry.kind = 2 then characters (directory.fits entry) bytes
  else
    let isFraction := entry.kind == 5 && entry.count == 1
    require (isNatural entry.kind || isPlace entry.kind || isFraction)
    let each := if isFraction then 4 else (valueBytes? entry.kind).getD 0
    let (values, _) ← takeList (directory.numbers.take each) (bytes.length / each) bytes
    return values

/-- The values that tell something, below a limit. -/
def Directory.list? (directory : Directory) (subject : Subject) (limit : Nat) :
    Except ImageError (Option (List Nat)) := do
  match directory.entry? subject with
  | none => return none
  | some entry =>
    let values ← directory.values entry
    require (values.all fun n => n < limit)
    return some values

/-- What something is told with is of a kind that fits, if it is told. -/
def Directory.requireKind (directory : Directory) (subject : Subject) (fits : Entry → Bool) :
    Except ImageError Unit :=
  require ((directory.entry? subject).all fits)

/-- The one number or place that tells something, below a limit. -/
def Directory.number? (directory : Directory) (subject : Subject) (limit : Nat) :
    Except ImageError (Option Nat) := do
  let values? ← directory.list? subject limit
  directory.requireKind subject fun e => isNatural e.kind || isPlace e.kind
  match values? with
  | none => return none
  | some [value] => return some value
  | some _ => throw .malformed

/-- Numbers of 16 bits. A single one is not written with more. -/
def Directory.shortList? (directory : Directory) (subject : Subject) :
    Except ImageError (Option (List Nat)) := do
  let values? ← directory.list? subject 65536
  directory.requireKind subject fun e =>
    if e.count = 1 then [1, 3, 7].contains e.kind else e.count == 0 || isNatural e.kind
  return values?

/-- A number of 16 bits that may be missing. It is no place. -/
def Directory.short? (directory : Directory) (subject : Subject) :
    Except ImageError (Option Nat) := do
  let value ← directory.number? subject 65536
  directory.requireKind subject fun e => isNatural e.kind
  return value

/-- A number of 32 bits that an image needs. -/
def Directory.required (directory : Directory) (subject : Subject) : Except ImageError Nat := do
  match ← directory.number? subject 4294967296 with
  | some value => return value
  | none => throw .malformed

/-- A number of 16 bits, or another one if it is missing. -/
def Directory.optional (directory : Directory) (subject : Subject) (default : Nat) :
    Except ImageError Nat := do
  return (← directory.short? subject).getD default

/-! ## Pixels -/

/-- What a directory says about the pixels. -/
structure Header where
  width : Nat
  height : Nat
  meaning : Nat
  compression : Nat
  samples : Nat
  /-- What the samples of a pixel stand for that are not for its color. -/
  extraSamples : List Nat
  /-- What kind of numbers the samples are, if that is told. -/
  sampleKind : Option Nat
  bits : Nat
  predictor : Nat
  planes : Nat
  /-- Compressed pixels have a common start. -/
  hasStart : Bool

/-- The only number in a list that may have it several times. -/
def same? : List Nat → Option Nat
  | [] => none
  | first :: rest => if rest.all (· == first) then some first else none

/-- What compressed pixels of one kind begin with is some bytes. They are no numbers that fit in the
entry. -/
def hasStart (directory : Directory) (compression : Nat) : Except ImageError Bool := do
  if compression ≠ 7 then return false
  let start? ← directory.list? .start 256
  directory.requireKind .start fun e => e.kind == 7 || (e.kind == 1 && !directory.fits e)
  require (start?.all fun start => 2 ≤ start.length)
  return start?.isSome

/-- What a directory says about the pixels. All samples are alike, and the size of the areas that
share a color has two dimensions. -/
def header (directory : Directory) : Except ImageError Header := do
  let width ← directory.required .width
  let height ← directory.required .height
  require (width ≠ 0 && height ≠ 0)
  let meaning ← directory.short? .meaning
  support (meaning.any fun n => n ≤ 6 || (8 ≤ n && n ≤ 10))
  let compression ← directory.optional .compression 1
  let hasStart ← hasStart directory compression
  let samples ← directory.optional .samples 1
  require (samples ≠ 0)
  let extraSamples := (← directory.shortList? .extraSamples).getD []
  require (extraSamples.length ≤ samples)
  let kinds ← directory.list? .sampleKind 65536
  require (kinds ≠ some [])
  support (kinds.all fun kinds => (same? kinds).isSome)
  let bits := (← directory.list? .bits 256).getD [1]
  require (bits.length == samples || bits.length == 1)
  support ((same? bits).any fun bits => bits ≠ 0)
  let predictor ← directory.optional .predictor 1
  require (1 ≤ predictor && predictor ≤ 3)
  let planes ← directory.optional .planes 1
  require (planes == 1 || planes == 2)
  let sharing ← directory.shortList? .sharing
  require (sharing.all fun sharing => sharing.length == 2)
  return ⟨width, height, meaning.getD 0, compression, samples, extraSamples,
    kinds.bind List.head?, bits.headD 1, predictor, planes, hasStart⟩

/-- How many pieces of a length make up a whole. -/
def pieces (whole piece : Nat) : Nat :=
  (whole - 1) / piece + 1

/-- The bytes of a row of so many pixels. -/
def Header.rowBytes (header : Header) (pixels : Nat) : Nat :=
  (pixels * header.samples * header.bits + 7) / 8

/-- The first of the extra samples is an opacity. -/
def Header.hasOpacity (header : Header) : Bool :=
  header.extraSamples.head?.any fun n => n == 1 || n == 2

/-- Samples are as they should be: gray, red, green and blue with or without an opacity, or cyan,
magenta, yellow and black without one, each of some bits. -/
def Header.hasKnownSamples (header : Header) : Bool :=
  let colorSamples := header.samples - header.extraSamples.length
  (header.meaning ≤ 1 && header.samples == 1 && [1, 8, 16].contains header.bits) ||
    (header.meaning == 2 && [3, 4].contains colorSamples && [8, 16, 32].contains header.bits) ||
    (header.meaning == 5 && colorSamples == 4 && !header.hasOpacity && [8, 16].contains header.bits)

/-- The predictor goes with the samples, which are not single bits. -/
def Header.hasKnownPredictor (header : Header) : Bool :=
  header.predictor == 1 ||
    (header.bits ≠ 1 && header.predictor == if header.sampleKind = some 3 then 3 else 2)

/-- The pixels are of a known sort. Only numbers of 32 bits have a fraction, and if a pixel has
several samples, they are together. -/
def Header.isKnown (header : Header) : Bool :=
  header.hasKnownSamples && header.sampleKind.all (· == if header.bits = 32 then 3 else 1) &&
    (header.planes == 1 || header.samples == 1)

/-- The strips or tiles of an image. -/
structure Grid where
  /-- The dimensions of one. -/
  width : Nat
  height : Nat
  /-- The place of each, and how many bytes it has. -/
  parts : List (Nat × Nat)

/-- The places of strips or tiles, or how many bytes each has. -/
def Directory.partList (directory : Directory) (subject : Subject) :
    Except ImageError (List Nat) := do
  return (← directory.list? subject 18446744073709551616).getD []

/-- The strips or the tiles of an image, which has only one sort of them. -/
def grid (directory : Directory) (header : Header) : Except ImageError Grid := do
  let has (subject : Subject) : Bool := (directory.entry? subject).isSome
  let planes := if header.planes = 2 then header.samples else 1
  match has .stripBytes, has .stripPlaces, has .tileBytes, has .tilePlaces with
  | true, true, false, false =>
    let places ← directory.partList .stripPlaces
    let bytes ← directory.partList .stripBytes
    let rows := (← directory.number? .stripRows 4294967296).getD header.height
    require (places.length == bytes.length)
    require (rows ≠ 0 && places.length == pieces header.height rows * planes)
    return ⟨header.width, rows, places.zip bytes⟩
  | false, false, true, true =>
    let width ← directory.required .tileWidth
    let height ← directory.required .tileHeight
    require (width ≠ 0 && height ≠ 0)
    let places ← directory.partList .tilePlaces
    let bytes ← directory.partList .tileBytes
    let across := pieces header.width width
    require (places.length == bytes.length)
    require (places.length == across * pieces header.height height * planes)
    return ⟨width, height, places.zip bytes⟩
  | _, _, _, _ => throw .malformed

/-- The bytes of a strip or tile that are needed, up to the last pixel in the image. With numbers
that have a fraction, differences are spread over whole rows. -/
def neededBytes (header : Header) (grid : Grid) (number : Nat) : Nat :=
  let across := pieces header.width grid.width
  let columns := min grid.width (header.width - number % across * grid.width)
  let rows := min grid.height (header.height - number / across * grid.height)
  let last := if header.predictor = 3 then grid.width else columns
  (rows - 1) * header.rowBytes grid.width + header.rowBytes last

/-- Tiles side by side begin with whole bytes. -/
def Grid.isAligned (grid : Grid) (header : Header) : Bool :=
  header.width ≤ grid.width || grid.width * header.samples * header.bits % 8 == 0

/-- The bytes of the strips or tiles are there, as far as they are needed. -/
def examineParts (directory : Directory) (header : Header) (grid : Grid) :
    Except ImageError Unit :=
  grid.parts.zipIdx.forM fun ((place, bytes), number) => do
    let s ← seek directory.file place
    if (s.take bytes).length < neededBytes header grid number then throw .endOfData

/-- The pixels are there, if they are not compressed. What is wrong with compressed ones counts as
an end that comes too early, with one exception, and some compressions are not known. One of them
has strips or tiles with dimensions of 16 bits. Where all begin alike, the first two bytes of each
are left out. -/
def examinePixels (directory : Directory) (header : Header) (grid : Grid) :
    Except ImageError Unit := do
  support (grid.isAligned header)
  let (place, bytes) := grid.parts.headD (0, 0)
  let first ← seek directory.file place
  support header.hasKnownPredictor
  if header.compression = 1 then examineParts directory header grid
  else if [4, 5, 8, 32773, 32946].contains header.compression then
    require (header.compression ≠ 4 || (grid.width < 65536 && grid.height < 65536))
    throw .endOfData
  else if header.compression = 7 then
    require (header.hasStart && 2 ≤ bytes)
    let _ ← takeBytes 2 first
    throw .malformed
  else throw .unsupported

/-- How the numbers of a file are taken, by its order of bytes and its version. -/
def numbersFrom (little : Bool) (s : List UInt8) :
    Except ImageError (Numbers × List UInt8) := do
  let take := if little then takeLittle else takeBig
  let (version, s) ← take 2 s
  if version = 43 then
    let (placeBytes, s) ← take 2 s
    require (placeBytes == 8)
    let (padding, s) ← take 2 s
    require (padding == 0)
    return (⟨take, 8, 8⟩, s)
  else
    require (version == 42)
    return (⟨take, 4, 2⟩, s)

/-- Looks for the first thing in a file that is not as the format has it. -/
def examine (file : List UInt8) : Except ImageError Unit := do
  let order := file.take 2
  require (order == ascii "II" || order == ascii "MM")
  let (numbers, s) ← numbersFrom (order == ascii "II") (file.drop 2)
  let (place, _) ← numbers.take numbers.placeBytes s
  let directory ← directory numbers file place
  let header ← header directory
  let grid ← grid directory header
  support header.isKnown
  examinePixels directory header grid

end OnScreen.Tiff
