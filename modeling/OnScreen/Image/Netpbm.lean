import OnScreen.Image.Bytes
import OnScreen.Image.Raster

/-!
# Netpbm images

Bitmaps, graymaps and pixmaps, each with its samples as decimal numbers or as bytes, and the format
with a header of named lines for any kind of pixel.

* `Netpbm.word`: a word of a header; comments run from a number sign to the end of the line.
* `Netpbm.Header`: what is known about an image before its samples.
* `Netpbm.read`: reads an image.
-/

namespace OnScreen.Netpbm

/-- The end of a line, and of a comment. -/
def isLineEnd (b : UInt8) : Bool :=
  b == 10 || b == 13

/-- A number below a limit in decimal digits, without a sign. -/
def decimal (limit : Nat) (word : List UInt8) : Except ImageError Nat :=
  if word.isEmpty || word.any fun b => b < 48 || 57 < b then .error .malformed
  else
    let n := word.foldl (fun n b => n * 10 + (b.toNat - 48)) 0
    if n < limit then .ok n else .error .malformed

/-- Takes a word of a header and the space behind it. A comment is left out with the end of its
line, also from the middle of a word. -/
def wordFrom : Bool → List UInt8 → ByteReader (List UInt8)
  | _, word, [] => if word.isEmpty then .error .endOfData else .ok (word, [])
  | comment, word, b :: rest =>
    if comment then wordFrom (!isLineEnd b) word rest
    else if b = 35 then wordFrom true word rest
    else if isSpace b then
      if word.isEmpty then wordFrom false word rest else .ok (word, rest)
    else if 128 ≤ b then .error .malformed
    else wordFrom false (word ++ [b]) rest

/-- Takes a word of a header. -/
def word : ByteReader (List UInt8) :=
  wordFrom false []

/-- Takes a number of a header. -/
def number (s : List UInt8) : Except ImageError (Nat × List UInt8) := do
  let (w, s) ← word s
  return (← decimal 4294967296 w, s)

/-- How the samples of an image are written. -/
inductive Samples
  /-- Digits zero and one, one for black. -/
  | plainBits
  /-- Eight to a byte, one for black, each row filled up to a whole byte. -/
  | packedBits
  /-- Decimal numbers. -/
  | plain
  /-- Whole bytes. -/
  | raw
  /-- Bytes zero and one, one for white. -/
  | rawBits
  deriving DecidableEq

/-- What is known about an image before its samples. -/
structure Header where
  width : Nat
  height : Nat
  maximum : Nat
  channels : Channels
  depth : Depth
  samples : Samples

/-! ## Headers of the numbered formats -/

/-- The depth for samples up to a maximum. -/
def depthFor (maximum : Nat) : Except ImageError Depth :=
  if maximum = 0 then .error .malformed
  else if maximum ≤ 255 then .ok .byte
  else if maximum ≤ 65535 then .ok .word
  else .error .malformed

/-- Takes the header of a bitmap. -/
def bitmapHeader (samples : Samples) (s : List UInt8) :
    Except ImageError (Header × List UInt8) := do
  let (width, s) ← number s
  let (height, s) ← number s
  return (⟨width, height, 255, .gray, .byte, samples⟩, s)

/-- Takes the header of a graymap or a pixmap. -/
def mapHeader (channels : Channels) (samples : Samples) (s : List UInt8) :
    Except ImageError (Header × List UInt8) := do
  let (width, s) ← number s
  let (height, s) ← number s
  let (maximum, s) ← number s
  return (⟨width, height, maximum, channels, ← depthFor maximum, samples⟩, s)

/-! ## Headers of named lines -/

/-- The values of the header lines seen so far. -/
structure Lines where
  width : Option Nat := none
  height : Option Nat := none
  depth : Option Nat := none
  maximum : Option Nat := none
  type : Option (List UInt8) := none

/-- A number without the plus sign that may precede it. -/
def dropPlus (s : List UInt8) : List UInt8 :=
  if s.head? = some 43 then s.drop 1 else s

/-- A value that may be set once. Unlike the numbers of the other headers it may have a plus
sign. -/
def setOnce (old : Option Nat) (value : List UInt8) : Except ImageError (Option Nat) :=
  match old with
  | some _ => .error .malformed
  | none => (decimal 4294967296 (dropPlus (trim value))).map some

/-- Takes the lines of a header up to the one that ends it, at most as many as the fuel. Lines that
begin with a number sign are comments; they hold any text, the others only ASCII. -/
def linesFrom : Nat → Lines → ByteReader Lines
  | 0, _, _ => .error .malformed
  | fuel + 1, lines, s =>
    let line := s.takeWhile (· != 10)
    let rest := (s.dropWhile (· != 10)).drop 1
    if s.isEmpty then .error .malformed
    else if (String.fromUTF8? ⟨line.toArray⟩).isNone then .error .malformed
    else if line.head? = some 35 then linesFrom fuel lines rest
    else if line.any (128 ≤ ·) then .error .malformed
    else
      let name := line.takeWhile fun b => !isSpace b
      let value := line.dropWhile fun b => !isSpace b
      if name = ascii "ENDHDR" then .ok (lines, rest)
      else if name = ascii "WIDTH" then
        match setOnce lines.width value with
        | .error e => .error e
        | .ok v => linesFrom fuel { lines with width := v } rest
      else if name = ascii "HEIGHT" then
        match setOnce lines.height value with
        | .error e => .error e
        | .ok v => linesFrom fuel { lines with height := v } rest
      else if name = ascii "DEPTH" then
        match setOnce lines.depth value with
        | .error e => .error e
        | .ok v => linesFrom fuel { lines with depth := v } rest
      else if name = ascii "MAXVAL" then
        match setOnce lines.maximum value with
        | .error e => .error e
        | .ok v => linesFrom fuel { lines with maximum := v } rest
      else if name = ascii "TUPLTYPE" then
        let type :=
          match lines.type with
          | some t => t ++ [32] ++ trim value
          | none => trim value
        linesFrom fuel { lines with type := some type } rest
      else .error .malformed

/-- The kinds of pixels that have a name: the samples of a pixel and what they stand for. -/
def channelsOf? (type : List UInt8) : Option Channels :=
  if type = ascii "GRAYSCALE" then some .gray
  else if type = ascii "GRAYSCALE_ALPHA" then some .grayAlpha
  else if type = ascii "RGB" then some .rgb
  else if type = ascii "RGB_ALPHA" then some .rgbAlpha
  else none

/-- The kinds of black and white pixels that have a name. -/
def bitChannelsOf? (type : List UInt8) : Option Channels :=
  if type = ascii "BLACKANDWHITE" then some .gray
  else if type = ascii "BLACKANDWHITE_ALPHA" then some .grayAlpha
  else none

/-- The kind of pixels with a number of samples. -/
def channelsWith? (count : Nat) : Option Channels :=
  [Channels.gray, .grayAlpha, .rgb, .rgbAlpha].find? fun c => decide (c.count = count)

/-- The header that some lines make up. Gray pixels may be said to have no samples: they have one
of two bytes then, whatever the maximum. -/
def headerOf (lines : Lines) : Except ImageError Header :=
  match lines.width, lines.height, lines.depth, lines.maximum with
  | some width, some height, some count, some maximum =>
    if maximum = 0 then .error .malformed
    else
      match lines.type with
      | none =>
        match channelsWith? count with
        | some channels => .ok ⟨width, height, maximum, channels, .byte, .raw⟩
        | none => .error .malformed
      | some type =>
        match bitChannelsOf? type, channelsOf? type with
        | some channels, _ =>
          if channels.count = count ∧ maximum = 1 then
            .ok ⟨width, height, maximum, channels, .byte, .rawBits⟩
          else .error .malformed
        | none, some channels =>
          match depthFor maximum with
          | .error e => .error e
          | .ok depth =>
            if channels.count = count then
              .ok ⟨width, height, maximum, channels, depth, .raw⟩
            else if channels = .gray ∧ count = 0 then
              .ok ⟨width, height, maximum, channels, .word, .raw⟩
            else .error .malformed
        | none, none => .error .unsupported
  | _, _, _, _ => .error .malformed

/-- Takes a header of named lines. -/
def linesHeader (s : List UInt8) : Except ImageError (Header × List UInt8) :=
  match s with
  | [] => .error .endOfData
  | b :: rest =>
    if b ≠ 10 then .error .malformed
    else
      match linesFrom (rest.length + 1) {} rest with
      | .error e => .error e
      | .ok (lines, rest) => (headerOf lines).map fun header => (header, rest)

/-! ## Samples -/

/-- The samples of digits zero and one. -/
def plainBits : Nat → List UInt8 → Except ImageError (List Nat)
  | 0, _ => .ok []
  | _ + 1, [] => .error .malformed
  | count + 1, b :: rest =>
    if isSpace b then plainBits (count + 1) rest
    else if b = 48 then (plainBits count rest).map (255 :: ·)
    else if b = 49 then (plainBits count rest).map (0 :: ·)
    else .error .malformed

/-- The samples of a byte that holds eight, the most significant bit first. -/
def bitsOf (b : UInt8) : List Nat :=
  [7, 6, 5, 4, 3, 2, 1, 0].map fun k => if b.toNat / Nat.pow 2 k % 2 = 1 then 0 else 255

/-- The samples of rows of bytes that hold eight each. -/
def packedRows (width rowBytes : Nat) : Nat → List UInt8 → List Nat
  | 0, _ => []
  | rows + 1, s =>
    ((s.take rowBytes).flatMap bitsOf).take width ++
      packedRows width rowBytes rows (s.drop rowBytes)

/-- The samples of decimal numbers with spaces between them. -/
def plainSamples (limit : Nat) : Nat → List UInt8 → Except ImageError (List Nat)
  | 0, _ => .ok []
  | count + 1, s =>
    let s := s.dropWhile isSpace
    let word := s.takeWhile fun b => !isSpace b
    match decimal limit word with
    | .error e => .error e
    | .ok n =>
      (plainSamples limit count ((s.dropWhile fun b => !isSpace b).drop 1)).map (n :: ·)

/-- The samples of an image. -/
def samplesFrom (header : Header) (s : List UInt8) : Except ImageError (List Nat) :=
  let count := header.width * header.height * header.channels.count
  match header.samples with
  | .plainBits => plainBits count s
  | .packedBits =>
    let rowBytes := (header.width + 7) / 8
    match takeBytes (rowBytes * header.height) s with
    | .error e => .error e
    | .ok (bytes, _) => .ok (packedRows header.width rowBytes header.height bytes)
  | .plain => plainSamples (header.depth.top + 1) count s
  | .raw =>
    match takeBytes (count * header.depth.bytes) s with
    | .error e => .error e
    | .ok (bytes, _) => .ok (samplesOf header.depth bytes)
  | .rawBits =>
    match takeBytes count s with
    | .error e => .error e
    | .ok (bytes, _) =>
      if bytes.any (1 < ·) then .error .malformed else .ok (samplesOf .byte bytes)

/-! ## Images -/

/-- Takes a header, behind the letter and the digit that name the format. -/
def header (format : UInt8) (s : List UInt8) : Except ImageError (Header × List UInt8) :=
  if format = 49 then bitmapHeader .plainBits s
  else if format = 50 then mapHeader .gray .plain s
  else if format = 51 then mapHeader .rgb .plain s
  else if format = 52 then bitmapHeader .packedBits s
  else if format = 53 then mapHeader .gray .raw s
  else if format = 54 then mapHeader .rgb .raw s
  else if format = 55 then linesHeader s
  else .error .malformed

/-- Reads an image. -/
def read (file : List UInt8) : Except ImageError Raster :=
  match file with
  | letter :: format :: rest =>
    if letter ≠ 80 then .error .malformed
    else
      match header format rest with
      | .error e => .error e
      | .ok (header, rest) =>
        let pixelBytes := header.channels.count * header.depth.bytes
        if 18446744073709551615 / pixelBytes < header.width * header.height then
          .error .unsupported
        else
          (samplesFrom header rest).map fun samples =>
            { width := UInt32.ofNat header.width
              height := UInt32.ofNat header.height
              channels := header.channels
              depth := header.depth
              samples := samples.map (rescale header.depth header.maximum) }
  | _ => .error .endOfData

end OnScreen.Netpbm
