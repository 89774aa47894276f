import OnScreen.Image.Bytes
import OnScreen.Number.Numeral

/-!
# Radiance images

Lines of text come first: the name of the format, then names with values, then an empty line, then
the dimensions. Behind these lines are the pixels, four bytes each or in runs.

* `Hdr.examineLines`: takes the lines before the dimensions.
* `Hdr.row`: takes a row of pixels.
* `Hdr.examine`: whether a file has these lines and all its pixels.
-/

namespace OnScreen.Hdr

/-- The bytes that a file begins with. -/
def signature : List UInt8 :=
  ascii "#?RADIANCE"

/-- Takes a line and its end. The last line may lack the end. -/
def takeLine (s : List UInt8) : Except ImageError (List UInt8 × List UInt8) :=
  if s.isEmpty then .error .malformed
  else .ok (s.takeWhile (· != 10), (s.dropWhile (· != 10)).drop 1)

/-- A text is a single-precision number. -/
def isNumber (text : List UInt8) : Bool :=
  let x : Option Single := Binary.ofText? (charsOf text)
  x.isSome

/-- A line with a name and a value. Values of some names are numbers, and only one form of pixels is
known; other names may have any value. -/
def examineLine (line : List UInt8) : Except ImageError Unit := do
  let name := line.takeWhile (· != 61)
  let value := (line.dropWhile (· != 61)).drop 1
  if name.isEmpty || value.isEmpty then return
  let name := trim name
  if name = ascii "FORMAT" then support (trim value == ascii "32-bit_rle_rgbe")
  else if name = ascii "EXPOSURE" || name = ascii "PIXASPECT" then require (isNumber (trim value))
  else if name = ascii "COLORCORR" then
    require ((words value).length == 3 && (words value).all isNumber)

/-- Takes the lines up to the empty one, at most as many as the fuel. Lines that begin with a number
sign are comments. -/
def examineLines : Nat → List UInt8 → Except ImageError (List UInt8)
  | 0, _ => .error .malformed
  | fuel + 1, s => do
    let (line, s) ← takeLine s
    if line.isEmpty then return s
    if line.head? ≠ some 35 then examineLine line
    examineLines fuel s

/-- A dimension: an unsigned 32-bit number. -/
def dimension (text : List UInt8) : Except ImageError Nat :=
  match naturalOf? (charsOf text) with
  | some n => if n < 4294967296 then .ok n else .error .malformed
  | none => .error .malformed

/-- The width and the height in a line. Rows go down, and pixels to the right. -/
def dimensions (line : List UInt8) : Except ImageError (Nat × Nat) := do
  match words line with
  | [first, height, second, width] =>
    support (first == ascii "-Y" && second == ascii "+X")
    let height ← dimension height
    let width ← dimension width
    return (width, height)
  | _ => throw .malformed

/-! ## Pixels -/

/-- Takes one of the four components of a row, at most as many runs as the fuel. A run of equal
bytes is its length with the highest bit set and the byte; other bytes follow their number. Runs
stay in their row, of which so many pixels are left. -/
def component : Nat → Nat → ByteReader Unit
  | _, 0, s => .ok ((), s)
  | 0, _, _ => .error .endOfData
  | fuel + 1, pixels, s => do
    let (count, s) ← takeLittle 1 s
    let length := if count ≤ 128 then count else count - 128
    require (length ≤ pixels)
    let (_, s) ← takeBytes (if count ≤ 128 then count else 1) s
    component fuel (pixels - length) s

/-- Takes the rest of a row of whole pixels, at most as many as the fuel. A pixel with components of
one repeats the one before it, as often as the last byte and the unit tell; the unit grows from one
such pixel to the next. -/
def wholePixels : Nat → Nat → Nat → ByteReader Unit
  | _, _, 0, s => .ok ((), s)
  | 0, _, _, _ => .error .endOfData
  | fuel + 1, unit, pixels, s => do
    let (pixel, s) ← takeBytes 4 s
    if pixel.take 3 = [1, 1, 1] then
      let length := littleEndian (pixel.drop 3) * unit
      require (length ≤ pixels)
      wholePixels fuel (unit * 256) (pixels - length) s
    else wholePixels fuel 1 (pixels - 1) s

/-- Takes a row with at most as many runs as the fuel. The first four bytes tell whether its
components follow one after the other; otherwise they are its first pixel. -/
def row (fuel width : Nat) (s : List UInt8) : Except ImageError (Unit × List UInt8) := do
  let (first, s) ← takeBytes 4 s
  if first.take 2 = [2, 2] ∧ first.getD 2 0 < 128 then
    let (_, s) ← component fuel width s
    let (_, s) ← component fuel width s
    let (_, s) ← component fuel width s
    component fuel width s
  else
    require (first.take 3 ≠ [1, 1, 1])
    wholePixels fuel 1 (width - 1) s

/-- Takes a number of rows. -/
def rows (fuel width : Nat) : Nat → ByteReader Unit
  | 0, s => .ok ((), s)
  | count + 1, s => do
    let (_, s) ← row fuel width s
    rows fuel width count s

/-- Looks for the first thing in a file that is not as the format has it. -/
def examine (file : List UInt8) : Except ImageError Unit := do
  let (start, s) ← takeBytes signature.length file
  require (start == signature)
  let s := (s.dropWhile (· != 10)).drop 1
  let s ← examineLines (s.length + 1) s
  let (line, s) ← takeLine s
  let (width, height) ← dimensions line
  let _ ← rows (s.length + 1) width (if width = 0 then 0 else height) s

end OnScreen.Hdr
