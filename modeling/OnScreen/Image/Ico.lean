import OnScreen.Image.Bmp
import OnScreen.Image.Png

/-!
# ICO images

A file holds several images of one picture. Entries with their dimensions and places come first; the
entry with the most bits and then the most pixels counts, and its image is in PNG or BMP form.

* `Ico.examine`: whether the image that counts is as its format has it.
-/

namespace OnScreen.Ico

/-- What the file says about one of its images. -/
structure Entry where
  width : Nat
  height : Nat
  bits : Nat
  /-- The bytes of the image. -/
  length : Nat
  place : Nat

/-- A dimension of an entry; zero stands for the greatest one. -/
def dimension (n : Nat) : Nat :=
  if n = 0 then 256 else n

/-- Takes an entry. -/
def entry (s : List UInt8) : Except ImageError (Entry × List UInt8) := do
  let (width, s) ← takeLittle 1 s
  let (height, s) ← takeLittle 1 s
  let (_, s) ← takeBytes 2 s
  let (planes, s) ← takeLittle 2 s
  require (planes ≤ 256)
  let (bits, s) ← takeLittle 2 s
  require (bits ≤ 256)
  let (length, s) ← takeLittle 4 s
  let (place, s) ← takeLittle 4 s
  return (⟨dimension width, dimension height, bits, length, place⟩, s)

/-- Takes a number of entries. -/
def entries : Nat → List UInt8 → Except ImageError (List Entry)
  | 0, _ => .ok []
  | count + 1, s => do
    let (first, s) ← entry s
    let rest ← entries count s
    return first :: rest

/-- The first entry counts more than the second. -/
def Entry.exceeds (a b : Entry) : Bool :=
  b.bits < a.bits || (a.bits == b.bits && b.width * b.height < a.width * a.height)

/-- The entry that counts; of equal ones the last, then the first of the others. -/
def best? (entries : List Entry) : Option Entry :=
  match entries.reverse with
  | [] => none
  | last :: others =>
    some (others.reverse.foldl (fun best e => if e.exceeds best then e else best) last)

/-- The entry is about an image with these dimensions. It does not tell greater ones apart. -/
def Entry.isOf (entry : Entry) (width height : Nat) : Bool :=
  entry.width == min width 256 && entry.height == min height 256

/-- The image of an entry in PNG form. Its pixels have a color and an opacity. -/
def examinePng (entry : Entry) (image : List UInt8) : Except ImageError Unit := do
  let (header, s) ← Png.metadata image
  require (Png.signature.length ≤ entry.length)
  require (entry.isOf header.width header.height)
  require header.isPlain
  Png.pixels header s

/-- The image of an entry in BMP form. Its height is doubled for a mask behind the pixels, with a
bit for each of them, in rows that fill multiples of four bytes. The mask may be missing. -/
def examineBmp (entry : Entry) (image : List UInt8) : Except ImageError Unit := do
  let (header, s) ← Bmp.metadata image
  let header := { header with height := header.height / 2 }
  require (entry.isOf header.width header.height)
  let (_, s) ← Bmp.pixels header s
  let used := image.length - s.length
  let maskBytes := (header.width + 31) / 32 * 4 * header.height
  if used + maskBytes ≤ entry.length then
    let _ ← takeBytes maskBytes s
  else require (entry.length == used)

/-- The image of an entry. -/
def examineImage (entry : Entry) (image : List UInt8) : Except ImageError Unit := do
  let (start, _) ← takeBytes 8 image
  if start = Png.signature then examinePng entry image else examineBmp entry image

/-- Looks for the first thing in a file that is not as the format has it. -/
def examine (file : List UInt8) : Except ImageError Unit := do
  let (_, s) ← takeBytes 4 file
  let (count, s) ← takeLittle 2 s
  match best? (← entries count s) with
  | none => throw .malformed
  | some entry => examineImage entry (file.drop entry.place)

end OnScreen.Ico
