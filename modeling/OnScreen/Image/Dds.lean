import OnScreen.Image.Bytes

/-!
# DDS images

A header of fixed size tells the dimensions and the form of the pixels, of which only three
compressed ones are known.

* `Dds.examine`: whether a file has such a header and all its pixels.
-/

namespace OnScreen.Dds

/-- The bits of a header that are always set. -/
def requiredFlags : Nat := 0x1007

/-- The bits of a header that may be set. -/
def validFlags : Nat := 0x8A100F

/-- The bytes of a compressed block of four by four pixels, by the name of the form. -/
def blockBytes? (name : List UInt8) : Option Nat :=
  if name = ascii "DXT1" then some 8
  else if name = ascii "DXT3" ∨ name = ascii "DXT5" then some 16
  else none

/-- The bytes of a compressed block by the number of the form, in the further header of some
files. -/
def blockBytesOfNumber? (number : Nat) : Option Nat :=
  if 70 ≤ number ∧ number ≤ 72 then some 8
  else if 73 ≤ number ∧ number ≤ 78 then some 16
  else none

/-- Takes the further header of some files, which tells the number of the form, up to 132. The image
is an array of rows, planes or spaces, and of spaces there is only one. -/
def takeNumber (s : List UInt8) : Except ImageError (Nat × List UInt8) := do
  let (number, s) ← takeLittle 4 s
  let (dimensions, s) ← takeLittle 4 s
  let (flags, s) ← takeLittle 4 s
  let (count, s) ← takeLittle 4 s
  let (opacity, s) ← takeLittle 4 s
  require (number ≤ 132 && [2, 3, 4].contains dimensions && (flags == 0 || flags == 4))
  require ((dimensions ≠ 4 || count == 1) && opacity ≤ 4)
  return (number, s)

/-- Takes the form of the pixels behind the header. -/
def takeForm (name : List UInt8) (s : List UInt8) :
    Except ImageError (Option Nat × List UInt8) := do
  if name = ascii "DX10" then
    let (number, s) ← takeNumber s
    return (blockBytesOfNumber? number, s)
  else return (blockBytes? name, s)

/-- Looks for the first thing in a file that is not as the format has it. -/
def examine (file : List UInt8) : Except ImageError Unit := do
  let (name, s) ← takeBytes 4 file
  require (name == ascii "DDS ")
  let (size, s) ← takeLittle 4 s
  require (size == 124)
  let (flags, s) ← takeLittle 4 s
  require (flags &&& requiredFlags == requiredFlags && flags ||| validFlags == validFlags)
  let (height, s) ← takeLittle 4 s
  let (width, s) ← takeLittle 4 s
  let (_, s) ← takeBytes 56 s
  let (size, s) ← takeLittle 4 s
  require (size == 32)
  let (flags, s) ← takeLittle 4 s
  let (form, s) ← takeBytes 4 s
  let (_, s) ← takeBytes 40 s
  support (flags &&& 4 == 4)
  let (blockBytes, s) ← takeForm form s
  match blockBytes with
  | none => throw .unsupported
  | some blockBytes =>
    let _ ← takeBytes ((width / 4) * (height / 4) * blockBytes) s

end OnScreen.Dds
