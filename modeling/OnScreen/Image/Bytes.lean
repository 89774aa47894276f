import OnScreen.Error

/-!
# Bytes of image files

A reader takes something off the front of a file and leaves the rest, or fails. A file that ends too
early fails as such; what else a format demands is required explicitly.

* `ByteReader`: the type of readers.
* `takeBytes`, `takeLittle`, `takeBig`: some bytes, and the numbers that they make up.
* `require`, `support`: what a file must have to follow its format, and to be one that is known.
* `isSpace`, `trim`, `words`, `ascii`: bytes as characters.
-/

namespace OnScreen

/-- Takes something off the front of a file. -/
abbrev ByteReader (α : Type) := List UInt8 → Except ImageError (α × List UInt8)

/-- Takes a number of bytes. -/
def takeBytes (count : Nat) (s : List UInt8) : Except ImageError (List UInt8 × List UInt8) :=
  let taken := s.take count
  if taken.length < count then .error .endOfData else .ok (taken, s.drop count)

/-- A number of some bytes, the most significant first. -/
def bigEndian (bytes : List UInt8) : Nat :=
  bytes.foldl (fun n b => n * 256 + b.toNat) 0

/-- A number of some bytes, the least significant first. -/
def littleEndian (bytes : List UInt8) : Nat :=
  bytes.foldr (fun b n => b.toNat + 256 * n) 0

/-- Takes a number of some bytes, the most significant first. -/
def takeBig (count : Nat) (s : List UInt8) : Except ImageError (Nat × List UInt8) :=
  (takeBytes count s).map fun r => (bigEndian r.1, r.2)

/-- Takes a number of some bytes, the least significant first. -/
def takeLittle (count : Nat) (s : List UInt8) : Except ImageError (Nat × List UInt8) :=
  (takeBytes count s).map fun r => (littleEndian r.1, r.2)

/-- Goes on only with a file that follows its format. -/
def require (condition : Bool) : Except ImageError Unit :=
  if condition then .ok () else .error .malformed

/-- Goes on only with a file of a known kind. -/
def support (condition : Bool) : Except ImageError Unit :=
  if condition then .ok () else .error .unsupported

/-! ## Bytes as characters -/

/-- A space between words. -/
def isSpace (b : UInt8) : Bool :=
  b == 9 || b == 10 || b == 11 || b == 12 || b == 13 || b == 32

/-- The bytes without spaces at both ends. -/
def trim (s : List UInt8) : List UInt8 :=
  ((s.dropWhile isSpace).reverse.dropWhile isSpace).reverse

/-- The words between the spaces of a line. -/
def words (line : List UInt8) : List (List UInt8) :=
  let add (b : UInt8) (found : List UInt8 × List (List UInt8)) :=
    if isSpace b then ([], found.1 :: found.2) else (b :: found.1, found.2)
  let found := line.foldr add ([], [])
  (found.1 :: found.2).filter fun word => !word.isEmpty

/-- The bytes of an ASCII text. -/
def ascii (s : String) : List UInt8 :=
  s.toList.map fun c => UInt8.ofNat c.toNat

/-- The characters of some bytes, one for each. -/
def charsOf (s : List UInt8) : List Char :=
  s.map fun b => Char.ofNat b.toNat

end OnScreen
