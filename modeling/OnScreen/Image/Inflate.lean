import OnScreen.Image.Bytes

/-!
# Compressed bytes

Compressed bytes are blocks of bits. A block holds bytes as they are, or words of two codes: one for
bytes and for lengths of copies, and one for how far back the copied bytes are. A code is known by
the lengths of its words. It is fixed, or comes first in the block, itself as words of a code.

* `Inflate.Code`: a code, and its words.
* `Inflate.takeBlock`: puts the bytes of a block behind those before.
* `Inflate.inflate`: the bytes, as far as they are wanted and known.
-/

namespace OnScreen.Inflate

/-- Bits in the order in which they are taken. -/
abbrev Bits := List Bool

/-- The bits of some bytes, the least significant of each byte first. -/
def bitsOf (data : List UInt8) : Bits :=
  data.flatMap fun b => (List.range 8).map b.toNat.testBit

/-- Why no more bytes come out of compressed ones. -/
inductive Stop
  /-- There are as many as are wanted. -/
  | full
  /-- The compressed bytes end too early. -/
  | short
  /-- The compressed bytes make no sense. -/
  | corrupt
  deriving DecidableEq

/-- Takes a number of some bits, the least significant first. -/
def takeNumber (count : Nat) (bits : Bits) : Except Stop (Nat × Bits) :=
  let taken := bits.take count
  if taken.length < count then .error .short
  else .ok (taken.foldr (fun b n => b.toNat + 2 * n) 0, bits.drop count)

/-- Goes on only with bits that make sense. -/
def accept (condition : Bool) : Except Stop Unit :=
  if condition then .ok () else .error .corrupt

/-! ## Codes -/

/-- A code: the symbols with words of one bit, of two bits and so on. Words of one length are
consecutive numbers in the order of their symbols, and follow the beginnings of shorter words. -/
abbrev Code := List (Array Nat)

/-- The code in which the words of the symbols have these lengths. Symbols of length zero have no
word. -/
def Code.ofLengths (lengths : List Nat) : Code :=
  (List.range (lengths.foldl max 0)).map fun n =>
    ((lengths.zipIdx.filter fun e => e.1 == n + 1).map Prod.snd).toArray

/-- Any bits begin with one word of the code. -/
def Code.isComplete (code : Code) : Bool :=
  code.foldl (fun (free : Int) symbols => 2 * free - symbols.size) 1 == 0

/-- The code has only the shortest word, or none. -/
def Code.isTrivial (code : Code) : Bool :=
  code.isEmpty || code.map Array.size == [1]

/-- Takes a word of a code. The offset is how far the bits before are behind the beginnings of
shorter words. -/
def takeWord : Code → Nat → Bits → Except Stop (Nat × Bits)
  | [], _, _ => .error .corrupt
  | _ :: _, _, [] => .error .short
  | symbols :: longer, offset, bit :: bits =>
    let offset := 2 * offset + bit.toNat
    match symbols[offset]? with
    | some symbol => .ok (symbol, bits)
    | none => takeWord longer (offset - symbols.size) bits

/-- The codes of a block: for bytes and lengths, and for distances. -/
structure Codes where
  lengths : Code
  distances : Code

/-- The codes of blocks that bring none. -/
def Codes.fixed : Codes where
  lengths := .ofLengths <|
    List.replicate 144 8 ++ List.replicate 112 9 ++ List.replicate 24 7 ++ List.replicate 8 8
  distances := .ofLengths (List.replicate 32 5)

/-- The symbols of the code for lengths of words, in the order in which their lengths come. -/
def lengthOrder : List Nat :=
  [16, 17, 18, 0, 8, 7, 9, 6, 10, 5, 11, 4, 12, 3, 13, 2, 14, 1, 15]

/-- Takes some numbers of three bits. -/
def takeShortLengths : Nat → Bits → Except Stop (List Nat × Bits)
  | 0, bits => .ok ([], bits)
  | count + 1, bits => do
    let (first, bits) ← takeNumber 3 bits
    let (rest, bits) ← takeShortLengths count bits
    return (first :: rest, bits)

/-- Takes one or more equal lengths of words, where the last one was the given one. The seven bits
that the longest word has are there, however short the word is. -/
def takeRun (code : Code) (last? : Option Nat) (bits : Bits) :
    Except Stop ((Nat × Nat) × Bits) := do
  let _ ← takeNumber 7 bits
  let (symbol, bits) ← takeWord code 0 bits
  if symbol < 16 then return ((1, symbol), bits)
  else if symbol = 16 then
    let (more, bits) ← takeNumber 2 bits
    match last? with
    | none => throw .corrupt
    | some last => return ((more + 3, last), bits)
  else if symbol = 17 then
    let (more, bits) ← takeNumber 3 bits
    return ((more + 3, 0), bits)
  else
    let (more, bits) ← takeNumber 7 bits
    return ((more + 11, 0), bits)

/-- Takes lengths of words, at most as many runs as the fuel, until there are enough. The last one
comes first. -/
def takeLengths (code : Code) (count : Nat) :
    Nat → List Nat → Bits → Except Stop (List Nat × Bits)
  | 0, found, bits => .ok (found, bits)
  | fuel + 1, found, bits => do
    if count ≤ found.length then return (found, bits)
    let ((repeated, length), bits) ← takeRun code found.head? bits
    accept (found.length + repeated ≤ count)
    takeLengths code count fuel (List.replicate repeated length ++ found) bits

/-- Takes the codes of a block. The symbol for its end has a word. -/
def takeCodes (bits : Bits) : Except Stop (Codes × Bits) := do
  let (counts, _) ← takeNumber 14 bits
  let (lengthCount, distanceCount) := (counts % 32 + 257, counts / 32 % 32 + 1)
  accept (lengthCount ≤ 286 && distanceCount ≤ 30)
  let (shortLengths, bits) ← takeShortLengths (counts / 1024 + 4) (bits.drop 14)
  let code := Code.ofLengths <|
    (List.range 19).map fun symbol => shortLengths.getD (lengthOrder.idxOf symbol) 0
  accept code.isComplete
  let count := lengthCount + distanceCount
  let (lengths, bits) ← takeLengths code count count [] bits
  let lengths := lengths.reverse
  let forLengths := Code.ofLengths (lengths.take lengthCount)
  let forDistances := Code.ofLengths (lengths.drop lengthCount)
  accept (lengths[256]? != some 0 && forLengths.isComplete)
  accept (forDistances.isComplete || forDistances.isTrivial)
  return (⟨forLengths, forDistances⟩, bits)

/-! ## Blocks -/

/-- What a word in a block stands for. -/
inductive Piece
  | byte (b : UInt8)
  /-- As many of the bytes before, from so far back on. -/
  | copy (length distance : Nat)
  /-- The end of the block. -/
  | blockEnd

/-- The shortest length of a symbol, and how many bits behind its word may make it longer. -/
def lengthOf (n : Nat) : Nat × Nat :=
  if n = 28 then (258, 0)
  else if n < 8 then (n + 3, 0)
  else ((4 + n % 4) * Nat.pow 2 (n / 4 - 1) + 3, n / 4 - 1)

/-- The shortest distance of a symbol, and how many bits behind its word may make it longer. -/
def distanceOf (n : Nat) : Nat × Nat :=
  if n < 4 then (n + 1, 0)
  else ((2 + n % 2) * Nat.pow 2 (n / 2 - 1) + 1, n / 2 - 1)

/-- Two bytes are taken together if their words have at most twelve bits and the second word has two
at least. So near the end more bits are waited for, if some zeros behind the last word and the bits
that are left would make up such a second word. -/
def waitsForMore (codes : Codes) (wordBits : Nat) (bits : Bits) : Bool :=
  match takeWord codes.lengths 0 (bits ++ List.replicate 12 false) with
  | .ok (symbol, rest) =>
    let secondBits := bits.length + 12 - rest.length
    symbol < 256 && 2 ≤ secondBits && wordBits + secondBits ≤ 12 && bits.length < secondBits
  | .error _ => false

/-- Takes a word for a distance. That one has no meaning is noticed only with ten bits at hand. -/
def takeDistanceWord (codes : Codes) (bits : Bits) : Except Stop (Nat × Bits) :=
  let meaningless := if (bits.take 10).length < 10 then Stop.short else .corrupt
  match takeWord codes.distances 0 bits with
  | .ok (symbol, rest) => if symbol < 30 then .ok (symbol, rest) else .error meaningless
  | .error .corrupt => .error meaningless
  | .error stop => .error stop

/-- Takes a distance. -/
def takeDistance (codes : Codes) (bits : Bits) : Except Stop (Nat × Bits) := do
  let (symbol, bits) ← takeDistanceWord codes bits
  let (distance, distanceBits) := distanceOf symbol
  let (farther, bits) ← takeNumber distanceBits bits
  return (distance + farther, bits)

/-- Takes a piece of a block. The two symbols behind those of lengths end the block, too. -/
def takePiece (codes : Codes) (bits : Bits) : Except Stop (Piece × Bits) := do
  let (symbol, rest) ← takeWord codes.lengths 0 bits
  if symbol < 256 then
    let left := rest.take 12
    if left.length < 11 && waitsForMore codes ((bits.take 32).length - left.length) left then
      throw .short
    return (.byte (UInt8.ofNat symbol), rest)
  else if symbol = 256 ∨ 286 ≤ symbol then return (.blockEnd, rest)
  else
    let (length, lengthBits) := lengthOf (symbol - 257)
    let (longer, rest) ← takeNumber lengthBits rest
    let (distance, rest) ← takeDistance codes rest
    return (.copy (length + longer) distance, rest)

/-- Copies some of the bytes from so far back on to the end. -/
def copy (distance : Nat) : Nat → Array UInt8 → Array UInt8
  | 0, text => text
  | length + 1, text => copy distance length (text.push (text.getD (text.size - distance) 0))

/-- Takes the pieces of a block, at most as many as the fuel, until there are so many bytes. -/
def takePieces (codes : Codes) (wanted : Nat) :
    Nat → Array UInt8 → Bits → Array UInt8 × Except Stop Bits
  | 0, text, _ => (text, .error .short)
  | fuel + 1, text, bits =>
    if wanted ≤ text.size then (text, .error .full)
    else
      match takePiece codes bits with
      | .error stop => (text, .error stop)
      | .ok (.blockEnd, bits) => (text, .ok bits)
      | .ok (.byte b, bits) => takePieces codes wanted fuel (text.push b) bits
      | .ok (.copy length distance, bits) =>
        if text.size < distance then (text, .error .corrupt)
        else
          let text := copy distance (min length (wanted - text.size)) text
          takePieces codes wanted fuel text bits

/-- Takes a number of bytes as they are, until there are so many in all. -/
def takePlain (wanted : Nat) : Nat → Array UInt8 → Bits → Array UInt8 × Except Stop Bits
  | 0, text, bits => (text, .ok bits)
  | count + 1, text, bits =>
    if wanted ≤ text.size then (text, .error .full)
    else
      match takeNumber 8 bits with
      | .error stop => (text, .error stop)
      | .ok (n, bits) => takePlain wanted count (text.push (UInt8.ofNat n)) bits

/-- Takes the count of a block of bytes as they are, which is there twice, from the next whole byte
on. -/
def takePlainCount (bits : Bits) : Except Stop (Nat × Bits) := do
  let (count, bits) ← takeNumber 16 (bits.drop (bits.length % 8))
  let (complement, bits) ← takeNumber 16 bits
  accept (count + complement = 65535)
  return (count, bits)

/-- Takes a block of a kind, until there are so many bytes in all. -/
def takeBlock (wanted kind : Nat) (text : Array UInt8) (bits : Bits) :
    Array UInt8 × Except Stop Bits :=
  if kind = 0 then
    match takePlainCount bits with
    | .error stop => (text, .error stop)
    | .ok (count, bits) => takePlain wanted count text bits
  else if kind = 1 then takePieces .fixed wanted (bits.length + 1) text bits
  else if kind = 2 then
    match takeCodes bits with
    | .error stop => (text, .error stop)
    | .ok (codes, bits) => takePieces codes wanted (bits.length + 1) text bits
  else (text, .error .corrupt)

/-- Behind the last block, from the next whole byte on, comes a check sum of 32 bits. Whether it is
right does not matter. -/
def endStop? (bits : Bits) : Option Stop :=
  if bits.length / 8 < 4 then some .short else none

/-- Takes blocks, at most as many as the fuel, up to the one that says that it is the last, or until
there are so many bytes. -/
def takeBlocks (wanted : Nat) : Nat → Array UInt8 → Bits → Array UInt8 × Option Stop
  | 0, text, _ => (text, some .short)
  | fuel + 1, text, bits =>
    match takeNumber 3 bits with
    | .error stop => (text, some stop)
    | .ok (start, bits) =>
      match takeBlock wanted (start / 2) text bits with
      | (text, .error stop) => (text, some stop)
      | (text, .ok bits) =>
        if start % 2 = 1 then (text, endStop? bits) else takeBlocks wanted fuel text bits

/-- The bytes that come out of compressed ones, at most as many as are wanted, and why there are no
more if they are not whole. In front of the blocks are two bytes that tell how the bytes were
compressed and are a multiple of 31. -/
def inflate (wanted : Nat) (data : List UInt8) : Array UInt8 × Option Stop :=
  match data with
  | first :: second :: blocks =>
    let n := first.toNat * 256 + second.toNat
    if n % 31 = 0 ∧ first.toNat % 16 = 8 ∧ first.toNat < 128 ∧ !second.toNat.testBit 5 then
      takeBlocks wanted (blocks.length + 1) #[] (bitsOf blocks)
    else (#[], some .corrupt)
  | _ => (#[], some .short)

end OnScreen.Inflate
