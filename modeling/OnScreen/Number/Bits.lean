import OnScreen.Number.Binary

/-!
# Interchange encoding of binary numbers

A number of a binary format is stored as a natural number: a sign bit, then an exponent field, then
the significand without its leading bit. Below the sign, the encodings of the finite numbers of one
sign count up from zero in the order of their values, and the infinity follows the largest.

* `Binary.toBits`: the encoding; what is not a number has one encoding, the quiet one.
* `Binary.ofBits`: the number that an encoding stands for.
-/

namespace OnScreen

namespace BinaryFormat

/-- How many numbers of one sign share an exponent field. -/
def binade (F : BinaryFormat) : Nat :=
  Nat.pow 2 (F.precision - 1)

/-- The encoding of positive infinity. -/
def infinityBits (F : BinaryFormat) : Nat :=
  ((F.maxExp - F.minExp).toNat + 2) * F.binade

/-- The weight of the sign bit. -/
def signBit (F : BinaryFormat) : Nat :=
  ((F.maxExp - F.minExp).toNat + 3) * F.binade

end BinaryFormat

namespace Binary

variable {F : BinaryFormat}

/-- The encoding of a number. -/
def toBits : Binary F → Nat
  | .nan => F.infinityBits + F.binade / 2
  | .infinite s => (if s then F.signBit else 0) + F.infinityBits
  | .finite s m e _ => (if s then F.signBit else 0) + ((e - F.minExp).toNat * F.binade + m)

/-- The number with a given encoding; the bits above the sign bit are ignored. -/
def ofBits (F : BinaryFormat) (bits : Nat) : Binary F :=
  let s := bits / F.signBit % 2 = 1
  let magnitude := bits % F.signBit
  let field := magnitude / F.binade
  let rest := magnitude % F.binade
  if field = 0 then pack s rest F.minExp
  else if field < (F.maxExp - F.minExp).toNat + 2 then
    pack s (rest + F.binade) (F.minExp + (field - 1 : Nat))
  else if rest = 0 then .infinite s
  else .nan

end Binary

end OnScreen
