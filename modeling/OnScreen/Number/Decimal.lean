import OnScreen.Number.Binary

/-!
# Decimal texts of binary numbers

A decimal number is a natural number times a power of ten. A binary number is written either with
the fewest significant digits that read back as the same number (`Binary.shortest`), or with a fixed
number of places (`Binary.fixed`).

* `Decimal.reads`: a decimal number stands for a binary one when it rounds to it.
* `Binary.shortest`: the shortest decimal that reads back; of two, the nearer to the exact value.
* `DecimalStyle.text`: where plain notation ends and scientific notation begins.
-/

namespace OnScreen

/-- The decimal number `significand * 10 ^ scale`. -/
structure Decimal where
  significand : Nat
  scale : Int
  deriving DecidableEq, Repr

/-- The decimal digits of a natural number, most significant first. -/
def digitsOf (n : Nat) : List Char :=
  Nat.toDigits 10 n

namespace Decimal

/-- The exact value. -/
def toRat (d : Decimal) : Rat :=
  mkRat d.significand 1 * ratPower 10 d.scale

/-- The exponent of the leading digit. -/
def leading (d : Decimal) : Int :=
  d.scale + (digitsOf d.significand).length - 1

/-- The significant digits, without trailing zeros. -/
def digits (d : Decimal) : List Char :=
  ((digitsOf d.significand).reverse.dropWhile (· == '0')).reverse

end Decimal

/-- The exponent of the greatest power of ten that does not exceed a positive `x`. -/
def floorLog10 (x : Rat) : Int :=
  let k : Int := ((digitsOf x.num.natAbs).length : Int) - ((digitsOf x.den).length : Int)
  if x.blt (ratPower 10 k) then k - 1 else k

namespace Binary

variable {F : BinaryFormat}

/-- The magnitude `x` rounds to the finite number `m * 2 ^ e`. -/
def readsBack (F : BinaryFormat) (m : Nat) (e : Int) (d : Decimal) : Bool :=
  match (round false d.toRat : Binary F) with
  | .finite _ m' e' _ => m == m' && e == e'
  | _ => false

/-- Of the decimals with `places` significant digits that enclose `x`, the one that reads back as
`m * 2 ^ e`; of two that do, the nearer to `x`, and at a tie the even one. -/
def nearestWith (F : BinaryFormat) (m : Nat) (e : Int) (x : Rat) (places : Nat) : Option Decimal :=
  let scale := floorLog10 x + 1 - (places : Int)
  let steps := x * ratPower 10 (-scale)
  let below : Decimal := ⟨steps.floor.toNat, scale⟩
  let above : Decimal := ⟨steps.floor.toNat + 1, scale⟩
  match readsBack F m e below, readsBack F m e above with
  | true, true => some ⟨(roundHalfEven steps).toNat, scale⟩
  | true, false => some below
  | false, true => some above
  | false, false => none

/-- The decimal with the fewest significant digits that reads back as `m * 2 ^ e`. Seventeen digits
are enough for every format up to double precision. -/
def shortest (F : BinaryFormat) (m : Nat) (e : Int) : Decimal :=
  if m = 0 then ⟨0, 0⟩
  else
    let x := mkRat m 1 * ratPower 2 e
    let found := (List.range 17).findSome? fun n => nearestWith F m e x (n + 1)
    found.getD ⟨(roundHalfEven x).toNat, 0⟩

end Binary

/-! ## Notations -/

/-- How a number is written with its shortest digits: the exponents of the leading digit for which
it is written plainly. Other exponents use scientific form with a signed exponent. -/
structure DecimalStyle where
  plainFrom : Int
  plainTo : Int

namespace DecimalStyle

/-- Digits with the decimal point after the place of weight one, and `.0` for a whole number. -/
def plain (digits : List Char) (leading : Int) : List Char :=
  if leading < 0 then
    '0' :: '.' :: (List.replicate (-leading - 1).toNat '0' ++ digits)
  else
    let whole := leading.toNat + 1
    if digits.length ≤ whole then
      digits ++ List.replicate (whole - digits.length) '0' ++ ['.', '0']
    else digits.take whole ++ '.' :: digits.drop whole

/-- One digit before the point, the others behind it, and the exponent with its sign. -/
def scientific (digits : List Char) (leading : Int) : List Char :=
  let mantissa :=
    match digits with
    | [] => []
    | [d] => [d]
    | d :: ds => d :: '.' :: ds
  mantissa ++ 'e' :: (if leading < 0 then '-' else '+') :: digitsOf leading.natAbs

/-- A nonnegative decimal number in this style. -/
def magnitude (style : DecimalStyle) (d : Decimal) : List Char :=
  if d.significand = 0 then ['0', '.', '0']
  else if style.plainFrom ≤ d.leading ∧ d.leading ≤ style.plainTo then plain d.digits d.leading
  else scientific d.digits d.leading

/-- A number with its shortest digits; nothing for an infinity and for what is not a number. -/
def text? {F : BinaryFormat} (style : DecimalStyle) : Binary F → Option (List Char)
  | .finite s m e _ =>
    let t := style.magnitude (Binary.shortest F m e)
    some (if s then '-' :: t else t)
  | _ => none

end DecimalStyle

/-- A number with a fixed number of decimal places, the exact value rounded to the nearest and at a
tie to the even last digit. -/
def Binary.fixed {F : BinaryFormat} (places : Nat) : Binary F → List Char
  | .nan => ['N', 'a', 'N']
  | .infinite s => if s then ['-', 'i', 'n', 'f'] else ['i', 'n', 'f']
  | x@(.finite s _ _ _) =>
    let scaled := roundHalfEven (ratMagnitude x.toRat * ratPower 10 places)
    let digits := digitsOf scaled.toNat
    let padded := List.replicate (places + 1 - digits.length) '0' ++ digits
    let whole := padded.take (padded.length - places)
    let fraction := padded.drop (padded.length - places)
    let t := if places = 0 then whole else whole ++ '.' :: fraction
    if s then '-' :: t else t

end OnScreen
