import OnScreen.Number.Decimal

/-!
# Numbers as they are typed

A number is a string of decimal digits with an optional sign. A number of a binary format may also
have a fraction and an exponent, or be a word; it is rounded once, from its exact decimal value.

* `naturalOf?`, `integerOf?`: whole numbers.
* `decimalOf?`: digits with a fraction and an exponent.
* `Binary.ofDecimal`: the number of a format nearest to a decimal number.
* `Binary.ofText?`: a number of a format.
-/

namespace OnScreen

/-! ## Whole numbers -/

/-- The number with the given decimal digits; none if there is no digit, or anything else. -/
def naturalOfDigits? (digits : List Char) : Option Nat :=
  if digits.isEmpty || !digits.all Char.isDigit then none
  else some (digits.foldl (fun n c => n * 10 + (c.toNat - 48)) 0)

/-- Takes an optional sign, and tells whether it is a minus. -/
def takeSign (s : List Char) : Bool × List Char :=
  match s with
  | [] => (false, [])
  | c :: rest => if c = '-' then (true, rest) else if c = '+' then (false, rest) else (false, s)

/-- A natural number, which a plus sign may precede. -/
def naturalOf? (s : List Char) : Option Nat :=
  naturalOfDigits? (if s.head? = some '+' then s.drop 1 else s)

/-- An integer, which a sign may precede. -/
def integerOf? (s : List Char) : Option Int :=
  let (negative, digits) := takeSign s
  (naturalOfDigits? digits).map fun n => if negative then -(n : Int) else n

/-! ## Decimal numbers -/

/-- Takes the digits behind a decimal point, if there is one. -/
def takeFraction (s : List Char) : List Char × List Char :=
  match s with
  | [] => ([], [])
  | c :: rest =>
    if c = '.' then (rest.takeWhile Char.isDigit, rest.dropWhile Char.isDigit) else ([], s)

/-- An exponent behind its letter, or nothing at all, which stands for zero. -/
def exponentOf? (s : List Char) : Option Int :=
  match s with
  | [] => some 0
  | c :: rest => if c = 'e' ∨ c = 'E' then integerOf? rest else none

/-- A decimal number: digits with an optional point before, among or behind them, and an optional
exponent. -/
def decimalOf? (s : List Char) : Option Decimal :=
  let whole := s.takeWhile Char.isDigit
  let (fraction, rest) := takeFraction (s.dropWhile Char.isDigit)
  match naturalOfDigits? (whole ++ fraction), exponentOf? rest with
  | some significand, some exponent => some ⟨significand, exponent - (fraction.length : Int)⟩
  | _, _ => none

namespace Binary

variable {F : BinaryFormat}

/-- The number nearest to a decimal number, with the given sign. A number below half of the least
positive one is zero and a number from the next power of two on is infinite, so that no great power
of ten is computed for them. -/
def ofDecimal (negative : Bool) (d : Decimal) : Binary F :=
  if d.significand = 0 ∨ d.leading + 1 < F.minExp then zero negative
  else if F.maxExp + (F.precision : Int) ≤ d.leading then .infinite negative
  else round negative d.toRat

/-- The words for an infinity and for what is not a number, in either case. -/
def ofWord? (negative : Bool) (s : List Char) : Option (Binary F) :=
  let s := s.map Char.toLower
  if s = ['i', 'n', 'f'] ∨ s = ['i', 'n', 'f', 'i', 'n', 'i', 't', 'y'] then
    some (.infinite negative)
  else if s = ['n', 'a', 'n'] then some .nan
  else none

/-- A number of the format, which a sign may precede. -/
def ofText? (s : List Char) : Option (Binary F) :=
  let (negative, s) := takeSign s
  match decimalOf? s with
  | some d => some (ofDecimal negative d)
  | none => ofWord? negative s

end Binary

end OnScreen
