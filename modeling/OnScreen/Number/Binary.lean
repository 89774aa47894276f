/-!
# Binary floating-point numbers

A number of a binary format is not a number, an infinity, or `± m * 2 ^ e` in canonical form, so
equal values of one sign are equal terms. Every operation computes the exact rational result and
rounds it once, to the nearest number of the format and to the even significand at a tie
(`Binary.round`); a result too large for the format becomes an infinity.

* `BinaryFormat.single`, `BinaryFormat.double`: the 32-bit and the 64-bit interchange formats.
* `Binary.toRat`: the exact value of a finite number.
* `Binary.round`: the only place where a rational number becomes a number of the format.
* `Binary.add`, `sub`, `mul`, `div`, `larger`, `clamp`, `ofInt`, `convert`: the arithmetic.
-/

namespace OnScreen

/-! ## Exact powers and rounding to an integer -/

/-- The rational number `base ^ e`, for an exponent of either sign. -/
def ratPower (base : Nat) : Int → Rat
  | .ofNat n => mkRat (Nat.pow base n) 1
  | .negSucc n => mkRat 1 (Nat.pow base (n + 1))

/-- The integer nearest to `x`; of two equally near, the even one. -/
def roundHalfEven (x : Rat) : Int :=
  let below := x.num / x.den
  let rest := x.num % x.den
  if 2 * rest < x.den then below
  else if (x.den : Int) < 2 * rest then below + 1
  else if below % 2 = 0 then below
  else below + 1

/-- The exponent of the greatest power of two that does not exceed a positive `x`. -/
def floorLog2 (x : Rat) : Int :=
  let k : Int := (Nat.log2 x.num.natAbs : Int) - (Nat.log2 x.den : Int)
  if x.blt (ratPower 2 k) then k - 1 else k

/-- The absolute value. -/
def ratMagnitude (x : Rat) : Rat :=
  if x.num < 0 then -x else x

/-! ## Formats -/

/-- A binary format: its finite numbers are `± m * 2 ^ e` with `m < 2 ^ precision` and
`minExp ≤ e ≤ maxExp`. -/
structure BinaryFormat where
  precision : Nat
  minExp : Int
  maxExp : Int
  minExp_le_maxExp : minExp ≤ maxExp := by decide

namespace BinaryFormat

/-- Single precision: 24 significant bits, 32 bits in all. -/
def single : BinaryFormat where
  precision := 24
  minExp := -149
  maxExp := 104

/-- Double precision: 53 significant bits, 64 bits in all. -/
def double : BinaryFormat where
  precision := 53
  minExp := -1074
  maxExp := 971

/-- `m * 2 ^ e` is written in the one canonical way: with a full significand, or at the least
exponent. -/
def Canonical (F : BinaryFormat) (m : Nat) (e : Int) : Prop :=
  m < Nat.pow 2 F.precision ∧ F.minExp ≤ e ∧ e ≤ F.maxExp ∧
    (e = F.minExp ∨ Nat.pow 2 (F.precision - 1) ≤ m)

instance (F : BinaryFormat) (m : Nat) (e : Int) : Decidable (F.Canonical m e) :=
  inferInstanceAs (Decidable (_ ∧ _ ∧ _ ∧ (_ ∨ _)))

theorem canonical_zero (F : BinaryFormat) : F.Canonical 0 F.minExp :=
  ⟨Nat.pow_pos (by decide), Int.le_refl _, F.minExp_le_maxExp, Or.inl rfl⟩

/-- The exponent of the last place kept when the nonnegative number `x` is rounded: the one that
leaves a full significand, but never one below the least. -/
def lastPlace (F : BinaryFormat) (x : Rat) : Int :=
  if x.num = 0 then F.minExp
  else
    let e := floorLog2 x + 1 - (F.precision : Int)
    if e < F.minExp then F.minExp else e

end BinaryFormat

/-! ## Numbers -/

/-- A number of the format `F`. There is one value that is not a number. -/
inductive Binary (F : BinaryFormat)
  | nan
  | infinite (negative : Bool)
  | finite (negative : Bool) (m : Nat) (e : Int) (canonical : F.Canonical m e)
  deriving DecidableEq

/-- Single-precision numbers: coordinates, sizes, scales and opacities. -/
abbrev Single := Binary BinaryFormat.single

/-- Double-precision numbers, through which written numbers are read. -/
abbrev Double := Binary BinaryFormat.double

namespace Binary

variable {F G : BinaryFormat}

/-- Zero with a sign. -/
def zero (negative : Bool) : Binary F :=
  .finite negative 0 F.minExp F.canonical_zero

instance : Inhabited (Binary F) := ⟨zero false⟩

/-- The number `± m * 2 ^ e` if the format has it, else the infinity of that sign. -/
def pack (negative : Bool) (m : Nat) (e : Int) : Binary F :=
  if h : F.Canonical m e then .finite negative m e h else .infinite negative

/-- The number nearest to the nonnegative `x`, with the given sign; at a tie the one with an even
significand. -/
def round (negative : Bool) (x : Rat) : Binary F :=
  let e := F.lastPlace x
  let m := (roundHalfEven (x * ratPower 2 (-e))).toNat
  if m = Nat.pow 2 F.precision then pack negative (Nat.pow 2 (F.precision - 1)) (e + 1)
  else pack negative m e

/-- The exact value of a finite number; zero for the others. -/
def toRat : Binary F → Rat
  | .finite negative m e _ =>
    let x := mkRat m 1 * ratPower 2 e
    if negative then -x else x
  | _ => mkRat 0 1

/-- A finite number, as opposed to an infinity or what is not a number. -/
def isFinite : Binary F → Bool
  | .finite .. => true
  | _ => false

/-- The number nearest to `x`. -/
def ofRat (x : Rat) : Binary F :=
  round (decide (x.num < 0)) (ratMagnitude x)

/-- The number nearest to an integer. -/
def ofInt (n : Int) : Binary F :=
  ofRat (mkRat n 1)

/-- The number nearest to a natural number. -/
def ofNat (n : Nat) : Binary F :=
  ofInt n

/-- The same number in another format, rounded if need be. -/
def convert : Binary F → Binary G
  | .nan => .nan
  | .infinite s => .infinite s
  | x@(.finite s _ _ _) => round s (ratMagnitude x.toRat)

/-! ## Arithmetic -/

/-- The opposite number. -/
def neg : Binary F → Binary F
  | .nan => .nan
  | .infinite s => .infinite (!s)
  | .finite s m e h => .finite (!s) m e h

/-- The rounded sum. An exact zero is positive unless both operands are negative. -/
def add : Binary F → Binary F → Binary F
  | .nan, _ => .nan
  | _, .nan => .nan
  | .infinite s, .infinite t => if s = t then .infinite s else .nan
  | .infinite s, .finite .. => .infinite s
  | .finite .., .infinite t => .infinite t
  | x@(.finite s _ _ _), y@(.finite t _ _ _) =>
    let z := x.toRat + y.toRat
    round (if z.num = 0 then s && t else decide (z.num < 0)) (ratMagnitude z)

/-- The rounded difference. -/
def sub (x y : Binary F) : Binary F :=
  add x (neg y)

/-- The rounded product. Zero times an infinity is not a number. -/
def mul : Binary F → Binary F → Binary F
  | .nan, _ => .nan
  | _, .nan => .nan
  | .infinite s, .infinite t => .infinite (s != t)
  | .infinite s, .finite t m _ _ => if m = 0 then .nan else .infinite (s != t)
  | .finite s m _ _, .infinite t => if m = 0 then .nan else .infinite (s != t)
  | x@(.finite s _ _ _), y@(.finite t _ _ _) =>
    round (s != t) (ratMagnitude (x.toRat * y.toRat))

/-- The rounded quotient. A nonzero number over zero is an infinity, zero over zero is not a
number. -/
def div : Binary F → Binary F → Binary F
  | .nan, _ => .nan
  | _, .nan => .nan
  | .infinite _, .infinite _ => .nan
  | .infinite s, .finite t _ _ _ => .infinite (s != t)
  | .finite s _ _ _, .infinite t => zero (s != t)
  | x@(.finite s m _ _), y@(.finite t n _ _) =>
    if n = 0 then (if m = 0 then .nan else .infinite (s != t))
    else round (s != t) (ratMagnitude (x.toRat / y.toRat))

instance : Add (Binary F) := ⟨add⟩
instance : Sub (Binary F) := ⟨sub⟩
instance : Mul (Binary F) := ⟨mul⟩
instance : Div (Binary F) := ⟨div⟩
instance : Neg (Binary F) := ⟨neg⟩
instance : IntCast (Binary F) := ⟨ofInt⟩

/-! ## Order -/

/-- The order of the values. Nothing is before or after what is not a number, and the two zeros are
equal. -/
def less : Binary F → Binary F → Bool
  | .nan, _ => false
  | _, .nan => false
  | .infinite s, .infinite t => s && !t
  | .infinite s, .finite .. => s
  | .finite .., .infinite t => !t
  | x@(.finite ..), y@(.finite ..) => x.toRat.blt y.toRat

/-- The larger of two numbers, the second if they are equal, as the two zeros are. An operand that
is not a number loses to one that is. -/
def larger (x y : Binary F) : Binary F :=
  match x, y with
  | .nan, y => y
  | x, .nan => x
  | x, y => if less y x then x else y

/-- The number of the interval from `low` to `high` that is nearest to `x`. -/
def clamp (low high x : Binary F) : Binary F :=
  let y := if less x low then low else x
  if less high y then high else y

end Binary

end OnScreen
