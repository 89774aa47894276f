import OnScreen.Json.Fault

/-!
# Scanning JSON texts

A reader takes a value off the front of a text and leaves the rest, or fails. The readers here take
blanks, fixed words, quoted texts and numbers, and step over values that nobody asked for.

* `Json.Reader`: the type of readers; `Json.fail` and `Json.failPeek`: its failures.
* `Json.quotedText`: a text, its escapes replaced by what they stand for.
* `Json.numeral`: a number, which is an integer of 64 bits or a double-precision number.
* `Json.skipValue`: any value; its numbers and escapes are checked for their form only.
-/

namespace OnScreen.Json

/-- Takes something off the front of a text. -/
abbrev Reader (α : Type) := List Char → Except Fault (α × List Char)

/-- Fails behind what was taken. -/
def fail {α : Type} (cause : Cause) (rest : List Char) : Except Fault α :=
  .error ⟨cause, byteLength rest⟩

/-- Fails at the next character, the first byte of which counts as taken. -/
def failPeek {α : Type} (cause : Cause) (rest : List Char) : Except Fault α :=
  .error ⟨cause, byteLength rest - 1⟩

/-- The characters between the parts of a text. -/
def isBlank (c : Char) : Bool :=
  c == ' ' || c == '\n' || c == '\t' || c == '\r'

/-- The text from the first character that is not blank. -/
def skipBlanks (s : List Char) : List Char :=
  s.dropWhile isBlank

/-- A decimal digit. -/
def isDigit (c : Char) : Bool :=
  48 ≤ c.toNat && c.toNat ≤ 57

/-- Takes the characters of a fixed word. -/
def word : List Char → Reader Unit
  | [], s => .ok ((), s)
  | _ :: _, [] => fail .endInValue []
  | expected :: more, c :: s =>
    if c = expected then word more s else failPeek .identExpected (c :: s)

/-- Takes the colon between a name and its value. -/
def colon (s : List Char) : Except Fault (List Char) :=
  match skipBlanks s with
  | [] => failPeek .endInObject []
  | c :: rest => if c = ':' then .ok rest else failPeek .colonExpected (c :: rest)

/-! ## Texts -/

/-- The value of a hexadecimal digit. -/
def hexValue? (c : Char) : Option Nat :=
  let n := c.toNat
  if 48 ≤ n && n ≤ 57 then some (n - 48)
  else if 97 ≤ n && n ≤ 102 then some (n - 87)
  else if 65 ≤ n && n ≤ 70 then some (n - 55)
  else none

/-- Takes the four hexadecimal digits of an escape. -/
def hexEscape (s : List Char) : Except Fault (Nat × List Char) :=
  let bad : Except Fault (Nat × List Char) :=
    if byteLength s < 4 then fail .endInText [] else .error ⟨.invalidEscape, byteLength s - 4⟩
  match s with
  | a :: b :: c :: d :: rest =>
    match hexValue? a, hexValue? b, hexValue? c, hexValue? d with
    | some a, some b, some c, some d => .ok (((a * 16 + b) * 16 + c) * 16 + d, rest)
    | _, _, _, _ => bad
  | _ => bad

/-- The character that a letter after a backslash stands for. -/
def simpleEscape? (c : Char) : Option Char :=
  if c = '\"' then some '\"'
  else if c = '\\' then some '\\'
  else if c = '/' then some '/'
  else if c = 'b' then some '\x08'
  else if c = 'f' then some '\x0c'
  else if c = 'n' then some '\n'
  else if c = 'r' then some '\r'
  else if c = 't' then some '\t'
  else none

/-- Takes the second half of a surrogate pair and gives the character of the pair. -/
def secondSurrogate (high : Nat) (s : List Char) : Except Fault (Char × List Char) :=
  match s with
  | [] => fail .endInText []
  | c :: rest =>
    if c ≠ '\\' then failPeek .surrogateCutShort (c :: rest)
    else
      match rest with
      | [] => fail .endInText []
      | c :: rest =>
        if c ≠ 'u' then failPeek .surrogateCutShort (c :: rest)
        else
          match hexEscape rest with
          | .error e => .error e
          | .ok (low, rest) =>
            if 0xDC00 ≤ low && low ≤ 0xDFFF then
              .ok (Char.ofNat (0x10000 + (high - 0xD800) * 0x400 + (low - 0xDC00)), rest)
            else fail .loneSurrogate rest

/-- Takes what follows a backslash and gives the character it stands for. -/
def escaped (s : List Char) : Except Fault (Char × List Char) :=
  match s with
  | [] => fail .endInText []
  | c :: rest =>
    if c = 'u' then
      match hexEscape rest with
      | .error e => .error e
      | .ok (n, rest) =>
        if 0xDC00 ≤ n && n ≤ 0xDFFF then fail .loneSurrogate rest
        else if 0xD800 ≤ n && n ≤ 0xDBFF then secondSurrogate n rest
        else .ok (Char.ofNat n, rest)
    else
      match simpleEscape? c with
      | some c => .ok (c, rest)
      | none => .error ⟨.invalidEscape, byteLength (c :: rest) - 1⟩

/-- Takes the characters of a text up to its closing quote, at most as many as the fuel. -/
def textChars : Nat → Reader (List Char)
  | 0, _ => fail .endInText []
  | _ + 1, [] => fail .endInText []
  | fuel + 1, c :: s =>
    if c = '\"' then .ok ([], s)
    else if c = '\\' then
      match escaped s with
      | .error e => .error e
      | .ok (c, rest) =>
        match textChars fuel rest with
        | .error e => .error e
        | .ok (cs, rest) => .ok (c :: cs, rest)
    else if c.toNat < 32 then fail .controlCharacter s
    else
      match textChars fuel s with
      | .error e => .error e
      | .ok (cs, rest) => .ok (c :: cs, rest)

/-- Takes a text up to its closing quote; the opening quote has been taken. -/
def quotedText (s : List Char) : Except Fault (String × List Char) :=
  match textChars (s.length + 1) s with
  | .error e => .error e
  | .ok (cs, rest) => .ok (String.ofList cs, rest)

/-! ## Numbers -/

/-- A number that was read. -/
inductive Numeral
  | integer (value : Int)
  | real (value : Double)

/-- Digits, and the text behind them. -/
def spanDigits (s : List Char) : List Nat × List Char :=
  ((s.takeWhile isDigit).map fun c => c.toNat - 48, s.dropWhile isDigit)

/-- The greatest significand. -/
def significandMax : Nat := 18446744073709551615

/-- The greatest exponent. -/
def exponentMax : Nat := 2147483647

/-- Adds digits to a significand as long as it stays in its range, and gives the digits that are
left. -/
def takeDigits : Nat → List Nat → Nat × List Nat
  | n, [] => (n, [])
  | n, d :: ds => if n * 10 + d ≤ significandMax then takeDigits (n * 10 + d) ds else (n, d :: ds)

/-- Divides by the greatest tabulated power of ten, at most as often as the fuel, until the exponent
is one of the tabulated or nothing is left. -/
def scaleDown : Nat → Double → Int → Double × Int
  | 0, x, exponent => (x, exponent)
  | fuel + 1, x, exponent =>
    if exponent < -308 ∧ x ≠ Binary.zero false then
      scaleDown fuel (x / Binary.ofNat (Nat.pow 10 308)) (exponent + 308)
    else (x, exponent)

/-- The double-precision number for a significand and a power of ten, which is computed by one or
more rounded operations; none if it is out of range. Two divisions bring every significand below the
least number. -/
def realOfParts? (significand : Nat) (exponent : Int) : Option Double :=
  let x : Double := Binary.ofNat significand
  if exponent < 0 then
    let (x, exponent) := scaleDown 3 x exponent
    if exponent < -308 then some x else some (x / Binary.ofNat (Nat.pow 10 exponent.natAbs))
  else if 308 < exponent then (if significand = 0 then some x else none)
  else
    let y := x * Binary.ofNat (Nat.pow 10 exponent.toNat)
    if y.isFinite then some y else none

/-- A real number with a sign. -/
def signedReal (negative : Bool) (x : Double) : Numeral :=
  .real (if negative then -x else x)

/-- Ends a real number: gives its value, or fails. -/
def finishReal (negative : Bool) (significand : Nat) (exponent : Int) (rest : List Char) :
    Except Fault (Numeral × List Char) :=
  match realOfParts? significand exponent with
  | some x => .ok (signedReal negative x, rest)
  | none => fail .numberOutOfRange rest

/-- The value of the digits of an exponent, if it is in range; else the number of digits after the
one that leaves the range. -/
def exponentValue : Nat → List Nat → Except Nat Nat
  | n, [] => .ok n
  | n, d :: ds =>
    if n * 10 + d ≤ exponentMax then exponentValue (n * 10 + d) ds else .error ds.length

/-- Takes the exponent of a real number, behind its letter. -/
def exponentPart (negative : Bool) (significand : Nat) (scale : Int) (s : List Char) :
    Except Fault (Numeral × List Char) :=
  let (down, s) :=
    match s with
    | [] => (false, [])
    | c :: rest => if c = '+' then (false, rest) else if c = '-' then (true, rest) else (false, s)
  match s with
  | [] => fail .endInValue []
  | c :: rest =>
    if isDigit c then
      let (digits, rest) := spanDigits (c :: rest)
      match exponentValue 0 digits with
      | .ok n => finishReal negative significand (if down then scale - n else scale + n) rest
      | .error more =>
        if significand ≠ 0 ∧ down = false then .error ⟨.numberOutOfRange, byteLength rest + more⟩
        else .ok (signedReal negative (Binary.zero false), rest)
    else failPeek .invalidNumber (c :: rest)

/-- Takes the rest of a real number behind its digits. -/
def afterDigits (negative : Bool) (significand : Nat) (scale : Int) (s : List Char) :
    Except Fault (Numeral × List Char) :=
  match s with
  | [] => finishReal negative significand scale []
  | c :: rest =>
    if c = 'e' || c = 'E' then exponentPart negative significand scale rest
    else finishReal negative significand scale (c :: rest)

/-- Takes the digits behind a decimal point. Digits that do not fit the significand are ignored. -/
def fractionPart (negative : Bool) (significand : Nat) (scale : Int) (s : List Char) :
    Except Fault (Numeral × List Char) :=
  let (digits, rest) := spanDigits s
  if digits.isEmpty then
    failPeek (if rest.isEmpty then .endInValue else .invalidNumber) rest
  else
    let (n, ignored) := takeDigits significand digits
    afterDigits negative n (scale - (digits.length - ignored.length : Nat)) rest

/-- The number for an integer without fraction and exponent: a signed or unsigned 64-bit integer,
otherwise the nearest real number. Minus zero is a real number. -/
def wholeNumber (negative : Bool) (significand : Nat) : Numeral :=
  if negative then
    if significand = 0 ∨ 9223372036854775808 < significand then
      .real (-(Binary.ofNat significand))
    else .integer (-(significand : Int))
  else .integer significand

/-- Takes a number behind its sign. -/
def numeral (negative : Bool) (s : List Char) : Except Fault (Numeral × List Char) :=
  match s with
  | [] => fail .endInValue []
  | c :: rest =>
    if isDigit c then
      if c = '0' ∧ (rest.head?.any isDigit) then failPeek .invalidNumber rest
      else
        let (digits, rest) := spanDigits (c :: rest)
        let (n, ignored) := takeDigits 0 digits
        match rest with
        | '.' :: rest => fractionPart negative n ignored.length rest
        | [] =>
          if ignored.isEmpty then .ok (wholeNumber negative n, [])
          else finishReal negative n ignored.length []
        | c :: rest =>
          if c = 'e' || c = 'E' then exponentPart negative n ignored.length rest
          else if ignored.isEmpty then .ok (wholeNumber negative n, c :: rest)
          else finishReal negative n ignored.length (c :: rest)
    else failPeek .invalidNumber (c :: rest)

/-! ## Values that nobody asked for -/

/-- Steps over what follows a backslash. -/
def skipEscape (s : List Char) : Except Fault (List Char) :=
  match s with
  | [] => fail .endInText []
  | c :: rest =>
    if c = 'u' then
      match hexEscape rest with
      | .error e => .error e
      | .ok (_, rest) => .ok rest
    else
      match simpleEscape? c with
      | some _ => .ok rest
      | none => .error ⟨.invalidEscape, byteLength (c :: rest) - 1⟩

/-- Steps over a text up to its closing quote, over at most as many characters as the fuel. -/
def skipTextChars : Nat → List Char → Except Fault (List Char)
  | 0, _ => fail .endInText []
  | _ + 1, [] => fail .endInText []
  | fuel + 1, c :: s =>
    if c = '\"' then .ok s
    else if c = '\\' then
      match skipEscape s with
      | .error e => .error e
      | .ok rest => skipTextChars fuel rest
    else if c.toNat < 32 then fail .controlCharacter (c :: s)
    else skipTextChars fuel s

/-- Steps over a text up to its closing quote. -/
def skipText (s : List Char) : Except Fault (List Char) :=
  skipTextChars (s.length + 1) s

/-- Steps over an exponent, behind its letter. -/
def skipExponent (s : List Char) : Except Fault (List Char) :=
  let s :=
    match s with
    | [] => []
    | c :: rest => if c = '+' || c = '-' then rest else s
  match s with
  | [] => fail .invalidNumber []
  | c :: rest =>
    if isDigit c then .ok (rest.dropWhile isDigit) else failPeek .invalidNumber (c :: rest)

/-- Steps over the rest of a number behind its digits. -/
def skipAfterDigits (s : List Char) : Except Fault (List Char) :=
  match s with
  | [] => .ok []
  | c :: rest => if c = 'e' || c = 'E' then skipExponent rest else .ok (c :: rest)

/-- Steps over a number behind its sign. -/
def skipNumber (s : List Char) : Except Fault (List Char) :=
  match s with
  | [] => fail .invalidNumber []
  | c :: rest =>
    if isDigit c then
      if c = '0' ∧ (rest.head?.any isDigit) then failPeek .invalidNumber rest
      else
        match rest.dropWhile isDigit with
        | '.' :: rest =>
          if rest.head?.any isDigit then skipAfterDigits (rest.dropWhile isDigit)
          else failPeek .invalidNumber rest
        | rest => skipAfterDigits rest
    else failPeek .invalidNumber (c :: rest)

mutual

/-- Steps over a value. -/
def skipAny : Nat → List Char → Except Fault (List Char)
  | 0, _ => fail .endInValue []
  | fuel + 1, s =>
    match skipBlanks s with
    | [] => failPeek .endInValue []
    | c :: rest =>
      if c = 'n' then (word ['u', 'l', 'l'] rest).map Prod.snd
      else if c = 't' then (word ['r', 'u', 'e'] rest).map Prod.snd
      else if c = 'f' then (word ['a', 'l', 's', 'e'] rest).map Prod.snd
      else if c = '-' then skipNumber rest
      else if isDigit c then skipNumber (c :: rest)
      else if c = '\"' then skipText rest
      else if c = '[' then skipItems fuel true rest
      else if c = '\x7b' then skipMembers fuel true rest
      else failPeek .valueExpected (c :: rest)

/-- Steps over the items of an array, from the first or from behind one. -/
def skipItems : Nat → Bool → List Char → Except Fault (List Char)
  | 0, _, _ => fail .endInList []
  | fuel + 1, first, s =>
    match skipBlanks s with
    | [] => failPeek .endInList []
    | c :: rest =>
      if c = ']' then .ok rest
      else if first then
        match skipAny fuel (c :: rest) with
        | .error e => .error e
        | .ok rest => skipItems fuel false rest
      else if c = ',' then
        match skipAny fuel rest with
        | .error e => .error e
        | .ok rest => skipItems fuel false rest
      else failPeek .listCommaOrEndExpected (c :: rest)

/-- Steps over the members of an object, from the first or from behind one. -/
def skipMembers : Nat → Bool → List Char → Except Fault (List Char)
  | 0, _, _ => fail .endInObject []
  | fuel + 1, first, s =>
    match skipBlanks s with
    | [] => failPeek .endInObject []
    | c :: rest =>
      if c = '\x7d' then .ok rest
      else if first then
        match skipMember fuel (c :: rest) with
        | .error e => .error e
        | .ok rest => skipMembers fuel false rest
      else if c = ',' then
        match skipMember fuel rest with
        | .error e => .error e
        | .ok rest => skipMembers fuel false rest
      else failPeek .objectCommaOrEndExpected (c :: rest)

/-- Steps over a name and its value. -/
def skipMember : Nat → List Char → Except Fault (List Char)
  | 0, _ => fail .endInObject []
  | fuel + 1, s =>
    match skipBlanks s with
    | [] => failPeek .endInObject []
    | c :: rest =>
      if c = '\"' then
        match skipText rest with
        | .error e => .error e
        | .ok rest =>
          match colon rest with
          | .error e => .error e
          | .ok rest => skipAny fuel rest
      else failPeek .keyNotText (c :: rest)

end

/-- Steps over a value of any kind. The fuel is more than any text of this length can use. -/
def skipValue (s : List Char) : Except Fault (List Char) :=
  skipAny (3 * s.length + 3) s

end OnScreen.Json
