import OnScreen.Number.Decimal

/-!
# Writing JSON

A JSON value is written on one line without blanks, or with every member and item on a line of its
own, indented by two spaces for each level.

* `Json.compact`, `Json.pretty`: the two ways of writing.
* `Json.escape`: quotes, backslashes and controls in a text are escaped; all else stands as it is.
* `Json.ofBinary`: a number is written with its shortest digits; what has none is written `null`.
-/

namespace OnScreen

/-- A JSON value. Members keep their order, and a number is what is written for it. -/
inductive Json
  | null
  | bool (value : Bool)
  | number (literal : List Char)
  | text (value : String)
  | array (items : List Json)
  | object (members : List (String × Json))

namespace Json

/-! ## Numbers and texts -/

/-- Numbers are written plainly from a millionth up to thirteen digits before the point. -/
def singleStyle : DecimalStyle where
  plainFrom := -6
  plainTo := 12

/-- The value for a binary number. -/
def ofBinary {F : BinaryFormat} (x : Binary F) : Json :=
  match singleStyle.text? x with
  | some literal => .number literal
  | none => .null

/-- The value for a natural number. -/
def ofNat (n : Nat) : Json :=
  .number (digitsOf n)

/-- A hexadecimal digit, in lower case. -/
def hexDigit (n : Nat) : Char :=
  if n < 10 then Char.ofNat (48 + n) else Char.ofNat (87 + n)

/-- A character inside a written text. -/
def escape (c : Char) : List Char :=
  if c = '\"' then ['\\', '\"']
  else if c = '\\' then ['\\', '\\']
  else if c = '\n' then ['\\', 'n']
  else if c = '\r' then ['\\', 'r']
  else if c = '\t' then ['\\', 't']
  else if c = '\x08' then ['\\', 'b']
  else if c = '\x0c' then ['\\', 'f']
  else if c.toNat < 32 then
    ['\\', 'u', '0', '0', hexDigit (c.toNat / 16), hexDigit (c.toNat % 16)]
  else [c]

/-- A text in quotes. -/
def quote (s : String) : List Char :=
  '\"' :: (s.toList.flatMap escape ++ ['\"'])

/-- A truth value. -/
def truth (b : Bool) : List Char :=
  if b then ['t', 'r', 'u', 'e'] else ['f', 'a', 'l', 's', 'e']

/-! ## On one line -/

mutual

/-- A value on one line. -/
def compactChars : Json → List Char
  | .null => ['n', 'u', 'l', 'l']
  | .bool b => truth b
  | .number literal => literal
  | .text s => quote s
  | .array [] => ['[', ']']
  | .array (item :: items) => '[' :: (compactChars item ++ compactItems items)
  | .object [] => ['\x7b', '\x7d']
  | .object ((name, value) :: members) =>
    '\x7b' :: (quote name ++ ':' :: (compactChars value ++ compactMembers members))

/-- The items after the first, and the end of the array. -/
def compactItems : List Json → List Char
  | [] => [']']
  | item :: items => ',' :: (compactChars item ++ compactItems items)

/-- The members after the first, and the end of the object. -/
def compactMembers : List (String × Json) → List Char
  | [] => ['\x7d']
  | (name, value) :: members =>
    ',' :: (quote name ++ ':' :: (compactChars value ++ compactMembers members))

end

/-- The text of a value on one line. -/
def compact (j : Json) : String :=
  String.ofList j.compactChars

/-! ## On several lines -/

/-- The end of a line and the indentation of the next. -/
def newLine (depth : Nat) : List Char :=
  '\n' :: List.replicate (2 * depth) ' '

mutual

/-- A value at a depth of nesting. Empty arrays and objects stay on one line. -/
def prettyChars (depth : Nat) : Json → List Char
  | .null => ['n', 'u', 'l', 'l']
  | .bool b => truth b
  | .number literal => literal
  | .text s => quote s
  | .array [] => ['[', ']']
  | .array (item :: items) =>
    '[' :: (newLine (depth + 1) ++ prettyChars (depth + 1) item ++ prettyItems depth items)
  | .object [] => ['\x7b', '\x7d']
  | .object ((name, value) :: members) =>
    '\x7b' :: (newLine (depth + 1) ++ quote name ++ ':' :: ' ' ::
      (prettyChars (depth + 1) value ++ prettyMembers depth members))

/-- The items after the first, and the end of the array. -/
def prettyItems (depth : Nat) : List Json → List Char
  | [] => newLine depth ++ [']']
  | item :: items =>
    ',' :: (newLine (depth + 1) ++ prettyChars (depth + 1) item ++ prettyItems depth items)

/-- The members after the first, and the end of the object. -/
def prettyMembers (depth : Nat) : List (String × Json) → List Char
  | [] => newLine depth ++ ['\x7d']
  | (name, value) :: members =>
    ',' :: (newLine (depth + 1) ++ quote name ++ ':' :: ' ' ::
      (prettyChars (depth + 1) value ++ prettyMembers depth members))

end

/-- The text of a value on several lines. -/
def pretty (j : Json) : String :=
  String.ofList (j.prettyChars 0)

end Json

end OnScreen
