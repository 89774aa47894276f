import OnScreen.Number.Decimal
import OnScreen.Text.Quoted

/-!
# Faults in JSON texts

A text is read from the left, and the first thing that does not fit ends the reading. It may end too
early, be no JSON text, or hold a value of another kind than the one asked for.

* `Json.Cause`: what is wrong, and its wording.
* `Json.Fault`: a cause, and how much of the text is behind it.
* `Json.LocatedFault`: a cause with its line and column.
-/

namespace OnScreen.Json

/-- A value that was met where another was expected. -/
inductive Found
  | bool (value : Bool)
  | integer (value : Int)
  | real (value : Double)
  | text (value : String)
  | null
  | sequence
  | map
  /-- The bare name of a variant. -/
  | unitVariant

/-- Real numbers are described plainly from a hundred-thousandth up to sixteen digits before the
point. -/
def realStyle : DecimalStyle where
  plainFrom := -5
  plainTo := 15

/-- What was met, in words. -/
def Found.describe : Found → String
  | bool value => "boolean `" ++ (if value then "true" else "false") ++ "`"
  | integer value => "integer `" ++ toString value ++ "`"
  | real value => "floating point `" ++ String.ofList ((realStyle.text? value).getD []) ++ "`"
  | text value => "string " ++ quoted value
  | null => "null"
  | sequence => "sequence"
  | map => "map"
  | unitVariant => "unit variant"

/-- A value that does not fit. -/
inductive Mismatch
  | wrongType (found : Found) (expected : String)
  | wrongValue (found : Found) (expected : String)
  | unknownVariant (name : String) (variants : List String)
  | duplicateField (name : String)

namespace Mismatch

/-- The variants that are known, in words. -/
def oneOf (variants : List String) : String :=
  let names := variants.map fun name => "`" ++ name ++ "`"
  match names with
  | [] => "there are no variants"
  | [a] => "expected " ++ a
  | [a, b] => "expected " ++ a ++ " or " ++ b
  | _ => "expected one of " ++ String.intercalate ", " names

/-- What does not fit, in words. -/
def describe : Mismatch → String
  | wrongType found expected => "invalid type: " ++ found.describe ++ ", expected " ++ expected
  | wrongValue found expected => "invalid value: " ++ found.describe ++ ", expected " ++ expected
  | unknownVariant name variants => "unknown variant `" ++ name ++ "`, " ++ oneOf variants
  | duplicateField name => "duplicate field `" ++ name ++ "`"

end Mismatch

/-- What is wrong with a text. -/
inductive Cause
  | endInList
  | endInObject
  | endInText
  | endInValue
  | colonExpected
  | listCommaOrEndExpected
  | objectCommaOrEndExpected
  | identExpected
  | valueExpected
  | invalidEscape
  | invalidNumber
  | numberOutOfRange
  | controlCharacter
  | keyNotText
  | loneSurrogate
  | surrogateCutShort
  | trailingComma
  | trailingCharacters
  | mismatch (mismatch : Mismatch)

/-- The three ways in which a text can be wrong. -/
inductive FaultKind
  /-- The text ends too early. -/
  | truncated
  /-- The text is no JSON text. -/
  | malformed
  /-- A value is not of the kind asked for. -/
  | mismatched
  deriving DecidableEq

namespace Cause

/-- The way in which the text is wrong. -/
def kind : Cause → FaultKind
  | endInList | endInObject | endInText | endInValue => .truncated
  | mismatch _ => .mismatched
  | _ => .malformed

/-- The wording of a cause. -/
def describe : Cause → String
  | endInList => "EOF while parsing a list"
  | endInObject => "EOF while parsing an object"
  | endInText => "EOF while parsing a string"
  | endInValue => "EOF while parsing a value"
  | colonExpected => "expected `:`"
  | listCommaOrEndExpected => "expected `,` or `]`"
  | objectCommaOrEndExpected => "expected `,` or `\x7d`"
  | identExpected => "expected ident"
  | valueExpected => "expected value"
  | invalidEscape => "invalid escape"
  | invalidNumber => "invalid number"
  | numberOutOfRange => "number out of range"
  | controlCharacter =>
    "control character (\\u0000-\\u001F) found while parsing a string"
  | keyNotText => "key must be a string"
  | loneSurrogate => "lone leading surrogate in hex escape"
  | surrogateCutShort => "unexpected end of hex escape"
  | trailingComma => "trailing comma"
  | trailingCharacters => "trailing characters"
  | mismatch m => m.describe

end Cause

/-- A cause, and the number of bytes of the text that are behind it. -/
structure Fault where
  cause : Cause
  unread : Nat

/-- A cause with its place. The column counts bytes from the start of the line. -/
structure LocatedFault where
  cause : Cause
  line : Nat
  column : Nat

namespace LocatedFault

/-- The wording of a fault and its place. -/
def describe (fault : LocatedFault) : String :=
  fault.cause.describe ++ " at line " ++ toString fault.line ++ " column " ++ toString fault.column

end LocatedFault

/-- The bytes of a piece of text. -/
def byteLength : List Char → Nat
  | [] => 0
  | c :: cs => c.utf8Size + byteLength cs

/-- The line and the column of the place that lies `read` bytes into a text. -/
def placeAfter : Nat → Nat → Nat → List Char → Nat × Nat
  | _, line, column, [] => (line, column)
  | read, line, column, c :: cs =>
    if read = 0 then (line, column)
    else if read < c.utf8Size then (line, column + read)
    else if c = '\n' then placeAfter (read - c.utf8Size) (line + 1) 0 cs
    else placeAfter (read - c.utf8Size) line (column + c.utf8Size) cs

/-- The fault with its place in the text. -/
def Fault.locate (fault : Fault) (text : List Char) : LocatedFault :=
  let place := placeAfter (byteLength text - fault.unread) 1 0 text
  ⟨fault.cause, place.1, place.2⟩

end OnScreen.Json
