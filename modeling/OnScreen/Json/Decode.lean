import OnScreen.Json.Scanner

/-!
# Decoding JSON texts

Values of known types are read straight off a text. A record is an object whose members come in any
order, or an array of the members' values in the record's order; members that are left out keep
their defaults, and members that the record does not have are stepped over. A variant is its bare
name, or an object with the name as its only member.

* `Json.truthValue`, `singleValue`, `wordValue`, `textValue`: the readers of single values.
* `Json.record`, `Json.variant`, `Json.listOf`: the readers of compound values.
* `Json.decode`: reads a whole text.
-/

namespace OnScreen.Json

/-! ## Values of the wrong kind -/

/-- Describes the value that a text begins with. Numbers and texts are read for that; of arrays and
objects the bracket is enough. -/
def foundAt (s : List Char) : Except Fault (Found × List Char) :=
  match s with
  | [] => failPeek .valueExpected []
  | c :: rest =>
    if c = 'n' then (word ['u', 'l', 'l'] rest).map fun r => (.null, r.2)
    else if c = 't' then (word ['r', 'u', 'e'] rest).map fun r => (.bool true, r.2)
    else if c = 'f' then (word ['a', 'l', 's', 'e'] rest).map fun r => (.bool false, r.2)
    else if c = '-' ∨ isDigit c then
      match numeral (c = '-') (if c = '-' then rest else c :: rest) with
      | .error e => .error e
      | .ok (.integer n, rest) => .ok (.integer n, rest)
      | .ok (.real x, rest) => .ok (.real x, rest)
    else if c = '\"' then (quotedText rest).map fun r => (.text r.1, r.2)
    else if c = '[' then .ok (.sequence, c :: rest)
    else if c = '\x7b' then .ok (.map, c :: rest)
    else failPeek .valueExpected (c :: rest)

/-- Fails because a text does not begin with the expected kind of value. -/
def wrongType {α : Type} (expected : String) (s : List Char) : Except Fault α :=
  match foundAt s with
  | .error e => .error e
  | .ok (found, rest) => fail (.mismatch (.wrongType found expected)) rest

/-- Steps over blanks in front of a value. The text must not end there. -/
def valueStart (s : List Char) : Except Fault (Char × List Char) :=
  match skipBlanks s with
  | [] => failPeek .endInValue []
  | c :: rest => .ok (c, rest)

/-! ## Single values -/

/-- Reads a truth value. -/
def truthValue (s : List Char) : Except Fault (Bool × List Char) :=
  match valueStart s with
  | .error e => .error e
  | .ok (c, rest) =>
    if c = 't' then (word ['r', 'u', 'e'] rest).map fun r => (true, r.2)
    else if c = 'f' then (word ['a', 'l', 's', 'e'] rest).map fun r => (false, r.2)
    else wrongType "a boolean" (c :: rest)

/-- Reads `null`. -/
def nullValue (s : List Char) : Except Fault (Unit × List Char) :=
  match valueStart s with
  | .error e => .error e
  | .ok (c, rest) =>
    if c = 'n' then word ['u', 'l', 'l'] rest else wrongType "unit" (c :: rest)

/-- Reads a number. -/
def anyNumber (expected : String) (s : List Char) : Except Fault (Numeral × List Char) :=
  match valueStart s with
  | .error e => .error e
  | .ok (c, rest) =>
    if c = '-' then numeral true rest
    else if isDigit c then numeral false (c :: rest)
    else wrongType expected (c :: rest)

/-- Reads a single-precision number. Integers are rounded once, real numbers twice: to double
precision first. -/
def singleValue (s : List Char) : Except Fault (Single × List Char) :=
  match anyNumber "f32" s with
  | .error e => .error e
  | .ok (.integer n, rest) => .ok (Binary.ofInt n, rest)
  | .ok (.real x, rest) => .ok (x.convert, rest)

/-- Reads an unsigned 32-bit integer. -/
def wordValue (s : List Char) : Except Fault (UInt32 × List Char) :=
  match anyNumber "u32" s with
  | .error e => .error e
  | .ok (.integer n, rest) =>
    if 0 ≤ n ∧ n < 4294967296 then .ok (UInt32.ofNat n.toNat, rest)
    else fail (.mismatch (.wrongValue (.integer n) "u32")) rest
  | .ok (.real x, rest) => fail (.mismatch (.wrongType (.real x) "u32")) rest

/-- Reads a text. -/
def textValue (s : List Char) : Except Fault (String × List Char) :=
  match valueStart s with
  | .error e => .error e
  | .ok (c, rest) =>
    if c = '\"' then quotedText rest else wrongType "a string" (c :: rest)

/-! ## Arrays -/

/-- The next item of an array, from the first or from behind one: nothing at the end of the array,
which is not taken. -/
def nextItem (first : Bool) (s : List Char) : Except Fault (Option (List Char)) :=
  match skipBlanks s with
  | [] => failPeek .endInList []
  | c :: rest =>
    if c = ']' then .ok none
    else if first then .ok (some (c :: rest))
    else if c = ',' then
      match skipBlanks rest with
      | [] => failPeek .endInValue []
      | d :: rest =>
        if d = ']' then failPeek .trailingComma (d :: rest) else .ok (some (d :: rest))
    else failPeek .listCommaOrEndExpected (c :: rest)

/-- Takes the end of an array. -/
def arrayEnd (s : List Char) : Except Fault (List Char) :=
  match skipBlanks s with
  | [] => failPeek .endInList []
  | c :: rest =>
    if c = ']' then .ok rest
    else if c = ',' then
      match skipBlanks rest with
      | ']' :: rest => failPeek .trailingComma (']' :: rest)
      | rest => failPeek .trailingCharacters rest
    else failPeek .trailingCharacters (c :: rest)

/-- Reads items up to the end of the array, at most as many as the fuel. -/
def items {α : Type} (item : Reader α) : Nat → Bool → Reader (List α)
  | 0, _, _ => fail .endInList []
  | fuel + 1, first, s =>
    match nextItem first s with
    | .error e => .error e
    | .ok none => .ok ([], s)
    | .ok (some s) =>
      match item s with
      | .error e => .error e
      | .ok (x, s) =>
        match items item fuel false s with
        | .error e => .error e
        | .ok (xs, s) => .ok (x :: xs, s)

/-- Reads an array of items of one kind. -/
def listOf {α : Type} (item : Reader α) (s : List Char) : Except Fault (List α × List Char) :=
  match valueStart s with
  | .error e => .error e
  | .ok (c, rest) =>
    if c = '[' then
      match items item (rest.length + 1) true rest with
      | .error e => .error e
      | .ok (xs, rest) => (arrayEnd rest).map fun rest => (xs, rest)
    else wrongType "a sequence" (c :: rest)

/-! ## Records -/

/-- A field of a record: its name, and how its value is read and put into the record. -/
structure Field (α : Type) where
  name : String
  read : α → Reader α

/-- The next name of an object, from the first member or from behind one: nothing at the end of the
object, which is not taken; otherwise the text behind the opening quote. -/
def nextName (first : Bool) (s : List Char) : Except Fault (Option (List Char)) :=
  match skipBlanks s with
  | [] => failPeek .endInObject []
  | c :: rest =>
    if c = '\x7d' then .ok none
    else if first then
      if c = '\"' then .ok (some rest) else failPeek .keyNotText (c :: rest)
    else if c = ',' then
      match skipBlanks rest with
      | [] => failPeek .endInValue []
      | d :: rest =>
        if d = '\"' then .ok (some rest)
        else if d = '\x7d' then failPeek .trailingComma (d :: rest)
        else failPeek .keyNotText (d :: rest)
    else failPeek .objectCommaOrEndExpected (c :: rest)

/-- Takes the end of an object. -/
def objectEnd (s : List Char) : Except Fault (List Char) :=
  match skipBlanks s with
  | [] => failPeek .endInObject []
  | c :: rest =>
    if c = '\x7d' then .ok rest
    else if c = ',' then failPeek .trailingComma (c :: rest)
    else failPeek .trailingCharacters (c :: rest)

/-- The place of a fault that is noticed behind a name: behind the end of the object if that
follows. -/
def behindName (s : List Char) : List Char :=
  match skipBlanks s with
  | '\x7d' :: rest => rest
  | rest => rest

/-- Reads members up to the end of the object, at most as many as the fuel. -/
def members {α : Type} (fields : List (Field α)) :
    Nat → Bool → List String → α → Reader α
  | 0, _, _, _, _ => fail .endInObject []
  | fuel + 1, first, seen, value, s =>
    match nextName first s with
    | .error e => .error e
    | .ok none => .ok (value, s)
    | .ok (some s) =>
      match quotedText s with
      | .error e => .error e
      | .ok (name, s) =>
        match fields.find? fun field => decide (field.name = name) with
        | some field =>
          if seen.contains name then
            fail (.mismatch (.duplicateField name)) (behindName s)
          else
            match colon s with
            | .error e => .error e
            | .ok s =>
              match field.read value s with
              | .error e => .error e
              | .ok (value, s) => members fields fuel false (name :: seen) value s
        | none =>
          match colon s with
          | .error e => .error e
          | .ok s =>
            match skipValue s with
            | .error e => .error e
            | .ok s => members fields fuel false seen value s

/-- Reads the fields of a record from the items of an array, as far as there are items. -/
def fieldsInOrder {α : Type} : List (Field α) → Bool → α → Reader α
  | [], _, value, s => .ok (value, s)
  | field :: fields, first, value, s =>
    match nextItem first s with
    | .error e => .error e
    | .ok none => .ok (value, s)
    | .ok (some s) =>
      match field.read value s with
      | .error e => .error e
      | .ok (value, s) => fieldsInOrder fields false value s

/-- Reads a record, starting from its default. -/
def record {α : Type} (expected : String) (fields : List (Field α)) (default : α)
    (s : List Char) : Except Fault (α × List Char) :=
  match valueStart s with
  | .error e => .error e
  | .ok (c, rest) =>
    if c = '[' then
      match fieldsInOrder fields true default rest with
      | .error e => .error e
      | .ok (value, rest) => (arrayEnd rest).map fun rest => (value, rest)
    else if c = '\x7b' then
      match members fields (rest.length + 1) true [] default rest with
      | .error e => .error e
      | .ok (value, rest) => (objectEnd rest).map fun rest => (value, rest)
    else wrongType expected (c :: rest)

/-! ## Variants -/

/-- A variant of a type: its name, and its value or how that is read. -/
inductive Variant (α : Type)
  | plain (name : String) (value : α)
  | holding (name : String) (read : Reader α)

/-- The name of a variant. -/
def Variant.name {α : Type} : Variant α → String
  | plain name _ => name
  | holding name _ => name

/-- Reads the name of a variant behind its opening quote. -/
def variantName {α : Type} (variants : List (Variant α)) (s : List Char) :
    Except Fault (Variant α × List Char) :=
  match quotedText s with
  | .error e => .error e
  | .ok (name, rest) =>
    match variants.find? fun v => decide (v.name = name) with
    | some v => .ok (v, rest)
    | none => fail (.mismatch (.unknownVariant name (variants.map Variant.name))) rest

/-- Steps to the name of the variant in an object, which has to have a member: the text behind the
opening quote. -/
def onlyName (s : List Char) : Except Fault (List Char) :=
  match nextName true s with
  | .error e => .error e
  | .ok none => failPeek .valueExpected (skipBlanks s)
  | .ok (some rest) => .ok rest

/-- Reads what follows the name of a variant in an object. -/
def variantValue {α : Type} (v : Variant α) (s : List Char) : Except Fault (α × List Char) :=
  match v with
  | .plain _ value => (nullValue s).map fun r => (value, r.2)
  | .holding _ read => read s

/-- Reads a variant. -/
def variant {α : Type} (variants : List (Variant α)) (s : List Char) :
    Except Fault (α × List Char) :=
  match valueStart s with
  | .error e => .error e
  | .ok (c, rest) =>
    if c = '\x7b' then
      match (onlyName rest).bind (variantName variants) with
      | .error e => .error e
      | .ok (v, rest) =>
        match colon rest with
        | .error e => .error e
        | .ok rest =>
          match variantValue v rest with
          | .error e => .error e
          | .ok (value, rest) =>
            match skipBlanks rest with
            | [] => fail .endInObject []
            | c :: rest =>
              if c = '\x7d' then .ok (value, rest) else fail .valueExpected (c :: rest)
    else if c = '\"' then
      match variantName variants rest with
      | .error e => .error e
      | .ok (.plain _ value, rest) => .ok (value, rest)
      | .ok (.holding .., rest) =>
        fail (.mismatch (.wrongType .unitVariant "newtype variant")) rest
    else failPeek .valueExpected (c :: rest)

/-! ## Whole texts -/

/-- Reads a value and takes the text to its end. -/
def whole {α : Type} (read : Reader α) (s : List Char) : Except Fault α :=
  match read s with
  | .error e => .error e
  | .ok (value, rest) =>
    match skipBlanks rest with
    | [] => .ok value
    | rest => failPeek .trailingCharacters rest

/-- Reads a whole text. -/
def decode {α : Type} (read : Reader α) (s : String) : Except LocatedFault α :=
  match whole read s.toList with
  | .ok value => .ok value
  | .error fault => .error (fault.locate s.toList)

end OnScreen.Json
