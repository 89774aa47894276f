import OnScreen.Text.Printable

/-!
# Quoted texts in messages

A text is shown to a reader in double quotes, with a backslash before what would not be seen as it
is: quotes, backslashes, controls, and every character without a form of its own, which is given by
its code point.
-/

namespace OnScreen

/-- A character inside a quoted text. -/
def quotedChar (c : Char) : List Char :=
  if c = '\x00' then ['\\', '0']
  else if c = '\t' then ['\\', 't']
  else if c = '\r' then ['\\', 'r']
  else if c = '\n' then ['\\', 'n']
  else if c = '\\' then ['\\', '\\']
  else if c = '\"' then ['\\', '\"']
  else if isPrintable c then [c]
  else ['\\', 'u', '\x7b'] ++ Nat.toDigits 16 c.toNat ++ ['\x7d']

/-- A text in quotes. -/
def quoted (s : String) : String :=
  String.ofList ('\"' :: s.toList.flatMap quotedChar ++ ['\"'])

end OnScreen
