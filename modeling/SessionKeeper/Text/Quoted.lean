import SessionKeeper.Text.Hidden

/-!
# Quoted texts

A text between quotes, as it is shown inside an error: quotes and backslashes are escaped, so are
the usual controls by a letter and NUL by a digit, and hidden characters stand by their number.
-/

namespace SessionKeeper.Text

/-- The digit of a number below 16. -/
def hexDigit (n : Nat) : Char :=
  if n < 10 then Char.ofNat ('0'.toNat + n) else Char.ofNat ('a'.toNat + (n - 10))

/-- The hexadecimal digits of a number, without leading zeros. -/
def hex (n : Nat) : List Char := Nat.toDigits 16 n

/-- How a character stands inside quotes. -/
def quotedChar (c : Char) : List Char :=
  if c == Char.ofNat 0 then ['\\', '0']
  else if c == '\t' then ['\\', 't']
  else if c == '\n' then ['\\', 'n']
  else if c == '\r' then ['\\', 'r']
  else if c == '"' || c == '\\' then ['\\', c]
  else if c.toNat < 0x20 || isHidden c then
    ['\\', 'u', Char.ofNat 0x7B] ++ hex c.toNat ++ [Char.ofNat 0x7D]
  else [c]

/-- A text between quotes. -/
def quoted (s : String) : String :=
  String.ofList ('"' :: s.toList.flatMap quotedChar ++ ['"'])

/-- Texts between commas, each quoted. -/
def quotedItems (l : List String) : String := String.intercalate ", " (l.map quoted)

/-- A list of texts between brackets, each quoted. -/
def quotedList (l : List String) : String := "[" ++ quotedItems l ++ "]"

end SessionKeeper.Text
