import SessionKeeper.Text.Quoted

/-!
# Printing JSON

Texts are printed compactly. Inside quotes a quote, a backslash and every control character is
escaped, by a letter where there is one.
-/

namespace SessionKeeper.Json

/-- How a character stands between quotes. -/
def escape (c : Char) : List Char :=
  if c == '"' then ['\\', '"']
  else if c == '\\' then ['\\', '\\']
  else if c.toNat == 8 then ['\\', 'b']
  else if c.toNat == 9 then ['\\', 't']
  else if c.toNat == 10 then ['\\', 'n']
  else if c.toNat == 12 then ['\\', 'f']
  else if c.toNat == 13 then ['\\', 'r']
  else if c.toNat < 0x20 then
    ['\\', 'u', '0', '0', Text.hexDigit (c.toNat / 16), Text.hexDigit (c.toNat % 16)]
  else [c]

/-- A text between quotes. -/
def printText (s : String) : List Char := '"' :: s.toList.flatMap escape ++ ['"']

def printNat (n : Nat) : List Char := Nat.toDigits 10 n

def printBool (b : Bool) : List Char :=
  if b then ['t', 'r', 'u', 'e'] else ['f', 'a', 'l', 's', 'e']

/-- Fields between commas, each a name and a printed value. -/
def printFields : List (String × List Char) → List Char
  | [] => []
  | [(n, v)] => printText n ++ ':' :: v
  | (n, v) :: r => printText n ++ ':' :: v ++ ',' :: printFields r

/-- A table with its fields in the order given. -/
def printTable (fields : List (String × List Char)) : List Char :=
  Char.ofNat 0x7B :: printFields fields ++ [Char.ofNat 0x7D]

end SessionKeeper.Json
