import SessionKeeper.Text.Number
import SessionKeeper.Toml.Scan

/-!
# Texts between quotes

Between double quotes a backslash escapes; between single quotes every character is itself. Three
quotes bound a text of several lines: a newline right after them counts for nothing, a backslash at
the end of a line takes the blanks and newlines after it away, and one or two quotes may stand
before the closing three. A text is read in pieces, a character or an escape each.
-/

namespace SessionKeeper.Toml

/-- Reads the character of a number in hexadecimal digits. -/
def hexadecimal (count : Nat) : Read Char := fun s =>
  let digits := s.take count
  match digits.mapM Text.hexValue with
  | none => fault s
  | some values =>
    let n := values.foldl (fun n d => 16 * n + d) 0
    if digits.length = count && n.isValidChar then .ok (Char.ofNat n, s.drop count) else fault s

/-- The character that a letter after a backslash stands for. -/
def escaped : Char → Option Char
  | 'b' => some (Char.ofNat 8)
  | 't' => some '\t'
  | 'n' => some '\n'
  | 'f' => some (Char.ofNat 12)
  | 'r' => some '\r'
  | '"' => some '"'
  | '\\' => some '\\'
  | _ => none

/-- Reads what a backslash begins, from the character after it on. The fault of a letter that means
nothing is after it if it is a single byte. -/
def escape : Read Char
  | 'u' :: r => final (hexadecimal 4) r
  | 'U' :: r => final (hexadecimal 8) r
  | c :: r =>
    match escaped c with
    | some x => .ok (x, r)
    | none => final fault (if c.toNat < 0x80 then r else c :: r)
  | [] => fault []

/-- Reads a character that is itself in a text between quotes. -/
def character (quote : Char) : Read (List Char)
  | c :: r => if c != quote && isPlain c then .ok ([c], r) else fault (c :: r)
  | [] => fault []

/-- Reads a piece of a text between double quotes. -/
def escapedCharacter : Read (List Char)
  | '\\' :: r => (List.singleton <$> escape) r
  | s => character '"' s

/-- What follows blanks and newlines. -/
def afterBlanks : List Char → List Char
  | ' ' :: r | '\t' :: r | '\n' :: r | '\r' :: '\n' :: r => afterBlanks r
  | s => s

/-- Reads a piece of a text of several lines, of which `read` reads those within a line. -/
def lineOr (read : Read (List Char)) : Read (List Char) :=
  either read (do newline; return ['\n'])

/-- Reads a piece of a text of several lines between double quotes: a backslash at the end of a line
is a piece without characters. -/
def brokenOr (read : Read (List Char)) : Read (List Char)
  | '\\' :: r =>
    match (do spaces; newline : Read Unit) r with
    | .ok ((), r') => .ok ([], afterBlanks r')
    | .error _ => read ('\\' :: r)
  | s => read s

/-- Reads one or two quotes that a piece follows, which is left. -/
def innerQuotes (quote : Char) (read : Read (List Char)) : Read (List Char) := fun s =>
  let quotes := s.takeWhile (· == quote)
  let rest := s.drop quotes.length
  if quotes.isEmpty || 2 < quotes.length then fault s
  else
    match read rest with
    | .ok _ => .ok (quotes, rest)
    | .error e => if e.final then final fault rest else fault s

/-- Reads the rest of a text on one line. -/
def textOnLine (quote : Char) (read : Read (List Char)) : Read String := do
  let text ← pieces read
  final (expect quote)
  return String.ofList text

/-- Reads the rest of a text of several lines. -/
def textOnLines (quote : Char) (read : Read (List Char)) : Read String := do
  let _ ← optional newline
  let text ← pieces (either read (innerQuotes quote read))
  let quotes := min 5 ((← get).takeWhile (· == quote)).length
  if quotes < 3 then final fault
  else
    modify (·.drop quotes)
    return String.ofList (text ++ List.replicate (quotes - 3) quote)

/-- Reads a text on one line. -/
def shortText : Read String
  | '"' :: r => textOnLine '"' escapedCharacter r
  | '\x27' :: r => textOnLine '\x27' (character '\x27') r
  | s => fault s

/-- Reads a text. -/
def text : Read String
  | '"' :: '"' :: '"' :: r => textOnLines '"' (brokenOr (lineOr escapedCharacter)) r
  | '\x27' :: '\x27' :: '\x27' :: r => textOnLines '\x27' (lineOr (character '\x27')) r
  | s => shortText s

end SessionKeeper.Toml
