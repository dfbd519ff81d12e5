/-!
# Reading from the front of a text

A reader takes what it reads from the front of a text, or has a fault, which tells what is left of
the text where it is. After a fault the text may be read in another way, unless the fault is final:
`final` makes every fault of a reader so, and `either` tries a second reader after the first.
-/

namespace SessionKeeper.Toml

/-- Why a text cannot be read. -/
structure Fault where
  /-- The text from the fault on. -/
  rest : List Char
  /-- Whether the text may not be read in another way. -/
  final : Bool
  deriving DecidableEq, Repr

abbrev Read := StateT (List Char) (Except Fault)

variable {α : Type}

/-- Has a fault here. -/
def fault : Read α := fun s => .error ⟨s, false⟩

/-- Makes the faults of a reader final. -/
def final (read : Read α) : Read α := fun s =>
  (read s).mapError fun e => { e with final := true }

/-- Reads in one way, and after a fault that is not final in another. -/
def either (first second : Read α) : Read α := fun s =>
  match first s with
  | .error e => if e.final then .error e else second s
  | a => a

/-- Reads something that may be missing. -/
def optional (read : Read α) : Read (Option α) := either (some <$> read) (pure none)

/-- Takes one character. -/
def expect (c : Char) : Read Unit
  | d :: r => if d == c then .ok ((), r) else fault (d :: r)
  | [] => fault []

def isSpace (c : Char) : Bool := c == ' ' || c == '\t'

/-- Whether a character may stand in a comment: any but a control, of which the tab may. -/
def isPlain (c : Char) : Bool := c == '\t' || (0x20 ≤ c.toNat && c.toNat != 0x7F)

/-- Takes spaces and tabs. -/
def spaces : Read Unit := modify fun s => s.dropWhile isSpace

/-- Takes a comment, if there is one. -/
def comment : Read Unit :=
  modify fun
    | '#' :: r => r.dropWhile isPlain
    | s => s

/-- Takes one newline. A character that begins none is taken before the fault. -/
def newline : Read Unit
  | '\n' :: r => .ok ((), r)
  | '\r' :: '\n' :: r => .ok ((), r)
  | _ :: r => fault r
  | [] => fault []

/-- Takes nothing at the end of the text. -/
def nothing : Read Unit
  | [] => .ok ((), [])
  | s => fault s

/-- Takes the rest of a line: spaces, a comment, and a newline or the end of the text. -/
def endLine : Read Unit := do
  spaces
  comment
  either newline nothing

/-- Whether a line ends here, perhaps after a comment. -/
def endsLine : List Char → Bool
  | c :: _ => c == '#' || c == '\n' || c == '\r'
  | [] => false

/-- Takes spaces, newlines and comments; a comment needs a newline after it. -/
def skipLines (s : List Char) : Except Fault (Unit × List Char) :=
  let here := s.dropWhile isSpace
  if endsLine here then
    match (do comment; newline : Read Unit) here with
    | .ok ((), r) => if r.length < s.length then skipLines r else .ok ((), r)
    | .error e => .error e
  else .ok ((), here)
termination_by s.length

/-- Reads more things, each after a separator. A separator that none follows is not taken. -/
def more (read : Read α) (separator : Char) (acc : List α) (s : List Char) :
    Except Fault (List α × List Char) :=
  match s with
  | [] => .ok (acc.reverse, [])
  | c :: r =>
    if c != separator then .ok (acc.reverse, c :: r)
    else
      match read r with
      | .ok (a, r') =>
        if r'.length ≤ r.length then more read separator (a :: acc) r'
        else .ok (acc.reverse, c :: r)
      | .error e => if e.final then .error e else .ok (acc.reverse, c :: r)
termination_by s.length

/-- Reads things with separators between them, at least one. -/
def separated (read : Read α) (separator : Char) : Read (List α) := do
  more read separator [← read]

/-- Reads pieces, at most `count`, until none begins. -/
def piecesIn (read : Read (List Char)) : Nat → List Char → Read (List Char)
  | 0, acc, s => .ok (acc.reverse, s)
  | count + 1, acc, s =>
    match read s with
    | .ok (a, r) => piecesIn read count (a.reverseAux acc) r
    | .error e => if e.final then .error e else .ok (acc.reverse, s)

/-- Reads pieces, each at least a character long, until none begins. -/
def pieces (read : Read (List Char)) : Read (List Char) := fun s => piecesIn read s.length [] s

end SessionKeeper.Toml
