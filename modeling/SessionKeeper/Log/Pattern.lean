import SessionKeeper.Text.Alphanumeric
import SessionKeeper.Text.Number

/-!
# Patterns in log filters

The value that a directive asks of a field is a number or a regular expression, without looking
around, without word boundaries and without references to its groups. Nothing is matched here:
`isPattern` tells whether an expression is well formed. A count between braces never is, since the
first closing brace ends the field.
-/

namespace SessionKeeper.LogFilter.Pattern

/-- What a backslash or a character stands for. -/
inductive Piece
  | character (c : Char)
  /-- A class of characters. -/
  | set
  /-- A place in the text. -/
  | place
  deriving DecidableEq, Repr

/-- Reads a character that is told by its number in hexadecimal digits. -/
def numbered (count : Nat) (s : List Char) : Option (Piece × List Char) := do
  let values ← (s.take count).mapM Text.hexValue
  let n := values.foldl (fun n d => 16 * n + d) 0
  if values.length = count && n.isValidChar then some (.character (Char.ofNat n), s.drop count)
  else none

/-- The character that a letter after a backslash stands for. -/
def control : List (Char × Nat) :=
  [('a', 7), ('f', 12), ('t', 9), ('n', 10), ('r', 13), ('v', 11)]

/-- Reads what a backslash begins, from the character after it on. -/
def escape : List Char → Option (Piece × List Char)
  | [] => none
  | c :: r =>
    match c with
    | 'x' => numbered 2 r
    | 'u' => numbered 4 r
    | 'U' => numbered 8 r
    | 'd' | 's' | 'w' | 'D' | 'S' | 'W' => some (.set, r)
    | 'A' | 'z' => some (.place, r)
    | 'p' | 'P' =>
      match r with
      | n :: r => if "clmnpsz".contains n.toLower then some (.set, r) else none
      | [] => none
    | c =>
      match control.lookup c with
      | some n => some (.character (Char.ofNat n), r)
      | none =>
        if c.toNat < 0x80 && !c.isAlphanum && c != '<' && c != '>' then some (.character c, r)
        else none

/-- Reads one thing between brackets. -/
def member : List Char → Option (Piece × List Char)
  | [] => none
  | '\\' :: r => escape r
  | c :: r => some (.character c, r)

/-- What follows the start of a class: a mark of negation, and the characters that can only stand
for themselves there. -/
def afterOpening (s : List Char) : List Char :=
  let s := match s with
    | '^' :: r => r
    | s => s
  match s with
  | ']' :: r => r
  | s => s.dropWhile (· == '-')

/-- The names of classes between colons. -/
def classNames : List String :=
  ["alnum", "alpha", "ascii", "blank", "cntrl", "digit", "graph", "lower", "print", "punct",
    "space", "upper", "word", "xdigit"]

/-- What follows a class that is named between colons, from after its bracket on. -/
def afterNamed : List Char → Option (List Char)
  | ':' :: r =>
    let r := match r with
      | '^' :: r => r
      | r => r
    let name := r.takeWhile (· != ':')
    match r.drop name.length with
    | ':' :: ']' :: r => if classNames.contains (String.ofList name) then some r else none
    | _ => none
  | _ => none

/-- What follows a class, within which `depth` more are open; at most `count` things are read. -/
def afterClass : Nat → Nat → List Char → Option (List Char)
  | 0, _, _ => none
  | count + 1, depth, s =>
    match s with
    | ']' :: r => if depth = 0 then some r else afterClass count (depth - 1) r
    | '[' :: r =>
      match afterNamed r with
      | some r => afterClass count depth r
      | none => afterClass count (depth + 1) (afterOpening r)
    | '&' :: '&' :: r | '-' :: '-' :: r | '~' :: '~' :: r => afterClass count depth r
    | s =>
      match member s with
      | none | some (.place, _) => none
      | some (a, r) =>
        match r with
        | '-' :: ']' :: _ | '-' :: '-' :: _ => afterClass count depth r
        | '-' :: r =>
          match a, member r with
          | .character a, some (.character b, r) => if a ≤ b then afterClass count depth r else none
          | _, _ => none
        | r => afterClass count depth r

/-- Whether flags may be set: each once, with one minus among them that is not the last. -/
def areFlags (flags : List Char) : Bool :=
  flags.all (fun c => "imsUuRx-".contains c) && flags.eraseDups.length == flags.length
    && flags.getLast? != some '-'

/-- Whether a group may have a name. -/
def isGroupName : List Char → Bool
  | [] => false
  | c :: r =>
    (c == '_' || (Text.isAlphanumeric c && !c.isDigit))
      && r.all fun c => "_.[]".contains c || Text.isAlphanumeric c

/-- Reads the start of a group from after its bracket on, and tells whether it is one: flags alone
are none. -/
def group (s : List Char) : Option (Bool × List Char) :=
  let named (s : List Char) :=
    let name := s.takeWhile (· != '>')
    match s.drop name.length with
    | _ :: r => if isGroupName name then some (true, r) else none
    | [] => none
  match s with
  | '?' :: 'P' :: '<' :: r | '?' :: '<' :: r => named r
  | '?' :: r =>
    let flags := r.takeWhile fun c => c != ':' && c != ')'
    match r.drop flags.length with
    | ':' :: r => if areFlags flags then some (true, r) else none
    | ')' :: r => if areFlags flags && !flags.isEmpty then some (false, r) else none
    | _ => none
  | r => some (true, r)

/-- Whether the rest of an expression is well formed, within `depth` groups; `repeats` tells whether
something stands before it that can be repeated. At most `count` things are read. -/
def isRest : Nat → Nat → Bool → List Char → Bool
  | _, depth, _, [] => depth == 0
  | 0, _, _, _ => false
  | count + 1, depth, repeats, c :: r =>
    match c with
    | ')' => depth != 0 && isRest count (depth - 1) true r
    | '|' => isRest count depth false r
    | '\x7b' => false
    | '[' => (afterClass r.length 0 (afterOpening r)).any (isRest count depth true)
    | '(' =>
      (group r).any fun (opened, r) => isRest count (if opened then depth + 1 else depth) false r
    | '\\' => (escape r).any fun (_, r) => isRest count depth true r
    | '?' | '*' | '+' =>
      repeats && isRest count depth true (if r.head? == some '?' then r.tail else r)
    | _ => isRest count depth true r

/-- Whether an expression is well formed. -/
def isPattern (s : List Char) : Bool := isRest s.length 0 false s

/-- Whether characters are the digits of a decimal, with a point among them or not, and an exponent
or none. -/
def isDecimal (s : List Char) : Bool :=
  let whole := s.takeWhile Char.isDigit
  let r := s.drop whole.length
  let (fraction, r) := match r with
    | '.' :: r => (r.takeWhile Char.isDigit, r.dropWhile Char.isDigit)
    | r => ([], r)
  !(whole.isEmpty && fraction.isEmpty) &&
    match r with
    | [] => true
    | c :: r =>
      let digits := match r with
        | '+' :: r | '-' :: r => r
        | r => r
      c.toLower == 'e' && !digits.isEmpty && digits.all Char.isDigit

/-- Whether a value can be asked of a field. A number with a plus is one, though no pattern begins
so. -/
def isValue : List Char → Bool
  | '+' :: r =>
    isDecimal r || ["inf", "infinity", "nan"].contains (String.ofList (r.map Char.toLower))
  | s => isPattern s

end SessionKeeper.LogFilter.Pattern
