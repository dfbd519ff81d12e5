import SessionKeeper.Json.Number
import SessionKeeper.Text.Number

/-!
# Reading JSON

A text is read character by character: `Reader.step` takes one character, `Reader.finish` the end,
and reading is the fold of the one before the other. A place where bytes are no character may stand
inside a text that is passed over, and so may half a surrogate pair; a text with either is broken.
-/

namespace SessionKeeper.Json

/-- A part of a text between quotes. -/
inductive Piece
  | char (c : Char)
  /-- A code unit given by its number. -/
  | unit (n : Nat)
  /-- Bytes that are no character. -/
  | fault
  deriving DecidableEq, Repr

/-- The characters of a text, unless it has faults or lone surrogates. -/
def assemble : List Piece → Option (List Char)
  | [] => some []
  | .char c :: r => (assemble r).map (c :: ·)
  | .fault :: _ => none
  | .unit n :: r =>
    if 0xD800 ≤ n && n ≤ 0xDBFF then
      match r with
      | .unit m :: r' =>
        if 0xDC00 ≤ m && m ≤ 0xDFFF then
          (assemble r').map (Char.ofNat (0x10000 + (n - 0xD800) * 0x400 + (m - 0xDC00)) :: ·)
        else none
      | _ => none
    else if 0xDC00 ≤ n && n ≤ 0xDFFF then none
    else (assemble r).map (Char.ofNat n :: ·)

/-- How far a number has been read. -/
inductive NumberPlace
  | minus | zero | whole | point | fraction | mark | sign | exponent
  deriving DecidableEq, Repr

/-- What is being read. -/
inductive Mode
  | between
  /-- A text, with its pieces in reverse. -/
  | text (pieces : List Piece)
  | escape (pieces : List Piece)
  | unit (pieces : List Piece) (left value : Nat)
  | word (rest : List Char) (value : Datum)
  | number (t : NumberText) (place : NumberPlace)

/-- What may come next between the parts of a value. -/
inductive Expect
  | value | valueOrEnd | key | keyOrEnd | colon | commaOrEnd | nothing
  deriving DecidableEq, Repr

/-- An open list or table, with what it holds in reverse. -/
inductive Frame
  | list (items : List Datum)
  | table (entries : List (Option String × Datum)) (key : Option String)

structure Reader where
  mode : Mode := .between
  expect : Expect := .value
  stack : List Frame := []
  result : Datum := .null

/-- A table from its entries in reverse; one with a broken key is broken. -/
def tableOf (entries : List (Option String × Datum)) : Datum :=
  match entries.reverse.mapM fun (k, v) => k.map (·, v) with
  | some l => .table l
  | none => .broken

namespace Reader

/-- Puts a value that is complete where it belongs. -/
def place (d : Datum) (r : Reader) : Reader :=
  match r.stack with
  | [] => { r with mode := .between, expect := .nothing, result := d }
  | .list items :: s =>
    { r with mode := .between, expect := .commaOrEnd, stack := .list (d :: items) :: s }
  | .table entries k :: s =>
    { r with mode := .between, expect := .commaOrEnd, stack := .table ((k, d) :: entries) k :: s }

/-- Puts a text that is complete where it belongs, as a key or as a value. -/
def placeText (pieces : List Piece) (r : Reader) : Reader :=
  let s := (assemble pieces.reverse).map String.ofList
  match r.expect, r.stack with
  | .key, .table entries _ :: rest | .keyOrEnd, .table entries _ :: rest =>
    { r with mode := .between, expect := .colon, stack := .table entries s :: rest }
  | _, _ => r.place (match s with | some s => .text s | none => .broken)

def expectsValue (r : Reader) : Bool := r.expect == .value || r.expect == .valueOrEnd

def expectsKey (r : Reader) : Bool := r.expect == .key || r.expect == .keyOrEnd

/-- Takes a character between the parts of a value. -/
def stepBetween (c : Char) (r : Reader) : Option Reader :=
  if c == ' ' || c == '\n' || c == '\t' || c == '\r' then some { r with mode := .between }
  else match c with
  | '"' => if r.expectsValue || r.expectsKey then some { r with mode := .text [] } else none
  | ',' =>
    match r.expect, r.stack with
    | .commaOrEnd, .list _ :: _ => some { r with mode := .between, expect := .value }
    | .commaOrEnd, .table _ _ :: _ => some { r with mode := .between, expect := .key }
    | _, _ => none
  | ':' => if r.expect == .colon then some { r with mode := .between, expect := .value } else none
  | ']' =>
    match r.stack with
    | .list items :: s =>
      if r.expect == .valueOrEnd || r.expect == .commaOrEnd then
        some (place (.list items.reverse) { r with stack := s })
      else none
    | _ => none
  | c =>
    if c == Char.ofNat 0x7D then
      match r.stack with
      | .table entries _ :: s =>
        if r.expect == .keyOrEnd || r.expect == .commaOrEnd then
          some (place (tableOf entries) { r with stack := s })
        else none
      | _ => none
    else if !r.expectsValue then none
    else if c == Char.ofNat 0x7B then
      some { r with mode := .between, expect := .keyOrEnd, stack := .table [] none :: r.stack }
    else match c with
    | '[' => some { r with mode := .between, expect := .valueOrEnd, stack := .list [] :: r.stack }
    | 't' => some { r with mode := .word ['r', 'u', 'e'] (.bool true) }
    | 'f' => some { r with mode := .word ['a', 'l', 's', 'e'] (.bool false) }
    | 'n' => some { r with mode := .word ['u', 'l', 'l'] .null }
    | '-' => some { r with mode := .number { negative := true } .minus }
    | '0' => some { r with mode := .number { whole := ['0'] } .zero }
    | c => if c.isDigit then some { r with mode := .number { whole := [c] } .whole } else none

/-- A number with one more character, if it goes on with that. -/
def numberStep (t : NumberText) (p : NumberPlace) (c : Char) : Option (NumberText × NumberPlace) :=
  match p with
  | .minus =>
    if c == '0' then some ({ t with whole := ['0'] }, .zero)
    else if c.isDigit then some ({ t with whole := [c] }, .whole) else none
  | .zero => afterWhole
  | .whole => if c.isDigit then some ({ t with whole := c :: t.whole }, .whole) else afterWhole
  | .point | .fraction =>
    if c.isDigit then some ({ t with fraction := c :: t.fraction }, .fraction)
    else if p == .fraction && (c == 'e' || c == 'E') then some (t, .mark) else none
  | .mark =>
    if c == '+' then some (t, .sign)
    else if c == '-' then some ({ t with exponentNegative := true }, .sign)
    else digit
  | .sign | .exponent => digit
where
  afterWhole : Option (NumberText × NumberPlace) :=
    if c == '.' then some (t, .point)
    else if c == 'e' || c == 'E' then some (t, .mark) else none
  digit : Option (NumberText × NumberPlace) :=
    if c.isDigit then some ({ t with exponent := c :: t.exponent }, .exponent) else none

/-- Whether a number may end where it is. -/
def numberComplete : NumberPlace → Bool
  | .zero | .whole | .fraction | .exponent => true
  | .minus | .point | .mark | .sign => false

/-- The character that a letter after a backslash stands for. -/
def escaped : Char → Option Char
  | '"' => some '"'
  | '\\' => some '\\'
  | '/' => some '/'
  | 'b' => some (Char.ofNat 8)
  | 'f' => some (Char.ofNat 12)
  | 'n' => some '\n'
  | 'r' => some '\r'
  | 't' => some '\t'
  | _ => none

/-- Takes one character, or a place where the bytes are none. -/
def step (r : Reader) (next : Option Char) : Option Reader :=
  match r.mode, next with
  | .text pieces, none => some { r with mode := .text (.fault :: pieces) }
  | _, none => none
  | .between, some c => r.stepBetween c
  | .text pieces, some c =>
    if c == '"' then some (r.placeText pieces)
    else if c == '\\' then some { r with mode := .escape pieces }
    else if c.toNat < 0x20 then none
    else some { r with mode := .text (.char c :: pieces) }
  | .escape pieces, some c =>
    if c == 'u' then some { r with mode := .unit pieces 4 0 }
    else (escaped c).map fun e => { r with mode := .text (.char e :: pieces) }
  | .unit pieces left value, some c => do
    let value := 16 * value + (← Text.hexValue c)
    if left == 1 then some { r with mode := .text (.unit value :: pieces) }
    else some { r with mode := .unit pieces (left - 1) value }
  | .word rest value, some c =>
    match rest with
    | [] => none
    | d :: rest' =>
      if c != d then none
      else if rest'.isEmpty then some (r.place value)
      else some { r with mode := .word rest' value }
  | .number t p, some c =>
    match numberStep t p c with
    | some (t, p) => some { r with mode := .number t p }
    | none => if numberComplete p then (r.place t.datum).stepBetween c else none

/-- Takes the end of the text. -/
def finish (r : Reader) : Option Datum :=
  let r := match r.mode with
    | .number t p => if numberComplete p then r.place t.datum else r
    | _ => r
  match r.mode, r.expect with
  | .between, .nothing => some r.result
  | _, _ => none

end Reader

/-- The value that characters stand for, if they are one JSON text. -/
def readChars (s : List (Option Char)) : Option Datum :=
  (s.foldlM Reader.step {}).bind Reader.finish

/-- How deep the values of a text may be nested if they are all read. -/
def depthLimit : Nat := 127

/-- Why a typed value cannot be read from a text. -/
inductive Refusal
  /-- The text is no JSON. -/
  | invalid
  | data (problem : Datum.Problem)
  deriving DecidableEq, Repr

/-- Reads a typed value. Where that fails, a text that is broken somewhere, even in a part that was
passed over, counts as no JSON. -/
def decodeChars {α : Type} (read : Datum → Except Datum.Problem α) (s : List (Option Char)) :
    Except Refusal α :=
  match readChars s with
  | none => .error .invalid
  | some d =>
    match read d with
    | .ok a => .ok a
    | .error p => .error (if d.sound depthLimit then .data p else .invalid)

def decode {α : Type} (read : Datum → Except Datum.Problem α) (s : String) : Except Refusal α :=
  decodeChars read (s.toList.map some)

end SessionKeeper.Json
