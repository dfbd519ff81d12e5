import SessionKeeper.Text.Utf8
import SessionKeeper.Toml.Number
import SessionKeeper.Toml.Quoted
import SessionKeeper.Toml.Tree

/-!
# TOML documents

A document is a sequence of lines: a key and a value, a header of a table, or nothing. Values may be
nested up to a depth, and keys may have a number of parts up to the same bound.
-/

namespace SessionKeeper.Toml

/-- The bound on nesting. -/
def depthLimit : Nat := 80

def isBare (c : Char) : Bool := c.isAlphanum || c == '_' || c == '-'

/-- Reads one part of a key, and the spaces around it. -/
def keyPart : Read Name := do
  spaces
  let left := (← get).length
  let text ← either shortText fun s =>
    let name := s.takeWhile isBare
    if name.isEmpty then fault s else .ok (String.ofList name, s.drop name.length)
  spaces
  return ⟨text, left⟩

/-- Reads a key: its parts but the last, and the last. -/
def key : Read (List Name × Name) := fun s =>
  match separated keyPart '.' s with
  | .error e => .error e
  | .ok (parts, r) =>
    match parts.getLast? with
    | some name => if parts.length < depthLimit then .ok ((parts.dropLast, name), r) else fault s
    | none => fault s

/-- Reads what a value is between the spaces and lines around it. -/
def item (value : Read Datum) : Read Datum := do
  skipLines
  let d ← value
  skipLines
  return d

/-- Reads the rest of a list, of which the last item may have a comma after it. -/
def list (value : Read Datum) : Read Datum := do
  let items ← either (separated (item value) ',') (pure [])
  if !items.isEmpty then discard (optional (expect ','))
  skipLines
  expect ']'
  return .series items

/-- Reads a key and a value, without the line end after them. -/
def pair (value : Read Datum) : Read (List Name × Name × Datum) := do
  let (path, name) ← key
  final do
    expect '='
    spaces
    return (path, name, ← value)

/-- The table of keys and values on one line, if no two of them clash. -/
def tableOf (pairs : List (List Name × Name × Datum)) : Option Datum := do
  let es ← pairs.foldlM (fun es (path, name, d) => put path name d es) ([] : Entries)
  return .table (datums es)

/-- Reads the rest of a table on one line. -/
def lineTable (value : Read Datum) : Read Datum := do
  let start ← get
  let pairs ← either (separated (do let p ← pair value; spaces; return p) ',') (pure [])
  spaces
  match tableOf pairs with
  | none => fun _ => fault start
  | some d =>
    expect '\x7d'
    return d

/-- Takes letters as they are. -/
def word (letters : String) : Read Unit := fun s =>
  if letters.toList.isPrefixOf s then .ok ((), s.drop letters.length) else fault s

/-- Reads a value within which others may be nested `depth` deep. -/
def value (depth : Nat) : Read Datum := fun s => do
  let (d, r) ← match depth, s with
    | depth + 1, '[' :: r => final (list (value depth)) r
    | depth + 1, '\x7b' :: r => final (lineTable (value depth)) r
    | 0, '[' :: _ | 0, '\x7b' :: _ => final fault s
    | _, 't' :: _ => final (do word "true"; return .bool true) s
    | _, 'f' :: _ => final (do word "false"; return .bool false) s
    | _, '"' :: _ | _, '\x27' :: _ => (Datum.text <$> text) s
    | _, s => number s
  return (.placed s.length d, r)

/-- A document as far as it has been read. -/
structure Draft where
  root : Entries := []
  /-- The table that the lines belong to. -/
  here : List Name := []

/-- A draft with changed entries, or a fault where the change began. -/
def Draft.change (start : List Char) (here : List Name) (root : Option Entries) : Read Draft :=
  match root with
  | some root => pure { root, here }
  | none => fun _ => fault start

/-- Takes one line. -/
def Draft.line (d : Draft) : Read Draft := do
  spaces
  let start ← get
  match start with
  | ['['] => fault
  | '[' :: '[' :: r =>
    set r
    let (path, name) ← key
    word "]]"
    endLine
    Draft.change start (path ++ [name]) (openItem path name start.length d.root)
  | '[' :: r =>
    set r
    let (path, name) ← key
    expect ']'
    endLine
    Draft.change start (path ++ [name]) (openTable path name start.length d.root)
  | '#' :: _ | '\n' :: _ | '\r' :: _ | [] =>
    endLine
    return d
  | _ =>
    let (path, name, v) ← pair (value (depthLimit - 1))
    endLine
    Draft.change start d.here (putAt d.here path name v d.root)

/-- Takes all lines. -/
def Draft.lines (d : Draft) (s : List Char) : Except Fault Draft :=
  match s with
  | [] => .ok d
  | c :: r =>
    match d.line (c :: r) with
    | .error e => .error e
    | .ok (d, r') =>
      if r'.length ≤ r.length then d.lines r' else .error ⟨c :: r, true⟩
termination_by s.length

/-- Reads a document, whose first character may be a byte order mark. -/
def read (s : List Char) : Except Fault Datum := do
  let body := match s with
    | c :: r => if c.toNat == 0xFEFF then r else s
    | [] => []
  let d ← Draft.lines {} body
  return .table (datums d.root)

/-- Line and column, from one on, of the place in a text with `left` characters from it on. The end
of the text counts as a column of its last line, and a character of several bytes has the column of
its first byte. -/
def position (s : List Char) (left : Nat) : Nat × Nat :=
  let behind := if left = 0 then 1 else 0
  let index := s.length - max left 1
  let before := s.take index
  let line := (before.reverse.takeWhile (· != '\n')).reverse
  let column := match s[index]? with
    | some c =>
      if c.toNat < 0x80 then line.length else (Text.Utf8.encode (String.ofList line)).length
    | none => 0
  (before.count '\n' + 1, column + behind + 1)

end SessionKeeper.Toml
