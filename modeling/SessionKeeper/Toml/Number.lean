import SessionKeeper.Datum
import SessionKeeper.Number.Shortest
import SessionKeeper.Text.Number
import SessionKeeper.Toml.Scan

/-!
# Numbers, dates and times

An integer is signed and fits 64 bits; it is decimal, or hexadecimal, octal or binary after a mark.
A double has a point or an exponent, and is the nearest one to its decimal. Underscores may stand
between digits. Dates and times are checked against the calendar, and kept as they are written.
-/

namespace SessionKeeper.Toml

/-- The value of a digit in a base of at most sixteen. -/
def digitIn (base : Nat) (c : Char) : Option Nat := (Text.hexValue c).filter (· < base)

/-- Takes the digits after a first one; an underscore has to stand before a digit. -/
def moreDigits (base : Nat) : Read (List Nat)
  | '_' :: c :: r =>
    match digitIn base c with
    | some d => (moreDigits base r).map fun (ds, rest) => (d :: ds, rest)
    | none => final fault (c :: r)
  | ['_'] => final fault []
  | c :: r =>
    match digitIn base c with
    | some d => (moreDigits base r).map fun (ds, rest) => (d :: ds, rest)
    | none => .ok ([], c :: r)
  | [] => .ok ([], [])

/-- Takes digits, at least one. -/
def digits (base : Nat) : Read (List Nat)
  | [] => fault []
  | c :: r =>
    match digitIn base c with
    | some d => (moreDigits base r).map fun (ds, rest) => (d :: ds, rest)
    | none => fault (c :: r)

def valueOf (base : Nat) (ds : List Nat) : Nat := ds.foldl (fun n d => base * n + d) 0

/-- Takes a sign, if there is one, and tells whether it is a minus. -/
def sign : Read Bool
  | '-' :: r => .ok (true, r)
  | '+' :: r => .ok (false, r)
  | s => .ok (false, s)

/-- Takes the digits of a decimal number before its point: zero, or digits that begin with another
one. -/
def wholeDigits : Read (List Nat)
  | '0' :: r => .ok ([0], r)
  | s => digits 10 s

/-- Takes the digits after a point, if there is a point. -/
def fraction : Read (Option (List Nat))
  | '.' :: r => (some <$> final (digits 10)) r
  | s => .ok (none, s)

/-- Takes an exponent, if there is one. -/
def exponent : Read (Option Int) := fun s =>
  match s with
  | c :: r =>
    if c == 'e' || c == 'E' then
      (do
        let negative ← sign
        let n := valueOf 10 (← final (digits 10))
        return some (if negative then -n else n) : Read (Option Int)) r
    else .ok (none, s)
  | [] => .ok (none, s)

/-- The double nearest to `n · 10 ^ e`, if it is not too great. -/
def nearest (n : Nat) (e : Int) : Option Binary64 :=
  let size : Int := (Nat.toDigits 10 n).length + e
  if n = 0 || size < -400 then Binary64.ofNat 0
  else if 400 < size then none
  else if 0 ≤ e then Binary64.ofNat (n * Nat.pow 10 e.toNat)
  else Binary64.ofRatio n (Nat.pow 10 (-e).toNat)

def floatDatum (negative : Bool) (shown : String) : Datum :=
  .float ((if negative then "-" else "") ++ shown)

/-- A double from its digits; one that is too great is an infinity, of which only the negative may
be written so. -/
def doubleOf (negative : Bool) (whole fraction : List Nat) (e : Int) : Option Datum :=
  match nearest (valueOf 10 (whole ++ fraction)) (e - fraction.length) with
  | some x => some (floatDatum negative x.shortest.positional)
  | none => if negative then some (floatDatum true "inf") else none

/-- An integer that fits 64 bits. -/
def integerOf (negative : Bool) (n : Nat) : Option Datum :=
  if negative then (if n ≤ Nat.pow 2 63 then some (.int (-n)) else none)
  else if n < Nat.pow 2 63 then some (.int n) else none

/-- Reads a number; one that does not fit has its fault where it begins, which is final. -/
def fitting (read : Read (Option Datum)) : Read Datum := fun s =>
  match read s with
  | .ok (some d, r) => .ok (d, r)
  | .ok (none, _) => final fault s
  | .error e => .error e

/-- Reads the rest of a number whose base a mark tells. -/
def based (base : Nat) : Read (Option Datum) := do
  return integerOf false (valueOf base (← final (digits base)))

/-- Reads the rest of a decimal number after its sign. -/
def decimal (negative : Bool) : Read (Option Datum)
  | 'i' :: 'n' :: 'f' :: r => .ok (some (floatDatum negative "inf"), r)
  | 'n' :: 'a' :: 'n' :: r => .ok (some (.float "NaN"), r)
  | s =>
    (do
      let whole ← wholeDigits
      match ← fraction, ← exponent with
      | none, none => return integerOf negative (valueOf 10 whole)
      | f, e => return doubleOf negative whole (f.getD []) (e.getD 0) : Read (Option Datum)) s

/-- Reads a number. -/
def numeral : Read Datum :=
  fitting fun
    | '0' :: 'x' :: r => based 16 r
    | '0' :: 'o' :: r => based 8 r
    | '0' :: 'b' :: r => based 2 r
    | s => (do decimal (← sign) : Read (Option Datum)) s

/-- Takes a number of decimal digits of a fixed count within bounds. -/
def fixed (count lo hi : Nat) : Read Nat := fun s =>
  match (s.take count).mapM (digitIn 10) with
  | none => fault s
  | some ds =>
    let n := valueOf 10 ds
    if ds.length = count ∧ lo ≤ n ∧ n ≤ hi then .ok (n, s.drop count) else fault s

def isLeap (year : Nat) : Bool := year % 4 == 0 && (year % 100 != 0 || year % 400 == 0)

def daysIn (year month : Nat) : Nat :=
  if month == 2 then (if isLeap year then 29 else 28)
  else if [4, 6, 9, 11].contains month then 30 else 31

/-- Takes a date. -/
def date : Read Unit := do
  let year ← fixed 4 0 9999
  expect '-'
  final do
    let month ← fixed 2 1 12
    expect '-'
    discard (fixed 2 1 (daysIn year month))

/-- Takes the part of a second after a time of day. -/
def secondPart : Read Unit := do
  expect '.'
  let _ ← fixed 1 0 9
  modify (·.dropWhile Char.isDigit)

/-- Takes a time of day. -/
def time : Read Unit := do
  let _ ← fixed 2 0 23
  expect ':'
  final do
    let _ ← fixed 2 0 59
    expect ':'
    let _ ← fixed 2 0 60
    discard (optional secondPart)

/-- Takes the offset of a time from the one at Greenwich. -/
def timeOffset : Read Unit
  | 'Z' :: r | 'z' :: r => .ok ((), r)
  | '+' :: r | '-' :: r =>
    (final do
      let _ ← fixed 2 0 23
      expect ':'
      discard (fixed 2 0 59) : Read Unit) r
  | s => fault s

/-- Takes the time after a date, perhaps with an offset. -/
def timeOfDate : Read Unit := do
  either (expect 'T') (either (expect 't') (expect ' '))
  time
  discard (optional timeOffset)

/-- Reads a date, a time, or both. -/
def moment : Read Datum := fun s =>
  match either (do date; discard (optional timeOfDate)) time s with
  | .ok ((), r) => .ok (.moment (String.ofList (s.take (s.length - r.length))), r)
  | .error e => .error e

/-- Reads a number, a date or a time. -/
def number : Read Datum := either moment numeral

end SessionKeeper.Toml
