import SessionKeeper.Text.Quoted

/-!
# Structured data

What a structured text holds, whichever notation it is written in, and how typed values are read out
of it. A reader reports the first problem in the order of the text: `Datum.record` walks through the
entries of a table, or the items of a list that stands for one, and hands each to the reader of its
field. A notation may note where in the text a value stands, and where its key does; a problem then
tells where it is.
-/

namespace SessionKeeper

inductive Datum
  | null
  | bool (b : Bool)
  | int (n : Int)
  /-- A number with a point or an exponent, as it is shown. -/
  | float (shown : String)
  | text (s : String)
  | list (items : List Datum)
  /-- A list of which the last items may be left unread. -/
  | series (items : List Datum)
  | table (entries : List (String × Datum))
  /-- A date or a time. -/
  | moment (shown : String)
  /-- A value that may be passed over but not read. -/
  | broken
  /-- A value and the number of characters of its text from it on. -/
  | placed (left : Nat) (value : Datum)
  /-- A value and the number of characters of its text from its key on. -/
  | keyed (left : Nat) (value : Datum)
  deriving Inhabited

namespace Datum

/-- Why a typed value cannot be read. -/
inductive Problem
  | missing (field : String)
  | duplicate (field : String)
  | unknownVariant (name : String) (expected : List String)
  | wrongType (found expected : String)
  | wrongValue (found expected : String)
  /-- A problem whose wording is not told. -/
  | other
  /-- A problem and the number of characters of its text from it on. -/
  | placed (left : Nat) (problem : Problem)
  deriving DecidableEq, Repr

/-- The names that a variant may have, in words. -/
def oneOf : List String → String
  | [] => "there are no variants"
  | [a] => s!"expected `{a}`"
  | [a, b] => s!"expected `{a}` or `{b}`"
  | l => "expected one of " ++ String.intercalate ", " (l.map fun a => s!"`{a}`")

def Problem.message : Problem → Option String
  | missing f => some s!"missing field `{f}`"
  | duplicate f => some s!"duplicate field `{f}`"
  | unknownVariant n l => some s!"unknown variant `{n}`, {oneOf l}"
  | wrongType f e => some s!"invalid type: {f}, expected {e}"
  | wrongValue f e => some s!"invalid value: {f}, expected {e}"
  | other => none
  | placed _ p => p.message

/-- Where a problem is, if that is known. -/
def Problem.left? : Problem → Option Nat
  | placed left _ => some left
  | _ => none

/-- A problem with its place, unless it has one. -/
def Problem.at (left : Nat) : Problem → Problem
  | placed l p => placed l p
  | p => placed left p

/-- What a datum is called in a problem. -/
def kind : Datum → String
  | null => "null"
  | bool b => s!"boolean `{b}`"
  | int n => s!"integer `{n}`"
  | float s => s!"floating point `{s}`"
  | text s => s!"string {Text.quoted s}"
  | list _ | series _ => "sequence"
  | table _ | moment _ => "map"
  | broken => ""
  | placed _ d | keyed _ d => d.kind

/-- The problem that a datum is not of the type expected. -/
def mismatch (d : Datum) (expected : String) : Problem :=
  match d with
  | broken => .other
  | d => .wrongType d.kind expected

def asText (d : Datum) (expected : String := "a string") : Except Problem String :=
  match d with
  | text s => .ok s
  | d => .error (d.mismatch expected)

def asBool : Datum → Except Problem Bool
  | bool b => .ok b
  | d => .error (d.mismatch "a boolean")

/-- Reads a number from zero to `limit`, a type called `expected`. -/
def asNat (limit : Nat) (expected : String) : Datum → Except Problem Nat
  | int n =>
    if 0 ≤ n ∧ n ≤ limit then .ok n.toNat else .error (.wrongValue s!"integer `{n}`" expected)
  | d => .error (d.mismatch expected)

def asUInt16 (d : Datum) : Except Problem UInt16 := (d.asNat 65535 "u16").map UInt16.ofNat

def asUInt32 (d : Datum) : Except Problem UInt32 := (d.asNat 4294967295 "u32").map UInt32.ofNat

def asUInt64 (d : Datum) : Except Problem UInt64 :=
  (d.asNat 18446744073709551615 "u64").map UInt64.ofNat

/-- Reads a value that may be null. -/
def asOption {α : Type} (read : Datum → Except Problem α) : Datum → Except Problem (Option α)
  | null => .ok none
  | d => (read d).map some

/-- A datum without its places. -/
def bare : Datum → Datum
  | placed _ d | keyed _ d => d.bare
  | d => d

/-- Tells the place of a datum with a problem. -/
def atValue {α : Type} : Datum → Except Problem α → Except Problem α
  | placed left _, r => r.mapError (·.at left)
  | keyed _ d, r => d.atValue r
  | _, r => r

/-- Tells the place of the key of a datum with a problem. -/
def atKey {α : Type} : Datum → Except Problem α → Except Problem α
  | keyed left _, r => r.mapError (·.at left)
  | _, r => r

/-- Reads a datum. A problem is where the datum is or, if that is not known, where its key is. -/
def located {α : Type} (d : Datum) (read : Datum → Except Problem α) : Except Problem α :=
  d.atKey (d.atValue (read d.bare))

/-- Fills a field that may be read once. -/
def fill {α : Type} (name : String) (field : Option α) (value : Except Problem α) :
    Except Problem (Option α) :=
  match field with
  | some _ => .error (.duplicate name)
  | none => value.map some

/-- A field that has to be there: a list that is too short has a problem of its own. -/
def require {α : Type} (fromList : Bool) (name : String) : Option α → Except Problem α
  | some a => .ok a
  | none => .error (if fromList then .other else .missing name)

/-- Reads the fields of a record, called `expected`, out of a table or out of a list that has them
in the order of `names`. `put` reads one field into the draft, or passes it over if it has no such
name; `close` makes the record from the draft and is told whether a list was read. -/
def record {δ α : Type} (expected : String) (names : List String)
    (put : δ → String → Datum → Except Problem δ) (empty : δ)
    (close : Bool → δ → Except Problem α) : Datum → Except Problem α
  | table entries => do close false (← entries.foldlM (fun d (n, v) => v.located (put d n)) empty)
  | moment s => do close false (← put empty "" (text s))
  | list items => do
    let draft ← (names.zip items).foldlM (fun d (n, v) => v.located (put d n)) empty
    if names.length < items.length then .error .other
    close true draft
  | series items => do
    close true (← (names.zip items).foldlM (fun d (n, v) => v.located (put d n)) empty)
  | d => .error (d.mismatch expected)

/-- Reads one of several words. -/
def variant {α : Type} (variants : List (String × α)) (name : String) : Except Problem α :=
  match variants.lookup name with
  | some a => .ok a
  | none => .error (.unknownVariant name (variants.map (·.1)))

mutual

/-- Whether nothing in a datum is broken and it is nested at most `depth` deep. -/
def sound (depth : Nat) : Datum → Bool
  | broken => false
  | list items => match depth with
    | 0 => false
    | depth + 1 => soundItems depth items
  | series items => match depth with
    | 0 => false
    | depth + 1 => soundItems depth items
  | table entries => match depth with
    | 0 => false
    | depth + 1 => soundEntries depth entries
  | placed _ d | keyed _ d => sound depth d
  | _ => true

def soundItems (depth : Nat) : List Datum → Bool
  | [] => true
  | d :: r => sound depth d && soundItems depth r

def soundEntries (depth : Nat) : List (String × Datum) → Bool
  | [] => true
  | (_, d) :: r => sound depth d && soundEntries depth r

end

end Datum

end SessionKeeper
