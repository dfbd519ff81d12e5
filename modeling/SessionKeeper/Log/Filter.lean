import SessionKeeper.Log
import SessionKeeper.Log.Pattern
import SessionKeeper.Text.Alphanumeric
import SessionKeeper.Text.Blank
import SessionKeeper.Text.Number
import SessionKeeper.Text.Quoted
import SessionKeeper.Text.Utf8

/-!
# Log filters

A filter is a list of directives between commas. A directive is a level, the name of a part of the
program, or a name and a level; it speaks for every part whose name begins with its own, and of
several the one with the longest name counts, of those one that names a field, and of those the
last. A name alone lets everything through, and no directive at all lets errors through. Between
brackets after the name stand the name of a span, of which the program has none, and between braces
that of a field; the one field of a record is its message. `directive` skips the blanks around a
directive to find its marks, but cuts its parts out of the text with the blanks.
-/

namespace SessionKeeper

/-- The name under which a part of the program logs. -/
def LogSource.target : LogSource → String
  | keeper => "session_link::manager"
  | watch => "session_link::poll"
  | episode => "session_link::reconnect"
  | socket => "session_link::adapter::tcp"
  | library => "session_link::adapter::native"
  | settings => "lib_xiangqi_launcher::config"
  | launcher => "lib_xiangqi_launcher::app"
  | logging => "lib_xiangqi_launcher::logging"
  | program => "lib_xiangqi_launcher"
  | signals => "lib_xiangqi_launcher::signals"

/-- How much a level lets through: nothing, errors, and so on. -/
def LogLevel.weight : LogLevel → Nat
  | error => 1
  | warn => 2
  | info => 3

structure LogDirective where
  target : String
  weight : Nat
  /-- The field that a record has to have. -/
  field : Option String := none
  /-- Whether the directive speaks of spans only. -/
  spansOnly : Bool := false
  deriving DecidableEq, Repr

namespace LogFilter

/-- Why a directive cannot be read. -/
inductive Problem
  | form
  | level
  | value
  deriving DecidableEq, Repr

def levelWords : List String := ["off", "error", "warn", "info", "debug", "trace"]

def Problem.message : Problem → String
  | form => "invalid filter directive"
  | level =>
    s!"error parsing level filter: expected one of {Text.quotedItems levelWords}, or a number 0-5"
  | value => "invalid field filter"

/-- The weight of a level: its word without regard to the case of its letters, or its number. -/
def weight? (s : String) : Option Nat :=
  match Text.readUpTo 5 s with
  | some n => some n
  | none => levelWords.idxOf? s.toLower

/-- The weight of everything. -/
def everything : Nat := 5

/-- The weight of a level in a directive; no level lets everything through. -/
def levelOf (s : String) : Except Problem Nat :=
  if s.isEmpty then .ok everything
  else
    match weight? s with
    | some w => .ok w
    | none => .error .level

/-- Whether the name of a directive can begin with a character. -/
def opens (c : Char) : Bool := c == '-' || c == ':' || c == '_' || Text.isAlphanumeric c

/-- The bytes of a list of characters. -/
def width (s : List Char) : Nat := (Text.Utf8.encode (String.ofList s)).length

/-- The part of a text between two positions in bytes. -/
def part (s : String) (start stop : Nat) : String :=
  Text.Utf8.decodeLossy (((Text.Utf8.encode s).take stop).drop start)

/-- The text from a position in bytes on. -/
def partFrom (s : String) (start : Nat) : String :=
  Text.Utf8.decodeLossy ((Text.Utf8.encode s).drop start)

/-- Reads the level after the closing bracket of a directive, of which `rest` is left. -/
def levelAfter (s : String) (stop : Nat) : List Char → Except Problem Nat
  | [] => .ok everything
  | '=' :: _ => levelOf (partFrom s (stop + 1))
  | _ => .error .form

/-- Reads the field of a directive, and its level, from what follows the opening brace. -/
def fieldFrom (s : String) (start : Nat) (d : LogDirective) (rest : List Char) :
    Except Problem LogDirective := do
  let inner := rest.takeWhile (· != '\x7d')
  let stop := start + width inner
  match rest.drop inner.length with
  | _ :: ']' :: rest =>
    if inner.isEmpty then throw .form
    let (name, value) := (part s start stop).toList.span (· != '=')
    if !Pattern.isValue ((value.drop 1).takeWhile (· != '=')) then throw .value
    let weight ← levelAfter s (stop + 2) rest
    return { d with
      weight
      field := some (String.ofList name)
      spansOnly := d.spansOnly || !value.isEmpty }
  | _ => throw .form

/-- Reads the span of a directive, and its level, from what follows the opening bracket. -/
def spanFrom (s : String) (start : Nat) (d : LogDirective) (rest : List Char) :
    Except Problem LogDirective := do
  let inner := rest.takeWhile fun c => c != ']' && c != '\x7b'
  let stop := start + width inner
  match rest.drop inner.length with
  | ']' :: rest => return { d with weight := ← levelAfter s (stop + 1) rest, spansOnly := true }
  | _ :: rest => fieldFrom s (stop + 1) { d with spansOnly := !inner.isEmpty } rest
  | [] => throw .form

/-- Reads one directive. -/
def directive (s : String) : Except Problem LogDirective :=
  let marks := (Text.trim s).toList
  if !(marks.head?.any fun c => opens c || c == '[') then .error .form
  else
    let name := marks.takeWhile fun c => c != '=' && c != '['
    let stop := width name
    let d : LogDirective := { target := part s 0 stop, weight := everything }
    match marks.drop name.length with
    | [] =>
      match weight? s with
      | some weight => .ok { target := "", weight }
      | none => .ok { d with target := s }
    | '=' :: _ => do return { d with weight := ← levelOf (partFrom s (stop + 1)) }
    | _ :: rest => spanFrom s (stop + 1) d rest

/-- The directives of a filter as they are written. -/
def parts (s : String) : List String := (s.splitOn ",").filter fun p => !p.isEmpty

def read (s : String) : List (String × Except Problem LogDirective) :=
  (parts s).map fun p => (p, directive p)

/-- Reads a filter if every directive can be read. -/
def strict (s : String) : Option (List LogDirective) := (read s).mapM fun (_, d) => d.toOption

/-- Reads a filter and passes over what cannot be read, which is told too. -/
def lenient (s : String) : List LogDirective × List (String × Problem) :=
  ((read s).filterMap fun (_, d) => d.toOption,
    (read s).filterMap fun (p, d) => match d with | .ok _ => none | .error e => some (p, e))

/-- Whether a directive speaks for a part of the program. -/
def speaksFor (target : String) (d : LogDirective) : Bool :=
  !d.spansOnly && (d.field.all (· == "message")) && d.target.toList.isPrefixOf target.toList

/-- How closely a directive speaks: by the length of its name, and then by a field. -/
def closeness (d : LogDirective) : Nat := 2 * d.target.length + d.field.toList.length

/-- How much a filter lets through of a part of the program. -/
def allowed (filter : List LogDirective) (target : String) : Nat :=
  if filter.isEmpty then LogLevel.error.weight
  else
    let speaking := filter.filter (speaksFor target)
    let closest := speaking.foldl (fun n d => max n (closeness d)) 0
    ((speaking.filter fun d => closeness d == closest).getLast?.map (·.weight)).getD 0

/-- Whether a record passes a filter. -/
def passes (filter : List LogDirective) (r : LogRecord) : Bool :=
  r.level.weight ≤ allowed filter r.source.target

end LogFilter

end SessionKeeper
