import SessionKeeper.Text.Utf8

/-!
# Lines of input

Input arrives as bytes, in pieces of any size, and is taken line by line. A newline ends a line,
with a carriage return before it or without, and so does the end of the input if anything stands
before it. A line that is no UTF-8 cannot be read.
-/

namespace SessionKeeper.Launcher

structure Input where
  /-- The bytes that have arrived and are yet to be taken. -/
  arrived : List UInt8 := []
  /-- Whether nothing follows them. -/
  closed : Bool := false
  deriving DecidableEq, Repr

def newline : UInt8 := 10

/-- What can be taken from input. -/
inductive Line
  | text (line : String)
  /-- A line that cannot be read, for a reason. -/
  | unreadable (reason : String)
  /-- The end of the input. -/
  | none
  deriving DecidableEq, Repr

/-- The bytes of the next line with its newline, and those after it, if the line is complete. -/
def Input.cut (i : Input) : Option (List UInt8 × List UInt8) :=
  match i.arrived.dropWhile (· != newline) with
  | b :: rest => some (i.arrived.takeWhile (· != newline) ++ [b], rest)
  | [] => if i.closed then some (i.arrived, []) else none

/-- Bytes without the newline at their end, and without a carriage return before that. -/
def withoutEnd (bytes : List UInt8) : List UInt8 :=
  match bytes.reverse with
  | 10 :: 13 :: r | 10 :: r => r.reverse
  | _ => bytes

/-- The line of its bytes. -/
def Line.ofBytes (bytes : List UInt8) : Line :=
  if bytes.isEmpty then .none
  else
    match Text.Utf8.decode (withoutEnd bytes) with
    | .ok s => .text s
    | .error e => .unreadable e.message

/-- Takes the next line, if it is complete. -/
def Input.next? (i : Input) : Option (Line × Input) :=
  i.cut.map fun (bytes, rest) => (Line.ofBytes bytes, { i with arrived := rest })

end SessionKeeper.Launcher
