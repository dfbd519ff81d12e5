import SessionKeeper.Text.Utf8

/-!
# The console

Messages are printed on lines of their own. The output behind the console may refuse a write, after
it has taken some of its bytes, and may refuse to be flushed.
-/

namespace SessionKeeper.Launcher

/-- An output and what has been written to it. -/
structure Console where
  written : List UInt8 := []
  /-- How many bytes of a write are taken before it is refused, and why, by what is written so far;
  nothing if the write is taken. -/
  refusal : List UInt8 → List UInt8 → Option (Nat × String) := fun _ _ => none
  flushRefusal : List UInt8 → Option String := fun _ => none

namespace Console

/-- Writes bytes; the answer tells why that is refused, if it is. -/
def write (bytes : List UInt8) (c : Console) : Console × Option String :=
  if bytes.isEmpty then (c, none)
  else
    match c.refusal c.written bytes with
    | none => ({ c with written := c.written ++ bytes }, none)
    | some (taken, reason) => ({ c with written := c.written ++ bytes.take taken }, some reason)

/-- Prints a message, and then its newline. -/
def print (message : String) (c : Console) : Console × Option String :=
  match c.write (Text.Utf8.encode message) with
  | (c, none) => c.write (Text.Utf8.encode "\n")
  | r => r

def flush (c : Console) : Option String := c.flushRefusal c.written

/-- An output that takes no write past a number of bytes. -/
def limited (limit : Option Nat) (reason : String) : Console where
  refusal written bytes :=
    match limit with
    | none => none
    | some n => if n < written.length + bytes.length then some (0, reason) else none

end Console

end SessionKeeper.Launcher
