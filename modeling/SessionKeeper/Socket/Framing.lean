import SessionKeeper.Text.Blank
import SessionKeeper.Text.Utf8

/-!
# Lines on the wire

A message travels as its bytes and a newline. Received bytes are cut at newlines: each segment that
a newline ends is read leniently and counts without the carriage returns at its end, and is passed
over if nothing is left. The bytes after the last newline stay pending, unless they fill the receive
buffer: then they are dropped.
-/

namespace SessionKeeper.Socket

def newline : UInt8 := 10

/-- The size of the receive buffer in bytes. -/
def bufferSize : Nat := 16384

/-- The bytes that a payload is sent as. -/
def frame (payload : String) : List UInt8 := Text.Utf8.encode payload ++ [newline]

/-- Bytes cut at newlines as far as they have been seen. -/
structure Cut where
  /-- The segments that a newline has ended, latest first. -/
  ended : List (List UInt8) := []
  /-- The bytes since, in reverse. -/
  rest : List UInt8 := []
  deriving DecidableEq, Repr

/-- Takes one more byte. -/
def Cut.push (c : Cut) (b : UInt8) : Cut :=
  if b = newline then { ended := c.rest.reverse :: c.ended } else { c with rest := b :: c.rest }

/-- The segments of bytes that a newline ends, without it, and the bytes after the last newline. -/
def segments (bytes : List UInt8) : List (List UInt8) × List UInt8 :=
  let c := bytes.foldl Cut.push {}
  (c.ended.reverse, c.rest.reverse)

/-- The message of a segment, unless it is empty. -/
def messageOf (segment : List UInt8) : Option String :=
  let text := Text.dropEndWhile (· == '\r') (Text.Utf8.decodeLossy segment).toList
  if text.isEmpty then none else some (String.ofList text)

/-- What is taken out of the bytes received so far. -/
structure Taken where
  messages : List String
  pending : List UInt8
  /-- The number of bytes dropped, if they filled the buffer. -/
  overflow : Option Nat := none
  deriving DecidableEq, Repr

/-- Takes every complete line out of bytes. -/
def takeLines (bytes : List UInt8) : Taken :=
  let (ended, rest) := segments bytes
  let messages := ended.filterMap messageOf
  if rest.length < bufferSize then { messages, pending := rest }
  else { messages, pending := [], overflow := some rest.length }

end SessionKeeper.Socket
