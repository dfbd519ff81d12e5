import SessionKeeper.Text.Blank

/-!
# Kinds of transports

Which transport a launcher uses. A kind is read from a word without regard to blanks around it and
to the case of its letters.
-/

namespace SessionKeeper

inductive TransportKind
  /-- Lines over a socket. -/
  | tcp
  /-- A client library. -/
  | native
  deriving DecidableEq, Repr

namespace TransportKind

def word : TransportKind → String
  | tcp => "tcp"
  | native => "native"

def all : List TransportKind := [tcp, native]

/-- The kind of a word, written exactly. -/
def ofWord? (w : String) : Option TransportKind := all.find? fun k => k.word = w

/-- A letter from A to Z as the small one. -/
def lower (c : Char) : Char :=
  if 'A' ≤ c && c ≤ 'Z' then Char.ofNat (c.toNat + 32) else c

/-- Reads a kind; what cannot be read is told as it was looked up. -/
def parse (s : String) : Except String TransportKind :=
  let w := String.ofList ((Text.trim s).toList.map lower)
  match ofWord? w with
  | some k => .ok k
  | none => .error s!"Unknown adapter kind: {w}"

end TransportKind

end SessionKeeper
