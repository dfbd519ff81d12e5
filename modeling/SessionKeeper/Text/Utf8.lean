/-!
# UTF-8

Bytes are split into characters and into faults. A fault is the longest run of bytes that starts a
character and cannot go on, so that a lossy reading puts one replacement character for each; a run
that the end of the bytes cuts short is told apart, for the wording of an error. -/

namespace SessionKeeper.Text.Utf8

/-- What the first bytes of a text are. -/
inductive Piece
  | char (c : Char)
  /-- Bytes that no character begins with. -/
  | fault (bytes : Nat)
  /-- The first bytes of a character that the end cuts off. -/
  | cut (bytes : Nat)
  deriving DecidableEq, Repr

/-- Whether a byte continues a character. -/
def isNext (b : UInt8) : Bool := 0x80 ≤ b && b ≤ 0xBF

/-- The bytes that may follow the first byte of a character of three or four bytes. -/
def second (b : UInt8) : UInt8 × UInt8 :=
  if b == 0xE0 then (0xA0, 0xBF)
  else if b == 0xED then (0x80, 0x9F)
  else if b == 0xF0 then (0x90, 0xBF)
  else if b == 0xF4 then (0x80, 0x8F)
  else (0x80, 0xBF)

/-- The number of bytes of a character that starts with a byte, if one does. -/
def width (b : UInt8) : Option Nat :=
  if b < 0x80 then some 1
  else if 0xC2 ≤ b && b ≤ 0xDF then some 2
  else if 0xE0 ≤ b && b ≤ 0xEF then some 3
  else if 0xF0 ≤ b && b ≤ 0xF4 then some 4
  else none

/-- The low bits of a continuing byte. -/
def low (b : UInt8) : Nat := b.toNat % 64

/-- The first piece of a text that starts with the byte `b`, and what follows it. -/
def next (b : UInt8) (r : List UInt8) : Piece × List UInt8 :=
  match width b with
  | some 1 => (.char (Char.ofNat b.toNat), r)
  | some 2 =>
    match r with
    | [] => (.cut 1, [])
    | c :: r' =>
      if isNext c then (.char (Char.ofNat (b.toNat % 32 * 64 + low c)), r') else (.fault 1, r)
  | some 3 =>
    match r with
    | [] => (.cut 1, [])
    | c :: r' =>
      if (second b).1 ≤ c && c ≤ (second b).2 then
        match r' with
        | [] => (.cut 2, [])
        | d :: r'' =>
          if isNext d then
            (.char (Char.ofNat ((b.toNat % 16 * 64 + low c) * 64 + low d)), r'')
          else (.fault 2, r')
      else (.fault 1, r)
  | some _ =>
    match r with
    | [] => (.cut 1, [])
    | c :: r' =>
      if (second b).1 ≤ c && c ≤ (second b).2 then
        match r' with
        | [] => (.cut 2, [])
        | d :: r'' =>
          if isNext d then
            match r'' with
            | [] => (.cut 3, [])
            | e :: r''' =>
              if isNext e then
                (.char (Char.ofNat (((b.toNat % 8 * 64 + low c) * 64 + low d) * 64 + low e)), r''')
              else (.fault 3, r'')
          else (.fault 2, r')
      else (.fault 1, r)
  | none => (.fault 1, r)

theorem next_length (b : UInt8) (r : List UInt8) : (next b r).2.length ≤ r.length := by
  unfold next
  repeat' split
  all_goals simp_all
  all_goals omega

/-- The pieces of a text, after those in `seen`, which stand in reverse. -/
def piecesFrom (seen : List Piece) : List UInt8 → List Piece
  | [] => seen.reverse
  | b :: r => piecesFrom ((next b r).1 :: seen) (next b r).2
  termination_by s => s.length
  decreasing_by
    have := next_length b r
    simp only [List.length_cons]
    omega

/-- The characters and faults of a text, in order. -/
def pieces (s : List UInt8) : List Piece := piecesFrom [] s

/-- The number of bytes of a piece. -/
def Piece.bytes : Piece → Nat
  | .char c => c.utf8Size
  | .fault n | .cut n => n

/-- The character of a piece, if it is one. -/
def Piece.char? : Piece → Option Char
  | .char c => some c
  | .fault _ | .cut _ => none

/-- The text with one replacement character for each fault. -/
def decodeLossy (s : List UInt8) : String :=
  String.ofList ((pieces s).map fun p => p.char?.getD (Char.ofNat 0xFFFD))

/-- Why bytes are no UTF-8: the first fault, and where it is. -/
structure Invalid where
  validUpTo : Nat
  piece : Piece
  deriving DecidableEq, Repr

/-- The first fault among pieces, the first of which is at `place`. -/
def firstFault (place : Nat) : List Piece → Option Invalid
  | [] => none
  | .char c :: r => firstFault (place + c.utf8Size) r
  | p :: _ => some ⟨place, p⟩

/-- The text that bytes stand for, or the first fault in them. -/
def decode (s : List UInt8) : Except Invalid String :=
  match firstFault 0 (pieces s) with
  | some e => .error e
  | none => .ok (String.ofList ((pieces s).filterMap Piece.char?))

/-- The text that bytes stand for, if they are UTF-8. -/
def decode? (s : List UInt8) : Option String := (decode s).toOption

def Invalid.message (e : Invalid) : String :=
  match e.piece with
  | .fault n => s!"invalid utf-8 sequence of {n} bytes from index {e.validUpTo}"
  | _ => s!"incomplete utf-8 byte sequence from index {e.validUpTo}"

/-- The bytes of a text. -/
def encode (s : String) : List UInt8 := s.toUTF8.toList

end SessionKeeper.Text.Utf8
