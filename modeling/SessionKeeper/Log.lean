import SessionKeeper.Text.Quoted

/-!
# Log records

What the keeper and the launcher report about themselves, from the level of information up.
-/

namespace SessionKeeper

inductive LogLevel
  | error
  | warn
  | info
  deriving DecidableEq, Repr

def LogLevel.word : LogLevel → String
  | error => "ERROR"
  | warn => "WARN"
  | info => "INFO"

/-- The part of the program that a record comes from. -/
inductive LogSource
  | keeper
  | watch
  | episode
  | socket
  | library
  | settings
  | launcher
  | logging
  | program
  | signals
  deriving DecidableEq, Repr

structure LogRecord where
  level : LogLevel
  source : LogSource
  text : String
  deriving DecidableEq, Repr

/-- How a character stands in a log on a terminal: the controls that a terminal obeys are shown by
their numbers, except those that end or divide a line. -/
def shownInLog (c : Char) : List Char :=
  let n := c.toNat
  if [0x07, 0x08, 0x0C, 0x1B, 0x7F].contains n then
    ['\\', 'x', Text.hexDigit (n / 16), Text.hexDigit (n % 16)]
  else if 0x80 ≤ n && n ≤ 0x9F then
    ['\\', 'u', Char.ofNat 0x7B] ++ Text.hex n ++ [Char.ofNat 0x7D]
  else [c]

/-- The text of a record as it stands in a log on a terminal. -/
def LogRecord.shown (r : LogRecord) : String := String.ofList (r.text.toList.flatMap shownInLog)

/-- A record with its level in front. -/
def LogRecord.line (r : LogRecord) : String := s!"{r.level.word} {r.text}"

end SessionKeeper
