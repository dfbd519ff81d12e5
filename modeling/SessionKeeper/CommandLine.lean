import SessionKeeper.TransportKind

/-!
# The command line

Every option is a switch or takes one value. A long option has its value after an equals sign or as
the next argument; a short one also right behind its letter. A value that begins with a dash has to
be attached, and the first thing wrong is what is told. An argument is a sequence of characters, in
which a place without one stands for bytes that are no text.
-/

namespace SessionKeeper.CommandLine

abbrev Argument := List (Option Char)

/-- The text of an argument, with a replacement for what is none. -/
def shown (a : Argument) : String := String.ofList (a.map (·.getD (Char.ofNat 0xFFFD)))

/-- The text of an argument, if all of it is text. -/
def text? (a : Argument) : Option String := (a.mapM id).map String.ofList

inductive Item
  | config
  | host
  | port
  | transport
  | library
  | logLevel
  | jsonLogs
  | help
  | version
  deriving DecidableEq, Repr

namespace Item

def all : List Item :=
  [config, host, port, transport, library, logLevel, jsonLogs, help, version]

def long : Item → String
  | config => "config"
  | host => "host"
  | port => "port"
  | transport => "adapter"
  | library => "library"
  | logLevel => "log-level"
  | jsonLogs => "json-logs"
  | help => "help"
  | version => "version"

def short : Item → Option Char
  | config => some 'c'
  | host => some 'H'
  | port => some 'p'
  | transport => some 'a'
  | logLevel => some 'l'
  | help => some 'h'
  | version => some 'V'
  | library | jsonLogs => none

/-- What the value of an option is called; a switch has none. -/
def value : Item → Option String
  | config => some "FILE"
  | host => some "HOST"
  | port => some "PORT"
  | transport => some "KIND"
  | library => some "PATH"
  | logLevel => some "LEVEL"
  | jsonLogs | help | version => none

def about : Item → String
  | config => "Configuration file path [default: launcher.toml]"
  | host => "Game server host"
  | port => "Game server port"
  | transport => "Transport adapter [possible values: tcp, native]"
  | library => "Path to the native client library (native adapter only)"
  | logLevel => "Log level (trace, debug, info, warn, error)"
  | jsonLogs => "Output logs in JSON format"
  | help => "Print help"
  | version => "Print version"

/-- An option as errors call it. -/
def name (i : Item) : String :=
  "--" ++ i.long ++ (i.value.map fun v => s!" <{v}>").getD ""

end Item

/-- What is asked for on the command line. -/
structure Arguments where
  configPath : String := "launcher.toml"
  host : Option String := none
  port : Option UInt16 := none
  transport : Option TransportKind := none
  libraryPath : Option String := none
  logLevel : Option String := none
  jsonLogs : Bool := false
  deriving DecidableEq, Repr

/-- Why a command line leads to no run. -/
inductive Refusal
  | help
  | version
  | unknown (shown : String)
  | noValue (item : Item)
  | badChoice (item : Item) (value : String)
  | badNumber (item : Item) (value reason : String)
  | repeated (item : Item)
  | surplusValue (item : Item) (value : String)
  | noText
  deriving DecidableEq, Repr

/-- A command line as far as it has been read. -/
structure Draft where
  arguments : Arguments := {}
  /-- The options that have been given. -/
  given : List Item := []
  /-- An option that was named last, and its value if that has come. -/
  pending : Option (Item × Option Argument) := none
  deriving DecidableEq, Repr

/-- Reads the digits of a signed number of 64 bits after the number `n`. -/
def signedDigits (negative : Bool) (n : Nat) : List Char → Except String Nat
  | [] => .ok n
  | c :: r =>
    if !c.isDigit then .error "invalid digit found in string"
    else
      let m := 10 * n + (c.toNat - '0'.toNat)
      if negative && Nat.pow 2 63 < m then .error "number too small to fit in target type"
      else if !negative && Nat.pow 2 63 ≤ m then .error "number too large to fit in target type"
      else signedDigits negative m r

/-- Reads a signed number of 64 bits. -/
def signed (s : String) : Except String Int :=
  match s.toList with
  | [] => .error "cannot parse integer from empty string"
  | ['-'] | ['+'] => .error "invalid digit found in string"
  | '-' :: r => (signedDigits true 0 r).map fun n => -n
  | '+' :: r => (signedDigits false 0 r).map fun n => n
  | r => (signedDigits false 0 r).map fun n => n

/-- Reads a port, which is never zero. -/
def readPort (s : String) : Except String UInt16 := do
  let n ← signed s
  if 1 ≤ n ∧ n ≤ 65535 then return UInt16.ofNat n.toNat
  else throw s!"{n} is not in 1..=65535"

/-- The arguments with the value of an option. -/
def Arguments.set (a : Arguments) (i : Item) (value : String) : Except Refusal Arguments :=
  match i with
  | .config => .ok { a with configPath := value }
  | .host => .ok { a with host := some value }
  | .port =>
    match readPort value with
    | .ok p => .ok { a with port := some p }
    | .error reason => .error (.badNumber i value reason)
  | .transport =>
    match TransportKind.ofWord? value with
    | some k => .ok { a with transport := some k }
    | none => .error (if value.isEmpty then .noValue i else .badChoice i value)
  | .library => .ok { a with libraryPath := some value }
  | .logLevel => .ok { a with logLevel := some value }
  | .jsonLogs => .ok { a with jsonLogs := true }
  | .help | .version => .ok a

namespace Draft

/-- Stores an option with its value. -/
def store (d : Draft) (i : Item) (value : Argument) : Except Refusal Draft :=
  if d.given.contains i then .error (.repeated i)
  else
    match text? value with
    | none => .error .noText
    | some v => do return { d with arguments := ← d.arguments.set i v, given := i :: d.given }

/-- Finishes the option that was named last. -/
def resolve (d : Draft) : Except Refusal Draft :=
  match d.pending with
  | none => .ok d
  | some (i, none) => .error (.noValue i)
  | some (i, some v) => { d with pending := none }.store i v

/-- Takes a switch. -/
def switch (d : Draft) (i : Item) : Except Refusal Draft := do
  let d ← d.resolve
  match i with
  | .help => throw .help
  | .version => throw .version
  | i => d.store i []

/-- Takes an option, with its value if that is attached. -/
def option (d : Draft) (i : Item) (attached : Option Argument) : Except Refusal Draft := do
  let d ← d.resolve
  match attached with
  | some v => d.store i v
  | none => return { d with pending := some (i, none) }

/-- Takes a long option: its name and what follows an equals sign. -/
def long (d : Draft) (name : Argument) (attached : Option Argument) : Except Refusal Draft :=
  match Item.all.find? fun i => some i.long = text? name with
  | none => .error (.unknown ("--" ++ shown name))
  | some i =>
    if i.value.isSome then d.option i attached
    else
      match attached with
      | some v => .error (.surplusValue i (shown v))
      | none => d.switch i

/-- Takes short options that stand behind one dash. -/
def short (d : Draft) : Argument → Except Refusal Draft
  | [] => .ok d
  | none :: r => .error (.unknown ("-" ++ shown (none :: r)))
  | some c :: r =>
    match Item.all.find? fun i => i.short = some c with
    | none => .error (.unknown s!"-{c}")
    | some i =>
      if i.value.isNone then do short (← d.switch i) r
      else
        match r with
        | [] => d.option i none
        | some '=' :: v => d.option i (some v)
        | v => d.option i (some v)

/-- Takes an argument that is no option: the value that is waited for. -/
def plain (d : Draft) (a : Argument) : Except Refusal Draft :=
  match d.pending with
  | some (i, none) => .ok { d with pending := some (i, some a) }
  | _ => .error (.unknown (shown a))

end Draft

/-- A long option cut at its first equals sign. -/
def cut (a : Argument) : Argument × Option Argument :=
  match a.dropWhile (· != some '=') with
  | [] => (a, none)
  | _ :: value => (a.takeWhile (· != some '='), some value)

/-- Reads arguments one after the other. Nothing may follow two dashes that stand alone. -/
def readFrom (d : Draft) : List Argument → Except Refusal Draft
  | [] => d.resolve
  | a :: r =>
    match a with
    | [some '-', some '-'] =>
      match r with
      | [] => d.resolve
      | b :: _ => .error (.unknown (shown b))
    | some '-' :: some '-' :: l => do readFrom (← d.long (cut l).1 (cut l).2) r
    | some '-' :: c :: l => do readFrom (← d.short (c :: l)) r
    | a => do readFrom (← d.plain a) r

/-- Reads a command line without the name of the program. -/
def read (args : List Argument) : Except Refusal Arguments :=
  (readFrom {} args).map (·.arguments)

def programName : String := "xiangqi-launcher"

def versionNumber : String := "0.1.0"

def versionText : String := s!"Xiangqi Launcher {versionNumber}\n"

/-- The line of the help about an option. -/
def helpLine (i : Item) : String :=
  let head := match i.short with
    | some c => s!"  -{c}, {i.name}"
    | none => s!"      {i.name}"
  let gap := String.ofList (List.replicate (27 - head.length) ' ')
  s!"{head}{gap}{i.about}\n"

def usage : String := s!"Usage: {programName} [OPTIONS]\n"

def helpText : String :=
  "Console client that keeps a session with the Xiangqi game server\n\n" ++ usage ++ "\nOptions:\n"
    ++ String.join (Item.all.map helpLine)

/-- What an error begins with. -/
def Refusal.headline : Refusal → String
  | help => ""
  | version => ""
  | unknown s => s!"unexpected argument '{s}' found"
  | noValue i => s!"a value is required for '{i.name}' but none was supplied"
  | badChoice i v => s!"invalid value '{v}' for '{i.name}'"
  | badNumber i v reason => s!"invalid value '{v}' for '{i.name}': {reason}"
  | repeated i => s!"the argument '{i.name}' cannot be used multiple times"
  | surplusValue i v => s!"unexpected value '{v}' for '{i.name}' found; no more were expected"
  | noText => "invalid UTF-8 was detected in one or more arguments"

/-- What stands between the first and the last line of an error. -/
def Refusal.hint : Refusal → String
  | noValue .transport | badChoice .transport _ => "  [possible values: tcp, native]\n\n"
  | noValue _ | badChoice _ _ | badNumber _ _ _ => "\n"
  | _ => "\n" ++ usage ++ "\n"

/-- What is printed instead of a run. -/
def Refusal.text (r : Refusal) : String :=
  match r with
  | help => helpText
  | version => versionText
  | r => s!"error: {r.headline}\n{r.hint}For more information, try '--help'.\n"

end SessionKeeper.CommandLine
