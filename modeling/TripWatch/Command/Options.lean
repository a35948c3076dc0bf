import TripWatch.Number.Literal

/-!
# Options of the command line

The settings that the program is started with: its port, its configuration and its store. Each is
given by an argument or else by a variable of the environment, which is not looked at if there is an
argument. Arguments are read from left to right, and the first that is wrong ends the reading, as
does the wish for help.

## Main definitions

* `Options`, `Options.ofCommand` — reads arguments and environment
* `UsageFault` — what can be wrong with them
-/

namespace TripWatch.Command

/-- What can be set. -/
inductive Setting where
  /-- The port on which requests are answered. -/
  | port
  /-- The file of the configuration. -/
  | config
  /-- The file of the store. -/
  | store
  deriving DecidableEq, Repr

namespace Setting

/-- All settings. -/
def all : List Setting := [port, config, store]

/-- The long name of a setting. -/
def name : Setting → String
  | port => "port"
  | config => "config"
  | store => "store"

/-- The one-letter name of a setting. -/
def letter : Setting → Char
  | port => 'p'
  | config => 'c'
  | store => 's'

/-- The variable of the environment that stands in for the argument. -/
def variableName : Setting → String
  | port => "SERVER_PORT"
  | config => "TRIP_MONITOR_CONFIG"
  | store => "TRIP_MONITOR_STORE"

end Setting

/-- What can be wrong with the arguments or the environment. -/
inductive UsageFault where
  /-- There is no such argument. -/
  | unexpected (argument : String)
  /-- A setting is given twice. -/
  | repeated (setting : Setting)
  /-- A setting has no value. -/
  | missingValue (setting : Setting)
  /-- A setting has a value that it cannot have. -/
  | badValue (setting : Setting) (value : String)
  deriving DecidableEq, Repr

/-- The wording of a fault. -/
def UsageFault.message : UsageFault → String
  | unexpected argument => "unexpected argument '" ++ argument ++ "' found"
  | repeated s => "the argument '--" ++ s.name ++ "' cannot be used multiple times"
  | missingValue s => "a value is required for '--" ++ s.name ++ "' but none was supplied"
  | badValue s value => "invalid value '" ++ value ++ "' for '--" ++ s.name ++ "'"

/-- The settings that have been given. -/
structure Given where
  /-- The port. -/
  port : Option UInt16 := none
  /-- The file of the configuration. -/
  config : Option String := none
  /-- The file of the store. -/
  store : Option String := none
  deriving DecidableEq, Repr

/-- Reads the number of a port. -/
def portOfText? (s : String) : Option UInt16 :=
  (intOfText? s.toList).bind fun n =>
    if 0 ≤ n ∧ n < 65536 then some (UInt16.ofNat n.toNat) else none

namespace Given

/-- Whether a setting has been given. -/
def has (g : Given) : Setting → Bool
  | .port => g.port.isSome
  | .config => g.config.isSome
  | .store => g.store.isSome

/-- Gives a setting a value. A path is any text but the empty one. -/
def set (g : Given) (s : Setting) (value : String) : Except UsageFault Given :=
  match s with
  | .port =>
    match portOfText? value with
    | some n => .ok { g with port := some n }
    | none => .error (.badValue s value)
  | .config =>
    if value = "" then .error (.badValue s value) else .ok { g with config := some value }
  | .store =>
    if value = "" then .error (.badValue s value) else .ok { g with store := some value }

/-- Gives a setting the value of an argument. -/
def setOnce (g : Given) (s : Setting) (value : String) : Except UsageFault Given :=
  if g.has s then .error (.repeated s) else g.set s value

/-- Gives a setting that has no value yet that of its variable, if there is one. -/
def setFrom (environment : String → Option String) (g : Given) (s : Setting) :
    Except UsageFault Given :=
  if g.has s then .ok g
  else match environment s.variableName with
    | some value => g.set s value
    | none => .ok g

end Given

/-- What an argument is by its form. -/
inductive Argument where
  /-- The wish for help. -/
  | help
  /-- A setting, with its value or to be followed by it. -/
  | setting (s : Setting) (value : Option String)
  /-- The end of the options. -/
  | terminator
  /-- Anything else. -/
  | other
  deriving DecidableEq, Repr

namespace Argument

/-- The argument that is given by its long name. -/
def ofLong (cs : List Char) : Argument :=
  let (name, rest) := cs.span (· ≠ '=')
  match Setting.all.find? fun s => s.name.toList = name with
  | some s =>
    match rest with
    | [] => .setting s none
    | _ :: value => .setting s (some (String.ofList value))
  | none => if cs = "help".toList then .help else .other

/-- The argument that is given by its letter, with or without an equals sign before the value. -/
def ofShort (letter : Char) (rest : List Char) : Argument :=
  match Setting.all.find? fun s => s.letter = letter with
  | some s =>
    match rest with
    | [] => .setting s none
    | '=' :: value => .setting s (some (String.ofList value))
    | value => .setting s (some (String.ofList value))
  | none => if letter = 'h' then .help else .other

/-- Reads the form of an argument. -/
def ofText (s : String) : Argument :=
  match s.toList with
  | ['-', '-'] => .terminator
  | '-' :: '-' :: cs => ofLong cs
  | '-' :: letter :: rest => ofShort letter rest
  | _ => .other

end Argument

/-- Whether an argument may be the value of the one before it. A hyphen alone may. -/
def isValue (s : String) : Bool :=
  match s.toList with
  | '-' :: _ :: _ => false
  | _ => true

/-- Reads arguments from left to right. There are no settings if help is wished for. -/
def readArguments (g : Given) : List String → Except UsageFault (Option Given)
  | [] => .ok (some g)
  | argument :: rest =>
    match Argument.ofText argument with
    | .help => .ok none
    | .other => .error (.unexpected argument)
    | .terminator =>
      match rest with
      | [] => .ok (some g)
      | extra :: _ => .error (.unexpected extra)
    | .setting s (some value) =>
      match g.setOnce s value with
      | .ok g => readArguments g rest
      | .error fault => .error fault
    | .setting s none =>
      match rest with
      | [] => .error (.missingValue s)
      | value :: rest =>
        if isValue value then
          match g.setOnce s value with
          | .ok g => readArguments g rest
          | .error fault => .error fault
        else .error (.missingValue s)

/-- The settings of a run. -/
structure Options where
  /-- The port on which requests are answered. -/
  port : UInt16
  /-- The file of the configuration. -/
  configPath : Option String
  /-- The file of the store. -/
  storePath : String
  deriving DecidableEq, Repr

namespace Options

/-- The settings where some have been given. -/
def ofGiven (g : Given) : Options := ⟨g.port.getD 8080, g.config, g.store.getD "trip_store.json"⟩

/-- Reads arguments and environment. There are no settings if help is wished for. -/
def ofCommand (arguments : List String) (environment : String → Option String) :
    Except UsageFault (Option Options) := do
  match ← readArguments {} arguments with
  | none => return none
  | some g => return some (ofGiven (← Setting.all.foldlM (Given.setFrom environment) g))

/-- The text that helps to start the program. -/
def help : String :=
  "Monitors saved transit trips and guides riders along them\n\n" ++
  "Usage: trip-monitor [OPTIONS]\n\n" ++
  "Options:\n" ++
  "  -p, --port <PORT>      Port to run the HTTP server on [env: SERVER_PORT=] [default: 8080]\n" ++
  "  -c, --config <CONFIG>  JSON configuration file; defaults apply when omitted " ++
  "[env: TRIP_MONITOR_CONFIG=]\n" ++
  "  -s, --store <STORE>    JSON file holding trips, users and journey states " ++
  "[env: TRIP_MONITOR_STORE=] [default: trip_store.json]\n" ++
  "  -h, --help             Print help\n"

end Options

end TripWatch.Command
