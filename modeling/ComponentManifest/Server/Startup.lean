import ComponentManifest.Report.Event
import ComponentManifest.Unicode.Blank
import ComponentManifest.Unicode.Digit

/-!
# Starting the server

The server talks over its standard streams, or over HTTP when the environment asks for it. Where
reports go depends on that: the standard output belongs to the protocol unless HTTP is used.

1. Where a report goes.
2. Reading a port number.
3. The start.
-/

namespace ComponentManifest.Server

open Text (ofString)

/-! ## Reports -/

/-- A standard stream. -/
inductive Stream where
  | output
  | error
  deriving DecidableEq, Repr

/-- The mode in which HTTP is used. -/
def httpMode : Text := ofString "http"

/-- Where a report of a level goes; debug reports go nowhere. -/
def route (mode : Text) (level : Level) : Option Stream :=
  if level.rank < Level.info.rank then none
  else if mode = httpMode ∧ level.rank < Level.error.rank then some .output
  else some .error

/-- A report: who makes it, its level and its message. -/
structure Record where
  logger : Text
  level : Level
  message : Text
  deriving DecidableEq, Repr

/-- The name of the logger that has no other name. -/
def rootLogger : Text := ofString "root"

/-- The name that a report shows. -/
def Record.source (r : Record) : Text := if r.logger.isEmpty then rootLogger else r.logger

/-- The line of a report. -/
def Record.line (r : Record) : Text :=
  r.source ++ ofString " - " ++ r.level.name ++ ofString " - " ++ r.message ++ ['\n']

/-- What reports write to a stream. -/
def written (mode : Text) (stream : Stream) (records : List Record) : Text :=
  (records.filter fun r => route mode r.level == some stream).flatMap Record.line

/-! ## Port numbers -/

/-- The number that digits of any script write; single low lines may stand between digits.
`acc` is the number so far, and `digit` says whether a digit has just been read. -/
def readDigits (acc : Nat) (digit : Bool) : Text → Option Nat
  | [] => if digit then some acc else none
  | c :: cs =>
    match Unicode.digitValue? c with
    | some d => readDigits (acc * 10 + d) true cs
    | none => if c = '_' ∧ digit then readDigits acc false cs else none

/-- White space that may stand around a number; the information separators may not. -/
def isPadding (c : Char) : Bool := Unicode.isBlank c && !('\x1c' ≤ c && c ≤ '\x1f')

/-- The integer that a text writes: white space around it, an optional sign, digits. -/
def readInteger? (t : Text) : Option Int :=
  match Text.trim isPadding t with
  | '-' :: ds => (readDigits 0 false ds).map fun n => -(n : Int)
  | '+' :: ds => (readDigits 0 false ds).map fun n => (n : Int)
  | ds => (readDigits 0 false ds).map fun n => (n : Int)

/-! ## The start -/

/-- The settings in the environment; each may be missing. -/
structure Environment where
  transport : Option Text
  host : Option Text
  port : Option Text
  deriving DecidableEq, Repr

/-- How the server runs: over its standard streams, or at a host and port. -/
inductive Endpoint where
  | streams
  | network (host : Text) (port : Int)
  deriving DecidableEq, Repr

/-- The mode that the environment asks for. -/
def Environment.mode (e : Environment) : Text := e.transport.getD (ofString "stdio")

/-- The port, unless its setting is no integer. -/
def Environment.portNumber (e : Environment) : Except Fault Int :=
  match e.port with
  | none => .ok 8080
  | some t =>
    match readInteger? t with
    | some n => .ok n
    | none => .error (.notInteger t)

/-- The endpoint that the environment asks for, which is reported. -/
def start (e : Environment) : Outcome Endpoint :=
  if e.mode = httpMode then do
    let host := e.host.getD (ofString "127.0.0.1")
    let port ← Outcome.ofExcept e.portNumber
    Outcome.report (.serverStarting (some (host, port)))
    return .network host port
  else do
    Outcome.report (.serverStarting none)
    return .streams

/-- The reports of the start, made in the name of the root logger. -/
def records (events : List Event) : List Record :=
  events.map fun e => ⟨rootLogger, e.level, e.message⟩

end ComponentManifest.Server
