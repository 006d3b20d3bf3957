import ClosedLoop.Event
import ClosedLoop.Text.Quoted

/-!
# Log entries

The events of a loop as structured log entries: a level, a message and named values. Every entry
carries the name of the device, which is the one of the last start and empty before it. A drift has
one entry for the whole and one for each field. The delay of a wait is given in whole milliseconds,
of which 64 bits are kept.

A line of the log has the values behind the message; texts that are part of the program's own
vocabulary are quoted, and values shown as they are told are not.
-/

namespace ClosedLoop.Report

open Text

/-- How serious an entry is, from the most serious on. -/
inductive Level where
  | error
  | warn
  | info
  | debug
  | trace
  deriving DecidableEq, Repr

namespace Level

def name : Level → String
  | error => "ERROR"
  | warn => "WARN"
  | info => "INFO"
  | debug => "DEBUG"
  | trace => "TRACE"

/-- The place in the order, from 1. -/
def rank : Level → Nat
  | error => 1
  | warn => 2
  | info => 3
  | debug => 4
  | trace => 5

end Level

/-- A value in an entry. -/
inductive LogValue where
  | number (n : Nat)
  | flag (b : Bool)
  /-- A text that a line quotes. -/
  | quoted (text : String)
  /-- A text that a line shows as it is. -/
  | shown (text : String)
  deriving DecidableEq, Repr

def LogValue.text : LogValue → String
  | number n => Decimal.text n
  | flag b => boolText b
  | quoted text => Quoted.encode text
  | shown text => text

/-- An entry of the log. -/
structure LogEntry where
  level : Level
  message : String
  fields : List (String × LogValue)
  deriving DecidableEq, Repr

/-- The part of the program that all entries name as their target. -/
def logTarget : String := "netloop_reconcile_runner"

namespace LogEntry

/-- The line of an entry behind its time. -/
def line (entry : LogEntry) : String :=
  entry.level.name ++ " " ++ logTarget ++ ": " ++ entry.message ++
    String.join (entry.fields.map fun field => " " ++ field.1 ++ "=" ++ field.2.text)

end LogEntry

/-- The device that entries are about behind an event. -/
def deviceAfter (device : String) : Event → String
  | .start name _ => name
  | _ => device

/-- The values that describe a state. -/
def stateFields (state : OperationalState) : List (String × LogValue) :=
  [("service", .shown state.service), ("port", .number state.port.toNat), ("tls", .flag state.tls)]

/-- The entries of one event, but for the device. -/
def entryBodies : Event → List LogEntry
  | .start _ intent =>
    [⟨.info, "starting closed-loop enforcement",
      [("service", .quoted intent.service), ("port", .number intent.port.toNat),
        ("tls", .flag intent.tls)]⟩]
  | .iteration number =>
    [⟨.debug, "retrieving operational state", [("iteration", .number number)]⟩]
  | .compliant number state =>
    [⟨.info, "compliant, no action needed", ("iteration", .number number) :: stateFields state⟩]
  | .drift number fields =>
    ⟨.warn, "drift detected, applying intent",
      [("iteration", .number number), ("fields", .number fields.length)]⟩ ::
    fields.map fun field =>
      ⟨.info, "field drift",
        [("iteration", .number number), ("field", .quoted field.field.name),
          ("observed", .shown field.observed), ("desired", .shown field.desired)]⟩
  | .applied number state =>
    [⟨.info, "configuration applied", ("iteration", .number number) :: stateFields state⟩]
  | .applyFailed number error failures =>
    [⟨.error, "apply failed, device state unchanged",
      [("iteration", .number number), ("consecutive_failures", .number failures),
        ("error", .shown error.message)]⟩]
  | .readFailed number error =>
    [⟨.warn, "operational state unknown, skipping apply",
      [("iteration", .number number), ("error", .shown error.message)]⟩]
  | .waiting delay =>
    [⟨.debug, "waiting for next iteration", [("delay_ms", .number (delay.millis % UInt64.size))]⟩]
  | .stopped summary =>
    [⟨.info, "enforcement loop stopped",
      [("iterations", .number summary.iterations), ("applies", .number summary.applies),
        ("apply_failures", .number summary.applyFailures),
        ("read_failures", .number summary.readFailures)]⟩]

/-- The entries of one event for the device they are about. -/
def entries (device : String) (event : Event) : List LogEntry :=
  (entryBodies event).map fun entry =>
    { entry with fields := ("device", .shown device) :: entry.fields }

/-- The entries of a sequence of events, event by event. -/
def log (device : String) : List Event → List (List LogEntry)
  | [] => []
  | event :: rest =>
    let device := deviceAfter device event
    entries device event :: log device rest

end ClosedLoop.Report
