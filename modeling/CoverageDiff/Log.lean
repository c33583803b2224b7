/-!
# CoverageDiff.Log

Messages that accompany a run, each with its weight, and results that come
with messages.
-/

namespace CoverageDiff

/-- How weighty a message is. -/
inductive LogLevel where
  /-- For tracing what happened. -/
  | debug
  /-- For information. -/
  | info
  /-- Something was ignored. -/
  | warning
  /-- Something failed. -/
  | error
  deriving DecidableEq

namespace LogLevel

/-- The word for a weight. -/
def name : LogLevel → String
  | debug => "DEBUG"
  | info => "INFO"
  | warning => "WARNING"
  | error => "ERROR"

/-- Weights as numbers; heavier is greater. -/
def rank : LogLevel → Nat
  | debug => 0
  | info => 1
  | warning => 2
  | error => 3

end LogLevel

/-- A message with its weight. -/
structure LogEntry where
  /-- How weighty it is. -/
  level : LogLevel
  /-- The message. -/
  text : String
  deriving DecidableEq

namespace LogEntry

/-- The message as it is shown. -/
def line (e : LogEntry) : String :=
  e.level.name ++ ": " ++ e.text

/-- Whether a message is at least as weighty as a threshold. -/
def passes (threshold : LogLevel) (e : LogEntry) : Bool :=
  decide (threshold.rank ≤ e.level.rank)

end LogEntry

/-- A result or a failure, and the messages on the way to it. -/
abbrev Logged (ε α : Type) := List LogEntry × Except ε α

namespace Logged

/-- A result without messages. -/
def ok {ε α : Type} (a : α) : Logged ε α :=
  ([], .ok a)

/-- A failure without messages. -/
def error {ε α : Type} (e : ε) : Logged ε α :=
  ([], .error e)

/-- Goes on with a result; the messages of both follow one another. -/
def andThen {ε α β : Type} (x : Logged ε α) (next : α → Logged ε β) : Logged ε β :=
  match x with
  | (log, .error e) => (log, .error e)
  | (log, .ok a) =>
    let (log', result) := next a
    (log ++ log', result)

/-- The same with other words for the failure. -/
def mapError {ε δ α : Type} (f : ε → δ) (x : Logged ε α) : Logged δ α :=
  (x.1, x.2.mapError f)

end Logged

end CoverageDiff
