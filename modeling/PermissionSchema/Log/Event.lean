import PermissionSchema.Token.Kind

/-!
# Log events

What the program reports about its own work, apart from its results. An event is a value; whether
it is shown is up to a filter.
-/

namespace PermissionSchema

/-- How much an event matters, the most important first. -/
inductive Severity where
  | error
  | warn
  | info
  | debug
  | trace
  deriving DecidableEq, Repr

namespace Severity

def name : Severity → String
  | .error => "ERROR"
  | .warn => "WARN"
  | .info => "INFO"
  | .debug => "DEBUG"
  | .trace => "TRACE"

/-- The number of severities up to this one, by which severities are compared. -/
def rank : Severity → Nat
  | .error => 1
  | .warn => 2
  | .info => 3
  | .debug => 4
  | .trace => 5

end Severity

inductive LogEvent where
  | lexingStopped (source : String) (line column : Nat) (fault : Fault)
  | inputEnded (source : String) (offset line : Nat)
  | fileLexed (file : String) (tokens : Nat)
  | fileClean (file : String) (tokens : Nat)
  | checkFinished (files failed : Nat)
  deriving DecidableEq, Repr

inductive LogValue where
  | text (content : String)
  | number (n : Nat)
  deriving DecidableEq, Repr

def LogValue.print : LogValue → String
  | .text content => content
  | .number n => toString n

namespace LogEvent

def severity : LogEvent → Severity
  | .lexingStopped .. | .fileLexed .. | .fileClean .. => .debug
  | .inputEnded .. => .trace
  | .checkFinished .. => .info

def message : LogEvent → String
  | .lexingStopped .. => "lexing stopped on error"
  | .inputEnded .. => "reached end of input"
  | .fileLexed .. => "lexed file"
  | .fileClean .. => "file is clean"
  | .checkFinished .. => "check finished"

/-- The part of the program that an event comes from, by which filters select events. -/
def origin : LogEvent → String
  | .lexingStopped .. | .inputEnded .. => "opl_lex::lexer::core"
  | .fileLexed .. => "oplt::commands::lex"
  | .fileClean .. | .checkFinished .. => "oplt::commands::check"

def fields : LogEvent → List (String × LogValue)
  | .lexingStopped source line column fault =>
    [("source", .text source), ("line", .number line), ("column", .number column),
      ("error", .text fault.message)]
  | .inputEnded source offset line =>
    [("source", .text source), ("offset", .number offset), ("line", .number line)]
  | .fileLexed file tokens =>
    [("command", .text "lex"), ("file", .text file), ("tokens", .number tokens)]
  | .fileClean file tokens => [("file", .text file), ("tokens", .number tokens)]
  | .checkFinished files failed =>
    [("command", .text "check"), ("files", .number files), ("failed", .number failed)]

/-- Whether an event comes at the end of work that is timed. -/
def isTimed : LogEvent → Bool
  | .fileLexed .. | .checkFinished .. => true
  | _ => false

/-- Whether an event has a field of a name. The message is a field, and so is the time that timed
    work took. -/
def hasField (event : LogEvent) (name : Text) : Bool :=
  (event.fields.any fun field => field.1.toList == name) || name == "message".toList ||
    (event.isTimed && name == "elapsed_ms".toList)

def line (event : LogEvent) : String :=
  let fields := event.fields.map fun (name, value) => s!" {name}={value.print}"
  s!"{event.severity.name} {event.message}{String.join fields}"

end LogEvent

end PermissionSchema
