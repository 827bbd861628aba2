import PermissionSchema.Log.Event
import PermissionSchema.Report.Diagnostic
import PermissionSchema.Settings

/-!
# Failures

Why a source file cannot be read, why a command fails, and what a command leaves behind.
-/

namespace PermissionSchema

inductive ReadError where
  | missing (path : String)
  | notAFile (path : String)
  | failed (path reason : String)
  deriving DecidableEq, Repr

def ReadError.message : ReadError → String
  | .missing path => s!"File operation failed: Input path does not exist: {path}"
  | .notAFile path => s!"File operation failed: Input path is not a file: {path}"
  | .failed path reason => s!"File operation failed: {path}: {reason}"

def SettingsError.message : SettingsError → String
  | .notFound path => s!"Configuration error: Configuration file not found: {path}"
  | .unreadable reason => s!"IO error: {reason}"
  | .malformed none => "Configuration error: Failed to parse configuration"
  | .malformed (some explanation) =>
    s!"Configuration error: Failed to parse configuration: {explanation}"
  | .noJobs => "Configuration error: check.jobs must be at least 1"

theorem SettingsError.message_malformed (explanation : String) :
    (malformed (some explanation)).message =
      "Configuration error: Failed to parse configuration: " ++ explanation :=
  rfl

/-- The source file at a path; the path is also its name. -/
def readSource (files : Files) (path : String) : Except ReadError SourceFile :=
  match files path with
  | .missing => .error (.missing path)
  | .directory => .error (.notAFile path)
  | entry =>
    match entry.text with
    | .ok content => .ok ⟨path, content⟩
    | .error reason => .error (.failed path reason)

/-- The diagnostic for a path that cannot be read, as it is printed. -/
def renderUnreadable (path : String) (e : ReadError) : String :=
  let diagnostic : Diagnostic :=
    { Diagnostic.ofMessage .error s!"could not read `{path}`" with
      code := some .unreadableInput
      notes := [e.message] }
  diagnostic.render ⟨path, []⟩

inductive Failure where
  | settings (e : SettingsError)
  | noInput
  /-- So many files of a check cannot be read or have a lexical error. -/
  | filesFailed (count : Nat)
  | lexical (e : LexicalError)
  | unreadable (path : String)
  deriving DecidableEq, Repr

namespace Failure

def message : Failure → String
  | .settings e => e.message
  | .noInput => "Validation error: No input files specified"
  | .filesFailed count => s!"Validation error: {count} file(s) failed to lex"
  | .lexical e => e.message
  | .unreadable path => s!"could not read `{path}`"

/-- Whether the command has printed a diagnostic that says it all. -/
def isReported : Failure → Bool
  | .lexical _ | .unreadable _ => true
  | _ => false

end Failure

/-- What a command prints, reports and results in. -/
structure CommandRun where
  stdout : String
  stderr : String
  log : List LogEvent
  /-- The number of items that the command has processed, if it succeeds. -/
  result : Except Failure Nat

end PermissionSchema
