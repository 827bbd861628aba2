import PermissionSchema.Command.Check
import PermissionSchema.Command.Dump
import PermissionSchema.CommandLine.Help
import PermissionSchema.CommandLine.Invocation
import PermissionSchema.Log.Filter

/-!
# The program

One run of the program as a value: from the arguments, the environment and the file system to the
exit status, the two output streams and the log. Settings are loaded before anything else happens;
options count more than settings.
-/

namespace PermissionSchema

structure Machine where
  files : Files
  directories : SearchDirectories
  processors : Nat
  schedule : Schedule

structure Outcome where
  status : Nat
  stdout : String
  stderr : String
  log : List LogEvent
  deriving DecidableEq, Repr

namespace Program

/-- The filter for the log: that of the environment if it makes sense, else by verbosity. -/
def logFilter (environment : Environment) (verbose : Bool) : LogFilter :=
  (environment.logFilter.bind LogFilter.parse?).getD
    (.atLeast (if verbose then .debug else .warn))

def runCommand (machine : Machine) (settings : Settings) : Command → CommandRun
  | .lex file format skipComments positions =>
    dump machine.files
      { file
        format := format.getD settings.format
        skipComments := skipComments || settings.skipComments
        positions }
  | .check paths jobs =>
    check machine.files machine.schedule { paths, jobs := jobs.getD settings.jobs }

/-- The settings that an invocation runs under. -/
def settings (machine : Machine) (invocation : Invocation) (decoder : Decoder) :
    Except SettingsError Settings :=
  match invocation.config with
  | some path => Settings.loadFrom machine.files machine.processors path decoder
  | none => Settings.load machine.files machine.directories machine.processors decoder

/-- The line that the program prints about a failure which the command has not reported itself. -/
def failureLine (failure : Failure) : String :=
  if failure.isReported then "" else s!"error: {failure.message}\n"

def runInvocation (machine : Machine) (environment : Environment) (invocation : Invocation)
    (decoder : Decoder) : Outcome :=
  match settings machine invocation decoder with
  | .error e => ⟨1, "", failureLine (.settings e), []⟩
  | .ok settings =>
    let filter := logFilter environment (invocation.verbose || settings.verbose)
    let run := runCommand machine settings invocation.command
    let log := run.log.filter filter.shows
    match run.result with
    | .ok _ => ⟨0, run.stdout, run.stderr, log⟩
    | .error failure => ⟨1, run.stdout, run.stderr ++ failureLine failure, log⟩

/-- What the program prints and exits with when it is not to run a command. -/
def runStop : Stop → Outcome
  | .refused => ⟨2, "", Help.usage, []⟩
  | .version command => ⟨0, Help.version command, "", []⟩
  | .help command => ⟨0, Help.text command, "", []⟩

def run (machine : Machine) (environment : Environment) (arguments : List String)
    (decoder : Decoder := .toml) : Outcome :=
  match Invocation.read environment arguments with
  | .error stop => runStop stop
  | .ok invocation => runInvocation machine environment invocation decoder

end Program

end PermissionSchema
