import PermissionSchema.Command.Failure
import PermissionSchema.Token.Lexer
import PermissionSchema.WorkerPool

/-!
# Checks

The command that looks for lexical errors in many source files, several at a time. It prints a
diagnostic for every file that fails, in the order in which the files were given, and a summary.
What the lexers report while they run beside each other is not part of its log.
-/

namespace PermissionSchema

structure CheckOptions where
  paths : List String
  jobs : Nat
  deriving DecidableEq, Repr

inductive Verdict where
  /-- The file has so many tokens and no lexical error. -/
  | clean (tokens : Nat)
  | faulty (diagnostic : Diagnostic) (source : SourceFile)
  /-- The file cannot be read, for which this is the printed diagnostic. -/
  | unreadable (rendered : String)

namespace Verdict

def report : Verdict → String
  | .clean _ => ""
  | .faulty diagnostic source => diagnostic.render source
  | .unreadable rendered => rendered

/-- The diagnostic of a lexical error, which is counted by its level. -/
def diagnostic? : Verdict → Option Diagnostic
  | .faulty diagnostic _ => some diagnostic
  | _ => none

def isUnreadable : Verdict → Bool
  | .unreadable _ => true
  | _ => false

def log (path : String) : Verdict → List LogEvent
  | .clean tokens => [.fileClean path tokens]
  | _ => []

end Verdict

def checkFile (files : Files) (path : String) : Verdict :=
  match readSource files path with
  | .error e => .unreadable (renderUnreadable path e)
  | .ok source =>
    match tokenizeAll source.name source.content with
    | .ok tokens => .clean tokens.length
    | .error e => .faulty e.diagnostic source

def checkSummary (total failed : Nat) : String :=
  s!"checked {total} file(s): {total - failed} ok, {failed} failed\n"

/-- Check files, which may be finished in any order. -/
def check (files : Files) (schedule : Schedule) (options : CheckOptions) : CommandRun :=
  if options.paths.isEmpty then ⟨"", "", [], .error .noInput⟩
  else
    let verdicts := WorkerPool.results options.jobs schedule (checkFile files) options.paths
    let total := options.paths.length
    let failed := Diagnostic.errorCount (verdicts.filterMap Verdict.diagnostic?) +
      verdicts.countP (·.isUnreadable)
    let reports := String.join (verdicts.map Verdict.report)
    let log := (options.paths.zip verdicts).flatMap fun (path, verdict) => verdict.log path
    { stdout := ""
      stderr := reports ++ checkSummary total failed
      log := log ++ [.checkFinished total failed]
      result := if failed > 0 then .error (.filesFailed failed) else .ok total }

end PermissionSchema
