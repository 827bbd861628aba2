import PermissionSchema.Report.Snippet
import PermissionSchema.Token.Basic

/-!
# Diagnostics

A `Diagnostic` is a message for the author of a schema: how bad it is, what is wrong, where, and
what may help. `Diagnostic.render` writes it out against the source file it is about.
-/

namespace PermissionSchema

inductive Level where
  | error
  | warning
  | note
  | help
  deriving DecidableEq, Repr

def Level.name : Level → String
  | .error => "error"
  | .warning => "warning"
  | .note => "note"
  | .help => "help"

/-- The stable number of a kind of diagnostic, within a family of numbers. -/
structure DiagnosticCode where
  family : String
  number : Nat
  deriving DecidableEq, Repr

namespace DiagnosticCode

def unexpectedCharacter : DiagnosticCode := ⟨"E", 1⟩
def unterminatedString : DiagnosticCode := ⟨"E", 2⟩
def unterminatedComment : DiagnosticCode := ⟨"E", 3⟩
def unreadableInput : DiagnosticCode := ⟨"E", 100⟩

/-- The family and the number, filled up with zeros to four digits. -/
def text (code : DiagnosticCode) : String :=
  let digits := Nat.toDigits 10 code.number
  code.family ++ String.ofList (List.replicate (4 - digits.length) '0' ++ digits)

/-- The code with the name of what it is. -/
def summary (code : DiagnosticCode) : String := s!"DiagnosticCode({code.text})"

end DiagnosticCode

structure Diagnostic where
  level : Level
  message : String
  span : Span
  code : Option DiagnosticCode
  notes : List String
  helps : List String
  deriving DecidableEq, Repr

namespace Diagnostic

/-- A diagnostic that is about no place in particular and says nothing more. -/
def ofMessage (level : Level) (message : String) : Diagnostic :=
  ⟨level, message, .nowhere, none, [], []⟩

def errorCount (diagnostics : List Diagnostic) : Nat :=
  diagnostics.countP (·.level == .error)

/-- The lines of a rendered diagnostic, of which the snippet makes two: what is wrong, where, the
    source line, and what else there is to say. -/
def lines (diagnostic : Diagnostic) (file : SourceFile) : List String :=
  let code := match diagnostic.code with
    | some code => s!"[{code.text}]"
    | none => ""
  let place :=
    if diagnostic.span = .nowhere then []
    else [s!"  --> {file.name}:{diagnostic.span.line}:{diagnostic.span.column}"]
  [s!"{diagnostic.level.name}{code}: {diagnostic.message}"] ++ place ++
    (Snippet.ofSpan? file diagnostic.span).toList.map Snippet.format ++
    diagnostic.notes.map (fun note => s!"  = note: {note}") ++
    diagnostic.helps.map (fun help => s!"  = help: {help}")

def render (diagnostic : Diagnostic) (file : SourceFile) : String :=
  String.join ((diagnostic.lines file).map (· ++ "\n"))

end Diagnostic

def Fault.code : Fault → DiagnosticCode
  | .unterminatedComment => .unterminatedComment
  | .unterminatedString => .unterminatedString
  | .unexpectedCharacter _ => .unexpectedCharacter

def LexicalError.diagnostic (e : LexicalError) : Diagnostic where
  level := .error
  message := e.fault.message
  span := e.span
  code := some e.fault.code
  notes := []
  helps := e.fault.help?.toList

end PermissionSchema
