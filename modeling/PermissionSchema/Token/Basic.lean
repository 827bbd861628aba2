import PermissionSchema.Source.Position
import PermissionSchema.Token.Kind

/-!
# Tokens

A token is a stretch of a source text with its lexical category. `Token.display` is its one-line
form for people; `LexicalError` is what is left of an error token once the token stream is gone.
-/

namespace PermissionSchema

/-- A stretch of a source text with its lexical category. -/
structure Token where
  kind : Kind
  /-- The exact characters of the source, delimiters included. -/
  text : Text
  span : Span
  deriving DecidableEq, Repr

/-- A fault located in a named source. -/
structure LexicalError where
  fault : Fault
  sourceName : String
  span : Span
  deriving DecidableEq, Repr

namespace LexicalError

/-- The error in one line: source name, line, column and what went wrong. -/
def message (e : LexicalError) : String :=
  s!"{e.sourceName}:{e.span.line}:{e.span.column}: {e.fault.message}"

end LexicalError

namespace Token

/-- Longer texts are cut to this many characters in a token's one-line form. -/
def displayLimit : Nat := 24

/-- The one-line form of a token: its category and its quoted text. The end of input has no text,
    and for an error the fault says more than the text. -/
def display (token : Token) : String :=
  match token.kind with
  | .endOfInput => token.kind.name
  | .error fault => s!"{token.kind.name}({fault.message})"
  | kind => s!"{kind.name}({String.ofList (Quoted.cut displayLimit token.text)})"

/-- The error that a token of the named source stands for, if it stands for one. -/
def error? (token : Token) (sourceName : String) : Option LexicalError :=
  token.kind.fault?.map fun fault => ⟨fault, sourceName, token.span⟩

end Token

end PermissionSchema
