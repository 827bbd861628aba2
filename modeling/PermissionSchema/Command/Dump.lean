import PermissionSchema.Command.Failure
import PermissionSchema.Json
import PermissionSchema.Token.Lexer

/-!
# Token dumps

The command that prints the tokens of one source file, as text with a token a line or as a JSON
array with an object a token. The dump of a faulty source ends with the error token, and the
diagnostic follows apart from it.
-/

namespace PermissionSchema

structure DumpOptions where
  file : String
  format : DumpFormat
  skipComments : Bool
  /-- Put the line and column before each token of a text dump. -/
  positions : Bool
  deriving DecidableEq, Repr

namespace Token

def line (token : Token) (positions : Bool) : String :=
  if positions then s!"{token.span.line}:{token.span.column} {token.display}" else token.display

/-- The object of a token in a JSON dump; only errors have a message. -/
def toJson (token : Token) : Json :=
  .object <|
    [("kind".toList, .string token.kind.name.toList),
      ("text".toList, .string token.text),
      ("offset".toList, .number token.span.start),
      ("line".toList, .number token.span.line),
      ("column".toList, .number token.span.column)] ++
    (token.kind.fault?.map fun fault => ("message".toList, Json.string fault.message.toList)).toList

end Token

def dumpTokens (tokens : List Token) (format : DumpFormat) (positions : Bool) : String :=
  match format with
  | .text => String.join (tokens.map fun token => token.line positions ++ "\n")
  | .json => String.ofList (Json.pretty (.array (tokens.map Token.toJson))) ++ "\n"

/-- The tokens that a dump holds, and what lexing them reports. -/
def dumpedTokens (source : SourceFile) (skipComments : Bool) : List Token × List LogEvent :=
  let lexer := Lexer.ofSource source.name source.content
  if skipComments then
    let (tokens, kept) := lexer.skipComments.drain
    (tokens, kept.lexer.log)
  else
    let (tokens, lexer) := lexer.drain
    (tokens, lexer.log)

def dump (files : Files) (options : DumpOptions) : CommandRun :=
  match readSource files options.file with
  | .error e => ⟨"", renderUnreadable options.file e, [], .error (.unreadable options.file)⟩
  | .ok source =>
    let (tokens, log) := dumpedTokens source options.skipComments
    let stdout := dumpTokens tokens options.format options.positions
    let log := log ++ [.fileLexed source.name tokens.length]
    match tokens.getLast?.bind (·.error? source.name) with
    | some e => ⟨stdout, e.diagnostic.render source, log, .error (.lexical e)⟩
    | none => ⟨stdout, "", log, .ok tokens.length⟩

end PermissionSchema
