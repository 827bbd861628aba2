import PermissionSchema.CommandLine.Arguments

/-!
# Invocations

What the program is asked to do, by its arguments and its environment. Options of the program may
stand before or behind the command; behind it they count more, and on the command line they count
more than in the environment. A variable must make sense wherever no argument speaks in its place.
-/

namespace PermissionSchema

/-- The environment variables that the program listens to. -/
structure Environment where
  config : Option String
  verbose : Option String
  noColor : Option String
  logFilter : Option String
  deriving DecidableEq, Repr

inductive Command where
  | lex (file : String) (format : Option DumpFormat) (skipComments positions : Bool)
  | check (paths : List String) (jobs : Option Nat)
  deriving DecidableEq, Repr

structure Invocation where
  verbose : Bool
  noColor : Bool
  config : Option String
  command : Command
  deriving DecidableEq, Repr

namespace CommandName

def text : CommandName → String
  | .lex => "lex"
  | .check => "check"

def ofText? (text : String) : Option CommandName := [.lex, .check].find? (·.text == text)

end CommandName

/-- Check the variables that count because no argument speaks in their place. -/
def Environment.settle (environment : Environment) (arguments : Arguments) : Except Stop Unit :=
  let makesSense (option : OptionName) (valid : String → Bool) (value : Option String) : Bool :=
    arguments.has option || value.all valid
  if makesSense .verbose (fun value => (switch? value).isSome) environment.verbose &&
      makesSense .config OptionName.config.accepts environment.config &&
      makesSense .noColor (fun value => (switch? value).isSome) environment.noColor then
    .ok ()
  else .error .refused

/-- The command that its arguments describe; a command needs an operand. -/
def Arguments.command (arguments : Arguments) : CommandName → Except Stop Command
  | .lex =>
    match arguments.operands with
    | [file] =>
      .ok (.lex file ((arguments.value? .format).bind DumpFormat.ofName?)
        (arguments.has .skipComments) (arguments.has .positions))
    | _ => .error .refused
  | .check =>
    if arguments.operands.isEmpty then .error .refused
    else .ok (.check arguments.operands ((arguments.value? .jobs).bind jobs?))

namespace Invocation

/-- The command of which help is asked for by name. -/
def helpStop : List String → Stop
  | [] => .help none
  | [name] =>
    match CommandName.ofText? name with
    | some command => .help (some command)
    | none => if name = "help" then .help none else .refused
  | _ => .refused

/-- Put together what was said before and behind the name of a command. -/
def assemble (environment : Environment) (before behind : Arguments) (command : Command) :
    Invocation :=
  let given (option : OptionName) (value : Option String) : Bool :=
    before.has option || behind.has option || (value.bind switch?).getD false
  { verbose := given .verbose environment.verbose
    noColor := given .noColor environment.noColor
    config := behind.value? .config <|> before.value? .config <|> environment.config
    command }

/-- Read what follows the name of a command. -/
def readCommand (environment : Environment) (before : Arguments) (name : CommandName)
    (rest : List String) : Except Stop Invocation := do
  let behind ← Arguments.empty.takeAll (some name) rest
  environment.settle behind
  let command ← behind.command name
  let before ← before.settle
  environment.settle before
  .ok (assemble environment before behind command)

/-- Read the arguments from the first on that has not been taken. -/
def readFrom (environment : Environment) (before : Arguments) :
    List String → Except Stop Invocation
  | [] => .error .refused
  | text :: rest =>
    match before.awaiting, CommandName.ofText? text with
    | false, some name => readCommand environment before name rest
    | awaiting, _ =>
      if !awaiting && text = "help" then .error (helpStop rest)
      else if text = "--" then .error .refused
      else do
        let before ← before.take none text
        readFrom environment before rest

/-- What the arguments and the environment ask for; a command is needed. -/
def read (environment : Environment) (arguments : List String) : Except Stop Invocation :=
  readFrom environment .empty arguments

end Invocation

end PermissionSchema
