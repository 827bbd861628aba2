import PermissionSchema.CommandLine.Options

/-!
# Arguments

How the arguments of the program, or of one of its commands, fall into options and operands. Values
are checked late: a value or operand that stands on its own is held until the next option or the end
settles it, so a request for help or the version wins over a bad command name behind it, but not
over a bad value before it.
-/

namespace PermissionSchema

/-- Why reading the arguments stops before a command can run. -/
inductive Stop where
  | refused
  /-- The version is asked for, of the program or of a command. -/
  | version (command : Option CommandName)
  /-- Help is asked for, on the program or on a command. -/
  | help (command : Option CommandName)
  deriving DecidableEq, Repr

structure Given where
  option : OptionName
  value : Option String
  deriving DecidableEq, Repr

/-- What has been read but not checked. -/
inductive Held where
  | nothing
  /-- An option and, once it has come, its value. -/
  | option (name : OptionName) (value : Option String)
  | operands (texts : List String)
  deriving DecidableEq, Repr

structure Arguments where
  given : List Given
  operands : List String
  held : Held
  /-- The next argument is the value of the held option, unless it is an option itself. -/
  awaiting : Bool
  deriving DecidableEq, Repr

namespace Arguments

def empty : Arguments := ⟨[], [], .nothing, false⟩

def has (arguments : Arguments) (option : OptionName) : Bool :=
  arguments.given.any (·.option == option)

def value? (arguments : Arguments) (option : OptionName) : Option String :=
  (arguments.given.find? (·.option == option)).bind (·.value)

/-- Add an option, which may be given only once, with a value that it accepts. -/
def give (arguments : Arguments) (option : OptionName) (value : Option String) :
    Except Stop Arguments :=
  if arguments.has option || !(value.all option.accepts) then .error .refused
  else .ok { arguments with given := arguments.given ++ [⟨option, value⟩] }

/-- Check what is held. An option must have got its value, and no operand is empty. -/
def settle (arguments : Arguments) : Except Stop Arguments :=
  let settled := { arguments with held := .nothing, awaiting := false }
  match arguments.held with
  | .nothing => .ok settled
  | .option _ none => .error .refused
  | .option name (some value) => settled.give name (some value)
  | .operands texts =>
    if texts.contains "" then .error .refused
    else .ok { settled with operands := arguments.operands ++ texts }

def takeSwitch (arguments : Arguments) (command : Option CommandName) (option : OptionName) :
    Except Stop Arguments := do
  let settled ← arguments.settle
  match option with
  | .help => .error (.help command)
  | .version => .error (.version command)
  | _ => settled.give option none

/-- Take an option with a value, which may still have to come. -/
def takeOption (arguments : Arguments) (option : OptionName) (value : Option Text) :
    Except Stop Arguments := do
  let settled ← arguments.settle
  match value with
  | some value => settled.give option (some (String.ofList value))
  | none => .ok { settled with held := .option option none, awaiting := true }

/-- The options that may stand behind a command, or before it. -/
def forms : Option CommandName → List OptionForm
  | none => OptionForm.everywhere
  | some command => OptionForm.ofCommand command

/-- Take an option by its word, with the value behind an equals sign. -/
def takeLong (arguments : Arguments) (command : Option CommandName) (text : Text) :
    Except Stop Arguments :=
  let (word, rest) := text.span (· != '=')
  match (forms command).find? (·.long == word), rest with
  | some form, _ :: value =>
    if form.hasValue then arguments.takeOption form.name (some value) else .error .refused
  | some form, [] =>
    if form.hasValue then arguments.takeOption form.name none
    else arguments.takeSwitch command form.name
  | none, _ => .error .refused

/-- Take the options of a cluster of letters. What follows the letter of an option with a value is
    that value; an equals sign may stand before it. -/
def takeShort (arguments : Arguments) (command : Option CommandName) :
    Text → Except Stop Arguments
  | [] => .ok arguments
  | letter :: rest =>
    match (forms command).find? (·.short == some letter) with
    | none => .error .refused
    | some form =>
      if form.hasValue then
        arguments.takeOption form.name <|
          match rest with
          | [] => none
          | '=' :: value => some value
          | value => some value
      else do
        let arguments ← arguments.takeSwitch command form.name
        arguments.takeShort command rest

/-- Take an operand: the program has none, `lex` one and `check` any number. -/
def takeOperand (arguments : Arguments) (command : Option CommandName) (text : String) :
    Except Stop Arguments :=
  match command, arguments.held with
  | none, _ => .error .refused
  | some .lex, .operands _ => .error .refused
  | some .check, .operands texts =>
    .ok { arguments with held := .operands (texts ++ [text]), awaiting := false }
  | some command, _ => do
    let settled ← arguments.settle
    if command = .lex && !settled.operands.isEmpty then .error .refused
    else .ok { settled with held := .operands [text] }

/-- Take an argument that is not the name of a command. -/
def take (arguments : Arguments) (command : Option CommandName) (text : String) :
    Except Stop Arguments :=
  match text.toList with
  | '-' :: '-' :: long => arguments.takeLong command long
  | '-' :: letter :: letters => arguments.takeShort command (letter :: letters)
  | _ =>
    match arguments.awaiting, arguments.held with
    | true, .option name _ =>
      .ok { arguments with held := .option name (some text), awaiting := false }
    | _, _ => arguments.takeOperand command text

/-- Take arguments up to the end; behind two dashes all of them are operands. -/
def takeAll (arguments : Arguments) (command : Option CommandName) :
    List String → Except Stop Arguments
  | [] => arguments.settle
  | "--" :: operands => do
    let arguments ← operands.foldlM (·.takeOperand command ·) arguments
    arguments.settle
  | text :: rest => do
    let arguments ← arguments.take command text
    arguments.takeAll command rest

end Arguments

end PermissionSchema
