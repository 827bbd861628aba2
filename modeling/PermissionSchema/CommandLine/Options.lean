import PermissionSchema.Settings
import PermissionSchema.Text.Numeral

/-!
# Command-line options

The options of the program and of its two commands: how each is written, and which values it takes.
-/

namespace PermissionSchema

/-- The options, by what they ask for. -/
inductive OptionName where
  | verbose
  | config
  | noColor
  | format
  | skipComments
  | positions
  | jobs
  | help
  | version
  deriving DecidableEq, Repr

inductive CommandName where
  | lex
  | check
  deriving DecidableEq, Repr

structure OptionForm where
  name : OptionName
  /-- The word behind two dashes. -/
  long : Text
  /-- The letter behind one dash. -/
  short : Option Char
  hasValue : Bool
  deriving DecidableEq, Repr

namespace OptionForm

/-- The options that may stand anywhere. -/
def everywhere : List OptionForm :=
  [⟨.verbose, "verbose".toList, some 'v', false⟩,
    ⟨.config, "config".toList, some 'c', true⟩,
    ⟨.noColor, "no-color".toList, none, false⟩,
    ⟨.help, "help".toList, some 'h', false⟩,
    ⟨.version, "version".toList, some 'V', false⟩]

/-- The options that may stand behind a command. -/
def ofCommand : CommandName → List OptionForm
  | .lex =>
    [⟨.format, "format".toList, some 'F', true⟩,
      ⟨.skipComments, "skip-comments".toList, none, false⟩,
      ⟨.positions, "positions".toList, some 'p', false⟩] ++ everywhere
  | .check => ⟨.jobs, "jobs".toList, some 'j', true⟩ :: everywhere

end OptionForm

/-- The number of jobs that a text gives: a decimal number, perhaps behind a plus sign, between one
    and the greatest number of 32 bits. -/
def jobs? (text : String) : Option Nat :=
  (Numeral.natural? text.toList).filter fun n => 1 ≤ n && n ≤ 0xFFFFFFFF

/-- Whether an option takes a value; the others take none. -/
def OptionName.accepts (option : OptionName) (value : String) : Bool :=
  match option with
  | .config => value != ""
  | .format => (DumpFormat.ofName? value).isSome
  | .jobs => (jobs? value).isSome
  | _ => false

/-- The truth value that an environment variable gives to an option without a value. -/
def switch? (value : String) : Option Bool :=
  if value = "true" then some true else if value = "false" then some false else none

end PermissionSchema
