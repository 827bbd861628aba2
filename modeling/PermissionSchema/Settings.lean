import PermissionSchema.Files
import PermissionSchema.Toml.Document

/-!
# Settings

What a configuration file may set, where such a file is looked for, and what can be wrong with it.
Only the first file that exists counts: if it is unusable, no other takes its place
(`Settings.load`). How the text of a file is decoded is left to a `Decoder`, of which `Decoder.toml`
is one.
-/

namespace PermissionSchema

inductive DumpFormat where
  /-- A token a line. -/
  | text
  /-- A JSON array of objects. -/
  | json
  deriving DecidableEq, Repr

namespace DumpFormat

def name : DumpFormat → String
  | .text => "text"
  | .json => "json"

def ofName? (name : String) : Option DumpFormat := [.text, .json].find? (·.name == name)

end DumpFormat

/-- What a configuration file may set. -/
structure Settings where
  verbose : Bool
  skipComments : Bool
  format : DumpFormat
  /-- The number of files that are checked at a time. -/
  jobs : Nat
  deriving DecidableEq, Repr

inductive SettingsError where
  | notFound (path : String)
  | unreadable (reason : String)
  /-- No settings can be decoded from the file, with what the decoder says about it. -/
  | malformed (explanation : Option String)
  /-- Files cannot be checked none at a time. -/
  | noJobs
  deriving DecidableEq, Repr

/-! ### Decoding -/

namespace Toml.Value

/-- The fields of a record: a table gives them by name, an array in their order, and a date-time,
    which is a table of its own kind, gives none of them. -/
def fields? (names : List String) : Value → Option (List (Option Value))
  | .table _ entries => some (names.map fun name => Entries.get? entries name.toList)
  | .array items => some (names.zipIdx.map fun (_, index) => items[index]?)
  | .tables elements =>
    some (names.zipIdx.map fun (_, index) => elements[index]?.map (.table .header))
  | .dateTime _ => some (names.map fun _ => none)
  | _ => none

def boolean? : Value → Option Bool
  | .boolean b => some b
  | _ => none

def natural? : Value → Option Nat
  | .integer n => if 0 ≤ n then some n.toNat else none
  | _ => none

def isBlank : Value → Bool
  | .array items => items.isEmpty
  | .table _ entries => entries.isEmpty
  | .tables elements => elements.isEmpty
  | _ => false

/-- A format is its name, or a table with nothing but an empty value of that name. -/
def format? : Value → Option DumpFormat
  | .string name => DumpFormat.ofName? (String.ofList name)
  | .table _ [(name, value)] =>
    if value.isBlank then DumpFormat.ofName? (String.ofList name) else none
  | _ => none

end Toml.Value

/-- Decode a value that may be missing. -/
def decodeOr {α : Type} (missing : α) (decode? : Toml.Value → Option α) :
    Option Toml.Value → Option α
  | none => some missing
  | some value => decode? value

namespace Settings

/-- The settings without a configuration file; as many files are checked at a time as there are
    processors. -/
def standard (processors : Nat) : Settings := ⟨false, false, .text, processors⟩

def dumpFields? (settings : Settings) (value : Toml.Value) : Option Settings := do
  match ← value.fields? ["skip_comments", "format"] with
  | [skipComments, format] =>
    let skipComments ← decodeOr settings.skipComments (·.boolean?) skipComments
    let format ← decodeOr settings.format (·.format?) format
    some { settings with skipComments, format }
  | _ => none

def checkFields? (settings : Settings) (value : Toml.Value) : Option Settings := do
  match ← value.fields? ["jobs"] with
  | [jobs] =>
    let jobs ← decodeOr settings.jobs (·.natural?) jobs
    some { settings with jobs }
  | _ => none

/-- The settings that a document makes; it need not make all, and what it says besides is
    ignored. -/
def ofDocument? (settings : Settings) (document : Toml.Entries) : Option Settings := do
  match ← (Toml.Value.table .header document).fields? ["verbose", "lex", "check"] with
  | [verbose, dump, check] =>
    let verbose ← decodeOr settings.verbose (·.boolean?) verbose
    let settings := { settings with verbose }
    let settings ← decodeOr settings settings.dumpFields? dump
    decodeOr settings settings.checkFields? check
  | _ => none

/-- The settings that a text makes, if it is TOML and no setting has the wrong type. -/
def ofText? (processors : Nat) (text : Text) : Option Settings := do
  (standard processors).ofDocument? (← Toml.parse? text)

end Settings

/-- A way to read the text of a configuration file, given the number of processors. It comes to
    settings or to an explanation of why there are none, if it has one. -/
abbrev Decoder := Nat → Text → Except (Option String) Settings

/-- Read TOML, and explain nothing. -/
def Decoder.toml : Decoder := fun processors text =>
  match Settings.ofText? processors text with
  | some settings => .ok settings
  | none => .error none

namespace Settings

/-! ### Loading -/

def loadFrom (files : Files) (processors : Nat) (path : String) (decoder : Decoder := .toml) :
    Except SettingsError Settings :=
  if (files path).exists then
    match (files path).text with
    | .error reason => .error (.unreadable reason)
    | .ok text =>
      match decoder processors text with
      | .error explanation => .error (.malformed explanation)
      | .ok settings => if settings.jobs = 0 then .error .noJobs else .ok settings
  else .error (.notFound path)

end Settings

/-- The directories in which a configuration file is looked for, besides the working directory. -/
structure SearchDirectories where
  home : Option String
  /-- The directory for configuration files of all programs. -/
  system : Option String

/-- The paths at which a configuration file is looked for, in order. -/
def SearchDirectories.candidates (directories : SearchDirectories) : List String :=
  "oplt.toml" :: ((directories.home.map (· ++ "/.config/oplt/oplt.toml")).toList ++
    (directories.system.map (· ++ "/oplt/oplt.toml")).toList)

namespace Settings

/-- The settings in the first configuration file that exists, or the standard ones if none does. -/
def load (files : Files) (directories : SearchDirectories) (processors : Nat)
    (decoder : Decoder := .toml) : Except SettingsError Settings :=
  match directories.candidates.find? fun path => (files path).exists with
  | some path => loadFrom files processors path decoder
  | none => .ok (standard processors)

end Settings

end PermissionSchema
