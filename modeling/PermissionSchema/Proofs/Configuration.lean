import PermissionSchema.Proofs.Outcomes

/-!
# Settings and flags

One file decides about the settings of a run: the one that the run is given, or else the first
candidate that exists. If it is of no use the run fails, and no other file is read in its place. For
a dump, what a flag says and what the settings say come to the same: a format flag goes before the
configured format, and comments are left out if either side asks for it (`settings_never_mixed`).
None of this depends on how the text of the file is decoded.
-/

namespace PermissionSchema

/-! ### The file that decides -/

/-- What makes a configuration file of no use. -/
inductive Unusable (decoder : Decoder) (machine : Machine) (path : String) : SettingsError → Prop
  | missing : machine.files path = .missing → Unusable decoder machine path (.notFound path)
  | unreadable {reason : String} : machine.files path ≠ .missing →
      (machine.files path).text = .error reason →
      Unusable decoder machine path (.unreadable reason)
  | malformed {text : Text} {explanation : Option String} :
      (machine.files path).text = .ok text →
      decoder machine.processors text = .error explanation →
      Unusable decoder machine path (.malformed explanation)
  | noJobs {text : Text} {settings : Settings} : (machine.files path).text = .ok text →
      decoder machine.processors text = .ok settings → settings.jobs = 0 →
      Unusable decoder machine path .noJobs

variable {decoder : Decoder}

theorem FileEntry.exists_of_ne_missing {entry : FileEntry} (hentry : entry ≠ .missing) :
    entry.exists = true := by
  cases hexists : entry.exists with
  | true => rfl
  | false => exact absurd (FileEntry.exists_eq_false_iff.1 hexists) hentry

/-- What a decoder says about a file stands behind what the program says about it. -/
theorem printed_malformed (explanation : String) :
    "error: " ++ (SettingsError.malformed (some explanation)).message ++ "\n" =
      "error: Configuration error: Failed to parse configuration: " ++ explanation ++ "\n" := by
  have hopening : "error: " ++ "Configuration error: Failed to parse configuration: " =
      "error: Configuration error: Failed to parse configuration: " := by
    decide
  rw [SettingsError.message_malformed, ← String.append_assoc, hopening]

/-- Loading a file of no use fails with what is wrong with it. -/
theorem loadFrom_of_unusable {machine : Machine} {path : String} {e : SettingsError}
    (hunusable : Unusable decoder machine path e) :
    Settings.loadFrom machine.files machine.processors path decoder = .error e := by
  cases hunusable with
  | missing hmissing =>
    unfold Settings.loadFrom
    rw [hmissing]
    rfl
  | unreadable hentry htext =>
    unfold Settings.loadFrom
    rw [if_pos (FileEntry.exists_of_ne_missing hentry), htext]
  | malformed htext hdecoded => rw [loadFrom_of_text decoder htext, hdecoded]
  | noJobs htext hdecoded hjobs =>
    rw [loadFrom_of_text decoder htext, hdecoded]
    exact if_pos hjobs

theorem MakesSettings.of_text {machine : Machine} {path text : String} {settings : Settings}
    (hfile : machine.files path = .file text.toUTF8)
    (hdecoded : decoder machine.processors text.toList = .ok settings)
    (hjobs : settings.jobs ≠ 0) : MakesSettings decoder machine path settings := by
  obtain ⟨content, decoded, hcontent, hutf8, hlist⟩ :=
    FileEntry.text_eq_ok_iff.1 (FileEntry.text_toUTF8 text)
  rw [← hlist] at hdecoded
  exact ⟨content, decoded, hfile.trans hcontent, hutf8, hdecoded, hjobs⟩

/-- The file that decides about the settings of a run, behind the candidates that do not exist: the
    file that the run is given, or else the first candidate that exists. -/
inductive Decides (machine : Machine) : Option String → List String → String → Prop
  | given (path : String) : Decides machine (some path) [] path
  | found {before after : List String} {path : String} :
      machine.directories.candidates = before ++ path :: after →
      (∀ other ∈ before, machine.files other = .missing) → machine.files path ≠ .missing →
      Decides machine none before path

theorem Decides.load_eq {machine : Machine} {before : List String} {path : String}
    (hdecides : Decides machine none before path) :
    Settings.load machine.files machine.directories machine.processors decoder =
      Settings.loadFrom machine.files machine.processors path decoder := by
  cases hdecides with
  | found hcandidates hbefore hpath =>
    have hexists := FileEntry.exists_of_ne_missing hpath
    simp only [Settings.load, find?_candidates hcandidates hbefore hexists]

/-- The settings of a run are those of the file that decides. -/
theorem Decides.settings_eq {machine : Machine} {invocation : Invocation} {before : List String}
    {path : String} (hdecides : Decides machine invocation.config before path) :
    Program.settings machine invocation decoder =
      Settings.loadFrom machine.files machine.processors path decoder := by
  unfold Program.settings
  generalize invocation.config = config at hdecides
  cases config with
  | some given =>
    cases hdecides
    rfl
  | none => exact hdecides.load_eq

/-- What stands at the paths behind the one that decides makes no difference. -/
theorem Decides.congr {machine : Machine} {config : Option String} {before : List String}
    {path : String} (hdecides : Decides machine config before path) {files : Files}
    (hfiles : ∀ other ∈ path :: before, files other = machine.files other) :
    Decides { machine with files } config before path := by
  have hpath : files path = machine.files path := hfiles path List.mem_cons_self
  cases hdecides with
  | given => exact .given path
  | found hcandidates hbefore hexists =>
    refine .found hcandidates ?_ ?_
    · intro other hmem
      exact (hfiles other (List.mem_cons_of_mem path hmem)).trans (hbefore other hmem)
    · exact fun hmissing => hexists (hpath.symm.trans hmissing)

theorem Decides.settings_congr {machine : Machine} {invocation : Invocation}
    {before : List String} {path : String}
    (hdecides : Decides machine invocation.config before path) {files : Files}
    (hfiles : ∀ other ∈ path :: before, files other = machine.files other) :
    Program.settings { machine with files } invocation decoder =
      Program.settings machine invocation decoder := by
  rw [(hdecides.congr hfiles).settings_eq, hdecides.settings_eq]
  exact loadFrom_congr (hfiles path List.mem_cons_self) machine.processors

theorem load_of_missing {machine : Machine}
    (hmissing : ∀ path ∈ machine.directories.candidates, machine.files path = .missing) :
    Settings.load machine.files machine.directories machine.processors decoder =
      .ok (.standard machine.processors) :=
  load_eq_ok_iff.2 (.standard hmissing)

/-- No run checks files none at a time. -/
theorem Configured.jobs_pos {machine : Machine} {config : Option String} {settings : Settings}
    (hconfigured : Configured decoder machine config settings) (hprocessors : 0 < machine.processors) :
    1 ≤ settings.jobs := by
  cases hconfigured with
  | given hmakes | found _ _ hmakes =>
    obtain ⟨-, -, -, -, -, hjobs⟩ := hmakes
    exact Nat.one_le_iff_ne_zero.2 hjobs
  | standard => exact hprocessors

/-! ### The files of a command -/

section

variable {files files' : Files}

theorem readSource_congr {path : String} (hpath : files' path = files path) :
    readSource files' path = readSource files path := by
  unfold readSource
  rw [hpath]

theorem dump_congr {options : DumpOptions} (hfile : files' options.file = files options.file) :
    dump files' options = dump files options := by
  unfold dump
  rw [readSource_congr hfile]

theorem check_of_files_eq (schedule : Schedule) {options : CheckOptions}
    (hfiles : ∀ path ∈ options.paths, files' path = files path) :
    check files' schedule options = check files schedule options := by
  have hverdicts : options.paths.map (checkFile files') = options.paths.map (checkFile files) := by
    apply List.map_congr_left
    intro path hmem
    unfold checkFile
    rw [readSource_congr (hfiles path hmem)]
  unfold check
  simp only [WorkerPool.results_eq, hverdicts]

theorem Program.runCommand_congr {machine : Machine} (settings : Settings) {command : Command}
    (hfiles : ∀ path ∈ command.paths, files path = machine.files path) :
    runCommand { machine with files } settings command = runCommand machine settings command := by
  cases command with
  | lex file format skipComments positions =>
    exact dump_congr (hfiles file List.mem_cons_self)
  | check paths jobs => exact check_of_files_eq machine.schedule hfiles

end

/-! ### Looking for settings -/

/-- How a machine comes by the settings of a run. -/
structure FindsSettings (decoder : Decoder) (machine : Machine) : Prop where
  load_eq_loadFrom : ∀ before path, Decides machine none before path →
    Settings.load machine.files machine.directories machine.processors decoder =
      Settings.loadFrom machine.files machine.processors path decoder
  load_eq_standard :
    (∀ path ∈ machine.directories.candidates, machine.files path = .missing) →
    Settings.load machine.files machine.directories machine.processors decoder =
      .ok (.standard machine.processors)
  /-- Nothing but the file that decides and the absence of those before it is asked for. -/
  unread : ∀ invocation before path, Decides machine invocation.config before path →
    ∀ files : Files, (∀ other ∈ path :: before, files other = machine.files other) →
      Program.settings { machine with files } invocation decoder =
          Program.settings machine invocation decoder ∧
        ((∀ named ∈ invocation.command.paths, files named = machine.files named) →
          ∀ environment,
            Program.runInvocation { machine with files } environment invocation decoder =
              Program.runInvocation machine environment invocation decoder)
  /-- A run fails over a file of no use, whatever stands at later candidates or at any other
      path. -/
  fails : ∀ invocation before path e, Decides machine invocation.config before path →
    Unusable decoder machine path e →
    ∀ files : Files, (∀ other ∈ path :: before, files other = machine.files other) →
      ∀ environment arguments, Invocation.read environment arguments = .ok invocation →
        Program.run { machine with files } environment arguments decoder =
          ⟨1, "", "error: " ++ e.message ++ "\n", []⟩
  jobs_pos : 0 < machine.processors → ∀ invocation settings,
    Program.settings machine invocation decoder = .ok settings → 1 ≤ settings.jobs

theorem findsSettings (decoder : Decoder) (machine : Machine) : FindsSettings decoder machine := by
  refine ⟨?_, load_of_missing, ?_, ?_, ?_⟩
  · exact fun before path hdecides => hdecides.load_eq
  · intro invocation before path hdecides files hfiles
    have hsettings : Program.settings { machine with files } invocation decoder =
        Program.settings machine invocation decoder := hdecides.settings_congr hfiles
    refine ⟨hsettings, ?_⟩
    intro hnamed environment
    unfold Program.runInvocation
    rw [hsettings]
    split
    · rfl
    · next settings _ => rw [Program.runCommand_congr settings hnamed]
  · intro invocation before path e hdecides hunusable files hfiles environment arguments hread
    rw [Program.run_of_read hread]
    apply Program.runInvocation_of_error
    rw [hdecides.settings_congr hfiles, hdecides.settings_eq]
    exact loadFrom_of_unusable hunusable
  · intro hprocessors invocation settings hsettings
    exact (settings_eq_ok_iff.1 hsettings).jobs_pos hprocessors

/-! ### Settings and flags -/

/-- The outcomes look the same on both output streams and have one status; their logs may differ. -/
structure Outcome.PrintsAs (outcome outcome' : Outcome) : Prop where
  status : outcome'.status = outcome.status
  stdout : outcome'.stdout = outcome.stdout
  stderr : outcome'.stderr = outcome.stderr

namespace Program

variable {machine machine' : Machine} {environment environment' : Environment}
  {invocation invocation' : Invocation} {found found' : Settings}

/-- Beside what its command leaves behind, nothing but the log filter bears on a run. -/
theorem runInvocation_of_runCommand_eq
    (hsettings : settings machine invocation decoder = .ok found)
    (hsettings' : settings machine' invocation' decoder = .ok found')
    (hrun : runCommand machine' found' invocation'.command =
      runCommand machine found invocation.command) :
    (runInvocation machine environment invocation decoder).PrintsAs
        (runInvocation machine' environment' invocation' decoder) ∧
      (logFilter environment' (invocation'.verbose || found'.verbose) =
          logFilter environment (invocation.verbose || found.verbose) →
        runInvocation machine' environment' invocation' decoder =
          runInvocation machine environment invocation decoder) := by
  unfold runInvocation
  simp only [hsettings, hsettings', hrun]
  cases (runCommand machine found invocation.command).result with
  | ok items => exact ⟨⟨rfl, rfl, rfl⟩, fun hfilter => by rw [hfilter]⟩
  | error failure => exact ⟨⟨rfl, rfl, rfl⟩, fun hfilter => by rw [hfilter]⟩

/-- A run prints on standard output what its command does. -/
theorem runInvocation_stdout (environment : Environment)
    (hsettings : settings machine invocation decoder = .ok found) :
    (runInvocation machine environment invocation decoder).stdout =
      (runCommand machine found invocation.command).stdout := by
  unfold runInvocation
  simp only [hsettings]
  cases (runCommand machine found invocation.command).result with
  | ok items => rfl
  | error failure => rfl

end Program

/-- A run that comes to a dump: its arguments ask for one, and there are settings for it. -/
structure DumpRun (decoder : Decoder) where
  machine : Machine
  environment : Environment
  arguments : List String
  invocation : Invocation
  settings : Settings
  file : String
  format : Option DumpFormat
  skipComments : Bool
  positions : Bool
  read : Invocation.read environment arguments = .ok invocation
  command : invocation.command = .lex file format skipComments positions
  configured : Program.settings machine invocation decoder = .ok settings

namespace DumpRun

def outcome (run : DumpRun decoder) : Outcome :=
  Program.run run.machine run.environment run.arguments decoder

/-- What the flags and the settings of a run come to. -/
def options (run : DumpRun decoder) : DumpOptions :=
  { file := run.file
    format := run.format.getD run.settings.format
    skipComments := run.skipComments || run.settings.skipComments
    positions := run.positions }

/-- The runs dump one file, and put positions before its tokens or not. -/
structure SameFile (run run' : DumpRun decoder) : Prop where
  file : run'.file = run.file
  entry : run'.machine.files run.file = run.machine.files run.file
  positions : run'.positions = run.positions

variable {run run' : DumpRun decoder}

theorem runCommand_eq (run : DumpRun decoder) :
    Program.runCommand run.machine run.settings run.invocation.command =
      dump run.machine.files run.options := by
  rw [run.command]
  rfl

theorem outcome_eq (run : DumpRun decoder) :
    run.outcome = Program.runInvocation run.machine run.environment run.invocation decoder :=
  Program.run_of_read run.read

theorem outcome_stdout (run : DumpRun decoder) :
    run.outcome.stdout = (dump run.machine.files run.options).stdout := by
  rw [run.outcome_eq, Program.runInvocation_stdout run.environment run.configured,
    run.runCommand_eq]

theorem SameFile.options_eq (hfile : SameFile run run')
    (hformat : run'.format.getD run'.settings.format = run.format.getD run.settings.format)
    (hskip : (run'.skipComments || run'.settings.skipComments) =
      (run.skipComments || run.settings.skipComments)) : run'.options = run.options := by
  unfold options
  rw [hfile.file, hformat, hskip, hfile.positions]

/-- Runs over one file differ in their logs at most if their options come to the same. -/
theorem SameFile.outcome_of_options_eq (hfile : SameFile run run')
    (hoptions : run'.options = run.options) :
    run.outcome.PrintsAs run'.outcome ∧
      (Program.logFilter run'.environment (run'.invocation.verbose || run'.settings.verbose) =
          Program.logFilter run.environment (run.invocation.verbose || run.settings.verbose) →
        run'.outcome = run.outcome) := by
  rw [outcome_eq, outcome_eq]
  apply Program.runInvocation_of_runCommand_eq run.configured run'.configured
  rw [run'.runCommand_eq, run.runCommand_eq, hoptions]
  exact dump_congr hfile.entry

end DumpRun

/-- How the flags of a dump and the settings for it come together. -/
structure FlagsMatchSettings (decoder : Decoder) : Prop where
  /-- What a run without flags is told by its settings, a run under the standard settings may be
      told by flags. -/
  interchange : ∀ run run' : DumpRun decoder, run.SameFile run' → run.format = none →
    run.skipComments = false → run'.settings = .standard run'.machine.processors →
    run'.format = some run.settings.format → run'.skipComments = run.settings.skipComments →
    run.outcome.PrintsAs run'.outcome ∧
      (run'.environment.logFilter = run.environment.logFilter →
        run'.invocation.verbose = (run.invocation.verbose || run.settings.verbose) →
        run'.outcome = run.outcome)
  /-- Under a format flag the configured formats make no difference. -/
  format_wins : ∀ run run' : DumpRun decoder, run.SameFile run' → ∀ format,
    run.format = some format → run'.format = some format →
    run'.options.skipComments = run.options.skipComments → run.outcome.PrintsAs run'.outcome
  /-- Comments are left out whether the flag, the settings or both ask for it. -/
  either_skips : ∀ run run' : DumpRun decoder, run.SameFile run' →
    run'.options.format = run.options.format →
    run.skipComments = true ∨ run.settings.skipComments = true →
    run'.skipComments = true ∨ run'.settings.skipComments = true →
    run.outcome.PrintsAs run'.outcome
  /-- A file that can be read is printed in the format of the flag, if there is one, with its
      comments if neither side asks to leave them out. -/
  printed : ∀ (run : DumpRun decoder) source, readSource run.machine.files run.file = .ok source →
    ∃ format tokens, run.outcome.stdout = dumpTokens tokens format run.positions ∧
      (∀ flag, run.format = some flag → format = flag) ∧
      (run.format = none → format = run.settings.format) ∧
      (run.skipComments = true ∨ run.settings.skipComments = true →
        tokens = (tokenize source.name source.content).filter (!·.kind.isComment)) ∧
      (run.skipComments = false → run.settings.skipComments = false →
        tokens = tokenize source.name source.content)

theorem flagsMatchSettings (decoder : Decoder) : FlagsMatchSettings decoder := by
  refine ⟨?_, ?_, ?_, ?_⟩
  · intro run run' hfile hformat hskip hstandard hformat' hskip'
    have hoptions : run'.options = run.options := by
      apply hfile.options_eq
      · rw [hformat', hformat]
        rfl
      · rw [hskip', hstandard, hskip]
        exact Bool.or_false _
    obtain ⟨hprints, hlogs⟩ := hfile.outcome_of_options_eq hoptions
    refine ⟨hprints, fun hvariable hverbose => hlogs ?_⟩
    unfold Program.logFilter
    rw [hvariable, hverbose, hstandard]
    simp only [Settings.standard, Bool.or_false]
  · intro run run' hfile format hformat hformat' hskip
    refine (hfile.outcome_of_options_eq (hfile.options_eq ?_ hskip)).1
    rw [hformat, hformat']
    rfl
  · intro run run' hfile hformat hskip hskip'
    refine (hfile.outcome_of_options_eq (hfile.options_eq hformat ?_)).1
    rw [Bool.or_eq_true_iff.2 hskip, Bool.or_eq_true_iff.2 hskip']
  · intro run source hread
    refine ⟨run.options.format, _, run.outcome_stdout.trans (dump_stdout hread), ?_, ?_, ?_, ?_⟩
    · intro flag hflag
      simp only [DumpRun.options, hflag, Option.getD_some]
    · intro hnone
      simp only [DumpRun.options, hnone, Option.getD_none]
    · intro hskip
      have hskips : run.options.skipComments = true := Bool.or_eq_true_iff.2 hskip
      rw [hskips]
      rfl
    · intro hflag hsetting
      have hkeeps : run.options.skipComments = false := Bool.or_eq_false_iff.2 ⟨hflag, hsetting⟩
      rw [hkeeps]
      rfl

/-- **Settings are never mixed**: one file decides about them or the run fails, and what they say
    may be said by flags instead. -/
theorem settings_never_mixed (decoder : Decoder) :
    (∀ machine, FindsSettings decoder machine) ∧ FlagsMatchSettings decoder :=
  ⟨findsSettings decoder, flagsMatchSettings decoder⟩

/-- A dump as JSON without comments, asked for by a configuration file and by flags, and a file
    with a format that is none, over which the run fails with the explanation of the decoder,
    whatever the file in the home directory says. -/
theorem settings_never_mixed_json :
    (∃ run run' : DumpRun .toml,
      run.machine.files "oplt.toml" =
        .file "[lex]\nformat = \"json\"\nskip_comments = true\n".toUTF8 ∧
      run'.machine.files "oplt.toml" = .missing ∧ run.arguments = ["lex", "a"] ∧
      run'.arguments = ["lex", "a", "--skip-comments", "-F", "json"] ∧
      run'.outcome = run.outcome) ∧
    ∃ (decoder : Decoder) (machine : Machine) (explanation : String),
      explanation = "TOML parse error at line 2, column 10\n  |\n2 | format = \"xml\"\n" ++
        "  |          ^^^^^\nunknown variant `xml`, expected `text` or `json`\n" ∧
      machine.files "oplt.toml" = .file "[lex]\nformat = \"xml\"\n".toUTF8 ∧
      decoder 1 "[lex]\nformat = \"xml\"\n".toList = .error (some explanation) ∧
      ∀ entry, Program.run { machine with
          files := fun path => if path = "/home/.config/oplt/oplt.toml" then entry
            else machine.files path } ⟨none, none, none, none⟩ ["lex", "a"] decoder =
        ⟨1, "", "error: Configuration error: Failed to parse configuration: " ++
          explanation ++ "\n", []⟩ := by
  have hread : Invocation.read ⟨none, none, none, none⟩ ["lex", "a"] =
      .ok ⟨false, false, none, .lex "a" none false false⟩ := by
    decide +kernel
  constructor
  · let files : Files := fun path =>
      if path = "oplt.toml" then
        .file "[lex]\nformat = \"json\"\nskip_comments = true\n".toUTF8
      else if path = "a" then .file "// note\nclass".toUTF8 else .missing
    let files' : Files := fun path => if path = "oplt.toml" then .missing else files path
    let machine : Machine := ⟨files, ⟨none, none⟩, 1, .inOrder⟩
    let machine' : Machine := ⟨files', ⟨none, none⟩, 1, .inOrder⟩
    have hdecoded : Decoder.toml 1
        "[lex]\nformat = \"json\"\nskip_comments = true\n".toList =
          .ok ⟨false, true, .json, 1⟩ := by
      decide +kernel
    have hmakes : MakesSettings .toml machine "oplt.toml" ⟨false, true, .json, 1⟩ :=
      .of_text rfl hdecoded (by decide)
    have hconfigured :
        Program.settings machine ⟨false, false, none, .lex "a" none false false⟩ .toml =
          .ok ⟨false, true, .json, 1⟩ :=
      settings_eq_ok_iff.2 (@Configured.found .toml machine [] [] _ _ rfl nofun hmakes)
    have hread' : Invocation.read ⟨none, none, none, none⟩
        ["lex", "a", "--skip-comments", "-F", "json"] =
        .ok ⟨false, false, none, .lex "a" (some .json) true false⟩ := by
      decide +kernel
    have hconfigured' :
        Program.settings machine' ⟨false, false, none, .lex "a" (some .json) true false⟩ .toml =
          .ok (.standard 1) := by
      refine settings_eq_ok_iff.2 (.standard ?_)
      intro path hmem
      rw [List.mem_singleton.1 hmem]
      rfl
    let run : DumpRun .toml := ⟨machine, _, _, _, _, _, _, _, _, hread, rfl, hconfigured⟩
    let run' : DumpRun .toml := ⟨machine', _, _, _, _, _, _, _, _, hread', rfl, hconfigured'⟩
    obtain ⟨-, hmatch⟩ := settings_never_mixed .toml
    refine ⟨run, run', rfl, rfl, rfl, rfl, ?_⟩
    exact (hmatch.interchange run run' ⟨rfl, rfl, rfl⟩ rfl rfl rfl rfl rfl).2 rfl rfl
  · let files : Files := fun path =>
      if path = "oplt.toml" then .file "[lex]\nformat = \"xml\"\n".toUTF8 else .missing
    let machine : Machine := ⟨files, ⟨some "/home", none⟩, 1, .inOrder⟩
    let explanation := "TOML parse error at line 2, column 10\n  |\n2 | format = \"xml\"\n" ++
      "  |          ^^^^^\nunknown variant `xml`, expected `text` or `json`\n"
    let decoder : Decoder := fun processors text =>
      if text = "[lex]\nformat = \"xml\"\n".toList then .error (some explanation)
      else Decoder.toml processors text
    have hdecoded : decoder 1 "[lex]\nformat = \"xml\"\n".toList = .error (some explanation) :=
      if_pos rfl
    have hdecides : Decides machine none [] "oplt.toml" := .found rfl nofun nofun
    have hunusable : Unusable decoder machine "oplt.toml" (.malformed (some explanation)) :=
      .malformed (FileEntry.text_toUTF8 _) hdecoded
    obtain ⟨hfinds, -⟩ := settings_never_mixed decoder
    refine ⟨decoder, machine, explanation, rfl, rfl, hdecoded, ?_⟩
    intro entry
    have hfails := (hfinds machine).fails _ [] "oplt.toml" _ hdecides hunusable
      (fun path => if path = "/home/.config/oplt/oplt.toml" then entry else machine.files path)
      (by simp) _ _ hread
    rw [hfails, printed_malformed]

end PermissionSchema
