import PermissionSchema.Command.Dump
import PermissionSchema.Proofs.Checking
import PermissionSchema.Proofs.Pulling

/-!
# Dumps and checks of one file

A dump holds the tokens of its file, all of them or all but the comments; what ends the tokens is
always among them, so that leaving out comments hides no error (`dump_of_error`, `dump_of_clean`).
A check of the same file comes to the same end (`dump_and_check_agree`).
-/

namespace PermissionSchema

/-- The tokens that a dump keeps. -/
def keptTokens (skipComments : Bool) (tokens : List Token) : List Token :=
  if skipComments then tokens.filter (!·.kind.isComment) else tokens

@[simp] theorem keptTokens_false (tokens : List Token) : keptTokens false tokens = tokens := rfl

/-- What ends a stream is no comment, and so it is always kept. -/
theorem keptTokens_concat (skipComments : Bool) (front : List Token) {last : Token}
    (hlast : last.kind.isTerminal = true) :
    keptTokens skipComments (front ++ [last]) = keptTokens skipComments front ++ [last] := by
  have hcomment : last.kind.isComment = false := Kind.not_isComment_of_isTerminal hlast
  unfold keptTokens
  cases skipComments with
  | false => rfl
  | true => simp [hcomment]

theorem mem_of_mem_keptTokens {skipComments : Bool} {tokens : List Token} {token : Token}
    (hmem : token ∈ keptTokens skipComments tokens) : token ∈ tokens := by
  unfold keptTokens at hmem
  split at hmem
  · exact List.mem_of_mem_filter hmem
  · exact hmem

theorem dumpedTokens_eq (source : SourceFile) (skipComments : Bool) :
    (dumpedTokens source skipComments).1 =
      keptTokens skipComments (tokenize source.name source.content) := by
  cases skipComments with
  | false => rfl
  | true => exact drain_skipComments source.name source.content

/-- A command that succeeds has processed a number of items. -/
def CommandRun.Succeeds (run : CommandRun) : Prop := ∃ items, run.result = .ok items

/-! ### What a dump prints -/

variable {files : Files} {options : DumpOptions} {source : SourceFile}

theorem dump_of_unreadable {e : ReadError} (hread : readSource files options.file = .error e) :
    dump files options =
      ⟨"", renderUnreadable options.file e, [], .error (.unreadable options.file)⟩ := by
  rw [dump, hread]

/-- The dump of a file that can be read, told by the last token of the file. -/
theorem exists_dump_eq (hread : readSource files options.file = .ok source) :
    ∃ front last log, tokenize source.name source.content = front ++ [last] ∧
      last.kind.isTerminal = true ∧
      tokenizeAll source.name source.content = (match last.error? source.name with
        | some e => .error e
        | none => .ok front) ∧
      dump files options = match last.error? source.name with
        | some e =>
          ⟨dumpTokens (keptTokens options.skipComments front ++ [last]) options.format
            options.positions, e.diagnostic.render source, log, .error (.lexical e)⟩
        | none =>
          ⟨dumpTokens (keptTokens options.skipComments front ++ [last]) options.format
            options.positions, "", log,
            .ok (keptTokens options.skipComments front ++ [last]).length⟩ := by
  obtain ⟨front, last, htokens, hlast, -, hall⟩ :=
    exists_tokenizeAll_eq source.name source.content
  have hkept : (dumpedTokens source options.skipComments).1 =
      keptTokens options.skipComments front ++ [last] := by
    rw [dumpedTokens_eq, htokens, keptTokens_concat _ _ hlast]
  let log := (dumpedTokens source options.skipComments).2 ++
    [.fileLexed source.name (keptTokens options.skipComments front ++ [last]).length]
  refine ⟨front, last, log, htokens, hlast, hall, ?_⟩
  rw [dump, hread]
  simp only [hkept, List.getLast?_concat, Option.bind_some]
  rfl

/-- What a dump prints on standard output is all the tokens that it keeps. -/
theorem dump_stdout (hread : readSource files options.file = .ok source) :
    (dump files options).stdout =
      dumpTokens (keptTokens options.skipComments (tokenize source.name source.content))
        options.format options.positions := by
  obtain ⟨front, last, log, htokens, hlast, -, hdump⟩ := exists_dump_eq hread
  rw [hdump, htokens, keptTokens_concat _ _ hlast]
  cases last.error? source.name with
  | none => rfl
  | some e => rfl

theorem dump_of_error {e : LexicalError} (hread : readSource files options.file = .ok source)
    (herror : tokenizeAll source.name source.content = .error e) :
    ∃ front last log, tokenize source.name source.content = front ++ [last] ∧
      last.error? source.name = some e ∧
      dump files options = ⟨dumpTokens (keptTokens options.skipComments front ++ [last])
        options.format options.positions, e.diagnostic.render source, log,
        .error (.lexical e)⟩ := by
  obtain ⟨front, last, log, htokens, -, hall, hdump⟩ := exists_dump_eq hread
  cases hlast : last.error? source.name with
  | none =>
    rw [hall, hlast] at herror
    cases herror
  | some found =>
    rw [hlast] at hdump hall
    rw [hall] at herror
    cases herror
    exact ⟨front, last, log, htokens, hlast, hdump⟩

theorem dump_of_clean {tokens : List Token} (hread : readSource files options.file = .ok source)
    (hclean : tokenizeAll source.name source.content = .ok tokens) :
    ∃ last log, tokenize source.name source.content = tokens ++ [last] ∧
      last.kind = .endOfInput ∧
      dump files options = ⟨dumpTokens (keptTokens options.skipComments tokens ++ [last])
        options.format options.positions, "", log,
        .ok (keptTokens options.skipComments tokens ++ [last]).length⟩ := by
  obtain ⟨front, last, log, htokens, hterminal, hall, hdump⟩ := exists_dump_eq hread
  cases hlast : last.error? source.name with
  | some e =>
    rw [hall, hlast] at hclean
    cases hclean
  | none =>
    rw [hlast] at hdump hall
    rw [hall] at hclean
    cases hclean
    refine ⟨last, log, htokens, ?_, hdump⟩
    rcases Kind.isTerminal_iff.1 hterminal with hkind | ⟨fault, hkind⟩
    · exact hkind
    · rw [Token.error?_of_kind hkind] at hlast
      cases hlast

/-! ### Dumps beside checks -/

theorem failureReport?_of_unreadable {path : String} {e : ReadError}
    (hread : readSource files path = .error e) :
    failureReport? files path = some (renderUnreadable path e) := by
  rw [failureReport?, hread]

theorem failureReport?_of_error {path : String} {e : LexicalError}
    (hread : readSource files path = .ok source)
    (herror : tokenizeAll source.name source.content = .error e) :
    failureReport? files path = some (e.diagnostic.render source) := by
  simp only [failureReport?, hread, lexicalReport?, herror]

theorem failureReport?_of_clean {path : String} {tokens : List Token}
    (hread : readSource files path = .ok source)
    (hclean : tokenizeAll source.name source.content = .ok tokens) :
    failureReport? files path = none := by
  simp only [failureReport?, hread, lexicalReport?, hclean]

/-- A dump prints the report of its file, if it has one, and then it fails. -/
theorem dump_report (files : Files) (options : DumpOptions) :
    (dump files options).stderr = (failureReport? files options.file).getD "" ∧
      ((dump files options).Succeeds ↔ failureReport? files options.file = none) := by
  unfold CommandRun.Succeeds
  cases hread : readSource files options.file with
  | error e =>
    rw [dump_of_unreadable hread, failureReport?_of_unreadable hread]
    exact ⟨rfl, by simp⟩
  | ok source =>
    cases hall : tokenizeAll source.name source.content with
    | error e =>
      obtain ⟨front, last, log, -, -, hdump⟩ := dump_of_error hread hall
      rw [hdump, failureReport?_of_error hread hall]
      exact ⟨rfl, by simp⟩
    | ok tokens =>
      obtain ⟨last, log, -, -, hdump⟩ := dump_of_clean hread hall
      rw [hdump, failureReport?_of_clean hread hall]
      exact ⟨rfl, by simp⟩

/-- A check of one path prints the report of the path, if it has one, and then it fails. -/
theorem check_report (files : Files) (schedule : Schedule) (path : String) (jobs : Nat) :
    (check files schedule ⟨[path], jobs⟩).stderr = (failureReport? files path).getD "" ++
        checkSummary 1 (failureCount files [path]) ∧
      ((check files schedule ⟨[path], jobs⟩).Succeeds ↔ failureReport? files path = none) := by
  have hpaths : (⟨[path], jobs⟩ : CheckOptions).paths ≠ [] := List.cons_ne_nil _ _
  have hchecked := checked files schedule hpaths
  obtain ⟨ok, hsum, hstderr⟩ := hchecked.stderr_eq
  obtain rfl : ok = 1 - failureCount files [path] := Nat.eq_sub_of_add_eq hsum
  unfold CommandRun.Succeeds
  rw [hstderr, hchecked.result_eq]
  cases hreport : failureReport? files path with
  | none => simp [failureCount, hreport, checkSummary]
  | some report => simp [failureCount, hreport, checkSummary]

/-- What a check of one clean file reports about its work. -/
theorem check_log_of_clean {tokens : List Token} {path : String} (schedule : Schedule) (jobs : Nat)
    (hread : readSource files path = .ok source)
    (hclean : tokenizeAll source.name source.content = .ok tokens) :
    (check files schedule ⟨[path], jobs⟩).log =
      [.fileClean path tokens.length, .checkFinished 1 0] := by
  have hverdict : checkFile files path = .clean tokens.length := by
    simp only [checkFile, hread, hclean]
  unfold check
  rw [if_neg (by simp)]
  simp only [WorkerPool.results_eq, List.map_cons, List.map_nil, hverdict]
  rfl

/-- How a dump and a check of one file go together. -/
structure SameVerdict (files : Files) (options : DumpOptions) (dumped checked : CommandRun) :
    Prop where
  succeeds_iff : dumped.Succeeds ↔ checked.Succeeds
  stderr_eq_of_succeeds : dumped.Succeeds →
    checked.stderr = dumped.stderr ++ "checked 1 file(s): 1 ok, 0 failed\n"
  stderr_eq_of_fails : ¬ dumped.Succeeds →
    checked.stderr = dumped.stderr ++ "checked 1 file(s): 0 ok, 1 failed\n"
  unreadable : ∀ e, readSource files options.file = .error e →
    dumped.stdout = "" ∧ dumped.stderr = renderUnreadable options.file e ∧
      dumped.result = .error (.unreadable options.file)
  /-- An error is dumped behind all tokens before it, whatever is left out of these. -/
  faulty : ∀ source e, readSource files options.file = .ok source →
    tokenizeAll source.name source.content = .error e →
    dumped.result = .error (.lexical e) ∧ dumped.stderr = e.diagnostic.render source ∧
      ∃ front last, tokenize source.name source.content = front ++ [last] ∧
        last.error? source.name = some e ∧
        dumped.stdout = dumpTokens (keptTokens options.skipComments front ++ [last])
          options.format options.positions
  /-- The end of input is dumped, but a check does not count it. -/
  clean : ∀ source tokens, readSource files options.file = .ok source →
    tokenizeAll source.name source.content = .ok tokens →
    dumped.stderr = "" ∧
      checked.log = [.fileClean options.file tokens.length, .checkFinished 1 0] ∧
      ∃ last, tokenize source.name source.content = tokens ++ [last] ∧
        last.kind = .endOfInput ∧
        dumped.stdout = dumpTokens (keptTokens options.skipComments tokens ++ [last])
          options.format options.positions ∧
        dumped.result = .ok ((keptTokens options.skipComments tokens).length + 1) ∧
        (options.skipComments = false → dumped.result = .ok (tokens.length + 1))

/-- **A dump and a check of one file agree.** They do so whatever the file is, however it is dumped
    and in however many jobs it is checked. -/
theorem dump_and_check_agree (files : Files) (options : DumpOptions) (schedule : Schedule)
    (jobs : Nat) : SameVerdict files options (dump files options)
      (check files schedule ⟨[options.file], jobs⟩) := by
  obtain ⟨hdumped, hdump⟩ := dump_report files options
  obtain ⟨hchecked, hcheck⟩ := check_report files schedule options.file jobs
  refine ⟨hdump.trans hcheck.symm, ?_, ?_, ?_, ?_, ?_⟩
  · intro hsucceeds
    rw [hchecked, hdumped, hdump.1 hsucceeds]
    have hcount : failureCount files [options.file] = 0 := by
      simp [failureCount, hdump.1 hsucceeds]
    rw [hcount]
    rfl
  · intro hfails
    have hcount : failureCount files [options.file] = 1 := by
      simp [failureCount, Option.isSome_iff_ne_none, mt hdump.2 hfails]
    rw [hchecked, hdumped, hcount]
    rfl
  · intro e hread
    rw [dump_of_unreadable hread]
    exact ⟨rfl, rfl, rfl⟩
  · intro source e hread herror
    obtain ⟨front, last, log, htokens, hlast, hrun⟩ := dump_of_error hread herror
    rw [hrun]
    exact ⟨rfl, rfl, front, last, htokens, hlast, rfl⟩
  · intro source tokens hread hclean
    obtain ⟨last, log, htokens, hlast, hrun⟩ := dump_of_clean hread hclean
    rw [hrun]
    refine ⟨rfl, check_log_of_clean schedule jobs hread hclean, last, htokens, hlast, rfl, ?_, ?_⟩
    · rw [List.length_append]
      rfl
    · intro hskip
      rw [hskip, keptTokens_false, List.length_append]
      rfl

/-- An error behind a comment that is left out. -/
theorem dump_and_check_agree_skipping :
    ∃ dumped checked, dumped = dump (fun _ => .file "//a\n\"b".toUTF8) ⟨"a", .text, true, true⟩ ∧
      checked = check (fun _ => .file "//a\n\"b".toUTF8) .inOrder ⟨["a"], 2⟩ ∧
      dumped.stdout = "2:1 error(unterminated string)\n" ∧
      dumped.result = .error (.lexical ⟨.unterminatedString, "a", ⟨4, 6, 2, 1⟩⟩) ∧
      checked.stderr = dumped.stderr ++ "checked 1 file(s): 0 ok, 1 failed\n" := by
  let files : Files := fun _ => .file "//a\n\"b".toUTF8
  have hagree := dump_and_check_agree files ⟨"a", .text, true, true⟩ .inOrder 2
  have hread : readSource files "a" = .ok ⟨"a", "//a\n\"b".toList⟩ := by
    simp only [readSource, files, FileEntry.text_toUTF8]
  have herror : tokenizeAll "a" "//a\n\"b".toList =
      .error ⟨.unterminatedString, "a", ⟨4, 6, 2, 1⟩⟩ := by
    decide +kernel
  obtain ⟨hresult, -, -⟩ := hagree.faulty _ _ hread herror
  have hfails : ¬ (dump files ⟨"a", .text, true, true⟩).Succeeds := by
    rintro ⟨items, hitems⟩
    rw [hresult] at hitems
    cases hitems
  refine ⟨_, _, rfl, rfl, ?_, hresult, hagree.stderr_eq_of_fails hfails⟩
  refine Eq.trans (dump_stdout hread) ?_
  decide +kernel

end PermissionSchema
