import PermissionSchema.Proofs.CarriageReturns
import PermissionSchema.Proofs.Dumping
import PermissionSchema.Proofs.Underlining

/-!
# Line endings

What the program prints about a file does not depend on how its lines end. The tokens of a copy with
a carriage return before each line feed stand in the same lines and columns, its errors quote the
same lines and underline the same columns (`Copied.snippet_eq`), and so the checks and the dumps of
the two say the same (`line_endings_ignored`).
-/

namespace PermissionSchema

/-- Two tokens that differ in their offsets alone, and in the carriage returns of their texts. -/
structure Token.Matches (token token' : Token) : Prop where
  kind_eq : token'.kind = token.kind
  line_eq : token'.span.line = token.span.line
  column_eq : token'.span.column = token.span.column
  text_eq : withoutReturns token'.text = token.text

/-- What is printed for a token of a file that is an error. -/
def Token.report? (token : Token) (file : SourceFile) : Option String :=
  (token.error? file.name).map fun e => e.diagnostic.render file

/-- The one-line form of what ends a stream does not quote it. -/
theorem Token.display_congr {token token' : Token} (hkind : token'.kind = token.kind)
    (htext : token.kind.isTerminal = false → token'.text = token.text) :
    token'.display = token.display := by
  rw [display, display, hkind]
  cases hterminal : token.kind.isTerminal with
  | true => cases hcase : token.kind <;> simp_all [Kind.isTerminal]
  | false => rw [htext hterminal]

/-! ### Lines of a copy -/

theorem lastLine_crlf (text : Text) : lastLine (crlf text) = lastLine text := by
  induction text using List.reverseRecOn with
  | nil => rfl
  | append_singleton text c ih =>
    by_cases hc : c = '\n'
    · have hcopy : crlf (text ++ ['\n']) = (crlf text ++ ['\r']) ++ ['\n'] := by simp
      rw [hc, hcopy, lastLine_append_newline, lastLine_append_newline]
    · have hcopy : crlf (text ++ [c]) = crlf text ++ [c] := by simp [crlf_other hc]
      rw [hcopy, lastLine_append_other hc, lastLine_append_other hc, ih]

theorem count_newline_crlf (text : Text) : (crlf text).count '\n' = text.count '\n' := by
  induction text with
  | nil => rfl
  | cons c rest ih =>
    by_cases hc : c = '\n'
    · rw [hc, crlf_newline, List.count_cons_of_ne (by decide), List.count_cons_self,
        List.count_cons_self, ih]
    · rw [crlf_other hc, List.count_cons_of_ne hc, List.count_cons_of_ne hc, ih]

/-- The line that a text starts with is the same in its copy, up to the end of the line. -/
theorem trim_firstLine_crlf {text : Text} (hreturn : '\r' ∉ text) :
    trimLineEnd (firstLine (crlf text)) = trimLineEnd (firstLine text) := by
  induction text with
  | nil => rfl
  | cons c rest ih =>
    rw [List.mem_cons, not_or] at hreturn
    by_cases hc : c = '\n'
    · rw [hc]
      rfl
    · have hkept : isLineEnd c = false := by simp [isLineEnd, hc, Ne.symm hreturn.1]
      rw [crlf_other hc, firstLine_cons hc, firstLine_cons hc, trimLineEnd_cons hkept,
        trimLineEnd_cons hkept, ih hreturn.2]

theorem CopyCut.trim_firstLine_eq {text behind text' behind' : Text} (hreturn : '\r' ∉ text)
    (hcut : CopyCut text behind text' behind') :
    trimLineEnd (firstLine text') = trimLineEnd (firstLine text) := by
  cases hcut with
  | whole => exact trim_firstLine_crlf hreturn
  | atLineEnd below hplain =>
    have hplain' : '\n' ∉ text ++ ['\r'] := by simp [hplain]
    rw [firstLine_eq_self hplain, firstLine_eq_self hplain']
    exact List.rdropWhile_concat_pos isLineEnd text '\r' rfl

/-! ### Errors of a copy -/

namespace Copied

variable {source : Text} {token token' : Token}

theorem matches_token (hcopied : Copied .start .start source token token')
    (hreturn : '\r' ∉ source) : token.Matches token' := by
  cases hcopied with
  | @intro before text behind text' behind' kind hsource hcut _ _ _ =>
    have hbeside : Position.start.Beside .start := ⟨rfl, rfl⟩
    obtain ⟨hline, hcolumn⟩ := hbeside.after_crlf before
    rw [hsource, List.mem_append, List.mem_append, not_or, not_or] at hreturn
    obtain ⟨-, htext, -⟩ := hreturn
    exact ⟨rfl, hline, hcolumn, hcut.withoutReturns_eq htext⟩

/-- An error quotes the same line in the copy and marks the same columns. -/
theorem snippet_eq (hcopied : Copied .start .start source token token') (hreturn : '\r' ∉ source)
    {fault : Fault} (hkind : token.kind = .error fault) (name : String) :
    ∃ snippet, Snippet.ofSpan? ⟨name, source⟩ token.span = some snippet ∧
      Snippet.ofSpan? ⟨name, crlf source⟩ token'.span = some snippet ∧ snippet.label = none := by
  cases hcopied with
  | @intro before text behind text' behind' kind hsource hcut hlexeme hlexeme' _ =>
    obtain rfl : kind = .error fault := hkind
    have hsource' : crlf source = crlf before ++ (text' ++ behind') := by
      rw [hsource, crlf_append, hcut.crlf_eq]
    rw [hsource, List.mem_append, not_or] at hreturn
    obtain ⟨-, hrest⟩ := hreturn
    have htext : '\r' ∉ text := fun hmem => hrest (List.mem_append_left behind hmem)
    have hquoted : trimLineEnd (firstLine (text' ++ behind')) =
        trimLineEnd (firstLine (text ++ behind)) := by
      rw [← hcut.crlf_eq]
      exact trim_firstLine_crlf hrest
    have hfile : (⟨name, source⟩ : SourceFile).content = before ++ (text ++ behind) := hsource
    have hfile' : (⟨name, crlf source⟩ : SourceFile).content = crlf before ++ (text' ++ behind') :=
      hsource'
    have hsnippet' := Snippet.ofSpan?_of_error hfile' hlexeme'
    rw [hquoted, hcut.trim_firstLine_eq htext, lastLine_crlf, count_newline_crlf] at hsnippet'
    exact ⟨_, Snippet.ofSpan?_of_error hfile hlexeme, hsnippet', rfl⟩

/-- What is printed for an error is the same for the copy. -/
theorem report?_eq (hcopied : Copied .start .start source token token') (hreturn : '\r' ∉ source)
    (name : String) : token'.report? ⟨name, crlf source⟩ = token.report? ⟨name, source⟩ := by
  obtain ⟨hkind, hline, hcolumn, -⟩ := hcopied.matches_token hreturn
  cases herror : token.error? name with
  | none =>
    have herror' : token'.error? name = none := by
      rw [Token.error?, Option.map_eq_none_iff] at herror ⊢
      rwa [hkind]
    rw [Token.report?, Token.report?, herror, herror']
    rfl
  | some e =>
    obtain ⟨hfault, hspan⟩ := Token.kind_of_error? herror
    obtain ⟨snippet, hsnippet, hsnippet', hlabel⟩ := hcopied.snippet_eq hreturn hfault name
    have herror' := Token.error?_of_kind (hkind.trans hfault) name
    rw [hspan] at hsnippet hline hcolumn
    rw [Token.report?, Token.report?, herror, herror', Option.map_some, Option.map_some,
      LexicalError.render_of_snippet hsnippet hlabel,
      LexicalError.render_of_snippet hsnippet' hlabel]
    simp only [hline, hcolumn]

/-- A token that is no comment is printed the same in a dump of the copy. -/
theorem line_eq (hcopied : Copied .start .start source token token') (hreturn : '\r' ∉ source)
    (hcomment : token.kind.isComment = false) (positions : Bool) :
    token'.line positions = token.line positions := by
  have hmatches := hcopied.matches_token hreturn
  have hdisplay : token'.display = token.display := by
    apply Token.display_congr hmatches.kind_eq
    intro hkind
    cases hcopied with
    | intro _ _ _ _ hplain => exact hplain hcomment hkind
  rw [Token.line, Token.line, hmatches.line_eq, hmatches.column_eq, hdisplay]

end Copied

/-! ### Sources -/

/-- Two lists have the same image if their members have, one by one. -/
theorem map_eq_of_forall₂ {α β γ : Type} {f : α → γ} {g : β → γ} {front : List α} {back : List β}
    (hsame : List.Forall₂ (fun a b => g b = f a) front back) : back.map g = front.map f := by
  induction hsame with
  | nil => rfl
  | cons hhead _ ih => rw [List.map_cons, List.map_cons, hhead, ih]

theorem copied_tokenize (name : String) {source : Text} (hreturn : '\r' ∉ source) :
    List.Forall₂ (Copied .start .start source) (tokenize name source)
      (tokenize name (crlf source)) := by
  obtain ⟨tokens', hstream', hcopied⟩ := (stream_tokenize name source).copy hreturn .start
  rwa [hstream'.unique (stream_tokenize name (crlf source))] at hcopied

/-- The tokens that are not comments are copies of each other, too. -/
theorem copied_filter {place place' : Position} {rest : Text} {tokens tokens' : List Token}
    (hcopied : List.Forall₂ (Copied place place' rest) tokens tokens') :
    List.Forall₂ (fun token token' => Copied place place' rest token token' ∧
        token.kind.isComment = false)
      (tokens.filter (!·.kind.isComment)) (tokens'.filter (!·.kind.isComment)) := by
  induction hcopied with
  | nil => exact .nil
  | @cons token token' tokens tokens' hhead _ ih =>
    rw [List.filter_cons, List.filter_cons, hhead.kind_eq]
    cases hcomment : token.kind.isComment with
    | true => exact ih
    | false => exact .cons ⟨hhead, hcomment⟩ ih

/-- The error of a file is that of its last token. -/
theorem lexicalReport?_eq (file : SourceFile) : lexicalReport? file =
    (((tokenize file.name file.content).map (·.report? file)).getLast?).join := by
  obtain ⟨front, last, htokens, -, -, hall⟩ := exists_tokenizeAll_eq file.name file.content
  rw [lexicalReport?, hall, htokens, List.map_append, List.map_singleton, List.getLast?_concat,
    Token.report?]
  cases last.error? file.name <;> rfl

theorem lexicalReport?_crlf (name : String) {source : Text} (hreturn : '\r' ∉ source) :
    lexicalReport? ⟨name, crlf source⟩ = lexicalReport? ⟨name, source⟩ := by
  have hreports : (tokenize name (crlf source)).map (·.report? ⟨name, crlf source⟩) =
      (tokenize name source).map (·.report? ⟨name, source⟩) :=
    map_eq_of_forall₂ ((copied_tokenize name hreturn).imp fun _ _ h => h.report?_eq hreturn name)
  rw [lexicalReport?_eq, lexicalReport?_eq, hreports]

/-! ### Files -/

/-- A file and its copy with other line endings. What is no text has no line endings. -/
inductive FileEntry.CrlfCopy : FileEntry → FileEntry → Prop
  | text {text : String} : '\r' ∉ text.toList →
      CrlfCopy (.file text.toUTF8) (.file (String.ofList (crlf text.toList)).toUTF8)
  | noText {content content' : ByteArray} : String.fromUTF8? content = none →
      String.fromUTF8? content' = none → CrlfCopy (.file content) (.file content')
  | missing : CrlfCopy .missing .missing
  | directory : CrlfCopy .directory .directory
  | locked (reason : String) : CrlfCopy (.locked reason) (.locked reason)

/-- A file and its copy cannot be read for the same reason, or are read as a text and its copy. -/
theorem readSource_copy {files files' : Files} {path : String}
    (hcopy : (files path).CrlfCopy (files' path)) :
    (∃ e, readSource files path = .error e ∧ readSource files' path = .error e) ∨
      ∃ text, '\r' ∉ text ∧ readSource files path = .ok ⟨path, text⟩ ∧
        readSource files' path = .ok ⟨path, crlf text⟩ := by
  generalize hentry : files path = entry at hcopy
  generalize hentry' : files' path = entry' at hcopy
  cases hcopy with
  | @text text hreturn =>
    refine Or.inr ⟨text.toList, hreturn, ?_, ?_⟩
    · rw [readSource, hentry]
      simp only [FileEntry.text_toUTF8]
    · rw [readSource, hentry']
      simp only [FileEntry.text_toUTF8, String.toList_ofList]
  | noText hnone hnone' =>
    refine Or.inl ⟨.failed path "stream did not contain valid UTF-8", ?_, ?_⟩
    · rw [readSource, hentry]
      simp only [FileEntry.text, hnone]
    · rw [readSource, hentry']
      simp only [FileEntry.text, hnone']
  | missing =>
    refine Or.inl ⟨.missing path, ?_, ?_⟩
    · rw [readSource, hentry]
    · rw [readSource, hentry']
  | directory =>
    refine Or.inl ⟨.notAFile path, ?_, ?_⟩
    · rw [readSource, hentry]
    · rw [readSource, hentry']
  | locked reason =>
    refine Or.inl ⟨.failed path reason, ?_, ?_⟩
    · rw [readSource, hentry]
      rfl
    · rw [readSource, hentry']
      rfl

theorem failureReport?_copy {files files' : Files} {path : String}
    (hcopy : (files path).CrlfCopy (files' path)) :
    failureReport? files' path = failureReport? files path := by
  rcases readSource_copy hcopy with ⟨e, hread, hread'⟩ | ⟨text, hreturn, hread, hread'⟩
  · rw [failureReport?, failureReport?, hread, hread']
  · rw [failureReport?, failureReport?, hread, hread']
    exact lexicalReport?_crlf path hreturn

/-! ### Checks and dumps -/

/-- What a check prints and results in is told by the reports of its paths. -/
theorem check_congr {files files' : Files} {options : CheckOptions}
    (hreports : ∀ path ∈ options.paths, failureReport? files' path = failureReport? files path)
    (schedule schedule' : Schedule) :
    (check files' schedule' options).stderr = (check files schedule options).stderr ∧
      (check files' schedule' options).result = (check files schedule options).result := by
  by_cases hpaths : options.paths = []
  · rw [check, check, hpaths]
    exact ⟨rfl, rfl⟩
  · have hcount : failureCount files' options.paths = failureCount files options.paths := by
      apply List.countP_congr
      intro path hpath
      rw [hreports path hpath]
    have hlist : options.paths.filterMap (failureReport? files') =
        options.paths.filterMap (failureReport? files) := List.filterMap_congr hreports
    obtain ⟨-, ⟨ok, hsum, hstderr⟩, hresult, -⟩ := checked files schedule hpaths
    obtain ⟨-, ⟨ok', hsum', hstderr'⟩, hresult', -⟩ := checked files' schedule' hpaths
    rw [hcount] at hsum' hstderr' hresult'
    obtain rfl : ok = ok' := by omega
    refine ⟨?_, hresult'.trans hresult.symm⟩
    rw [hstderr, hstderr', hlist]

theorem dump_copy {files files' : Files} {file : String}
    (hcopy : (files file).CrlfCopy (files' file)) (positions : Bool) :
    (dump files' ⟨file, .text, true, positions⟩).stdout =
        (dump files ⟨file, .text, true, positions⟩).stdout ∧
      (dump files' ⟨file, .text, true, positions⟩).stderr =
        (dump files ⟨file, .text, true, positions⟩).stderr := by
  let options : DumpOptions := ⟨file, .text, true, positions⟩
  obtain ⟨hreport, -⟩ := dump_report files options
  obtain ⟨hreport', -⟩ := dump_report files' options
  refine ⟨?_, ?_⟩
  · rcases readSource_copy hcopy with ⟨e, hread, hread'⟩ | ⟨text, hreturn, hread, hread'⟩
    · rw [dump_of_unreadable hread', dump_of_unreadable hread]
    · have hcopied := copied_filter (copied_tokenize file hreturn)
      have hlines : ((tokenize file (crlf text)).filter (!·.kind.isComment)).map
            (fun token => token.line positions ++ "\n") =
          ((tokenize file text).filter (!·.kind.isComment)).map
            fun token => token.line positions ++ "\n" := by
        apply map_eq_of_forall₂
        exact hcopied.imp fun _ _ h => congrArg (· ++ "\n") (h.1.line_eq hreturn h.2 positions)
      rw [dump_stdout hread', dump_stdout hread]
      exact congrArg String.join hlines
  · exact hreport'.trans ((congrArg (·.getD "") (failureReport?_copy hcopy)).trans hreport.symm)

/-- **Line endings do not matter.** A text without carriage returns and its copy with one before
    each line feed have the same tokens and, if there is an error, the same diagnostic. So checks of
    files and of their copies print and result in the same, and dumps without comments print the
    same. -/
theorem line_endings_ignored :
    (∀ (name : String) (source : Text), '\r' ∉ source →
      List.Forall₂ Token.Matches (tokenize name source) (tokenize name (crlf source)) ∧
      lexicalReport? ⟨name, crlf source⟩ = lexicalReport? ⟨name, source⟩) ∧
    (∀ (files files' : Files) (schedule schedule' : Schedule) (options : CheckOptions),
      (∀ path ∈ options.paths, (files path).CrlfCopy (files' path)) →
      (check files' schedule' options).stderr = (check files schedule options).stderr ∧
      (check files' schedule' options).result = (check files schedule options).result) ∧
    ∀ (files files' : Files) (file : String) (positions : Bool),
      (files file).CrlfCopy (files' file) →
      (dump files' ⟨file, .text, true, positions⟩).stdout =
        (dump files ⟨file, .text, true, positions⟩).stdout ∧
      (dump files' ⟨file, .text, true, positions⟩).stderr =
        (dump files ⟨file, .text, true, positions⟩).stderr := by
  refine ⟨?_, ?_, ?_⟩
  · intro name source hreturn
    refine ⟨?_, lexicalReport?_crlf name hreturn⟩
    exact (copied_tokenize name hreturn).imp fun _ _ h => h.matches_token hreturn
  · intro files files' schedule schedule' options hcopies
    apply check_congr
    intro path hpath
    exact failureReport?_copy (hcopies path hpath)
  · intro files files' file positions hcopy
    exact dump_copy hcopy positions

/-- The carriage return behind a backslash is escaped, and the string stays open. -/
theorem line_endings_ignored_string :
    '\r' ∉ "//a\n\"b\\\n".toList ∧
      List.Forall₂ Token.Matches (tokenize "a" "//a\n\"b\\\n".toList)
        (tokenize "a" "//a\r\n\"b\\\r\n".toList) ∧
      lexicalReport? ⟨"a", "//a\r\n\"b\\\r\n".toList⟩ =
        lexicalReport? ⟨"a", "//a\n\"b\\\n".toList⟩ ∧
      (check (fun _ => .file "//a\r\n\"b\\\r\n".toUTF8) .inOrder ⟨["a"], 1⟩).stderr =
        (check (fun _ => .file "//a\n\"b\\\n".toUTF8) .inOrder ⟨["a"], 1⟩).stderr ∧
      (dump (fun _ => .file "//a\r\n\"b\\\r\n".toUTF8) ⟨"a", .text, true, true⟩).stdout =
        (dump (fun _ => .file "//a\n\"b\\\n".toUTF8) ⟨"a", .text, true, true⟩).stdout := by
  have hreturn : '\r' ∉ "//a\n\"b\\\n".toList := by decide
  have hcrlf : crlf "//a\n\"b\\\n".toList = "//a\r\n\"b\\\r\n".toList := by decide
  have hcopy : FileEntry.CrlfCopy (.file "//a\n\"b\\\n".toUTF8)
      (.file "//a\r\n\"b\\\r\n".toUTF8) := by
    have htext := FileEntry.CrlfCopy.text hreturn
    rwa [hcrlf, String.ofList_toList] at htext
  obtain ⟨htokens, hreport⟩ := line_endings_ignored.1 "a" _ hreturn
  rw [hcrlf] at htokens hreport
  refine ⟨hreturn, htokens, hreport, ?_, ?_⟩
  · exact (line_endings_ignored.2.1 _ _ .inOrder .inOrder ⟨["a"], 1⟩ fun _ _ => hcopy).1
  · exact (line_endings_ignored.2.2 _ _ "a" true hcopy).1

end PermissionSchema
