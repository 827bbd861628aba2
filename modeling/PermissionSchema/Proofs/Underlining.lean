import PermissionSchema.Proofs.Lines
import PermissionSchema.Proofs.Pulling
import PermissionSchema.Report.Diagnostic

/-!
# Underlining lexical errors

A lexical error is reported with its source line and with carets below the characters that are
wrong. Every error starts with a character that no line ends with (`Lexeme.of_error`), so trimming
the quoted line takes nothing from before the error, and the carets below it are exact
(`errors_underlined`).
-/

namespace PermissionSchema

/-- What keeps the place of some quoted characters in the line below them: tabs below tabs, and
    blanks below all other characters. -/
def blankedOut (text : Text) : Text := text.map fun c => if c = '\t' then '\t' else ' '

/-- Of two lines, the upper quotes a source line behind a gutter. The lower has carets, and has
    them below the characters of `marked`, which start in the given column of the source line. -/
def Underlines (line : Text) (column : Nat) (marked upper lower : Text) : Prop :=
  ∃ gutter gutter' before behind : Text, line = before ++ marked ++ behind ∧
    before.length + 1 = column ∧ upper = gutter ++ line ∧
    lower = gutter' ++ blankedOut before ++ List.replicate marked.length '^' ∧
    gutter'.length = gutter.length ∧ '^' ∉ gutter' ++ blankedOut before

/-- An error in a file is underlined: what is marked is its text, as far as the text stands in the
    line where it starts. -/
structure Underlined (file : SourceFile) (e : LexicalError) (snippet : Snippet) (marked : Text) :
    Prop where
  marked_eq : ∃ text, file.extract e.span.start e.span.stop = .ok text ∧
    marked = (text.takeWhile (· != '\n')).rdropWhile (· == '\r')
  marked_ne_nil : marked ≠ []
  snippet_eq : Snippet.ofSpan? file e.span = some snippet
  line_eq : file.lineAt e.span.line = .ok snippet.line
  lineNumber_eq : snippet.lineNumber = e.span.line
  startColumn_eq : snippet.startColumn = e.span.column
  endColumn_eq : snippet.endColumn = snippet.startColumn + marked.length
  /-- The marked columns of the line have the characters that are to be marked. -/
  columns_eq : (snippet.line.drop (snippet.startColumn - 1)).take
    (snippet.endColumn - snippet.startColumn) = marked
  /-- The rendered diagnostic quotes the line and underlines these characters, between what is wrong
      and where, and what may help. -/
  rendered : ∃ upper lower : Text, e.diagnostic.render file = String.join
    (([s!"error[{e.fault.code.text}]: {e.fault.message}",
        s!"  --> {file.name}:{e.span.line}:{e.span.column}",
        String.ofList upper, String.ofList lower] ++
      e.fault.help?.toList.map fun help => s!"  = help: {help}").map (· ++ "\n")) ∧
    Underlines snippet.line e.span.column marked upper lower

theorem caret_not_mem_blankedOut (text : Text) : '^' ∉ blankedOut text := by
  intro hmem
  obtain ⟨c, -, hc⟩ := List.mem_map.1 hmem
  split at hc <;> simp at hc

/-! ### Errors in their lines -/

/-- An error starts with a character that no line ends with. It is this character alone, or it has
    all that follows in its line. -/
theorem Lexeme.of_error {text behind : Text} {fault : Fault}
    (hlexeme : Lexeme (text ++ behind) (.error fault) text) :
    ∃ c tail, text = c :: tail ∧ isLineEnd c = false ∧
      (tail = [] ∨ firstLine (text ++ behind) = firstLine text) := by
  generalize hrest : text ++ behind = rest at hlexeme
  cases hlexeme with
  | unterminatedComment hopen _ =>
    obtain ⟨body, rfl⟩ := hopen
    exact ⟨'/', '*' :: body, rfl, rfl, Or.inr rfl⟩
  | unterminatedString hopen _ hline =>
    have hquote : ['"'] <+: text := hline.isPrefix_of_holds hopen (by decide)
    have htext : text = firstLine rest := hline.unique (Scan.longest_line rest)
    have hfirst : firstLine text = text := firstLine_eq_self hline.holds
    obtain ⟨tail, rfl⟩ := hquote
    exact ⟨'"', tail, rfl, rfl, Or.inr (htext.symm.trans hfirst.symm)⟩
  | @unexpected c rest hblank =>
    refine ⟨c, [], rfl, ?_, Or.inl rfl⟩
    simp only [isBlank, Bool.or_eq_false_iff] at hblank
    simp [isLineEnd, hblank]
  | mark _ hmem => simp [marks] at hmem

theorem ne_newline_of_isLineEnd {c : Char} (hc : isLineEnd c = false) : c ≠ '\n' := by
  rintro rfl
  simp [isLineEnd] at hc

/-- Of the line's rest, the characters of the error's first line are those of the error, as far as
    they are not trimmed. -/
theorem take_trimLineEnd_of_error {text behind : Text} {fault : Fault}
    (hlexeme : Lexeme (text ++ behind) (.error fault) text) :
    (trimLineEnd (firstLine (text ++ behind))).take (firstLine text).length =
      trimLineEnd (firstLine text) := by
  obtain ⟨c, tail, rfl, hc, hline⟩ := hlexeme.of_error
  rcases hline with rfl | hline
  · have hne := ne_newline_of_isLineEnd hc
    rw [List.cons_append, firstLine_cons hne, firstLine_cons hne, trimLineEnd_cons hc,
      trimLineEnd_cons hc]
    rfl
  · rw [hline]
    exact List.take_of_length_le (trimLineEnd_isPrefix _).length_le

/-- In the whole line, the columns from the error on have its first line. -/
theorem Lexeme.marked_columns {text behind : Text} {fault : Fault}
    (hlexeme : Lexeme (text ++ behind) (.error fault) text) (before : Text) :
    ((lastLine before ++ trimLineEnd (firstLine (text ++ behind))).drop
      (1 + (lastLine before).length - 1)).take (trimLineEnd (firstLine text)).length =
        trimLineEnd (firstLine text) := by
  have hprefix : trimLineEnd (firstLine text) <+: trimLineEnd (firstLine (text ++ behind)) := by
    rw [← take_trimLineEnd_of_error hlexeme]
    exact List.take_prefix _ _
  rw [Nat.add_sub_cancel_left, List.drop_left]
  exact (List.prefix_iff_eq_take.1 hprefix).symm

theorem trimLineEnd_firstLine_ne_nil {c : Char} (hc : isLineEnd c = false) (rest : Text) :
    trimLineEnd (firstLine (c :: rest)) ≠ [] := by
  rw [firstLine_cons (ne_newline_of_isLineEnd hc), trimLineEnd_cons hc]
  simp

/-- Trimming never takes a whole error out of its line, and so nothing before it. -/
theorem Lexeme.line_kept {text behind : Text} {fault : Fault}
    (hlexeme : Lexeme (text ++ behind) (.error fault) text) :
    trimLineEnd (firstLine (text ++ behind)) ≠ [] ∧ trimLineEnd (firstLine text) ≠ [] := by
  obtain ⟨c, tail, rfl, hc, -⟩ := hlexeme.of_error
  exact ⟨trimLineEnd_firstLine_ne_nil hc (tail ++ behind), trimLineEnd_firstLine_ne_nil hc tail⟩

/-! ### Snippets -/

namespace Snippet

/-- No line has number zero. -/
theorem ofSpan?_nowhere (file : SourceFile) : ofSpan? file .nowhere = none := rfl

/-- The snippet for a stretch of a file. -/
theorem ofSpan?_between {file : SourceFile} {before text behind line : Text} {column : Nat}
    (hcontent : file.content = before ++ (text ++ behind))
    (hline : line = trimLineEnd (lastLine before ++ firstLine (text ++ behind)))
    (hcolumn : column = 1 + (lastLine before).length) :
    ofSpan? file (.between (Position.start.after before) (Position.start.after (before ++ text))) =
      some { line, lineNumber := 1 + before.count '\n', startColumn := column,
             endColumn := max (min (column + (firstLine text).length) (line.length + 1)) column,
             label := none } := by
  have hextract : file.extract (Text.size before) (Text.size (before ++ text)) = .ok text := by
    rw [Text.size_append]
    exact SourceFile.extract_eq hcontent
  have hpos : max column 1 = column := by omega
  simp only [ofSpan?, Span.between, Position.after_start, SourceFile.lineAt_eq hcontent, hextract,
    ← hcolumn, hpos]
  rw [hline]
  rfl

/-- The snippet for an error. Its line goes on behind the error, or it ends with it and may have
    been trimmed. -/
theorem ofSpan?_of_error {file : SourceFile} {before text behind : Text} {fault : Fault}
    (hcontent : file.content = before ++ (text ++ behind))
    (hlexeme : Lexeme (text ++ behind) (.error fault) text) :
    ofSpan? file (.between (Position.start.after before) (Position.start.after (before ++ text))) =
      some { line := lastLine before ++ trimLineEnd (firstLine (text ++ behind)),
             lineNumber := 1 + before.count '\n', startColumn := 1 + (lastLine before).length,
             endColumn := 1 + (lastLine before).length + (trimLineEnd (firstLine text)).length,
             label := none } := by
  have hmarked := congrArg List.length (take_trimLineEnd_of_error hlexeme)
  rw [List.length_take] at hmarked
  have hline : lastLine before ++ trimLineEnd (firstLine (text ++ behind)) =
      trimLineEnd (lastLine before ++ firstLine (text ++ behind)) :=
    (trimLineEnd_append hlexeme.line_kept.1).symm
  rw [ofSpan?_between hcontent hline rfl, List.length_append, ← hmarked]
  simp only [Option.some.injEq, Snippet.mk.injEq, true_and, and_true]
  omega

theorem length_gutter {snippet : Snippet} {content : Text}
    (hfits : content.length ≤ snippet.numberWidth) :
    (snippet.gutter content).length = snippet.numberWidth + 3 := by
  simp only [gutter, List.length_append, List.length_replicate, List.length_cons, List.length_nil]
  omega

/-- The gutter below a line number is as long as the one with the number. -/
theorem length_gutter_nil (snippet : Snippet) :
    (snippet.gutter []).length = (snippet.gutter snippet.number).length := by
  rw [length_gutter (Nat.zero_le _), length_gutter (Nat.le_max_left _ _)]

theorem indent_eq {snippet : Snippet} (hinside : snippet.startColumn - 1 ≤ snippet.line.length) :
    snippet.indent = blankedOut (snippet.line.take (snippet.startColumn - 1)) := by
  have hpast : snippet.startColumn - 1 - snippet.line.length = 0 := by omega
  rw [indent, hpast, List.replicate_zero, List.append_nil, blankedOut]

/-- The two lines of a snippet underline the marked columns, if the line has them all. -/
theorem underlines {snippet : Snippet} {marked : Text} (hmarked : marked ≠ [])
    (hstart : 0 < snippet.startColumn)
    (hend : snippet.endColumn = snippet.startColumn + marked.length)
    (hcolumns : (snippet.line.drop (snippet.startColumn - 1)).take marked.length = marked) :
    Underlines snippet.line snippet.startColumn marked
      (snippet.gutter snippet.number ++ snippet.line)
      (snippet.gutter [] ++ snippet.indent ++ snippet.carets) := by
  have hpos : 0 < marked.length := List.length_pos_iff.2 hmarked
  have hinside : snippet.startColumn - 1 ≤ snippet.line.length := by
    have hlength := congrArg List.length hcolumns
    rw [List.length_take, List.length_drop] at hlength
    omega
  have hcarets : snippet.carets = List.replicate marked.length '^' := by
    rw [carets, hend, Nat.add_sub_cancel_left, Nat.max_eq_left hpos]
  refine ⟨snippet.gutter snippet.number, snippet.gutter [],
    snippet.line.take (snippet.startColumn - 1),
    (snippet.line.drop (snippet.startColumn - 1)).drop marked.length, ?_, ?_, rfl, ?_, ?_, ?_⟩
  · have hsplit := List.take_append_drop marked.length (snippet.line.drop (snippet.startColumn - 1))
    rw [hcolumns] at hsplit
    rw [List.append_assoc, hsplit, List.take_append_drop]
  · rw [List.length_take, Nat.min_eq_left hinside]
    omega
  · rw [indent_eq hinside, hcarets]
  · exact snippet.length_gutter_nil
  · have hgutter : '^' ∉ snippet.gutter [] := by simp [gutter]
    rw [List.mem_append, not_or]
    exact ⟨hgutter, caret_not_mem_blankedOut _⟩

end Snippet

/-- A rendered error has the two lines of its snippet, one below the other. -/
theorem LexicalError.render_of_snippet {e : LexicalError} {file : SourceFile} {snippet : Snippet}
    (hsnippet : Snippet.ofSpan? file e.span = some snippet) (hlabel : snippet.label = none) :
    e.diagnostic.render file = String.join
      (([s!"error[{e.fault.code.text}]: {e.fault.message}",
          s!"  --> {file.name}:{e.span.line}:{e.span.column}",
          String.ofList (snippet.gutter snippet.number ++ snippet.line),
          String.ofList (snippet.gutter [] ++ snippet.indent ++ snippet.carets)] ++
        e.fault.help?.toList.map fun help => s!"  = help: {help}").map (· ++ "\n")) := by
  have hlines : e.diagnostic.lines file =
      [s!"error[{e.fault.code.text}]: {e.fault.message}",
        s!"  --> {file.name}:{e.span.line}:{e.span.column}"] ++ [snippet.format] ++
          e.fault.help?.toList.map fun help => s!"  = help: {help}" := by
    have hplaced : e.diagnostic.span ≠ .nowhere := by
      intro hnowhere
      have hspan : e.span = .nowhere := hnowhere
      rw [hspan, Snippet.ofSpan?_nowhere] at hsnippet
      simp at hsnippet
    have hquoted : Snippet.ofSpan? file e.diagnostic.span = some snippet := hsnippet
    rw [Diagnostic.lines, if_neg hplaced, hquoted]
    simp [diagnostic, Level.name, toString, ← String.toList_inj]
  rw [Diagnostic.render, hlines]
  simp [Snippet.format, Snippet.remark, hlabel, String.join_cons, String.append_assoc]

/-! ### Errors of a source -/

/-- The error of a source is that of one of its tokens. -/
theorem exists_token_of_error {name : String} {source : Text} {e : LexicalError}
    (herror : tokenizeAll name source = .error e) :
    ∃ token ∈ tokenize name source, token.kind = .error e.fault ∧ token.span = e.span := by
  obtain ⟨front, last, htokens, -, -, hall⟩ := exists_tokenizeAll_eq name source
  rw [hall] at herror
  split at herror
  · next found hfound =>
    obtain rfl : found = e := Except.error.inj herror
    obtain ⟨hkind, hspan⟩ := Token.kind_of_error? hfound
    exact ⟨last, by simp [htokens], hkind, hspan⟩
  · simp at herror

theorem Underlined.of_lexeme {file : SourceFile} {e : LexicalError} {before text behind : Text}
    (hcontent : file.content = before ++ (text ++ behind))
    (hlexeme : Lexeme (text ++ behind) (.error e.fault) text)
    (hspan : e.span = .between (Position.start.after before)
      (Position.start.after (before ++ text))) :
    ∃ snippet, Underlined file e snippet (trimLineEnd (firstLine text)) := by
  have hsnippet := Snippet.ofSpan?_of_error hcontent hlexeme
  rw [← hspan] at hsnippet
  have hline : e.span.line = 1 + before.count '\n' := by
    rw [hspan, Span.between, Position.after_start]
  have hcolumn : e.span.column = 1 + (lastLine before).length := by
    rw [hspan, Span.between, Position.after_start]
  obtain ⟨hkept, hmarked⟩ := hlexeme.line_kept
  have hquoted : file.lineAt e.span.line =
      .ok (lastLine before ++ trimLineEnd (firstLine (text ++ behind))) := by
    rw [hline, SourceFile.lineAt_eq hcontent, trimLineEnd_append hkept]
  have hcolumns := hlexeme.marked_columns before
  refine ⟨_, ⟨text, ?_, ?_⟩, hmarked, hsnippet, hquoted, hline.symm, hcolumn.symm, rfl, ?_, ?_⟩
  · rw [hspan, Span.start_between, Span.stop_between, Text.size_append]
    exact SourceFile.extract_eq hcontent
  · exact trimLineEnd_of_newline_not_mem (newline_not_mem_firstLine text)
  · rw [Nat.add_sub_cancel_left (1 + (lastLine before).length)]
    exact hcolumns
  · refine ⟨_, _, LexicalError.render_of_snippet hsnippet rfl, ?_⟩
    rw [hcolumn]
    exact Snippet.underlines hmarked (Nat.lt_add_right _ Nat.one_pos) rfl hcolumns

/-- **Every lexical error is underlined exactly.** -/
theorem errors_underlined (name : String) (source : Text) {e : LexicalError}
    (herror : tokenizeAll name source = .error e) :
    ∃ snippet marked, Underlined ⟨name, source⟩ e snippet marked := by
  obtain ⟨token, hmem, hkind, hspan⟩ := exists_token_of_error herror
  obtain ⟨before, behind, hcut, hlexeme, hbetween⟩ :=
    (stream_tokenize name source).lexeme_of_mem hmem
  rw [hkind] at hlexeme
  rw [hspan] at hbetween
  have hcontent : (⟨name, source⟩ : SourceFile).content =
      before ++ (token.text ++ behind) := hcut
  obtain ⟨snippet, hunderlined⟩ := Underlined.of_lexeme hcontent hlexeme hbetween
  exact ⟨snippet, _, hunderlined⟩

/-- A comment that is never closed is underlined up to the carriage return of its first line. -/
theorem errors_underlined_comment :
    ∃ e, tokenizeAll "a.opl" "a\t/* é\r\n b".toList = .error e ∧ e.span = ⟨2, 11, 1, 3⟩ ∧
      ∃ snippet marked, Underlined ⟨"a.opl", "a\t/* é\r\n b".toList⟩ e snippet marked := by
  have herror : tokenizeAll "a.opl" "a\t/* é\r\n b".toList =
      .error ⟨.unterminatedComment, "a.opl", ⟨2, 11, 1, 3⟩⟩ := by
    decide +kernel
  exact ⟨_, herror, rfl, errors_underlined "a.opl" _ herror⟩

end PermissionSchema
