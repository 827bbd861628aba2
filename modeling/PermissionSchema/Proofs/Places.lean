import PermissionSchema.Proofs.Lines
import PermissionSchema.Proofs.Pulling

/-!
# Where the tokens of a file stand

A lexer counts lines and columns as it goes, a source file looks them up in its list of line
starts. For every token both tell the same place (`tokens_placed`).
-/

namespace PermissionSchema

/-- A token stands in a file where its span says, by either count of the lines. -/
structure Placed (file : SourceFile) (token : Token) : Prop where
  /-- Line and column are what is counted in the content before the token. -/
  counted : ∃ before, file.content.slice? 0 token.span.start = some before ∧
    token.span.line = 1 + before.count '\n' ∧ token.span.column = 1 + (lastLine before).length
  /-- The line of that number starts before the token, and the column tells what is between. -/
  found : ∃ lineStart, file.lineStart? (token.span.line - 1) = some lineStart ∧
    lineStart ≤ token.span.start ∧
    ∃ passed, file.content.slice? lineStart token.span.start = some passed ∧
      '\n' ∉ passed ∧ passed.length = token.span.column - 1
  extracted : file.extract token.span.start token.span.stop = .ok token.text
  /-- The end of input stands in the last line. -/
  last_line : token.kind = .endOfInput → token.span.line = file.lineCount

theorem Placed.of_lexeme {file : SourceFile} {before behind : Text} {token : Token}
    (hcontent : file.content = before ++ (token.text ++ behind))
    (hlexeme : Lexeme (token.text ++ behind) token.kind token.text)
    (hspan : token.span = .between (Position.start.after before)
      (Position.start.after (before ++ token.text))) : Placed file token := by
  have hline : token.span.line = 1 + before.count '\n' := by
    rw [hspan, Span.between, Position.after_line, Position.start]
  have hcolumn : token.span.column = 1 + (lastLine before).length := by
    rw [hspan, Span.between, Position.after_start_column]
  have hstart : token.span.start = Text.size before := by
    rw [hspan, Span.start_between]
  refine ⟨⟨before, ?_, hline, hcolumn⟩, ?_, ?_, ?_⟩
  · have hcut : file.content = [] ++ (before ++ (token.text ++ behind)) := hcontent
    have hslice := Text.slice?_between hcut
    rwa [Text.size_nil, Nat.zero_add, ← hstart] at hslice
  · obtain ⟨lines, hbefore, hcut, hlookup⟩ := SourceFile.exists_lineStart?_of_prefix hcontent
    have hsize : token.span.start = Text.size lines + Text.size (lastLine before) := by
      rw [hstart, ← Text.size_append, ← hbefore]
    have hindex : token.span.line - 1 = before.count '\n' := by
      omega
    refine ⟨Text.size lines, by rw [hindex, hlookup], by omega, lastLine before, ?_,
      newline_not_mem_lastLine before, by omega⟩
    have hslice := Text.slice?_between hcut
    rwa [← hsize] at hslice
  · rw [hspan, Span.start_between, Span.stop_between, Text.size_append]
    exact SourceFile.extract_eq hcontent
  · intro hkind
    rw [hkind] at hlexeme
    rw [hlexeme.eq_nil_of_endOfInput, List.append_nil] at hcontent
    rw [hline, file.lineCount_eq, hcontent]

/-- Every token stands where its span says, and no count of a line or a column over a source of
    fewer than `UInt32.size - 1` bytes overflows: not the lexer's own, which starts before the first
    character, and not that of a step, which starts over at any offset. -/
theorem tokens_placed (name : String) (source : Text) :
    (∀ token ∈ tokenize name source, Placed ⟨name, source⟩ token) ∧
      (Text.size source < UInt32.size - 1 → (Cursor.ofText source).CountsFit ∧
        ∀ offset, (Cursor.ofOffset source offset).CountsFit) := by
  constructor
  · intro token hmem
    obtain ⟨before, behind, hcontent, hlexeme, hspan⟩ :=
      (stream_tokenize name source).lexeme_of_mem hmem
    exact Placed.of_lexeme hcontent hlexeme hspan
  · intro hsize
    have hlength := Text.length_le_size source
    refine ⟨Cursor.countsFit_of_length rfl rfl (Nat.lt_of_le_of_lt hlength hsize), ?_⟩
    intro offset
    have hleft : (source.dropBytes offset).length ≤ source.length := by
      rw [Text.dropBytes, List.length_drop]
      omega
    exact Cursor.countsFit_of_length rfl rfl
      (Nat.lt_of_le_of_lt (Nat.le_trans hleft hlength) hsize)

/-- The line feed inside a comment is counted, its carriage return and its two-byte character
    count as one character each. -/
theorem tokens_placed_behind_comment :
    ∃ token ∈ tokenize "a.opl" "/*\r\né*/ x".toList, token.span = ⟨9, 10, 2, 5⟩ ∧
      Placed ⟨"a.opl", "/*\r\né*/ x".toList⟩ token ∧
      (Cursor.ofText "/*\r\né*/ x".toList).CountsFit := by
  obtain ⟨hplaced, hfits⟩ := tokens_placed "a.opl" "/*\r\né*/ x".toList
  have hmem : ⟨.identifier, ['x'], ⟨9, 10, 2, 5⟩⟩ ∈ tokenize "a.opl" "/*\r\né*/ x".toList := by
    decide +kernel
  exact ⟨_, hmem, rfl, hplaced _ hmem, (hfits (by decide +kernel)).1⟩

end PermissionSchema
