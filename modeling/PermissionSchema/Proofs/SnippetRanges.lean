import PermissionSchema.Proofs.Lookups

/-!
# The columns that a snippet marks

A snippet can be asked for with any span, also with one that no token has: its line may be missing,
its column may be zero or past the end of the line, and its offsets may be in no order, inside
characters or outside the content. If the file has the line there is a snippet, its mark starts in
the span's column, and it covers what the span has in its first line, as far as there is room in
the line (`snippets_clipped`).
-/

namespace PermissionSchema

theorem length_firstLine (text : Text) : (firstLine text).length = text.idxOf '\n' := by
  induction text with
  | nil => rfl
  | cons c rest ih =>
    by_cases hc : c = '\n'
    · subst hc
      rw [List.idxOf_cons_self]
      rfl
    · rw [firstLine_cons hc, List.length_cons, ih, List.idxOf_cons_ne rest hc]

namespace Snippet

/-- The number of columns that a span asks to be marked in a content: that of the characters before
    the first line feed, if anything stands between its offsets, and none otherwise. -/
inductive Asks (content : Text) (span : Span) : Nat → Prop
  | between {text : Text} : content.Between span.start span.stop text →
      Asks content span (text.idxOf '\n')
  | nothing : ¬ (span.start ≤ span.stop ∧ content.IsBoundary span.start ∧
      content.IsBoundary span.stop) → Asks content span 0

/-- A snippet quotes the line of a span, and marks what the span asks for from its column on, as far
    as there is room in the line. -/
structure Clipped (file : SourceFile) (span : Span) (snippet : Snippet) : Prop where
  line_eq : file.lineAt span.line = .ok snippet.line
  lineNumber_eq : snippet.lineNumber = span.line
  startColumn_eq : snippet.startColumn = max 1 span.column
  startColumn_le : snippet.startColumn ≤ snippet.endColumn
  endColumn_le : snippet.endColumn ≤ max snippet.startColumn (snippet.line.length + 1)
  width_eq : ∃ width, Asks file.content span width ∧
    snippet.endColumn - snippet.startColumn =
      min width (snippet.line.length + 1 - snippet.startColumn)
  label_eq : snippet.label = none

section

variable {file : SourceFile} {span : Span}

/-- The snippet for a span whose line the file has. -/
theorem exists_ofSpan?_eq {line : Text} (hline : file.lineAt span.line = .ok line) :
    ∃ width, Asks file.content span width ∧
      ofSpan? file span = some ⟨line, span.line, max span.column 1,
        max (min (max span.column 1 + width) (line.length + 1)) (max span.column 1), none⟩ := by
  rw [ofSpan?, hline]
  cases hextract : file.extract span.start span.stop with
  | ok text =>
    refine ⟨_, .between (SourceFile.extract_eq_ok_iff.1 hextract), ?_⟩
    rw [← length_firstLine]
    rfl
  | error e =>
    refine ⟨0, .nothing ?_, rfl⟩
    rw [← Text.exists_between_iff]
    rintro ⟨text, htext⟩
    rw [SourceFile.extract_eq_ok_iff.2 htext] at hextract
    simp at hextract

theorem isSome_ofSpan?_iff :
    (ofSpan? file span).isSome = true ↔ 1 ≤ span.line ∧ span.line ≤ file.lineCount := by
  rcases file.lineAt_cases span.line with
    ⟨hmissing, herror⟩ | ⟨index, segment, hnumber, hindex, -, hline⟩
  · have hnone : ofSpan? file span = none := by rw [ofSpan?, herror]
    rw [hnone]
    constructor
    · intro hsome
      simp at hsome
    · intro hfound
      omega
  · obtain ⟨width, -, hsnippet⟩ := exists_ofSpan?_eq hline
    rw [hsnippet]
    exact iff_of_true rfl (by omega)

theorem clipped_of_ofSpan? {snippet : Snippet} (hsnippet : ofSpan? file span = some snippet) :
    Clipped file span snippet := by
  cases hline : file.lineAt span.line with
  | error e =>
    rw [ofSpan?, hline] at hsnippet
    simp at hsnippet
  | ok line =>
    obtain ⟨width, hasks, heq⟩ := exists_ofSpan?_eq hline
    obtain rfl := Option.some.inj (heq.symm.trans hsnippet)
    refine ⟨hline, rfl, Nat.max_comm _ _, Nat.le_max_right _ _, ?_, ⟨width, hasks, ?_⟩, rfl⟩
    · simp only
      omega
    · simp only
      omega

end

end Snippet

/-- **Snippets are clipped to their line.** For every span there is a snippet exactly when the file
    has its line, and its mark is clipped. For a column of 32 bits, and a content that takes up less
    than half of the 64-bit offsets, no check fails on the way. -/
theorem snippets_clipped (file : SourceFile) (span : Span) :
    ((Snippet.ofSpan? file span).isSome = true ↔ 1 ≤ span.line ∧ span.line ≤ file.lineCount) ∧
      (∀ snippet, Snippet.ofSpan? file span = some snippet → snippet.Clipped file span) ∧
      (Text.size file.content < UInt64.size / 2 → span.column < UInt32.size →
        Checked.ofSpan? file span = some (Snippet.ofSpan? file span)) :=
  ⟨Snippet.isSome_ofSpan?_iff, fun _ => Snippet.clipped_of_ofSpan?, Checked.ofSpan?_eq⟩

/-- A span that starts inside a character and has a column past the end of its line. -/
theorem snippets_clipped_inside_character :
    ∃ snippet, snippet.Clipped ⟨"a.opl", "é\r\nx".toList⟩ ⟨1, 3, 1, 7⟩ ∧ snippet.endColumn = 7 ∧
      Checked.ofSpan? ⟨"a.opl", "é\r\nx".toList⟩ ⟨1, 3, 1, 7⟩ = some (some snippet) := by
  obtain ⟨-, hclipped, hchecked⟩ := snippets_clipped ⟨"a.opl", "é\r\nx".toList⟩ ⟨1, 3, 1, 7⟩
  have hsnippet : Snippet.ofSpan? ⟨"a.opl", "é\r\nx".toList⟩ ⟨1, 3, 1, 7⟩ =
      some ⟨['é'], 1, 7, 7, none⟩ := by
    decide +kernel
  refine ⟨_, hclipped _ hsnippet, rfl, ?_⟩
  rw [hchecked (by decide +kernel) (by decide), hsnippet]

end PermissionSchema
