import PermissionSchema.Source.Cursor
import PermissionSchema.Source.File
import Mathlib.Data.List.DropRight
import Mathlib.Data.List.Induction
import Mathlib.Data.List.TakeWhile

/-!
# Counting lines

Two counters tell where the lines of a text are: a position counts them character by character as
it goes, a source file lists where they start. Both are described here by the line feeds passed
and by `lastLine`, what stands behind the last of them. With `firstLine`, what stands before the
next one, this gives the line around any place of a file (`SourceFile.lineAt_eq`).
-/

namespace PermissionSchema

/-- What stands behind the last line feed of a text, or all of it. -/
def lastLine (text : Text) : Text := (text.reverse.takeWhile (· != '\n')).reverse

theorem lastLine_append_newline (text : Text) : lastLine (text ++ ['\n']) = [] := by
  simp [lastLine]

theorem lastLine_append_other {c : Char} (hc : c ≠ '\n') (text : Text) :
    lastLine (text ++ [c]) = lastLine text ++ [c] := by
  simp [lastLine, hc]

theorem newline_not_mem_lastLine (text : Text) : '\n' ∉ lastLine text := by
  intro hmem
  have htaken : '\n' ∈ text.reverse.takeWhile (· != '\n') := by simpa [lastLine] using hmem
  simpa using List.mem_takeWhile_imp htaken

/-- A text is some whole lines and its last line. -/
theorem exists_append_lastLine (text : Text) :
    ∃ lines, text = lines ++ lastLine text ∧ (lines = [] ∨ ∃ front, lines = front ++ ['\n']) := by
  induction text using List.reverseRecOn with
  | nil => exact ⟨[], rfl, Or.inl rfl⟩
  | append_singleton text c ih =>
    by_cases hc : c = '\n'
    · subst hc
      refine ⟨text ++ ['\n'], ?_, Or.inr ⟨text, rfl⟩⟩
      rw [lastLine_append_newline, List.append_nil]
    · obtain ⟨lines, htext, hlines⟩ := ih
      refine ⟨lines, ?_, hlines⟩
      rw [lastLine_append_other hc, ← List.append_assoc, ← htext]

/-- What stands before the first line feed of a text, or all of it. -/
def firstLine (text : Text) : Text := text.takeWhile (· != '\n')

theorem newline_not_mem_firstLine (text : Text) : '\n' ∉ firstLine text := by
  intro hmem
  simpa using List.mem_takeWhile_imp hmem

theorem firstLine_cons {c : Char} (hc : c ≠ '\n') (rest : Text) :
    firstLine (c :: rest) = c :: firstLine rest := by
  simp [firstLine, hc]

theorem firstLine_append {front : Text} (hfront : '\n' ∉ front) (text : Text) :
    firstLine (front ++ text) = front ++ firstLine text := by
  apply List.takeWhile_append_of_pos
  intro c hc
  have hne : c ≠ '\n' := by
    rintro rfl
    exact hfront hc
  simpa using hne

theorem firstLine_eq_self {text : Text} (hline : '\n' ∉ text) : firstLine text = text := by
  have hfirst : firstLine (text ++ []) = text ++ [] := firstLine_append hline []
  rwa [List.append_nil] at hfirst

/-- A text is its first line, or its first line and what stands below it. -/
theorem eq_firstLine_or (text : Text) :
    text = firstLine text ∨ ∃ below, text = firstLine text ++ '\n' :: below := by
  induction text with
  | nil => exact Or.inl rfl
  | cons c rest ih =>
    by_cases hc : c = '\n'
    · subst hc
      exact Or.inr ⟨rest, rfl⟩
    · rw [firstLine_cons hc]
      rcases ih with heq | ⟨below, heq⟩
      · exact Or.inl (congrArg (c :: ·) heq)
      · exact Or.inr ⟨below, congrArg (c :: ·) heq⟩

/-! ### Trimming -/

theorem trimLineEnd_isPrefix (line : Text) : trimLineEnd line <+: line :=
  List.rdropWhile_prefix isLineEnd line

theorem trimLineEnd_append_newline (line : Text) :
    trimLineEnd (line ++ ['\n']) = trimLineEnd line :=
  List.rdropWhile_concat_pos isLineEnd line '\n' rfl

theorem trimLineEnd_append {front back : Text} (hback : trimLineEnd back ≠ []) :
    trimLineEnd (front ++ back) = front ++ trimLineEnd back := by
  have hkept : (back.reverse.dropWhile isLineEnd).isEmpty = false := by
    rw [List.isEmpty_eq_false_iff]
    exact fun hnil => hback (congrArg List.reverse hnil)
  simp [trimLineEnd, List.dropWhile_append, hkept]

theorem trimLineEnd_cons {c : Char} (hc : isLineEnd c = false) (rest : Text) :
    trimLineEnd (c :: rest) = c :: trimLineEnd rest := by
  by_cases hrest : trimLineEnd rest = []
  · have hends : ∀ d ∈ rest, isLineEnd d = true := List.rdropWhile_eq_nil_iff.1 hrest
    have hdropped : (rest.reverse ++ [c]).dropWhile isLineEnd = [c] := by
      rw [List.dropWhile_append_of_pos (by simpa using hends),
      List.dropWhile_cons_of_neg (by simp [hc])]
    rw [hrest, trimLineEnd, List.reverse_cons, hdropped, List.reverse_singleton]
  · have happend : trimLineEnd ([c] ++ rest) = [c] ++ trimLineEnd rest := trimLineEnd_append hrest
    exact happend

/-- Within one line, only carriage returns are trimmed. -/
theorem trimLineEnd_of_newline_not_mem {line : Text} (hline : '\n' ∉ line) :
    trimLineEnd line = line.rdropWhile (· == '\r') := by
  have htrim : trimLineEnd line = line.rdropWhile isLineEnd := rfl
  rw [htrim]
  induction line using List.reverseRecOn with
  | nil => rfl
  | append_singleton line c ih =>
    have hc : c ≠ '\n' := by
      rintro rfl
      exact hline (by simp)
    have htest : isLineEnd c = (c == '\r') := by
      simp [isLineEnd, hc]
    have hfront := ih (fun hmem => hline (by simp [hmem])) rfl
    rw [List.rdropWhile_concat, List.rdropWhile_concat, htest, hfront]

/-! ### Positions -/

namespace Position

theorem after_line (place : Position) (passed : Text) :
    (place.after passed).line = place.line + passed.count '\n' := by
  induction passed generalizing place with
  | nil => simp
  | cons c rest ih =>
    rw [after_cons, ih, List.count_cons, next]
    by_cases hc : c = '\n'
    · simp [hc]
      omega
    · simp [hc]

/-- From the start of a text on, the column tells how much of the line has been passed. -/
theorem after_start_column (passed : Text) :
    (start.after passed).column = 1 + (lastLine passed).length := by
  induction passed using List.reverseRecOn with
  | nil => rfl
  | append_singleton text c ih =>
    rw [after_append, after_cons, after_nil, next]
    by_cases hc : c = '\n'
    · subst hc
      simp [lastLine_append_newline]
    · simp [hc, lastLine_append_other hc, ih, Nat.add_assoc]

/-- A place as it is counted in the text before it. -/
theorem after_start (passed : Text) : start.after passed =
    ⟨Text.size passed, 1 + passed.count '\n', 1 + (lastLine passed).length⟩ := by
  have hoffset := after_offset start passed
  have hline := after_line start passed
  have hcolumn := after_start_column passed
  cases hplace : start.after passed with
  | mk offset line column =>
    rw [hplace] at hoffset hline hcolumn
    simp only [start, Nat.zero_add] at hoffset hline hcolumn
    rw [hoffset, hline, hcolumn]

/-- The place behind one more character, if the counter that goes up for it has 32 bits: nothing
    when the addition would overflow. -/
def next32? (place : Position) (c : Char) : Option Position :=
  let counter := if c = '\n' then place.line else place.column
  if counter + 1 < UInt32.size then some (place.next c) else none

/-- A counter goes up by one at most for each character. -/
theorem foldlM_next32? {place : Position} {passed : Text}
    (hline : place.line + passed.length < UInt32.size)
    (hcolumn : place.column + passed.length < UInt32.size) :
    passed.foldlM next32? place = some (place.after passed) := by
  induction passed generalizing place with
  | nil => rfl
  | cons c rest ih =>
    rw [List.length_cons] at hline hcolumn
    have hfits : (if c = '\n' then place.line else place.column) + 1 < UInt32.size := by
      split <;> omega
    have hline' : (place.next c).line + rest.length < UInt32.size := by
      simp only [next]
      split <;> omega
    have hcolumn' : (place.next c).column + rest.length < UInt32.size := by
      simp only [next]
      split <;> omega
    have hnext : place.next32? c = some (place.next c) := if_pos hfits
    rw [List.foldlM_cons, hnext, Option.bind_eq_bind, Option.bind_some, ih hline' hcolumn',
      after_cons]

end Position

theorem Text.length_le_size (text : Text) : text.length ≤ Text.size text := by
  induction text with
  | nil => simp
  | cons c rest ih =>
    have hpos := c.utf8Size_pos
    rw [List.length_cons, size_cons]
    omega

/-- However far the cursor moves on, no addition to its line or column overflows 32 bits. -/
def Cursor.CountsFit (cursor : Cursor) : Prop :=
  ∀ count, (cursor.remaining.take count).foldlM Position.next32? cursor.place =
    some (cursor.move count).place

theorem Cursor.countsFit_of_length {cursor : Cursor} (hline : cursor.place.line = 1)
    (hcolumn : cursor.place.column = 1) (hlength : cursor.remaining.length < UInt32.size - 1) :
    cursor.CountsFit := by
  intro count
  have htaken : (cursor.remaining.take count).length ≤ cursor.remaining.length :=
    List.length_take_le' _ _
  exact Position.foldlM_next32? (by omega) (by omega)

/-! ### Line starts -/

theorem lineStartsFrom_append (offset : Nat) (front back : Text) :
    lineStartsFrom offset (front ++ back) =
      lineStartsFrom offset front ++ lineStartsFrom (offset + Text.size front) back := by
  induction front generalizing offset with
  | nil => simp [lineStartsFrom]
  | cons c rest ih =>
    by_cases hc : c = '\n'
    · simp [lineStartsFrom, hc, ih, Nat.add_assoc]
    · simp [lineStartsFrom, hc, ih, Nat.add_assoc]

@[simp] theorem length_lineStartsFrom (offset : Nat) (text : Text) :
    (lineStartsFrom offset text).length = text.count '\n' := by
  induction text generalizing offset with
  | nil => rfl
  | cons c rest ih =>
    by_cases hc : c = '\n'
    · simp [lineStartsFrom, hc, ih]
    · simp [lineStartsFrom, hc, ih]

namespace SourceFile

/-- A text has one line more than it has line feeds. -/
theorem lineCount_eq (file : SourceFile) : file.lineCount = 1 + file.content.count '\n' := by
  rw [lineCount, lineStarts, List.length_cons, length_lineStartsFrom, Nat.add_comm]

/-- A line starts behind some whole lines, and its number is theirs. -/
theorem lineStart?_of_lines {file : SourceFile} {lines rest : Text}
    (hcontent : file.content = lines ++ rest)
    (hlines : lines = [] ∨ ∃ front, lines = front ++ ['\n']) :
    file.lineStart? (lines.count '\n') = some (Text.size lines) := by
  rcases hlines with rfl | ⟨front, rfl⟩
  · rfl
  · have hcount : (front ++ ['\n']).count '\n' = (lineStartsFrom 0 front).length + 1 := by
      simp
    rw [lineStart?, lineStarts, hcontent, hcount, List.getElem?_cons_succ, List.append_assoc,
      lineStartsFrom_append, List.getElem?_append_right (Nat.le_refl _), Nat.sub_self]
    simp [lineStartsFrom]

/-- Where a line starts is found under the number of line feeds before any place in the line. -/
theorem exists_lineStart?_of_prefix {file : SourceFile} {before behind : Text}
    (hcontent : file.content = before ++ behind) :
    ∃ lines, before = lines ++ lastLine before ∧
      file.content = lines ++ (lastLine before ++ behind) ∧
      file.lineStart? (before.count '\n') = some (Text.size lines) := by
  obtain ⟨lines, hbefore, hlines⟩ := exists_append_lastLine before
  have hcontent' : file.content = lines ++ (lastLine before ++ behind) := by
    rw [hcontent, ← List.append_assoc, ← hbefore]
  have hcount : before.count '\n' = lines.count '\n' := by
    have hlast : (lastLine before).count '\n' = 0 :=
      List.count_eq_zero.2 (newline_not_mem_lastLine before)
    rw [congrArg (List.count '\n') hbefore, List.count_append, hlast, Nat.add_zero]
  refine ⟨lines, hbefore, hcontent', ?_⟩
  rw [hcount]
  exact lineStart?_of_lines hcontent' hlines

/-- A stretch of the content is extracted by the offsets of its ends. -/
theorem extract_eq {file : SourceFile} {front text behind : Text}
    (hcontent : file.content = front ++ (text ++ behind)) :
    file.extract (Text.size front) (Text.size front + Text.size text) = .ok text := by
  have hslice := Text.slice?_between hcontent
  have hsize : Text.size file.content = Text.size front + (Text.size text + Text.size behind) := by
    rw [hcontent, Text.size_append, Text.size_append]
  rw [extract, if_neg (by omega), if_neg (by omega), hslice]

/-- No line starts behind the last one. -/
theorem lineStart?_eq_none {file : SourceFile} {before rest : Text}
    (hcontent : file.content = before ++ rest) (hrest : '\n' ∉ rest) :
    file.lineStart? (before.count '\n' + 1) = none := by
  have hcount : rest.count '\n' = 0 := List.count_eq_zero.2 hrest
  have hlines := file.lineCount_eq
  rw [hcontent, List.count_append, hcount] at hlines
  rw [lineStart?, List.getElem?_eq_none_iff, ← lineCount]
  omega

/-- Behind any other line, the next one starts. -/
theorem lineStart?_eq_some {file : SourceFile} {before line below : Text}
    (hcontent : file.content = before ++ (line ++ '\n' :: below)) (hline : '\n' ∉ line) :
    file.lineStart? (before.count '\n' + 1) = some (Text.size (before ++ (line ++ ['\n']))) := by
  have hcontent' : file.content = (before ++ line ++ ['\n']) ++ below := by
    rw [hcontent, List.append_assoc, List.append_assoc, List.singleton_append]
  have hlookup := lineStart?_of_lines hcontent' (Or.inr ⟨_, rfl⟩)
  have hcount : line.count '\n' = 0 := List.count_eq_zero.2 hline
  rwa [List.count_append, List.count_append, hcount, List.count_singleton_self, Nat.add_zero,
    List.append_assoc] at hlookup

/-- The line around a place goes from where it starts to where the next one does. -/
theorem lineAt_of_stop {file : SourceFile} {before line behind : Text}
    (hcontent : file.content = before ++ (line ++ behind))
    (hstop : (file.lineStart? (before.count '\n' + 1)).getD (Text.size file.content) =
      Text.size (before ++ line)) :
    file.lineAt (1 + before.count '\n') = .ok (trimLineEnd (lastLine before ++ line)) := by
  obtain ⟨lines, hbefore, hcut, hstart⟩ := exists_lineStart?_of_prefix hcontent
  have hsize : Text.size (before ++ line) =
      Text.size lines + Text.size (lastLine before ++ line) := by
    rw [Text.size_append, congrArg Text.size hbefore, Text.size_append, Text.size_append,
      Nat.add_assoc]
  have hextract : file.extract (Text.size lines)
      (Text.size lines + Text.size (lastLine before ++ line)) = .ok (lastLine before ++ line) := by
    rw [← List.append_assoc (lastLine before)] at hcut
    exact extract_eq hcut
  rw [Nat.add_comm, lineAt]
  simp only [hstart, hstop, hsize, hextract]
  rfl

/-- Around any place, the line of the place's number is what stands before and behind it in its
    line, without the end of the line. -/
theorem lineAt_eq {file : SourceFile} {before rest : Text}
    (hcontent : file.content = before ++ rest) :
    file.lineAt (1 + before.count '\n') =
      .ok (trimLineEnd (lastLine before ++ firstLine rest)) := by
  rcases eq_firstLine_or rest with hrest | ⟨below, hrest⟩
  · -- the last line goes to the end of the content
    have hwhole : file.content = before ++ (firstLine rest ++ []) := by
      rw [hcontent, List.append_nil, ← hrest]
    apply lineAt_of_stop hwhole
    rw [List.append_nil] at hwhole
    rw [lineStart?_eq_none hwhole (newline_not_mem_firstLine rest), Option.getD_none, hwhole]
  · -- another line goes to its line feed, which is trimmed
    have hwhole : file.content = before ++ (firstLine rest ++ '\n' :: below) := by
      rw [hcontent, ← hrest]
    have hcut : file.content = before ++ ((firstLine rest ++ ['\n']) ++ below) := by
      rw [hwhole, List.append_assoc, List.singleton_append]
    have hstop := lineStart?_eq_some hwhole (newline_not_mem_firstLine rest)
    rw [lineAt_of_stop hcut (by rw [hstop, Option.getD_some]), ← List.append_assoc,
      trimLineEnd_append_newline]

end SourceFile

end PermissionSchema
