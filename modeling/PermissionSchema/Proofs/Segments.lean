import PermissionSchema.Proofs.Motions
import PermissionSchema.Proofs.PrintedLines

/-!
# Segments

The line starts of a file cut its content into segments: lines, each with the line feed that ends
it, and a last line without one. `Segmented` takes a text apart in this way, and what a source file
tells of its lines is read off the parts (`SourceFile.segment?_eq`, `SourceFile.lineAt_cases`).
-/

namespace PermissionSchema

namespace Text

/-- What stands in a text between two byte offsets. -/
def Between (text : Text) (start stop : Nat) (middle : Text) : Prop :=
  ∃ front behind, text = front ++ (middle ++ behind) ∧ start = size front ∧
    stop = size front + size middle

section

variable {text middle : Text} {start stop : Nat}

/-- Something stands between two boundaries in order. -/
theorem exists_between_iff :
    (∃ middle, text.Between start stop middle) ↔
      start ≤ stop ∧ text.IsBoundary start ∧ text.IsBoundary stop := by
  constructor
  · rintro ⟨middle, front, behind, rfl, rfl, rfl⟩
    refine ⟨Nat.le_add_right _ _, isBoundary_size _ _, ?_⟩
    rw [← size_append, ← List.append_assoc]
    exact isBoundary_size _ _
  · rintro ⟨hle, hstart, hstop⟩
    obtain ⟨front, back, htext, rfl⟩ := isBoundary_iff.1 hstart
    obtain ⟨front', behind, htext', rfl⟩ := isBoundary_iff.1 hstop
    obtain ⟨middle, rfl⟩ : front <+: front' :=
      isPrefix_of_size_le ⟨back, htext.symm⟩ ⟨behind, htext'.symm⟩ hle
    refine ⟨middle, front, behind, ?_, rfl, size_append front middle⟩
    rw [htext', List.append_assoc]

theorem slice?_of_between (h : text.Between start stop middle) :
    text.slice? start stop = some middle := by
  obtain ⟨front, behind, htext, rfl, rfl⟩ := h
  exact slice?_between htext

/-- What is cut from a text is what stands there. -/
theorem slice?_eq_some_iff : text.slice? start stop = some middle ↔
    text.Between start stop middle := by
  refine ⟨?_, slice?_of_between⟩
  intro hslice
  have hbounds : start ≤ stop ∧ text.IsBoundary start ∧ text.IsBoundary stop := by
    have hcut := hslice
    rw [slice?] at hcut
    split at hcut
    case isFalse => simp at hcut
    case isTrue hle =>
      obtain ⟨skipped, hskipped, hcut⟩ := Option.bind_eq_some_iff.1 hcut
      obtain ⟨kept, hkept, -⟩ := Option.bind_eq_some_iff.1 hcut
      exact ⟨hle, Option.isSome_of_eq_some hskipped, Option.isSome_of_eq_some hkept⟩
  obtain ⟨middle', hmiddle⟩ := exists_between_iff.2 hbounds
  obtain rfl : middle' = middle :=
    Option.some.inj ((slice?_of_between hmiddle).symm.trans hslice)
  exact hmiddle

theorem slice?_eq_none_iff : text.slice? start stop = none ↔
    ¬ ∃ middle, text.Between start stop middle := by
  rw [Option.eq_none_iff_forall_ne_some, not_exists]
  exact forall_congr' fun middle => not_congr slice?_eq_some_iff

theorem length_le_of_between (h : text.Between start stop middle) :
    middle.length ≤ size text := by
  obtain ⟨front, behind, rfl, -, -⟩ := h
  have hlength := length_le_size middle
  rw [size_append, size_append]
  omega

end

end Text

/-! ### Texts line by line -/

/-- A text is some lines, each ended by its only line feed, and a last one without. -/
structure Segmented (text : Text) (lines : List Text) (last : Text) : Prop where
  text_eq : text = breakLines lines ++ last
  newline_not_mem : ∀ line ∈ lines, '\n' ∉ line
  newline_not_mem_last : '\n' ∉ last

/-- The lines as they stand in the text, each but the last with its line feed. -/
def segments (lines : List Text) (last : Text) : List Text := lines.map (· ++ ['\n']) ++ [last]

theorem breakLines_append (above below : List Text) :
    breakLines (above ++ below) = breakLines above ++ breakLines below :=
  List.flatMap_append

theorem breakLines_take_succ {lines : List Text} {index : Nat} (hindex : index < lines.length) :
    breakLines (lines.take (index + 1)) =
      breakLines (lines.take index) ++ (lines[index] ++ ['\n']) := by
  rw [List.take_succ_eq_append_getElem hindex, breakLines_append]
  simp [breakLines]

theorem flatten_segments (lines : List Text) (last : Text) :
    (segments lines last).flatten = breakLines lines ++ last := by
  simp [segments, breakLines, List.flatMap_def]

theorem breakLines_eq_nil_or (lines : List Text) :
    breakLines lines = [] ∨ ∃ front, breakLines lines = front ++ ['\n'] := by
  induction lines using List.reverseRecOn with
  | nil => exact Or.inl rfl
  | append_singleton lines line _ =>
    refine Or.inr ⟨breakLines lines ++ line, ?_⟩
    rw [breakLines_append, List.append_assoc]
    simp [breakLines]

theorem count_breakLines {lines : List Text} (hlines : ∀ line ∈ lines, '\n' ∉ line) :
    (breakLines lines).count '\n' = lines.length := by
  induction lines with
  | nil => rfl
  | cons line lines ih =>
    have hline : line.count '\n' = 0 := List.count_eq_zero.2 (hlines line List.mem_cons_self)
    have hrest := ih fun other hmem => hlines other (List.mem_cons_of_mem line hmem)
    have hcons : breakLines (line :: lines) = line ++ ['\n'] ++ breakLines lines := rfl
    rw [hcons, List.count_append, List.count_append, hline, hrest, List.length_cons,
      List.count_singleton_self, Nat.zero_add, Nat.add_comm]

/-- Every text is lines and a last line. -/
theorem exists_segmented (text : Text) : ∃ lines last, Segmented text lines last := by
  induction text with
  | nil => exact ⟨[], [], rfl, by simp, by simp⟩
  | cons c rest ih =>
    obtain ⟨lines, last, rfl, hlines, hlast⟩ := ih
    by_cases hc : c = '\n'
    · subst hc
      exact ⟨[] :: lines, last, rfl, by simpa using hlines, hlast⟩
    · cases lines with
      | nil => exact ⟨[], c :: last, rfl, by simp, by simp [Ne.symm hc, hlast]⟩
      | cons line lines =>
        refine ⟨(c :: line) :: lines, last, rfl, ?_, hlast⟩
        simpa [Ne.symm hc] using hlines

/-! ### Files line by line -/

namespace SourceFile

/-- Where a line stops: where the next one starts, or at the end of the content. -/
def lineStop (file : SourceFile) (index : Nat) : Nat :=
  (file.lineStart? (index + 1)).getD (Text.size file.content)

/-- A line as it stands in the content, with all that ends it. -/
def segment? (file : SourceFile) (index : Nat) : Option Text := do
  let start ← file.lineStart? index
  file.content.slice? start (file.lineStop index)

section

variable {file : SourceFile} {lines : List Text} {last : Text}

theorem lineCount_of_segmented (h : Segmented file.content lines last) :
    file.lineCount = lines.length + 1 := by
  have hlast : last.count '\n' = 0 := List.count_eq_zero.2 h.newline_not_mem_last
  rw [lineCount_eq, h.text_eq, List.count_append, count_breakLines h.newline_not_mem, hlast,
    Nat.add_zero, Nat.add_comm]

theorem lineStart?_of_segmented (h : Segmented file.content lines last) {index : Nat}
    (hindex : index ≤ lines.length) :
    file.lineStart? index = some (Text.size (breakLines (lines.take index))) := by
  have hcontent : file.content =
      breakLines (lines.take index) ++ (breakLines (lines.drop index) ++ last) := by
    rw [← List.append_assoc, ← breakLines_append, List.take_append_drop, h.text_eq]
  have hcount : (breakLines (lines.take index)).count '\n' = index := by
    rw [count_breakLines fun line hmem => h.newline_not_mem line (List.mem_of_mem_take hmem),
      List.length_take, Nat.min_eq_left hindex]
  have hstart := lineStart?_of_lines hcontent (breakLines_eq_nil_or _)
  rwa [hcount] at hstart

theorem lineStart?_eq_none_of_lineCount_le {index : Nat} (hindex : file.lineCount ≤ index) :
    file.lineStart? index = none :=
  List.getElem?_eq_none hindex

theorem segment?_of_between {index start : Nat} {segment : Text}
    (hstart : file.lineStart? index = some start)
    (hsegment : file.content.Between start (file.lineStop index) segment) :
    file.segment? index = some segment := by
  rw [segment?, hstart, Option.bind_eq_bind, Option.bind_some]
  exact Text.slice?_of_between hsegment

theorem lt_lineCount_of_lineStart? {index start : Nat}
    (hstart : file.lineStart? index = some start) : index < file.lineCount := by
  obtain ⟨hindex, -⟩ := List.getElem?_eq_some_iff.1 hstart
  exact hindex

/-- A file has the segments of its content, and no others. -/
theorem segment?_eq (h : Segmented file.content lines last) (index : Nat) :
    file.segment? index = (segments lines last)[index]? := by
  have hcount := lineCount_of_segmented h
  rcases Nat.lt_trichotomy index lines.length with hlt | rfl | hgt
  · -- a line goes to where the next one starts
    have hstop : file.lineStop index = Text.size (breakLines (lines.take (index + 1))) := by
      rw [lineStop, lineStart?_of_segmented h hlt, Option.getD_some]
    have hthrough := breakLines_take_succ hlt
    have hsegment : (segments lines last)[index]? = some (lines[index] ++ ['\n']) := by
      simp [segments, List.getElem?_append_left, hlt]
    rw [hsegment]
    refine segment?_of_between (lineStart?_of_segmented h hlt.le)
      ⟨_, breakLines (lines.drop (index + 1)) ++ last, ?_, rfl, ?_⟩
    · rw [← List.append_assoc, ← hthrough, ← List.append_assoc, ← breakLines_append,
        List.take_append_drop, h.text_eq]
    · rw [hstop, hthrough, Text.size_append]
  · -- the last line goes to the end of the content
    have hstop : file.lineStop lines.length = Text.size file.content := by
      rw [lineStop, lineStart?_eq_none_of_lineCount_le hcount.le, Option.getD_none]
    have hsegment : (segments lines last)[lines.length]? = some last := by
      simp [segments]
    rw [hsegment]
    refine segment?_of_between (lineStart?_of_segmented h le_rfl) ⟨_, [], ?_, rfl, ?_⟩
    · rw [List.take_length, List.append_nil, h.text_eq]
    · rw [hstop, h.text_eq, List.take_length, Text.size_append]
  · have hnone : (segments lines last)[index]? = none := by
      rw [List.getElem?_eq_none_iff]
      simp [segments]
      omega
    rw [hnone, segment?, lineStart?_eq_none_of_lineCount_le (by omega)]
    rfl

/-- Every line of a file is one of its segments. -/
theorem exists_segment? {index : Nat} (hindex : index < file.lineCount) :
    ∃ segment, file.segment? index = some segment := by
  obtain ⟨lines, last, h⟩ := exists_segmented file.content
  have hlength : index < (segments lines last).length := by
    rw [lineCount_of_segmented h] at hindex
    simpa [segments] using hindex
  exact ⟨_, (segment?_eq h index).trans (List.getElem?_eq_getElem hlength)⟩

/-- A segment ends with its only line feed, or it is the last one and has none. -/
theorem segment?_cases {index : Nat} {segment : Text}
    (hsegment : file.segment? index = some segment) :
    (∃ line, segment = line ++ ['\n'] ∧ '\n' ∉ line ∧ index + 1 < file.lineCount) ∨
      '\n' ∉ segment ∧ index + 1 = file.lineCount := by
  obtain ⟨lines, last, h⟩ := exists_segmented file.content
  rw [segment?_eq h, segments] at hsegment
  rw [lineCount_of_segmented h]
  rw [List.getElem?_append, List.length_map] at hsegment
  split at hsegment
  · next hlt =>
    rw [List.getElem?_map] at hsegment
    obtain ⟨line, hline, rfl⟩ := Option.map_eq_some_iff.1 hsegment
    exact Or.inl ⟨line, rfl, h.newline_not_mem line (List.mem_of_getElem? hline), by omega⟩
  · rw [List.getElem?_singleton] at hsegment
    split at hsegment
    · obtain rfl : last = segment := Option.some.inj hsegment
      exact Or.inr ⟨h.newline_not_mem_last, by omega⟩
    · simp at hsegment

/-- Without its end, a segment is a line. -/
theorem newline_not_mem_trimLineEnd {index : Nat} {segment : Text}
    (hsegment : file.segment? index = some segment) : '\n' ∉ trimLineEnd segment := by
  rcases segment?_cases hsegment with ⟨line, rfl, hline, -⟩ | ⟨hline, -⟩
  · rw [trimLineEnd_append_newline]
    exact fun hmem => hline ((trimLineEnd_isPrefix line).mem hmem)
  · exact fun hmem => hline ((trimLineEnd_isPrefix segment).mem hmem)

theorem between_of_segment? {index : Nat} {segment : Text}
    (hsegment : file.segment? index = some segment) :
    ∃ start, file.lineStart? index = some start ∧
      file.content.Between start (file.lineStop index) segment := by
  obtain ⟨start, hstart, hslice⟩ := Option.bind_eq_some_iff.1 hsegment
  exact ⟨start, hstart, Text.slice?_eq_some_iff.1 hslice⟩

/-- A line is its segment without what ends it. -/
theorem lineAt_of_segment? {index : Nat} {segment : Text}
    (hsegment : file.segment? index = some segment) :
    file.lineAt (index + 1) = .ok (trimLineEnd segment) := by
  obtain ⟨start, hstart, front, behind, hcontent, rfl, hstop⟩ := between_of_segment? hsegment
  rw [lineStop] at hstop
  simp only [lineAt, hstart, hstop, extract_eq hcontent]
  rfl

/-- The two ways that looking a line up ends. -/
theorem lineAt_cases (file : SourceFile) (number : Nat) :
    (number = 0 ∨ file.lineCount < number) ∧
        file.lineAt number = .error (.noSuchLine number file.lineCount) ∨
      ∃ index segment, number = index + 1 ∧ index < file.lineCount ∧
        file.segment? index = some segment ∧ file.lineAt number = .ok (trimLineEnd segment) := by
  cases number with
  | zero => exact Or.inl ⟨Or.inl rfl, rfl⟩
  | succ index =>
    by_cases hindex : index < file.lineCount
    · obtain ⟨segment, hsegment⟩ := exists_segment? hindex
      exact Or.inr ⟨index, segment, rfl, hindex, hsegment, lineAt_of_segment? hsegment⟩
    · have hnone := lineStart?_eq_none_of_lineCount_le (Nat.le_of_not_lt hindex)
      refine Or.inl ⟨Or.inr (by omega), ?_⟩
      simp only [lineAt, hnone]

theorem length_le_of_lineAt {number : Nat} {line : Text} (hline : file.lineAt number = .ok line) :
    line.length ≤ Text.size file.content := by
  rcases file.lineAt_cases number with ⟨-, herror⟩ | ⟨index, segment, -, -, hsegment, htrimmed⟩
  · rw [herror] at hline
    simp at hline
  · obtain ⟨start, -, hbetween⟩ := between_of_segment? hsegment
    obtain rfl : trimLineEnd segment = line := Except.ok.inj (htrimmed.symm.trans hline)
    exact (trimLineEnd_isPrefix segment).length_le.trans (Text.length_le_of_between hbetween)

/-- What is extracted from a file is what stands in its content. -/
theorem extract_eq_ok_iff {start stop : Nat} {text : Text} :
    file.extract start stop = .ok text ↔ file.content.Between start stop text := by
  constructor
  · intro hextract
    unfold extract at hextract
    split at hextract
    · simp at hextract
    split at hextract
    · simp at hextract
    split at hextract
    · next found hslice =>
      obtain rfl : found = text := Except.ok.inj hextract
      exact Text.slice?_eq_some_iff.1 hslice
    · simp at hextract
  · rintro ⟨front, behind, hcontent, rfl, rfl⟩
    exact extract_eq hcontent

end

end SourceFile

end PermissionSchema
