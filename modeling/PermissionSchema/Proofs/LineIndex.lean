import PermissionSchema.Proofs.Lookups

/-!
# The line index of a file

A source file finds its lines by a list of line starts, which is made by looking for the bytes that
are line feeds. No other character has such a byte in its UTF-8 form (`newline_byte_not_mem`), so
the list cuts the content into its lines and nothing else, and every look-up by it is answered
(`line_index_partitions`).
-/

namespace PermissionSchema

/-- The UTF-8 form of a text. -/
def Text.bytes (text : Text) : List UInt8 := text.flatMap String.utf8EncodeChar

theorem Text.bytes_cons (c : Char) (rest : Text) :
    Text.bytes (c :: rest) = String.utf8EncodeChar c ++ rest.bytes := rfl

/-- Offsets count the bytes of the UTF-8 form. -/
theorem Text.length_bytes (text : Text) : text.bytes.length = Text.size text := by
  induction text with
  | nil => rfl
  | cons c rest ih =>
    rw [bytes_cons, List.length_append, String.length_utf8EncodeChar, ih, Text.size_cons]

/-- Only a line feed has the byte of a line feed in its UTF-8 form: the bytes of any other character
    are its own number, if that is below 128, and from 128 on otherwise. -/
theorem newline_byte_not_mem {c : Char} (hc : c ≠ '\n') : 10 ∉ String.utf8EncodeChar c := by
  have hbyte : ∀ {n}, n % 256 ≠ 10 → (10 : UInt8) ≠ UInt8.ofNat n := by
    intro n hn heq
    have hvalue := congrArg UInt8.toNat heq
    rw [UInt8.toNat_ofNat'] at hvalue
    exact hn hvalue.symm
  have hvalue : c.val.toNat ≠ 10 := by
    intro heq
    exact hc (Char.ext (UInt32.toNat_inj.1 heq))
  unfold String.utf8EncodeChar
  simp only
  split
  · exact fun hmem => hbyte (by omega) (List.mem_singleton.1 hmem)
  split
  · simp only [List.mem_cons, List.not_mem_nil, or_false, not_or]
    exact ⟨hbyte (by omega), hbyte (by omega)⟩
  split
  · simp only [List.mem_cons, List.not_mem_nil, or_false, not_or]
    exact ⟨hbyte (by omega), hbyte (by omega), hbyte (by omega)⟩
  · simp only [List.mem_cons, List.not_mem_nil, or_false, not_or]
    exact ⟨hbyte (by omega), hbyte (by omega), hbyte (by omega), hbyte (by omega)⟩

/-- The line starts are found byte by byte. -/
theorem lineStartsFrom_eq (offset : Nat) (text : Text) :
    lineStartsFrom offset text = (text.bytes.idxsOf 10 offset).map (· + 1) := by
  induction text generalizing offset with
  | nil => rfl
  | cons c rest ih =>
    rw [lineStartsFrom, Text.bytes_cons, List.idxsOf, List.findIdxs_append, List.map_append,
      String.length_utf8EncodeChar, ih]
    by_cases hc : c = '\n'
    · subst hc
      rfl
    · have hnone : (String.utf8EncodeChar c).findIdxs (· == 10) offset = [] := by
        rw [List.findIdxs_eq_nil_iff]
        intro byte hmem
        have hne : byte ≠ 10 := by
          rintro rfl
          exact newline_byte_not_mem hc hmem
        simpa using hne
      rw [if_neg hc, hnone]
      rfl

namespace SourceFile

/-- A place lies in the line that starts at it or before it, if the next one starts behind it. -/
def HoldsPlace (file : SourceFile) (index offset : Nat) : Prop :=
  ∃ start, file.lineStart? index = some start ∧ start ≤ offset ∧
    ∀ next, file.lineStart? (index + 1) = some next → offset < next

/-- What the line index of a file tells, of the lines of its content. -/
structure Partitioned (file : SourceFile) (lines : List Text) (last : Text) : Prop where
  /-- A line starts at the beginning and behind every byte of a line feed. -/
  lineStarts_eq : file.lineStarts = 0 :: (file.content.bytes.idxsOf 10).map (· + 1)
  lineStarts_ascend : file.lineStarts.Pairwise (· < ·)
  lineStarts_bounded : ∀ start ∈ file.lineStarts,
    start ≤ Text.size file.content ∧ file.content.IsBoundary start
  lineCount_eq : file.lineCount = 1 + file.content.count '\n'
  lineStart?_isSome : ∀ index, (file.lineStart? index).isSome = true ↔ index < file.lineCount
  /-- From one line start to the next there is a line with its only line feed, and from the last
      one to the end there is a line without. -/
  segmented : Segmented file.content lines last
  segment?_eq : ∀ index, file.segment? index = (segments lines last)[index]?
  segments_flatten : (segments lines last).flatten = file.content
  /-- Every place in the content, its end included, lies in exactly one line. -/
  existsUnique_holdsPlace : ∀ offset ≤ Text.size file.content,
    ∃! index, file.HoldsPlace index offset
  lineAt_checked : ∀ number, Checked.lineAt? file number = some (file.lineAt number)
  lineAt_missing : ∀ number, file.lineAt number = .error (.noSuchLine number file.lineCount) ↔
    number = 0 ∨ file.lineCount < number
  lineAt_found : ∀ number, 1 ≤ number → number ≤ file.lineCount →
    ∃ line start, file.lineAt number = .ok line ∧ '\n' ∉ line ∧
      file.lineStart? (number - 1) = some start ∧
      file.content.Between start (start + Text.size line) line

theorem lineStarts_eq (file : SourceFile) :
    file.lineStarts = 0 :: (file.content.bytes.idxsOf 10).map (· + 1) := by
  rw [lineStarts, lineStartsFrom_eq]

theorem lineStarts_ascend (file : SourceFile) : file.lineStarts.Pairwise (· < ·) := by
  rw [lineStarts_eq, List.pairwise_cons]
  constructor
  · intro start hmem
    obtain ⟨index, -, rfl⟩ := List.mem_map.1 hmem
    exact Nat.succ_pos index
  · exact List.pairwise_findIdxs.map _ fun _ _ hlt => Nat.succ_lt_succ hlt

section

variable {file : SourceFile}

theorem lineStart?_lt {index index' start start' : Nat} (hlt : index < index')
    (hstart : file.lineStart? index = some start) (hstart' : file.lineStart? index' = some start') :
    start < start' := by
  obtain ⟨hindex, rfl⟩ := List.getElem?_eq_some_iff.1 hstart
  obtain ⟨hindex', rfl⟩ := List.getElem?_eq_some_iff.1 hstart'
  exact List.pairwise_iff_getElem.1 file.lineStarts_ascend _ _ hindex hindex' hlt

theorem exists_lineStart? {index : Nat} (hindex : index < file.lineCount) :
    ∃ start, file.lineStart? index = some start :=
  ⟨_, List.getElem?_eq_getElem hindex⟩

/-- A place lies before all lines behind its own. -/
theorem HoldsPlace.le {index index' offset : Nat} (h : file.HoldsPlace index offset)
    (h' : file.HoldsPlace index' offset) : index' ≤ index := by
  obtain ⟨-, -, -, hbefore⟩ := h
  obtain ⟨start', hstart', hle, -⟩ := h'
  by_contra hlt
  have hcount := lt_lineCount_of_lineStart? hstart'
  obtain ⟨next, hnext⟩ : ∃ next, file.lineStart? (index + 1) = some next :=
    exists_lineStart? (by omega)
  have hoffset := hbefore next hnext
  have hle' : next ≤ start' := by
    rcases Nat.lt_or_eq_of_le (Nat.lt_of_not_le hlt) with hlt' | rfl
    · exact (lineStart?_lt hlt' hnext hstart').le
    · exact (Option.some.inj (hnext.symm.trans hstart')).le
  omega

end

section

variable (file : SourceFile)

theorem lineStart?_isSome (index : Nat) :
    (file.lineStart? index).isSome = true ↔ index < file.lineCount := by
  rw [Option.isSome_iff_exists]
  constructor
  · rintro ⟨start, hstart⟩
    exact lt_lineCount_of_lineStart? hstart
  · exact exists_lineStart?

theorem lineStarts_bounded : ∀ start ∈ file.lineStarts,
    start ≤ Text.size file.content ∧ file.content.IsBoundary start := by
  intro start hmem
  obtain ⟨index, hstart⟩ := List.mem_iff_getElem?.1 hmem
  have hindex := lt_lineCount_of_lineStart? hstart
  obtain ⟨segment, hsegment⟩ := exists_segment? hindex
  obtain ⟨start', hstart', front, behind, hcontent, rfl, -⟩ := between_of_segment? hsegment
  obtain rfl : start = Text.size front := Option.some.inj (hstart.symm.trans hstart')
  rw [hcontent]
  refine ⟨?_, Text.isBoundary_size front _⟩
  rw [Text.size_append]
  exact Nat.le_add_right _ _

theorem lineAt_eq_noSuchLine_iff (number : Nat) :
    file.lineAt number = .error (.noSuchLine number file.lineCount) ↔
      number = 0 ∨ file.lineCount < number := by
  rcases file.lineAt_cases number with ⟨hmissing, herror⟩ | ⟨index, segment, rfl, hindex, -, hline⟩
  · exact ⟨fun _ => hmissing, fun _ => herror⟩
  · rw [hline]
    constructor
    · intro herror
      simp at herror
    · intro hmissing
      omega

theorem exists_lineAt (number : Nat) (hpos : 1 ≤ number) (hle : number ≤ file.lineCount) :
    ∃ line start, file.lineAt number = .ok line ∧ '\n' ∉ line ∧
      file.lineStart? (number - 1) = some start ∧
      file.content.Between start (start + Text.size line) line := by
  rcases file.lineAt_cases number with ⟨hmissing, -⟩ | ⟨index, segment, rfl, -, hsegment, hline⟩
  · omega
  · obtain ⟨start, hstart, front, behind, hcontent, rfl, -⟩ := between_of_segment? hsegment
    obtain ⟨ending, hending⟩ := trimLineEnd_isPrefix segment
    refine ⟨_, _, hline, newline_not_mem_trimLineEnd hsegment, hstart, front, ending ++ behind, ?_,
      rfl, rfl⟩
    rw [hcontent, ← List.append_assoc (trimLineEnd segment), hending]

end

end SourceFile

/-- Of a list of numbers, one that is not above a bound stands before its end or before one that
    is. -/
theorem exists_last_le {first offset : Nat} (hfirst : first ≤ offset) (starts : List Nat) :
    ∃ index start, (first :: starts)[index]? = some start ∧ start ≤ offset ∧
      ∀ next, (first :: starts)[index + 1]? = some next → offset < next := by
  induction starts generalizing first with
  | nil => exact ⟨0, first, rfl, hfirst, by simp⟩
  | cons second starts ih =>
    by_cases hsecond : second ≤ offset
    · obtain ⟨index, start, hstart, hle, hnext⟩ := ih hsecond
      exact ⟨index + 1, start, hstart, hle, hnext⟩
    · refine ⟨0, first, rfl, hfirst, ?_⟩
      intro next hnext
      obtain rfl : second = next := Option.some.inj hnext
      exact Nat.lt_of_not_le hsecond

theorem SourceFile.existsUnique_holdsPlace (file : SourceFile) (offset : Nat) :
    ∃! index, file.HoldsPlace index offset := by
  obtain ⟨index, start, hstart⟩ :=
    exists_last_le (Nat.zero_le offset) (lineStartsFrom 0 file.content)
  have hholds : file.HoldsPlace index offset := ⟨start, hstart⟩
  refine ⟨index, hholds, ?_⟩
  intro index' hholds'
  exact Nat.le_antisymm (hholds.le hholds') (hholds'.le hholds)

/-- **The line index partitions the file.** -/
theorem line_index_partitions (file : SourceFile) :
    ∃ lines last, file.Partitioned lines last := by
  obtain ⟨lines, last, hsegmented⟩ := exists_segmented file.content
  refine ⟨lines, last, ?_⟩
  exact {
    lineStarts_eq := file.lineStarts_eq
    lineStarts_ascend := file.lineStarts_ascend
    lineStarts_bounded := file.lineStarts_bounded
    lineCount_eq := file.lineCount_eq
    lineStart?_isSome := file.lineStart?_isSome
    segmented := hsegmented
    segment?_eq := SourceFile.segment?_eq hsegmented
    segments_flatten := (flatten_segments lines last).trans hsegmented.text_eq.symm
    existsUnique_holdsPlace := fun offset _ => file.existsUnique_holdsPlace offset
    lineAt_checked := Checked.lineAt?_eq file
    lineAt_missing := file.lineAt_eq_noSuchLine_iff
    lineAt_found := file.exists_lineAt }

example : SourceFile.lineStarts ⟨"a.opl", "é\n\nx".toList⟩ = [0, 3, 4] := by decide

end PermissionSchema
