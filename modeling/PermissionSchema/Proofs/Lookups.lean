import PermissionSchema.Proofs.Segments
import PermissionSchema.Report.Snippet

/-!
# Look-ups with every check

Here the look-ups of a source file, and the cut of a snippet, are written with the checks that their
arithmetic of 64 bits and their cuts are subject to: they give nothing where a sum overflows, where
a difference is below zero, or where a cut is out of order, inside a character or outside the
content. None of this happens, whatever is looked up (`lineAt?_eq`, `extract?_eq`, `ofSpan?_eq`).
-/

namespace PermissionSchema.Checked

def add? (m n : Nat) : Option Nat := if m + n < UInt64.size then some (m + n) else none

def sub? (m n : Nat) : Option Nat := if n ≤ m then some (m - n) else none

/-- The line with the given number, counted from one, without the end of the line. -/
def lineAt? (file : SourceFile) (number : Nat) : Option (Except LookupError Text) :=
  if number = 0 then some (.error (.noSuchLine number file.lineCount))
  else do
    let index ← sub? number 1
    match file.lineStart? index with
    | none => some (.error (.noSuchLine number file.lineCount))
    | some start =>
      let stop := (file.lineStart? number).getD (Text.size file.content)
      let segment ← file.content.slice? start stop
      some (.ok (trimLineEnd segment))

def extract? (file : SourceFile) (start stop : Nat) : Option (Except LookupError Text) :=
  if start > stop then some (.error (.inverted start stop))
  else if stop > Text.size file.content then
    some (.error (.outOfBounds (Text.size file.content) start stop))
  else if ¬ (file.content.IsBoundary start ∧ file.content.IsBoundary stop) then
    some (.error .insideCharacter)
  else do
    let text ← file.content.slice? start stop
    some (.ok text)

/-- The snippet for a span of a file, if the file has the span's line. -/
def ofSpan? (file : SourceFile) (span : Span) : Option (Option Snippet) := do
  match ← lineAt? file span.line with
  | .error _ => some none
  | .ok line =>
    let startColumn := max span.column 1
    let marked := match ← extract? file span.start span.stop with
      | .ok text => (text.takeWhile (· != '\n')).length
      | .error _ => 0
    let behind ← add? startColumn marked
    let limit ← add? line.length 1
    some (some ⟨line, span.line, startColumn, max (min behind limit) startColumn, none⟩)

theorem add?_of_lt {m n : Nat} (h : m + n < UInt64.size) : add? m n = some (m + n) := if_pos h

theorem lineAt?_eq (file : SourceFile) (number : Nat) :
    lineAt? file number = some (file.lineAt number) := by
  cases number with
  | zero => rfl
  | succ index =>
    have hsub : sub? (index + 1) 1 = some index := if_pos (Nat.le_add_left 1 index)
    rw [lineAt?, if_neg (Nat.succ_ne_zero index), hsub, Option.bind_eq_bind, Option.bind_some]
    cases hstart : file.lineStart? index with
    | none => simp only [SourceFile.lineAt, hstart]
    | some start =>
      -- a line that starts is a segment, so its cut does not fail
      obtain ⟨segment, hsegment⟩ :=
        SourceFile.exists_segment? (SourceFile.lt_lineCount_of_lineStart? hstart)
      have hslice : file.content.slice? start (file.lineStop index) = some segment := by
        rwa [SourceFile.segment?, hstart] at hsegment
      rw [SourceFile.lineStop] at hslice
      rw [SourceFile.lineAt_of_segment? hsegment]
      simp only [hslice, Option.bind_eq_bind, Option.bind_some]

theorem extract?_eq (file : SourceFile) (start stop : Nat) :
    extract? file start stop = some (file.extract start stop) := by
  unfold extract? SourceFile.extract
  split
  · rfl
  split
  · rfl
  next hle _ =>
  have hbounds : (∃ middle, file.content.Between start stop middle) ↔ start ≤ stop ∧
      file.content.IsBoundary start ∧ file.content.IsBoundary stop := Text.exists_between_iff
  cases hslice : file.content.slice? start stop with
  | none =>
    have hnone := Text.slice?_eq_none_iff.1 hslice
    rw [hbounds] at hnone
    rw [if_pos]
    intro hboth
    exact hnone ⟨Nat.le_of_not_lt hle, hboth⟩
  | some text =>
    have hboth := (hbounds.1 ⟨text, Text.slice?_eq_some_iff.1 hslice⟩).2
    rw [if_neg (not_not.2 hboth)]
    rfl

/-- A text takes up less than half of the 64-bit offsets, so there is room for a column of 32 bits
    as well. -/
theorem ofSpan?_eq {file : SourceFile} {span : Span}
    (hsize : Text.size file.content < UInt64.size / 2) (hcolumn : span.column < UInt32.size) :
    ofSpan? file span = some (Snippet.ofSpan? file span) := by
  have hadd : ∀ {m n}, m ≤ UInt64.size / 2 → n < UInt64.size / 2 → add? m n = some (m + n) := by
    intro m n hm hn
    exact add?_of_lt (Nat.add_lt_add_of_le_of_lt hm hn)
  have hfirst : max span.column 1 ≤ UInt64.size / 2 :=
    Nat.max_le.2 ⟨hcolumn.le.trans (by decide), by decide⟩
  rw [ofSpan?, lineAt?_eq, extract?_eq, Snippet.ofSpan?]
  cases hline : file.lineAt span.line with
  | error e => rfl
  | ok line =>
    have hlength := SourceFile.length_le_of_lineAt hline
    have hlimit := hadd (hlength.trans hsize.le) (show 1 < UInt64.size / 2 by decide)
    cases hextract : file.extract span.start span.stop with
    | error e =>
      have hbehind : add? (max span.column 1) 0 = some (max span.column 1) :=
        hadd hfirst (by decide)
      simp only [Option.bind_eq_bind, Option.bind_some, hbehind, hlimit, Nat.add_zero]
    | ok text =>
      have htext := Text.length_le_of_between (SourceFile.extract_eq_ok_iff.1 hextract)
      have hmarked : (text.takeWhile (· != '\n')).length ≤ text.length :=
        (List.takeWhile_prefix _).length_le
      have hbehind := hadd hfirst (Nat.lt_of_le_of_lt (hmarked.trans htext) hsize)
      simp only [Option.bind_eq_bind, Option.bind_some, hbehind, hlimit]

end PermissionSchema.Checked
