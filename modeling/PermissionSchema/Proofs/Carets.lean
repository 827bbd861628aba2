import PermissionSchema.Proofs.ReportLines
import Mathlib.Order.Bounds.Defs

/-!
# Carets below their characters

The two lines of a snippet are drawn one below the other. A terminal draws a tab up to its next tab
stop and any other character in one cell, so a caret stands below its character only if what comes
before it takes as many cells as what comes before the character. This holds wherever the tab stops
are (`carets_aligned`), since tabs are kept below tabs (`Terminal.after_blankedOut`).
-/

namespace PermissionSchema

/-! ### Cells of a terminal -/

namespace Terminal

/-- The cell behind a character that is drawn in the given cell, cells being counted from zero. A
    tab goes on to the next tab stop, of which there is one every `tab` cells. -/
def next (tab cell : Nat) (c : Char) : Nat :=
  if c = '\t' then (cell / tab + 1) * tab else cell + 1

/-- The cell behind a text that is drawn from the given cell on. -/
def after (tab cell : Nat) (text : Text) : Nat := text.foldl (next tab) cell

/-- The cell of the character at an index of a line. Past the end, each index has a cell. -/
def cellAt (tab : Nat) (line : Text) (index : Nat) : Nat :=
  after tab 0 (line.take index) + (index - line.length)

/-- Behind a tab there is the first multiple of the tab width past the tab's cell. -/
theorem isLeast_next_tab {tab : Nat} (htab : 0 < tab) (cell : Nat) :
    IsLeast {stop | cell < stop ∧ tab ∣ stop} (next tab cell '\t') := by
  have hnext : next tab cell '\t' = (cell / tab + 1) * tab := if_pos rfl
  rw [hnext]
  refine ⟨⟨?_, Nat.dvd_mul_left _ _⟩, ?_⟩
  · exact Nat.lt_mul_of_div_lt (Nat.lt_succ_self _) htab
  · rintro stop ⟨hlt, stops, rfl⟩
    rw [Nat.mul_comm tab]
    exact Nat.mul_le_mul_right tab ((Nat.div_lt_iff_lt_mul htab).2 (by rwa [Nat.mul_comm]))

@[simp] theorem after_nil (tab cell : Nat) : after tab cell [] = cell := rfl

@[simp] theorem after_cons (tab cell : Nat) (c : Char) (rest : Text) :
    after tab cell (c :: rest) = after tab (next tab cell c) rest := rfl

theorem after_append (tab cell : Nat) (front back : Text) :
    after tab cell (front ++ back) = after tab (after tab cell front) back :=
  List.foldl_append

/-- Without tabs, every character takes one cell. -/
theorem after_of_tab_not_mem (tab cell : Nat) {text : Text} (htext : '\t' ∉ text) :
    after tab cell text = cell + text.length := by
  induction text generalizing cell with
  | nil => rfl
  | cons c rest ih =>
    rw [List.mem_cons, not_or] at htext
    have hnext : next tab cell c = cell + 1 := if_neg (Ne.symm htext.1)
    rw [after_cons, hnext, ih _ htext.2, List.length_cons]
    omega

theorem cellAt_length (tab : Nat) (front back : Text) :
    cellAt tab (front ++ back) front.length = after tab 0 front := by
  rw [cellAt, List.take_left, List.length_append, Nat.sub_eq_zero_of_le (Nat.le_add_right _ _),
    Nat.add_zero]

theorem cellAt_length_add (tab : Nat) (front back : Text) (index : Nat) :
    cellAt tab (front ++ back) (front.length + index) =
      after tab (after tab 0 front) (back.take index) + (index - back.length) := by
  rw [cellAt, List.take_length_add_append, after_append, List.length_append, Nat.add_sub_add_left]

/-- What stands below some characters takes the same cells. -/
theorem after_blankedOut (tab cell : Nat) (text : Text) :
    after tab cell (blankedOut text) = after tab cell text := by
  induction text generalizing cell with
  | nil => rfl
  | cons c rest ih =>
    have hnext : next tab cell (if c = '\t' then '\t' else ' ') = next tab cell c := by
      by_cases hc : c = '\t'
      · rw [if_pos hc, hc]
      · rw [if_neg hc, next, next, if_neg hc]
        rfl
    rw [blankedOut, List.map_cons, after_cons, after_cons, hnext]
    exact ih _

end Terminal

/-! ### The two lines of a snippet -/

namespace Snippet

/-- What stands left of a line: a field that is filled up with blanks, and the first bar. -/
def IsGutter (field gutter : Text) : Prop :=
  ∃ count, gutter = List.replicate count ' ' ++ field ++ [' ', '|', ' '] ∧ '|' ∉ field

/-- A snippet is drawn as two lines. The upper has the source line behind a gutter with its number;
    the lower has blanks behind a gutter of the same length, then carets and the label. -/
structure Drawn (snippet : Snippet) (upper lower gutter gutter' indent : Text) : Prop where
  format_eq : snippet.format = String.ofList upper ++ "\n" ++ String.ofList lower
  newline_not_mem_upper : '\n' ∉ upper
  newline_not_mem_lower : '\n' ∉ lower
  upper_eq : upper = gutter ++ snippet.line
  lower_eq : lower = gutter' ++ indent ++
    List.replicate (if snippet.endColumn ≤ snippet.startColumn then 1
      else snippet.endColumn - snippet.startColumn) '^' ++
    snippet.label.elim [] fun label => ' ' :: label.toList
  isGutter : IsGutter (Nat.toDigits 10 snippet.lineNumber) gutter
  isGutter' : IsGutter [] gutter'
  length_gutter : gutter'.length = gutter.length
  length_indent : indent.length = snippet.startColumn - 1
  blank_of_mem_indent : ∀ c ∈ indent, c = '\t' ∨ c = ' '
  /-- Whatever the tab width, the first caret stands in the cell of the character at the start
      column of the source line. -/
  cellAt_eq : ∀ tab, Terminal.cellAt tab lower (lower.idxOf '^') =
    Terminal.cellAt tab upper (gutter.length + (snippet.startColumn - 1))

section

variable (snippet : Snippet)

theorem isGutter_gutter {field : Text} (hfield : '|' ∉ field) :
    IsGutter field (snippet.gutter field) := ⟨_, rfl, hfield⟩

theorem tab_not_mem_gutter {field : Text} (hfield : '\t' ∉ field) :
    '\t' ∉ snippet.gutter field := by
  simp [gutter, hfield]

theorem not_mem_number {c : Char} (hc : c.isDigit = false) : c ∉ snippet.number := by
  intro hmem
  rw [Nat.isDigit_of_mem_toDigits (by decide) (by decide) hmem] at hc
  simp at hc

theorem indent_eq_append :
    snippet.indent = blankedOut (snippet.line.take (snippet.startColumn - 1)) ++
      List.replicate (snippet.startColumn - 1 - snippet.line.length) ' ' := rfl

theorem length_indent : snippet.indent.length = snippet.startColumn - 1 := by
  rw [indent_eq_append, blankedOut, List.length_append, List.length_map, List.length_take,
    List.length_replicate]
  omega

theorem blank_of_mem_indent : ∀ c ∈ snippet.indent, c = '\t' ∨ c = ' ' := by
  intro c hmem
  rcases List.mem_append.1 hmem with hmem | hmem
  · obtain ⟨d, -, rfl⟩ := List.mem_map.1 hmem
    by_cases hd : d = '\t'
    · exact Or.inl (if_pos hd)
    · exact Or.inr (if_neg hd)
  · exact Or.inr (List.eq_of_mem_replicate hmem)

theorem carets_eq :
    snippet.carets = List.replicate (if snippet.endColumn ≤ snippet.startColumn then 1
      else snippet.endColumn - snippet.startColumn) '^' := by
  rw [carets]
  congr 1
  split <;> omega

/-- The indent takes the cells of what stands above it, and one for each column past the end. -/
theorem after_indent (tab cell : Nat) :
    Terminal.after tab cell snippet.indent =
      Terminal.after tab cell (snippet.line.take (snippet.startColumn - 1)) +
        (snippet.startColumn - 1 - snippet.line.length) := by
  rw [indent_eq_append, Terminal.after_append, Terminal.after_blankedOut,
    Terminal.after_of_tab_not_mem _ _ (by simp), List.length_replicate]

theorem toList_remark :
    snippet.remark.toList = snippet.label.elim [] fun label => ' ' :: label.toList := by
  unfold remark
  cases snippet.label with
  | none => rfl
  | some label =>
    rw [String.toList_append]
    rfl

theorem newline_not_mem_remark (hlabel : ∀ label ∈ snippet.label, '\n' ∉ label.toList) :
    '\n' ∉ snippet.remark.toList := by
  rw [toList_remark]
  cases hsome : snippet.label with
  | none => exact List.not_mem_nil
  | some label => simpa using hlabel label hsome

/-- The first caret of the lower line stands behind the indent. -/
theorem idxOf_caret (behind : Text) :
    (snippet.gutter [] ++ snippet.indent ++ snippet.carets ++ behind).idxOf '^' =
      (snippet.gutter [] ++ snippet.indent).length := by
  have hgutter : '^' ∉ snippet.gutter [] := by simp [gutter]
  have hindent : '^' ∉ snippet.indent := by
    intro hmem
    rcases snippet.blank_of_mem_indent _ hmem with hblank | hblank
    · exact absurd hblank (by decide)
    · exact absurd hblank (by decide)
  have hcarets : ∃ more, snippet.carets = '^' :: more := by
    rw [carets]
    obtain ⟨count, hcount⟩ := Nat.exists_eq_add_of_le' (Nat.le_max_right
      (snippet.endColumn - snippet.startColumn) 1)
    rw [hcount, List.replicate_succ]
    exact ⟨_, rfl⟩
  obtain ⟨more, hmore⟩ := hcarets
  rw [List.append_assoc, hmore, List.idxOf_append_of_notMem, List.cons_append,
    List.idxOf_cons_self, Nat.add_zero]
  rw [List.mem_append, not_or]
  exact ⟨hgutter, hindent⟩

theorem cellAt_caret (tab : Nat) (behind : Text) :
    Terminal.cellAt tab (snippet.gutter [] ++ snippet.indent ++ snippet.carets ++ behind)
        ((snippet.gutter [] ++ snippet.indent ++ snippet.carets ++ behind).idxOf '^') =
      Terminal.cellAt tab (snippet.gutter snippet.number ++ snippet.line)
        ((snippet.gutter snippet.number).length + (snippet.startColumn - 1)) := by
  have hgutter : Terminal.after tab 0 (snippet.gutter []) =
      Terminal.after tab 0 (snippet.gutter snippet.number) := by
    rw [Terminal.after_of_tab_not_mem _ _ (snippet.tab_not_mem_gutter List.not_mem_nil),
      Terminal.after_of_tab_not_mem _ _ (snippet.tab_not_mem_gutter (snippet.not_mem_number rfl)),
      length_gutter_nil]
  rw [idxOf_caret, List.append_assoc (snippet.gutter [] ++ snippet.indent), Terminal.cellAt_length,
    Terminal.cellAt_length_add, Terminal.after_append, hgutter, after_indent]

end

end Snippet

/-- **Carets stand below the characters that they mark.** -/
theorem carets_aligned {snippet : Snippet} (hline : '\n' ∉ snippet.line)
    (hlabel : ∀ label ∈ snippet.label, '\n' ∉ label.toList) :
    ∃ upper lower gutter gutter' indent, snippet.Drawn upper lower gutter gutter' indent := by
  refine ⟨snippet.gutter snippet.number ++ snippet.line,
    snippet.gutter [] ++ snippet.indent ++ snippet.carets ++ snippet.remark.toList,
    snippet.gutter snippet.number, snippet.gutter [], snippet.indent, ?_⟩
  exact {
    format_eq := by
      have hlower : String.ofList
          (snippet.gutter [] ++ snippet.indent ++ snippet.carets ++ snippet.remark.toList) =
          String.ofList (snippet.gutter [] ++ snippet.indent ++ snippet.carets) ++
            snippet.remark := by
        rw [String.ofList_append, String.ofList_toList]
      rw [Snippet.format, hlower, ← String.append_assoc]
    newline_not_mem_upper := (snippet.isNote_upper hline).newline_not_mem
    newline_not_mem_lower := by
      rw [List.mem_append, not_or]
      exact ⟨snippet.isNote_lower.newline_not_mem, snippet.newline_not_mem_remark hlabel⟩
    upper_eq := rfl
    lower_eq := by rw [snippet.carets_eq, snippet.toList_remark]
    isGutter := snippet.isGutter_gutter (snippet.not_mem_number rfl)
    isGutter' := snippet.isGutter_gutter List.not_mem_nil
    length_gutter := snippet.length_gutter_nil
    length_indent := snippet.length_indent
    blank_of_mem_indent := snippet.blank_of_mem_indent
    cellAt_eq := fun tab => snippet.cellAt_caret tab _ }

/-- A mark past the end of a line with tabs. -/
theorem carets_aligned_past_end :
    '\n' ∉ "\té\t".toList ∧ (∀ label ∈ some "here", '\n' ∉ label.toList) ∧
      ∃ upper lower gutter gutter' indent,
        Snippet.Drawn ⟨"\té\t".toList, 1000, 6, 6, some "here"⟩
          upper lower gutter gutter' indent := by
  have hline : '\n' ∉ "\té\t".toList := by decide
  have hlabel : ∀ label ∈ some "here", '\n' ∉ label.toList := by decide
  exact ⟨hline, hlabel, carets_aligned hline hlabel⟩

end PermissionSchema
