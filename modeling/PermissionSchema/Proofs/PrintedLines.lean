import PermissionSchema.Proofs.Grammar
import PermissionSchema.Proofs.Lines

/-!
# Printed lines

What is printed is read line by line. `PrintedLines printed lines` says that what is printed is some
lines, each with a line break behind it and none within; there is one way to see it so
(`PrintedLines.unique`).
-/

namespace PermissionSchema

/-- Some lines, each of which ends in a line break. -/
def breakLines (lines : List Text) : Text := lines.flatMap (· ++ ['\n'])

/-- The lines of what is printed. -/
structure PrintedLines (printed : String) (lines : List Text) : Prop where
  toList_eq : printed.toList = breakLines lines
  newline_not_mem : ∀ line ∈ lines, '\n' ∉ line

theorem newline_not_mem_append {front back : String} (hfront : '\n' ∉ front.toList)
    (hback : '\n' ∉ back.toList) : '\n' ∉ (front ++ back).toList := by
  rw [String.toList_append, List.mem_append, not_or]
  exact ⟨hfront, hback⟩

theorem newline_not_mem_toDigits (n : Nat) : '\n' ∉ Nat.toDigits 10 n := by
  intro hmem
  exact absurd (Nat.isDigit_of_mem_toDigits (by decide) (by decide) hmem) (by decide)

/-- A line is told from what is printed below it. -/
theorem breakLines_inj {lines lines' : List Text} (hlines : ∀ line ∈ lines, '\n' ∉ line)
    (hlines' : ∀ line ∈ lines', '\n' ∉ line) (h : breakLines lines = breakLines lines') :
    lines = lines' := by
  induction lines generalizing lines' with
  | nil =>
    cases lines' with
    | nil => rfl
    | cons line' lines' => simp [breakLines] at h
  | cons line lines ih =>
    cases lines' with
    | nil => simp [breakLines] at h
    | cons line' lines' =>
      simp only [breakLines, List.flatMap_cons, List.append_assoc, List.singleton_append] at h
      obtain ⟨rfl, hbelow⟩ := delimited_append_inj (hlines line List.mem_cons_self)
        (hlines' line' List.mem_cons_self) h
      rw [ih (fun other hmem => hlines other (List.mem_cons_of_mem _ hmem))
        (fun other hmem => hlines' other (List.mem_cons_of_mem _ hmem)) hbelow]

/-- The lines of a text below its first. -/
def linesBelow : Text → List Text
  | [] => []
  | c :: rest => if c = '\n' then firstLine rest :: linesBelow rest else linesBelow rest

theorem linesBelow_append {front : Text} (hfront : '\n' ∉ front) (text : Text) :
    linesBelow (front ++ text) = linesBelow text := by
  induction front with
  | nil => rfl
  | cons c front ih =>
    rw [List.mem_cons, not_or] at hfront
    rw [List.cons_append, linesBelow, if_neg (Ne.symm hfront.1), ih hfront.2]

theorem linesBelow_eq_nil {text : Text} (hline : '\n' ∉ text) : linesBelow text = [] := by
  have hbelow := linesBelow_append hline []
  rwa [List.append_nil] at hbelow

theorem breakLines_linesBelow (text : Text) :
    breakLines (firstLine text :: linesBelow text) = text ++ ['\n'] := by
  induction text with
  | nil => rfl
  | cons c rest ih =>
    rw [linesBelow]
    split
    · next hc =>
      subst hc
      exact congrArg ('\n' :: ·) ih
    · next hc =>
      rw [firstLine_cons hc]
      exact congrArg (c :: ·) ih

theorem newline_not_mem_linesBelow {text line : Text} (hmem : line ∈ linesBelow text) :
    '\n' ∉ line := by
  induction text with
  | nil => cases hmem
  | cons c rest ih =>
    rw [linesBelow] at hmem
    split at hmem
    · rcases List.mem_cons.1 hmem with rfl | hmem
      · exact newline_not_mem_firstLine rest
      · exact ih hmem
    · exact ih hmem

namespace PrintedLines

theorem unique {printed : String} {lines lines' : List Text} (hlines : PrintedLines printed lines)
    (hlines' : PrintedLines printed lines') : lines = lines' := by
  apply breakLines_inj hlines.newline_not_mem hlines'.newline_not_mem
  rw [← hlines.toList_eq, hlines'.toList_eq]

theorem empty : PrintedLines "" [] := ⟨rfl, by simp⟩

/-- What is printed with a line break behind it has the lines of its text. -/
theorem of_content (content : String) : PrintedLines (content ++ "\n")
    (firstLine content.toList :: linesBelow content.toList) := by
  refine ⟨?_, ?_⟩
  · rw [breakLines_linesBelow, String.toList_append]
    rfl
  · intro line hmem
    rcases List.mem_cons.1 hmem with rfl | hmem
    · exact newline_not_mem_firstLine _
    · exact newline_not_mem_linesBelow hmem

/-- A text without line breaks is one line when it is printed with one behind it. -/
theorem line {content : String} (hcontent : '\n' ∉ content.toList) :
    PrintedLines (content ++ "\n") [content.toList] := by
  have hlines := of_content content
  rwa [firstLine_eq_self hcontent, linesBelow_eq_nil hcontent] at hlines

theorem append {upper lower : String} {above below : List Text} (habove : PrintedLines upper above)
    (hbelow : PrintedLines lower below) : PrintedLines (upper ++ lower) (above ++ below) := by
  refine ⟨?_, ?_⟩
  · rw [String.toList_append, habove.toList_eq, hbelow.toList_eq]
    simp [breakLines]
  · intro line hmem
    rcases List.mem_append.1 hmem with hmem | hmem
    · exact habove.newline_not_mem line hmem
    · exact hbelow.newline_not_mem line hmem

/-- What is printed item by item has the lines of the items, one item below the other. -/
theorem join {α : Type} {items : List α} {print : α → String} {lines : α → List Text}
    (h : ∀ item ∈ items, PrintedLines (print item) (lines item)) :
    PrintedLines (String.join (items.map print)) (items.flatMap lines) := by
  induction items with
  | nil => exact empty
  | cons item items ih =>
    rw [List.map_cons, String.join_cons, List.flatMap_cons]
    apply append (h item List.mem_cons_self)
    exact ih fun other hmem => h other (List.mem_cons_of_mem item hmem)

/-- Texts without line breaks are printed a line each. -/
theorem join_lines {α : Type} {items : List α} {print : α → String}
    (h : ∀ item ∈ items, '\n' ∉ (print item).toList) :
    PrintedLines (String.join (items.map fun item => print item ++ "\n"))
      (items.map fun item => (print item).toList) := by
  have hlines : items.map (fun item => (print item).toList) =
      items.flatMap fun item => [(print item).toList] := List.map_eq_flatMap
  rw [hlines]
  apply join
  intro item hmem
  exact line (h item hmem)

end PrintedLines

end PermissionSchema
