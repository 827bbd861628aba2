import PermissionSchema.Proofs.Motions
import PermissionSchema.Proofs.Scanners

/-!
# What one step of the scanner can do

`Scan.Form` lists the forms that a step takes, mode by mode: what it passes, what becomes of it and
how the scan goes on. From the list it shows that a step never ends before its start, and where it
ends at its start (`steps_progress`): at the end of the text, and in a string also before a line
feed.
-/

namespace PermissionSchema

namespace Scan

/-- The forms of a step. Between tokens it passes something, unless it is at the end of the text;
    the body of a string or of a comment may be empty when it is not closed. -/
inductive Form : Mode → Text → Scan → Prop
  | endOfInput : Form .top [] (emit 0 .endOfInput)
  | blanks {c : Char} {rest : Text} : isBlank c = true →
      Form .top (c :: rest) ⟨((c :: rest).takeWhile isBlank).length, .skip, .top⟩
  | opening {c : Char} {rest : Text} {length : Nat} {mode : Mode} : isBlank c = false →
      0 < length → mode ≠ .top → Form .top (c :: rest) ⟨length, .resume, mode⟩
  | token {c : Char} {rest : Text} {length : Nat} {kind : Kind} : isBlank c = false →
      0 < length → kind ≠ .endOfInput → Form .top (c :: rest) (emit length kind)
  | closed {mode : Mode} {rest : Text} {length : Nat} {kind : Kind} : mode ≠ .top →
      0 < length → kind.isTerminal = false → Form mode rest (emit length kind)
  | openString {rest : Text} :
      Form .string rest (emit (firstLine rest).length (.error .unterminatedString))
  | openComment {doc : Bool} {rest : Text} :
      Form (.comment doc) rest (emit rest.length (.error .unterminatedComment))

theorem ne_endOfInput_of_symbol? {rest : Text} {kind : Kind} {length : Nat}
    (h : symbol? rest = some (kind, length)) : kind ≠ .endOfInput := by
  have hmarks : ∀ mark ∈ marks, mark.2 ≠ .endOfInput := by decide
  exact hmarks _ (symbol?_isMark h).1

/-- A token opens a body or is complete after its first step. -/
theorem first_opens_or_emits {c : Char} (hblank : isBlank c = false) (rest : Text) :
    (∃ length mode, first c (c :: rest) = ⟨length, .resume, mode⟩ ∧ mode ≠ .top) ∨
      ∃ length kind, first c (c :: rest) = emit length kind ∧ kind ≠ .endOfInput := by
  rw [first, if_neg (by simp [hblank])]
  split
  · unfold slash
    split
    · exact Or.inr ⟨_, .lineComment, rfl, by simp⟩
    · exact Or.inl ⟨_, _, rfl, by simp⟩
    · exact Or.inr ⟨_, _, rfl, by simp⟩
  split
  · exact Or.inl ⟨_, _, rfl, by simp⟩
  split
  · refine Or.inr ⟨_, _, rfl, ?_⟩
    split <;> simp
  split
  · next hsymbol => exact Or.inr ⟨_, _, rfl, ne_endOfInput_of_symbol? hsymbol⟩
  · exact Or.inr ⟨_, _, rfl, by simp⟩

theorem form_first (c : Char) (rest : Text) : Form .top (c :: rest) (first c (c :: rest)) := by
  have hpos := (first_bounds c rest).1
  cases hblank : isBlank c with
  | true =>
    rw [first, if_pos hblank]
    exact .blanks hblank
  | false =>
    rcases first_opens_or_emits hblank rest with
      ⟨length, mode, hfirst, hmode⟩ | ⟨length, kind, hfirst, hkind⟩
    · rw [hfirst] at hpos ⊢
      exact .opening hblank hpos hmode
    · rw [hfirst] at hpos ⊢
      exact .token hblank hpos hkind

theorem form_stringBody (rest : Text) : Form .string rest (stringBody rest) := by
  cases hscan : throughQuote 0 rest with
  | mk length closed =>
    cases closed with
    | true =>
      obtain ⟨body, behind, -, -, rfl⟩ := throughQuote_closed_body hscan
      rw [stringBody, hscan]
      exact .closed (by simp) (by omega) rfl
    | false =>
      rw [stringBody, hscan, throughQuote_open_length hscan, Nat.zero_add]
      exact .openString

theorem form_commentBody (doc : Bool) (rest : Text) :
    Form (.comment doc) rest (commentBody doc rest) := by
  cases hclose : throughClose? 0 rest with
  | some length =>
    obtain ⟨body, behind, -, rfl, -⟩ := throughClose?_some hclose
    rw [commentBody, hclose]
    exact .closed (by simp) (by omega) (by cases doc <;> rfl)
  | none =>
    rw [commentBody, hclose]
    exact .openComment

/-- Every step has one of the forms. -/
theorem form_ofText (mode : Mode) (rest : Text) : Form mode rest (ofText mode rest) := by
  cases mode with
  | top =>
    cases rest with
    | nil => exact .endOfInput
    | cons c rest => exact form_first c rest
  | string => exact form_stringBody rest
  | comment doc => exact form_commentBody doc rest

/-- Where a step passes nothing, and what it does then. -/
inductive Stalls : Mode → Text → Action → Prop
  | endOfInput : Stalls .top [] (.emit .endOfInput)
  | string {rest : Text} : (∀ c ∈ rest.head?, c = '\n') →
      Stalls .string rest (.emit (.error .unterminatedString))
  | comment {doc : Bool} : Stalls (.comment doc) [] (.emit (.error .unterminatedComment))

theorem firstLine_eq_nil_iff {rest : Text} :
    firstLine rest = [] ↔ ∀ c ∈ rest.head?, c = '\n' := by
  cases rest with
  | nil => simp [firstLine]
  | cons c rest => simp [firstLine, List.takeWhile_cons]

theorem Form.length_eq_zero_iff {mode : Mode} {rest : Text} {scan : Scan}
    (hform : Form mode rest scan) : scan.length = 0 ↔ Stalls mode rest scan.action := by
  cases hform with
  | endOfInput => exact ⟨fun _ => .endOfInput, fun _ => rfl⟩
  | @blanks c rest hblank =>
    refine ⟨fun hlength => ?_, nofun⟩
    simp [hblank] at hlength
  | opening hblank hpos hmode => exact ⟨fun hlength => absurd hlength hpos.ne', nofun⟩
  | token hblank hpos hkind => exact ⟨fun hlength => absurd hlength hpos.ne', nofun⟩
  | closed hmode hpos hkind =>
    refine ⟨fun hlength => absurd hlength hpos.ne', fun hstalls => ?_⟩
    -- a closed body is no terminal token, and a step that stalls makes one
    generalize haction : (emit _ _).action = action at hstalls
    cases hstalls <;> simp_all [emit, Kind.isTerminal]
  | openString =>
    rw [emit, List.length_eq_zero_iff, firstLine_eq_nil_iff]
    refine ⟨.string, fun hstalls => ?_⟩
    cases hstalls with
    | string hhead => exact hhead
  | @openComment doc rest =>
    rw [emit, List.length_eq_zero_iff]
    refine ⟨?_, fun hstalls => ?_⟩
    · rintro rfl
      exact .comment
    · cases hstalls with
      | comment => rfl

/-- The end of input is met nowhere but where it is. -/
theorem Form.eq_of_endOfInput {mode : Mode} {rest : Text} {scan : Scan}
    (hform : Form mode rest scan) (haction : scan.action = .emit .endOfInput) :
    mode = .top ∧ rest = [] := by
  cases hform with
  | endOfInput => exact ⟨rfl, rfl⟩
  | blanks | opening => simp at haction
  | token hblank hpos hkind => exact absurd (Action.emit.inj haction) hkind
  | closed hmode hpos hkind => simp [Action.emit.inj haction, Kind.isTerminal] at hkind
  | openString | openComment => simp [emit] at haction

end Scan

/-- The step behind a prefix scans what follows it. -/
theorem step_behind (before rest : Text) (mode : Mode) :
    step (before ++ rest) (Text.size before) mode =
      (Scan.ofText mode rest).stepFrom (Text.size before) rest := by
  rw [step, Text.dropBytes_append]

/-- **Steps make progress.** From any boundary of a source and in any mode, a step ends behind it,
    and at the boundary itself only where it stalls, as a step that meets the end of input does. -/
theorem steps_progress {source : Text} {offset : Nat} (hoffset : source.IsBoundary offset)
    (mode : Mode) :
    offset ≤ (step source offset mode).stop ∧
      ((step source offset mode).action = .emit .endOfInput →
        (step source offset mode).stop = offset) ∧
      ∃ rest, source.slice? offset (Text.size source) = some rest ∧
        ((step source offset mode).stop = offset ↔
          Scan.Stalls mode rest (step source offset mode).action) := by
  obtain ⟨before, rest, rfl, rfl⟩ := Text.isBoundary_iff.1 hoffset
  have hform := Scan.form_ofText mode rest
  rw [step_behind]
  simp only [Scan.stepFrom]
  refine ⟨Nat.le_add_right _ _, ?_, rest, Text.slice?_behind before rest, ?_⟩
  · intro hend
    obtain ⟨-, rfl⟩ := hform.eq_of_endOfInput hend
    rw [List.take_nil, Text.size_nil, Nat.add_zero]
  · rw [← hform.length_eq_zero_iff, Nat.add_eq_left, Text.size_eq_zero_iff, List.take_eq_nil_iff]
    refine ⟨?_, Or.inl⟩
    rintro (hlength | rfl)
    · exact hlength
    · exact Nat.le_zero.1 (Scan.length_le mode [])

/-- The step over the text behind a quote that ends the source ends where it starts, with an error
    token and not with the end of input; the step over the quote leads there. -/
theorem string_step_stalls :
    step ['"'] 0 .top = ⟨1, .resume, .string⟩ ∧ Text.IsBoundary ['"'] 1 ∧
      ¬ ((step ['"'] 1 .string).stop = 1 →
        (step ['"'] 1 .string).action = .emit .endOfInput) := by
  decide

/-- Behind a quote that a line feed follows, a step stalls as well. -/
theorem steps_progress_before_newline :
    Text.IsBoundary ['"', '\n'] 1 ∧ (step ['"', '\n'] 1 .string).stop = 1 := by
  have hboundary : Text.IsBoundary ['"', '\n'] 1 := by decide
  obtain ⟨-, -, rest, hrest, hstalls⟩ := steps_progress hboundary .string
  have hleft : Text.slice? ['"', '\n'] 1 (Text.size ['"', '\n']) = some ['\n'] := by decide
  obtain rfl : rest = ['\n'] := Option.some.inj (hrest.symm.trans hleft)
  exact ⟨hboundary, hstalls.2 (.string (by simp))⟩

end PermissionSchema
