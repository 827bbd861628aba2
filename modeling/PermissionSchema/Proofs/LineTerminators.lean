import PermissionSchema.Proofs.Segments

/-!
# How lines end

A line is returned without the line feed that ends it and without all carriage returns before that,
however many there are; on the last line, where no line feed is, the carriage returns at the end of
the content go too (`lines_trimmed`). So a line is its segment without one terminator only where
there is no carriage return, or a single one before a line feed. In the last line, one that belongs
to the content is lost (`last_line_loses_return`).
-/

namespace PermissionSchema

/-- Without the carriage returns at its end, a line ends otherwise or is empty. -/
theorem getLast?_rdropWhile_ne (line : Text) :
    (line.rdropWhile (· == '\r')).getLast? ≠ some '\r' := by
  intro hlast
  have hne : line.rdropWhile (· == '\r') ≠ [] := by
    intro hnil
    simp [hnil] at hlast
  rw [List.getLast?_eq_some_getLast hne, Option.some.injEq] at hlast
  have hkept := List.rdropWhile_last_not (· == '\r') line hne
  rw [hlast] at hkept
  exact hkept rfl

/-- What is taken from the end of a line are carriage returns. -/
theorem rtakeWhile_eq_replicate (line : Text) :
    line.rtakeWhile (· == '\r') = List.replicate (line.rtakeWhile (· == '\r')).length '\r' := by
  rw [List.eq_replicate_iff]
  refine ⟨rfl, ?_⟩
  intro c hmem
  simpa using List.mem_rtakeWhile_imp hmem

namespace SourceFile

/-- A line is its segment of the content without one terminator: a line feed, a carriage return and
    a line feed, or nothing in the last line. -/
def IsTerminated (file : SourceFile) (number : Nat) (line : Text) : Prop :=
  ∃ ending, file.segment? (number - 1) = some (line ++ ending) ∧
    (ending = ['\n'] ∨ ending = ['\r', '\n'] ∨ ending = [] ∧ number = file.lineCount)

/-- A line is looked up, and stands in the content with some carriage returns and an end. -/
structure Trimmed (file : SourceFile) (number : Nat) (line : Text) (returns : Nat) (ending : Text) :
    Prop where
  lineAt_eq : file.lineAt number = .ok line
  segment?_eq : file.segment? (number - 1) =
    some (line ++ (List.replicate returns '\r' ++ ending))
  ending_eq : number < file.lineCount ∧ ending = ['\n'] ∨ number = file.lineCount ∧ ending = []
  newline_not_mem : '\n' ∉ line
  /-- No carriage return at its end is left. -/
  getLast?_ne : line.getLast? ≠ some '\r'
  /-- The carriage returns are part of the terminator, or there are none. -/
  isTerminated_iff : file.IsTerminated number line ↔
    if number < file.lineCount then returns ≤ 1 else returns = 0

variable {file : SourceFile}

/-- One terminator is a line feed with at most one carriage return before it, or nothing. -/
theorem isTerminated_iff {number returns : Nat} {line ending : Text}
    (hsegment : file.segment? (number - 1) =
      some (line ++ (List.replicate returns '\r' ++ ending)))
    (hending : number < file.lineCount ∧ ending = ['\n'] ∨ number = file.lineCount ∧ ending = []) :
    file.IsTerminated number line ↔
      if number < file.lineCount then returns ≤ 1 else returns = 0 := by
  have hcut : file.IsTerminated number line ↔
      List.replicate returns '\r' ++ ending = ['\n'] ∨
        List.replicate returns '\r' ++ ending = ['\r', '\n'] ∨
        List.replicate returns '\r' ++ ending = [] ∧ number = file.lineCount := by
    unfold IsTerminated
    rw [hsegment]
    constructor
    · rintro ⟨ending', hsame, hending'⟩
      rwa [List.append_cancel_left (Option.some.inj hsame)]
    · exact fun hending' => ⟨_, rfl, hending'⟩
  rw [hcut]
  rcases hending with ⟨hlt, rfl⟩ | ⟨rfl, rfl⟩
  · rw [if_pos hlt]
    rcases returns with _ | _ | returns
    · simp
    · simp
    · simp [List.replicate_succ]
  · rw [if_neg (Nat.lt_irrefl _), List.append_nil]
    rcases returns with _ | returns
    · simp
    · have hmem : '\n' ∉ List.replicate (returns + 1) '\r' := by simp
      have hne : ∀ {text : Text}, '\n' ∈ text → List.replicate (returns + 1) '\r' ≠ text := by
        rintro text htext rfl
        exact hmem htext
      simp [hne]

/-- **Lines are returned without the carriage returns and the line feed at their end.** -/
theorem lines_trimmed {number : Nat} (hpos : 1 ≤ number) (hle : number ≤ file.lineCount) :
    ∃ line returns ending, file.Trimmed number line returns ending := by
  obtain ⟨index, rfl⟩ := Nat.exists_eq_add_of_le' hpos
  obtain ⟨segment, hsegment⟩ := exists_segment? (Nat.lt_of_succ_le hle)
  -- without its line feed, a segment is a line that is trimmed of carriage returns only
  obtain ⟨line, ending, rfl, hline, htrimmed, hending⟩ :
      ∃ line ending, segment = line ++ ending ∧ '\n' ∉ line ∧
        trimLineEnd segment = line.rdropWhile (· == '\r') ∧
        (index + 1 < file.lineCount ∧ ending = ['\n'] ∨
          index + 1 = file.lineCount ∧ ending = []) := by
    rcases segment?_cases hsegment with ⟨line, rfl, hline, hlt⟩ | ⟨hline, hlast⟩
    · refine ⟨line, ['\n'], rfl, hline, ?_, Or.inl ⟨hlt, rfl⟩⟩
      rw [trimLineEnd_append_newline, trimLineEnd_of_newline_not_mem hline]
    · exact ⟨segment, [], (List.append_nil segment).symm, hline,
        trimLineEnd_of_newline_not_mem hline, Or.inr ⟨hlast, rfl⟩⟩
  have hcut : file.segment? (index + 1 - 1) = some (line.rdropWhile (· == '\r') ++
      (List.replicate (line.rtakeWhile (· == '\r')).length '\r' ++ ending)) := by
    rw [← rtakeWhile_eq_replicate, ← List.append_assoc, List.rdropWhile_append_rtakeWhile]
    exact hsegment
  refine ⟨_, _, ending, ?_, hcut, hending, ?_, getLast?_rdropWhile_ne line,
    isTerminated_iff hcut hending⟩
  · rw [lineAt_of_segment? hsegment, htrimmed]
  · exact fun hmem => hline ((List.rdropWhile_prefix _ line).mem hmem)

/-- The carriage return at the end of a content without a line feed ends no line, and yet the line
    is returned without it. -/
theorem last_line_loses_return :
    lineCount ⟨"a.opl", ['x', '\r']⟩ = 1 ∧ lineAt ⟨"a.opl", ['x', '\r']⟩ 1 = .ok ['x'] ∧
      ¬ ∃ line, lineAt ⟨"a.opl", ['x', '\r']⟩ 1 = .ok line ∧
        IsTerminated ⟨"a.opl", ['x', '\r']⟩ 1 line := by
  refine ⟨by decide, rfl, ?_⟩
  rintro ⟨line, hline, ending, hsegment, hending⟩
  obtain rfl : ['x'] = line := Except.ok.inj hline
  have hcut : segment? ⟨"a.opl", ['x', '\r']⟩ 0 = some (['x'] ++ ['\r']) := rfl
  obtain rfl : ['\r'] = ending :=
    List.append_cancel_left (Option.some.inj (hcut.symm.trans hsegment))
  simp at hending

/-- Of two carriage returns before a line feed, one belongs to the line and is lost. -/
theorem lines_trimmed_returns :
    1 ≤ 1 ∧ 1 ≤ lineCount ⟨"a.opl", "x\r\r\ny".toList⟩ ∧
      ∃ line returns ending, Trimmed ⟨"a.opl", "x\r\r\ny".toList⟩ 1 line returns ending :=
  ⟨by decide, by decide, lines_trimmed (by decide) (by decide)⟩

end SourceFile

end PermissionSchema
