import PermissionSchema.Proofs.Probing
import PermissionSchema.Proofs.Turns

/-!
# Lexers never cut a character

A lexer hands byte offsets to and fro: a step is taken at the offset of its cursor, its cursor is
sent to where the step stops, and the text of a token is cut between two offsets. In every state
that a lexer gets into, and in every state of the loop on the way there, these offsets are
boundaries, they are in order, and no check fails (`lexing_safe`).
-/

namespace PermissionSchema

/-- A step from a boundary stops at a boundary that is not before it. -/
theorem step_stop_bounds {source : Text} {offset : Nat} (hoffset : source.IsBoundary offset)
    (mode : Mode) : source.IsBoundary (step source offset mode).stop ∧
      offset ≤ (step source offset mode).stop ∧
      (step source offset mode).stop ≤ Text.size source := by
  obtain ⟨before, rest, rfl, rfl⟩ := Text.isBoundary_iff.1 hoffset
  rw [step_behind]
  simp only [Scan.stepFrom]
  generalize (Scan.ofText mode rest).length = length
  have hcut : before ++ rest = (before ++ rest.take length) ++ rest.drop length := by
    rw [List.append_assoc, List.take_append_drop]
  rw [← Text.size_append]
  refine ⟨?_, ?_, ?_⟩
  · rw [hcut]
    exact Text.isBoundary_size _ _
  · rw [Text.size_append]
    omega
  · rw [hcut, Text.size_append (before ++ rest.take length)]
    omega

namespace Lexer

/-! ### Where a lexer stands -/

section

variable {source : Text} {lexer : Lexer}

/-- The two cursors of a lexer stand in its source, the start of the token in the making not behind
    how far it has been scanned. -/
def Inside (source : Text) (lexer : Lexer) : Prop :=
  ∃ before pending rest, source = before ++ (pending ++ rest) ∧
    lexer.start = .behind before (pending ++ rest) ∧
    lexer.cursor = .behind (before ++ pending) rest

theorem inside_of_start_eq {before rest : Text} (hsource : source = before ++ rest)
    (hcursor : lexer.cursor = .behind before rest) (hstart : lexer.start = lexer.cursor) :
    lexer.Inside source :=
  ⟨before, [], rest, hsource, hstart.trans hcursor, by rw [hcursor, List.append_nil]⟩

theorem Inside.step (hinside : lexer.Inside source) : lexer.step.2.Inside source := by
  obtain ⟨before, pending, rest, hsource, hstart, hcursor⟩ := hinside
  obtain ⟨count, hmove⟩ : ∃ count, lexer.step.2.cursor = lexer.cursor.move count :=
    ⟨_, lexer.step_cursor⟩
  rw [hcursor, Cursor.move_behind] at hmove
  by_cases hskip : lexer.step.1 = .skip
  · have hstart' : lexer.step.2.start = lexer.step.2.cursor := if_pos hskip
    refine inside_of_start_eq ?_ hmove hstart'
    rw [hsource, List.append_assoc, List.take_append_drop, List.append_assoc]
  · have hstart' : lexer.step.2.start = lexer.start := if_neg hskip
    refine ⟨before, pending ++ rest.take count, rest.drop count, ?_, ?_, ?_⟩
    · rw [hsource, List.append_assoc, List.take_append_drop]
    · rw [hstart', hstart, List.append_assoc, List.take_append_drop]
    · rw [hmove, List.append_assoc]

theorem Inside.finish (hinside : lexer.Inside source) (kind : Kind) :
    (lexer.finish kind).2.Inside source := by
  obtain ⟨before, pending, rest, hsource, -, hcursor⟩ := hinside
  rw [← List.append_assoc] at hsource
  exact inside_of_start_eq hsource ((finish_cursor _ kind).trans hcursor)
    ((finish_start _ kind).trans (finish_cursor _ kind).symm)

/-- The loop stays inside the source, turn by turn. -/
theorem Course.inside {states : List Lexer} {result : Token × Lexer}
    (hcourse : Course lexer states result) (hinside : lexer.Inside source) :
    result.2.Inside source ∧ ∀ state ∈ states, state.Inside source := by
  induction hcourse with
  | @emit lexer lexer' kind hstep =>
    obtain rfl : lexer.step.2 = lexer' := congrArg Prod.snd hstep
    refine ⟨hinside.step.finish kind, ?_⟩
    intro state hstate
    rwa [List.mem_singleton.1 hstate]
  | @skip lexer lexer' states result hstep _ ih | @resume lexer lexer' states result hstep _ ih =>
    obtain rfl : lexer.step.2 = lexer' := congrArg Prod.snd hstep
    obtain ⟨hresult, hstates⟩ := ih hinside.step
    refine ⟨hresult, ?_⟩
    intro state hstate
    rcases List.mem_cons.1 hstate with rfl | hstate
    · exact hinside
    · exact hstates state hstate

theorem exists_course (lexer : Lexer) : ∃ states, Course lexer states lexer.scan := by
  fun_induction scan lexer with
  | case1 lexer kind lexer' hstep => exact ⟨_, .emit hstep⟩
  | case2 lexer lexer' hstep ih =>
    obtain ⟨states, hcourse⟩ := ih
    exact ⟨_, .skip hstep hcourse⟩
  | case3 lexer lexer' hstep ih =>
    obtain ⟨states, hcourse⟩ := ih
    exact ⟨_, .resume hstep hcourse⟩

theorem Inside.scan (hinside : lexer.Inside source) : lexer.scan.2.Inside source := by
  obtain ⟨states, hcourse⟩ := lexer.exists_course
  exact (hcourse.inside hinside).1

theorem Reachable.inside {name : String} (hreachable : Reachable name source lexer) :
    lexer.Inside source :=
  hreachable.invariant ⟨[], [], source, rfl, rfl, rfl⟩
    (fun _ hinside => hinside.scan) fun _ _ _ hinside => hinside

/-! ### What a lexer relies on -/

/-- No check fails in a state of a lexer over a source: its offsets are boundaries in order, what
    has been scanned of a token can be cut from the source, the next step can be taken, and the
    cursor can be sent to where that step stops and gets there. -/
structure Safe (source : Text) (lexer : Lexer) : Prop where
  source_eq : lexer.source = source
  start_isBoundary : source.IsBoundary lexer.start.place.offset
  start_le : lexer.start.place.offset ≤ lexer.cursor.place.offset
  cursor_isBoundary : source.IsBoundary lexer.cursor.place.offset
  cursor_le : lexer.cursor.place.offset ≤ Text.size source
  textFrom?_eq : lexer.cursor.probe.textFrom? lexer.start.place.offset =
    some (lexer.start.textTo lexer.cursor)
  step?_eq : ∃ taken, Probe.step? source lexer.cursor.place.offset lexer.mode = some taken ∧
    lexer.step.1 = taken.action ∧ lexer.step.2.mode = taken.next ∧
    lexer.cursor.probe.advanceTo? taken.stop = some lexer.step.2.cursor.probe ∧
    lexer.step.2.cursor.place.offset = taken.stop

theorem Inside.textFrom?_eq (hinside : lexer.Inside source) :
    lexer.cursor.probe.textFrom? lexer.start.place.offset =
      some (lexer.start.textTo lexer.cursor) := by
  obtain ⟨before, pending, rest, -, hstart, hcursor⟩ := hinside
  have hmove : lexer.cursor = lexer.start.move pending.length := by
    rw [hstart, Cursor.move_behind, List.take_left, List.drop_left, hcursor]
  have htext : lexer.start.textTo lexer.cursor = pending := by
    rw [hmove, hstart]
    exact Cursor.textTo_move rfl
  rw [htext, hstart, hcursor, Cursor.behind_offset, Probe.textFrom?, Cursor.probe,
    Cursor.behind_source, Cursor.behind_offset, Text.size_append]
  exact Text.slice?_append before pending rest

/-- The step of a lexer is the one from the offset of its cursor, which is sent to where that step
    stops. -/
theorem Inside.step?_eq (hinside : lexer.Inside source)
    (hsize : Text.size source < UInt32.size - 1) :
    ∃ taken, Probe.step? source lexer.cursor.place.offset lexer.mode = some taken ∧
      lexer.step.1 = taken.action ∧ lexer.step.2.mode = taken.next ∧
      lexer.cursor.probe.advanceTo? taken.stop = some lexer.step.2.cursor.probe ∧
      lexer.step.2.cursor.place.offset = taken.stop := by
  obtain ⟨before, pending, rest, hsource, -, hcursor⟩ := hinside
  have hcut : source = (before ++ pending) ++ rest := by rw [hsource, List.append_assoc]
  rw [hcut] at hsize
  refine ⟨(Scan.ofText lexer.mode lexer.cursor.remaining).stepFrom lexer.cursor.place.offset
    lexer.cursor.remaining, ?_, rfl, rfl, ?_, ?_⟩
  · rw [hcut, hcursor, Cursor.behind_offset, Cursor.behind_remaining]
    exact Probe.step?_append hsize lexer.mode
  · have hfaces : lexer.cursor.probe.Faces lexer.cursor.remaining := by
      rw [hcursor]
      exact Probe.faces_behind hsize
    exact Cursor.advanceTo?_probe hfaces _
  · rw [step_cursor, Cursor.move, Position.after_offset]
    rfl

theorem Inside.safe (hinside : lexer.Inside source)
    (hsize : Text.size source < UInt32.size - 1) : lexer.Safe source := by
  have htext := hinside.textFrom?_eq
  have hstep := hinside.step?_eq hsize
  obtain ⟨before, pending, rest, rfl, hstart, hcursor⟩ := hinside
  have hstart' : lexer.start.place.offset = Text.size before := by
    rw [hstart, Cursor.behind_offset]
  have hcursor' : lexer.cursor.place.offset = Text.size before + Text.size pending := by
    rw [hcursor, Cursor.behind_offset, Text.size_append]
  refine ⟨?_, ?_, ?_, ?_, ?_, htext, hstep⟩
  · rw [Lexer.source, hcursor, Cursor.behind_source, List.append_assoc]
  · rw [hstart']
    exact Text.isBoundary_size _ _
  · omega
  · rw [hcursor', ← Text.size_append, ← List.append_assoc]
    exact Text.isBoundary_size _ _
  · rw [hcursor', Text.size_append, Text.size_append]
    omega

end

end Lexer

/-- **Lexing is safe.** Over a source of fewer than 2 ^ 32 - 1 bytes, a step from any boundary is
    taken without a failing check and stops at a boundary that is not before it; and whatever is
    asked of a lexer, no check fails in the state it gets into, nor in any turn of the loop that
    scans its next token. -/
theorem lexing_safe (name : String) {source : Text} (hsize : Text.size source < UInt32.size - 1) :
    (∀ offset mode, source.IsBoundary offset →
      Probe.step? source offset mode = some (step source offset mode) ∧
        source.IsBoundary (step source offset mode).stop ∧
        offset ≤ (step source offset mode).stop ∧
        (step source offset mode).stop ≤ Text.size source) ∧
      ∀ lexer, Lexer.Reachable name source lexer → lexer.Safe source ∧
        ∀ states result, Lexer.Course lexer states result → result.2.Safe source ∧
          ∀ state ∈ states, state.Safe source ∧ state.step.2.Safe source := by
  constructor
  · intro offset mode hoffset
    exact ⟨Probe.step?_eq hsize hoffset mode, step_stop_bounds hoffset mode⟩
  · intro lexer hreachable
    have hinside := hreachable.inside
    refine ⟨hinside.safe hsize, ?_⟩
    intro states result hcourse
    obtain ⟨hresult, hstates⟩ := hcourse.inside hinside
    refine ⟨hresult.safe hsize, ?_⟩
    intro state hstate
    exact ⟨(hstates state hstate).safe hsize, (hstates state hstate).step.safe hsize⟩

/-- A body of two-byte characters is passed whole, up to the end of its `*/`. -/
theorem lexing_safe_multibyte :
    Probe.step? "/*é*é*/é".toList 2 (.comment false) = some ⟨9, .emit .blockComment, .top⟩ ∧
      (Lexer.ofSource "a.opl" "/*é*é*/é".toList).next.2.Safe "/*é*é*/é".toList := by
  have hsize : Text.size "/*é*é*/é".toList < UInt32.size - 1 := by decide +kernel
  obtain ⟨hstep, hlexer⟩ := lexing_safe "a.opl" hsize
  refine ⟨?_, (hlexer _ (.next .fresh)).1⟩
  rw [(hstep 2 _ (by decide +kernel)).1]
  decide +kernel

end PermissionSchema
