import PermissionSchema.Proofs.Pulling

/-!
# Ways to the tokens of a source

The tokens of a source can be collected one after the other, collected up to the first error,
iterated without the comments, or put together from the bare steps of the scanner. All four tell
the same tokens (`entry_points_agree`).
-/

namespace PermissionSchema

/-! ### Runs of steps -/

/-- Whether an action completes a token that ends the stream. -/
def Action.isTerminal : Action → Bool
  | .emit kind => kind.isTerminal
  | _ => false

/-- Behind a stretch of what is left at an offset, the rest of it is left. -/
theorem Text.dropBytes_add {text : Text} {offset : Nat} (hrest : text.dropBytes offset ≠ [])
    (count : Nat) :
    text.dropBytes (offset + Text.size ((text.dropBytes offset).take count)) =
      (text.dropBytes offset).drop count := by
  cases hchars : text.charsTo? offset with
  | none =>
    -- nothing is left at an offset inside a character
    refine absurd ?_ hrest
    simp [dropBytes, hchars]
  | some passed =>
    obtain ⟨-, hoffset⟩ := charsTo?_eq_some_iff.1 hchars
    have hleft : text.dropBytes offset = text.drop passed := by
      simp [dropBytes, hchars]
    have hcut : text = (text.take passed ++ (text.drop passed).take count) ++
        (text.drop passed).drop count := by
      rw [List.append_assoc, List.take_append_drop, List.take_append_drop]
    have hdrop := dropBytes_append (text.take passed ++ (text.drop passed).take count)
      ((text.drop passed).drop count)
    rw [← hcut, size_append, hoffset] at hdrop
    rw [hleft, hdrop]

/-- A step leaves less text, unless it ends the stream. -/
theorem length_dropBytes_step_lt {source : Text} {offset : Nat} {mode : Mode}
    (h : ¬ (step source offset mode).action.isTerminal = true) :
    (source.dropBytes (step source offset mode).stop).length <
      (source.dropBytes offset).length := by
  have hpos : 0 < (Scan.ofText mode (source.dropBytes offset)).length := by
    apply Scan.length_pos
    intro kind hkind
    have haction : (step source offset mode).action = .emit kind := hkind
    rw [haction] at h
    simpa [Action.isTerminal] using h
  have hle := Scan.length_le mode (source.dropBytes offset)
  have hrest : source.dropBytes offset ≠ [] := List.length_pos_iff.1 (by omega)
  have hstop : (step source offset mode).stop = offset +
      Text.size ((source.dropBytes offset).take
        (Scan.ofText mode (source.dropBytes offset)).length) := rfl
  rw [hstop, Text.dropBytes_add hrest, List.length_drop]
  omega

/-- The steps over a source from an offset on, each from where and in the mode in which the one
    before it ended, up to the first that ends the stream. -/
def stepsFrom (source : Text) (offset : Nat) (mode : Mode) : List Step :=
  let taken := step source offset mode
  if _ : taken.action.isTerminal = true then [taken]
  else taken :: stepsFrom source taken.stop taken.next
  termination_by (source.dropBytes offset).length
  decreasing_by exact length_dropBytes_step_lt ‹_›

/-- What is known of a token from the steps that complete it. -/
structure Completed where
  kind : Kind
  stop : Nat
  text : Option Text
  deriving DecidableEq, Repr

/-- The tokens that some steps complete. A token has all that was passed since `start`, and the
    next one starts where a step skips or completes something. -/
def completedFrom (source : Text) (start : Nat) : List Step → List Completed
  | [] => []
  | taken :: steps =>
    match taken.action with
    | .skip => completedFrom source taken.stop steps
    | .resume => completedFrom source start steps
    | .emit kind =>
      ⟨kind, taken.stop, source.slice? start taken.stop⟩ :: completedFrom source taken.stop steps

/-- What the steps from an offset in a mode complete. -/
def completed (source : Text) (start offset : Nat) (mode : Mode) : List Completed :=
  completedFrom source start (stepsFrom source offset mode)

section

variable {source : Text} {start offset stop : Nat} {mode next : Mode}

theorem completed_of_skip (h : step source offset mode = ⟨stop, .skip, next⟩) :
    completed source start offset mode = completed source stop stop next := by
  rw [completed, stepsFrom, h]
  rfl

theorem completed_of_resume (h : step source offset mode = ⟨stop, .resume, next⟩) :
    completed source start offset mode = completed source start stop next := by
  rw [completed, stepsFrom, h]
  rfl

theorem completed_of_emit {kind : Kind} (h : step source offset mode = ⟨stop, .emit kind, next⟩) :
    completed source start offset mode = ⟨kind, stop, source.slice? start stop⟩ ::
      if kind.isTerminal = true then [] else completed source stop stop next := by
  rw [completed, stepsFrom, h]
  cases hkind : kind.isTerminal <;> simp [Action.isTerminal, hkind, completedFrom, completed]

end

/-! ### Steps of a stream -/

/-- A step behind a prefix scans what follows the prefix. -/
theorem step_append {rest : Text} {mode next : Mode} {length : Nat} {action : Action}
    (hscan : Scan.ofText mode rest = ⟨length, action, next⟩) (before : Text) :
    step (before ++ rest) (Text.size before) mode =
      ⟨Text.size (before ++ rest.take length), action, next⟩ := by
  simp [step, Scan.stepFrom, hscan]

/-- The steps over blanks complete nothing. -/
theorem completed_gap {gap rest : Text} (hgap : IsGap gap rest) (before : Text) :
    completed (before ++ (gap ++ rest)) (Text.size before) (Text.size before) .top =
      completed (before ++ (gap ++ rest)) (Text.size (before ++ gap))
        (Text.size (before ++ gap)) .top := by
  by_cases hne : gap = []
  · rw [hne, List.append_nil]
  · have hstep := step_append (hgap.ofText_eq hne) before
    rw [List.take_left] at hstep
    exact completed_of_skip hstep

/-- The steps over a token complete it, and go on behind it unless it ends the stream. -/
theorem completed_lexeme {text behind : Text} {kind : Kind}
    (hlexeme : Lexeme (text ++ behind) kind text) (before : Text) :
    completed (before ++ (text ++ behind)) (Text.size before) (Text.size before) .top =
      ⟨kind, Text.size (before ++ text), some text⟩ ::
        if kind.isTerminal = true then []
        else completed (before ++ (text ++ behind)) (Text.size (before ++ text))
          (Text.size (before ++ text)) .top := by
  obtain ⟨hwhole, -⟩ := Scan.whole_of_lexeme hlexeme
  have hslice : (before ++ (text ++ behind)).slice? (Text.size before)
      (Text.size (before ++ text)) = some text := by
    rw [Text.size_append]
    exact Text.slice?_between rfl
  rcases Scan.emit_or_resume_of_whole hwhole with
    hscan | ⟨opening, mode, body, hscan, hbody, hlength⟩
  · have hstep := step_append hscan before
    rw [List.take_left] at hstep
    rw [completed_of_emit hstep, hslice]
  · -- the body is scanned behind the opening, and the two stretches are the token
    have hopening := step_append hscan before
    have hstep := step_append hbody (before ++ (text ++ behind).take opening)
    rw [List.append_assoc, List.take_append_drop, List.append_assoc, ← List.take_add, ← hlength,
      List.take_left] at hstep
    rw [completed_of_resume hopening, completed_of_emit hstep, hslice]

/-- The steps over the text of a stream complete its tokens. -/
theorem Stream.completed_eq {place : Position} {rest : Text} {tokens : List Token}
    (hstream : Stream place rest tokens) (before : Text)
    (hoffset : place.offset = Text.size before) :
    completed (before ++ rest) (Text.size before) (Text.size before) .top =
      tokens.map fun token => ⟨token.kind, token.span.stop, some token.text⟩ := by
  induction hstream generalizing before with
  | @last place gap text behind kind hgap hlexeme hkind =>
    have htoken := completed_lexeme hlexeme (before ++ gap)
    rw [if_pos hkind, List.append_assoc before gap] at htoken
    rw [completed_gap hgap, htoken, List.map_singleton, Token.behind_stop, hoffset,
      ← Text.size_append, List.append_assoc]
    rfl
  | @more place gap text behind kind tokens hgap hlexeme hkind _ ih =>
    have htoken := completed_lexeme hlexeme (before ++ gap)
    rw [if_neg (by simp [hkind]), List.append_assoc before gap] at htoken
    have hbehind : (place.after (gap ++ text)).offset = Text.size (before ++ gap ++ text) := by
      rw [Position.after_offset, hoffset, ← Text.size_append, List.append_assoc]
    have htail := ih _ hbehind
    rw [List.append_assoc, List.append_assoc before gap] at htail
    rw [completed_gap hgap, htoken, htail, List.map_cons, Token.behind_stop, hoffset,
      ← Text.size_append, List.append_assoc]
    rfl

/-! ### All of them -/

/-- The ways to the tokens of a source tell the same: `front` before the last one, and `last`. -/
structure Agree (name : String) (source : Text) (front : List Token) (last : Token) : Prop where
  tokenize_eq : tokenize name source = front ++ [last]
  /-- No token before the last one is an error. -/
  front_error : ∀ token ∈ front, token.error? name = none
  /-- The last token is the end of input, and all before it are collected, or an error, which
      stops the collecting. -/
  last_error : (last.kind = .endOfInput ∧ last.error? name = none ∧
      tokenizeAll name source = .ok front) ∨
    ∃ e, last.kind = .error e.fault ∧ last.error? name = some e ∧
      tokenizeAll name source = .error e
  /-- Without comments, the iterator yields the other tokens, the last one among them. -/
  uncommented : (Lexer.ofSource name source).skipComments.drain.1 =
    front.filter (!·.kind.isComment) ++ [last]
  /-- The steps from the beginning complete the tokens, where they end and with their texts. -/
  stepped : completed source 0 0 .top =
    (front ++ [last]).map fun token => ⟨token.kind, token.span.stop, some token.text⟩

/-- **All ways to the tokens of a source agree.** -/
theorem entry_points_agree (name : String) (source : Text) :
    ∃ front last, Agree name source front last := by
  obtain ⟨front, last, htokens, hlast, hfront, hall⟩ := exists_tokenizeAll_eq name source
  refine ⟨front, last, htokens, ?_, ?_, ?_, ?_⟩
  · intro token hmem
    exact Token.error?_of_not_isTerminal (hfront token hmem) name
  · rcases Kind.isTerminal_iff.1 hlast with hkind | ⟨fault, hkind⟩
    · have hnone : last.error? name = none := by
        rw [Token.error?, hkind]
        rfl
      rw [hnone] at hall
      exact Or.inl ⟨hkind, hnone, hall⟩
    · have hsome := Token.error?_of_kind hkind name
      rw [hsome] at hall
      exact Or.inr ⟨_, hkind, hsome, hall⟩
  · have hkept : last.kind.isComment = false := Kind.not_isComment_of_isTerminal hlast
    rw [drain_skipComments, htokens, List.filter_append, List.filter_singleton, hkept]
    rfl
  · have hstream := stream_tokenize name source
    rw [htokens] at hstream
    exact hstream.completed_eq [] rfl

end PermissionSchema
