import PermissionSchema.Proofs.Probing
import PermissionSchema.Proofs.Progress

/-!
# Steps behind other text

What stands before an offset has no part in the step that is taken from there. A probe over a text
is set beside the probe over the same text `behind` some other one. Every motion of the first is a
motion of the second that sees the same characters, fails at the same checks and ends as many bytes
further on as the other text has. So it is with the scanners, one by one, and with whole steps
(`steps_relocate`).
-/

namespace PermissionSchema

namespace Text

/-! ### Offsets behind a prefix -/

variable (before text : Text)

theorem charsTo?_behind (offset : Nat) :
    (before ++ text).charsTo? (size before + offset) =
      (text.charsTo? offset).map (before.length + ·) := by
  ext count
  rw [charsTo?_eq_some_iff, Option.map_eq_some_iff]
  constructor
  · rintro ⟨hle, hsize⟩
    have hprefix : before <+: (before ++ text).take count :=
      isPrefix_of_size_le (List.prefix_append before text) (List.take_prefix count _) (by omega)
    have hcount : before.length ≤ count := hprefix.length_le.trans (List.length_take_le _ _)
    obtain ⟨rest, rfl⟩ := Nat.exists_eq_add_of_le hcount
    rw [List.take_length_add_append, size_append] at hsize
    rw [List.length_append] at hle
    exact ⟨rest, charsTo?_eq_some_iff.2 ⟨by omega, by omega⟩, rfl⟩
  · rintro ⟨rest, hrest, rfl⟩
    obtain ⟨hle, hsize⟩ := charsTo?_eq_some_iff.1 hrest
    rw [List.take_length_add_append, size_append, hsize, List.length_append]
    exact ⟨by omega, rfl⟩

theorem isBoundary_behind (offset : Nat) :
    (before ++ text).IsBoundary (size before + offset) ↔ text.IsBoundary offset := by
  rw [IsBoundary, IsBoundary, charsTo?_behind, Option.isSome_map]

theorem slice?_shift (start stop : Nat) :
    (before ++ text).slice? (size before + start) (size before + stop) =
      text.slice? start stop := by
  simp only [slice?, charsTo?_behind, Nat.add_le_add_iff_left]
  split
  · cases text.charsTo? start with
    | none => rfl
    | some skipped =>
      cases text.charsTo? stop with
      | none => rfl
      | some kept =>
        have hkept : before.length + kept - (before.length + skipped) = kept - skipped := by omega
        simp only [Option.map_some, Option.bind_eq_bind, Option.bind_some,
          List.drop_length_add_append, hkept]
  · rfl

theorem slice?_to_end (start : Nat) :
    (before ++ text).slice? (size before + start) (size (before ++ text)) =
      text.slice? start (size text) := by
  rw [size_append]
  exact slice?_shift before text start (size text)

end Text

/-- The same place, so many bytes further on. -/
def Position.moved (bytes : Nat) (place : Position) : Position :=
  { place with offset := bytes + place.offset }

/-- The same step, so many bytes further on. -/
def Step.moved (bytes : Nat) (taken : Step) : Step := { taken with stop := bytes + taken.stop }

/-- What comes of one thing after the other, told by what comes of each. -/
theorem bind_eq_map_bind {α β γ δ : Type} {tried : Option α} {tried' : Option β} {onward : α → β}
    {goOn : α → Option γ} {goOn' : β → Option δ} {onward' : γ → δ}
    (htried : tried' = tried.map onward) (hgoOn : ∀ a, goOn' (onward a) = (goOn a).map onward') :
    tried' >>= goOn' = (tried >>= goOn).map onward' := by
  rw [htried]
  cases tried with
  | none => rfl
  | some a => exact hgoOn a

/-- The same, where the first tells nothing of what it is behind. -/
theorem bind_eq_map_bind_of_eq {α γ δ : Type} {tried tried' : Option α} {goOn : α → Option γ}
    {goOn' : α → Option δ} {onward : γ → δ} (htried : tried' = tried)
    (hgoOn : ∀ a, goOn' a = (goOn a).map onward) :
    tried' >>= goOn' = (tried >>= goOn).map onward :=
  bind_eq_map_bind (htried.trans (Option.map_id_apply).symm) hgoOn

namespace Probe

/-- The probe at the same place of its text, which stands behind another. -/
def behind (before : Text) (probe : Probe) : Probe :=
  ⟨before ++ probe.source, probe.place.moved (Text.size before)⟩

section

variable (before : Text) (probe : Probe)

/-! ### Motions -/

theorem left_behind : (probe.behind before).left = probe.left := by
  simp only [left, behind, Position.moved, Text.size_append]
  omega

theorem remaining?_behind : (probe.behind before).remaining? = probe.remaining? :=
  Text.slice?_to_end before probe.source probe.place.offset

theorem textFrom?_behind (start : Nat) :
    (probe.behind before).textFrom? (Text.size before + start) = probe.textFrom? start :=
  Text.slice?_shift before probe.source start probe.place.offset

theorem peek?_behind (ahead : Nat) : (probe.behind before).peek? ahead = probe.peek? ahead := by
  rw [peek?, remaining?_behind, peek?]

theorem current?_behind : (probe.behind before).current? = probe.current? :=
  probe.peek?_behind before 0

theorem next32?_moved (bytes : Nat) (place : Position) (c : Char) :
    (place.moved bytes).next32? c = (place.next32? c).map (.moved bytes) := by
  simp only [Position.next32?, Position.moved]
  split <;> simp [Position.next, Position.moved, Nat.add_assoc]

theorem advance?_behind : (probe.behind before).advance? = probe.advance?.map (behind before) := by
  refine bind_eq_map_bind_of_eq (probe.current?_behind before) ?_
  intro current
  cases current with
  | none => rfl
  | some c => exact bind_eq_map_bind (next32?_moved _ probe.place c) fun _ => rfl

theorem accept?_behind (expected : Char) :
    (probe.behind before).accept? expected =
      (probe.accept? expected).map fun accepted => (accepted.1, accepted.2.behind before) := by
  refine bind_eq_map_bind_of_eq (probe.current?_behind before) ?_
  intro current
  split
  · exact bind_eq_map_bind (probe.advance?_behind before) fun _ => rfl
  · rfl

/-- A turn of a loop over the probe at the same place behind another text. -/
def Turn.behind {α : Type} (onward : α → α) : Turn α → Turn α
  | .again passed => .again (passed.behind before)
  | .done result => .done (onward result)

/-- Loops whose turns go alike go alike, and take as many turns. -/
theorem loop?_behind {α : Type} {turn : Probe → Option (Turn α)} {onward : α → α}
    (hturn : ∀ probe : Probe,
      turn (probe.behind before) = (turn probe).map (Turn.behind before onward)) :
    (probe.behind before).loop? turn = (probe.loop? turn).map onward := by
  fun_induction loop? turn probe with
  | case1 probe hnone =>
    rw [loop?, hturn, hnone]
    rfl
  | case2 probe result hdone =>
    rw [loop?, hturn, hdone]
    rfl
  | case3 probe passed hagain hlt ih =>
    have hlt' : (passed.behind before).left < (probe.behind before).left := by
      rwa [left_behind, left_behind]
    have hagain' : turn (probe.behind before) = some (.again (passed.behind before)) := by
      rw [hturn, hagain]
      rfl
    rw [loop?_of_again hagain' hlt']
    exact ih
  | case4 probe passed hagain hstays =>
    have hstays' : ¬ (passed.behind before).left < (probe.behind before).left := by
      rwa [left_behind, left_behind]
    rw [loop?, hturn, hagain]
    exact dif_neg hstays'

theorem skipWhile?_behind (p : Char → Bool) :
    (probe.behind before).skipWhile? p = (probe.skipWhile? p).map (behind before) := by
  refine probe.loop?_behind before ?_
  intro probe
  refine bind_eq_map_bind_of_eq (probe.current?_behind before) ?_
  intro current
  cases current with
  | none => rfl
  | some c =>
    simp only []
    split
    · exact bind_eq_map_bind (probe.advance?_behind before) fun _ => rfl
    · rfl

theorem ofOffset?_behind (source : Text) (offset : Nat) :
    ofOffset? (before ++ source) (Text.size before + offset) =
      (ofOffset? source offset).map (behind before) := by
  simp only [ofOffset?, Text.isBoundary_behind]
  split
  · simp [behind, Position.moved, Text.size_append, Nat.add_min_add_left]
  · rfl

/-! ### Scanners -/

theorem unexpected?_behind (c : Char) : (probe.behind before).unexpected? c =
    (probe.unexpected? c).map (.moved (Text.size before)) :=
  bind_eq_map_bind (probe.advance?_behind before) fun _ => rfl

theorem slash?_behind : (probe.behind before).slash? =
    probe.slash?.map (.moved (Text.size before)) := by
  refine bind_eq_map_bind (probe.advance?_behind before) ?_
  intro probe
  refine bind_eq_map_bind (probe.accept?_behind before '/') ?_
  rintro ⟨line, probe⟩
  cases line with
  | true => exact bind_eq_map_bind (probe.skipWhile?_behind before _) fun _ => rfl
  | false =>
    refine bind_eq_map_bind (probe.accept?_behind before '*') ?_
    rintro ⟨opening, probe⟩
    cases opening with
    | true =>
      refine bind_eq_map_bind_of_eq (probe.current?_behind before) ?_
      intro current
      exact bind_eq_map_bind_of_eq (probe.peek?_behind before 1) fun _ => rfl
    | false => rfl

theorem operator?_behind (c : Char) : (probe.behind before).operator? c =
    (probe.operator? c).map (.moved (Text.size before)) := by
  rw [operator?, operator?]
  split
  · refine bind_eq_map_bind (probe.advance?_behind before) ?_
    intro probe
    refine bind_eq_map_bind (probe.accept?_behind before '>') ?_
    rintro ⟨arrow, probe⟩
    cases arrow with
    | true => rfl
    | false => exact bind_eq_map_bind (probe.accept?_behind before '=') fun _ => rfl
  split
  · refine bind_eq_map_bind (probe.advance?_behind before) ?_
    intro probe
    exact bind_eq_map_bind (probe.accept?_behind before '=') fun _ => rfl
  · refine bind_eq_map_bind_of_eq (probe.peek?_behind before 1) ?_
    intro ahead
    split
    · refine bind_eq_map_bind (probe.advance?_behind before) ?_
      intro probe
      exact bind_eq_map_bind (probe.advance?_behind before) fun _ => rfl
    · exact probe.unexpected?_behind before c

theorem mark?_behind (c : Char) : (probe.behind before).mark? c =
    (probe.mark? c).map (.moved (Text.size before)) := by
  rw [mark?, mark?]
  cases Scan.punctuation? c with
  | none => exact probe.unexpected?_behind before c
  | some kind => exact bind_eq_map_bind (probe.advance?_behind before) fun _ => rfl

theorem name?_behind : (probe.behind before).name? =
    probe.name?.map (.moved (Text.size before)) := by
  refine bind_eq_map_bind (probe.advance?_behind before) ?_
  intro passed
  refine bind_eq_map_bind (passed.skipWhile?_behind before continuesName) ?_
  intro passed
  exact bind_eq_map_bind_of_eq (passed.textFrom?_behind before probe.place.offset) fun _ => rfl

theorem first?_behind (c : Char) : (probe.behind before).first? c =
    (probe.first? c).map (.moved (Text.size before)) := by
  rw [first?, first?]
  split
  · exact bind_eq_map_bind (probe.skipWhile?_behind before isBlank) fun _ => rfl
  split
  · exact probe.slash?_behind before
  split
  · exact bind_eq_map_bind (probe.advance?_behind before) fun _ => rfl
  split
  · exact probe.operator?_behind before c
  split
  · exact probe.name?_behind before
  · exact probe.mark?_behind before c

theorem stringBody?_behind : (probe.behind before).stringBody? =
    probe.stringBody?.map (.moved (Text.size before)) := by
  refine probe.loop?_behind before ?_
  intro probe
  refine bind_eq_map_bind_of_eq (probe.current?_behind before) ?_
  intro current
  cases current with
  | none => rfl
  | some c =>
    simp only []
    split
    · rfl
    refine bind_eq_map_bind (probe.advance?_behind before) ?_
    intro passed
    split
    · rfl
    split
    · -- what the backslash escapes is looked at from behind it
      refine bind_eq_map_bind_of_eq (passed.current?_behind before) ?_
      intro escaped
      cases escaped with
      | none => rfl
      | some d =>
        simp only []
        split
        · rfl
        · exact bind_eq_map_bind (passed.advance?_behind before) fun _ => rfl
    · rfl

end

/-! ### Steps -/

section

variable (before source : Text) (offset : Nat)

theorem top?_behind : top? (before ++ source) (Text.size before + offset) =
    (top? source offset).map (.moved (Text.size before)) := by
  refine bind_eq_map_bind (ofOffset?_behind before source offset) ?_
  intro probe
  refine bind_eq_map_bind_of_eq (probe.current?_behind before) ?_
  intro current
  cases current with
  | none => rfl
  | some c => exact probe.first?_behind before c

theorem commentBody?_behind (doc : Bool) :
    commentBody? (before ++ source) (Text.size before + offset) doc =
      (commentBody? source offset doc).map (.moved (Text.size before)) := by
  refine bind_eq_map_bind_of_eq (Text.slice?_to_end before source offset) ?_
  intro body
  cases Text.offsetOf? ['*', '/'] body with
  | none => simp [Step.moved]
  | some close => simp [Step.moved, Nat.add_assoc]

theorem step?_behind (mode : Mode) :
    step? (before ++ source) (Text.size before + offset) mode =
      (step? source offset mode).map (.moved (Text.size before)) := by
  cases mode with
  | top => exact top?_behind before source offset
  | string =>
    refine bind_eq_map_bind (ofOffset?_behind before source offset) ?_
    intro probe
    exact probe.stringBody?_behind before
  | comment doc => exact commentBody?_behind before source offset doc

end

end Probe

theorem step_moved (before rest : Text) (mode : Mode) :
    step (before ++ rest) (Text.size before) mode =
      (step rest 0 mode).moved (Text.size before) := by
  have halone : step rest 0 mode = (Scan.ofText mode rest).stepFrom 0 rest :=
    step_behind [] rest mode
  rw [step_behind, halone]
  simp [Step.moved, Scan.stepFrom]

/-- **A step depends only on the text from its position on.** In every mode, the step over a text
    behind any other is the step over that text alone, with the same action and the same next mode,
    as many bytes further on as the other has. This holds of the scan of what is left, and of the
    scanners by byte offsets with every check that they make. -/
theorem steps_relocate (before rest : Text) (mode : Mode) :
    step (before ++ rest) (Text.size before) mode =
        (step rest 0 mode).moved (Text.size before) ∧
      Probe.step? (before ++ rest) (Text.size before) mode =
        (Probe.step? rest 0 mode).map (.moved (Text.size before)) :=
  ⟨step_moved before rest mode, Probe.step?_behind before rest 0 mode⟩

end PermissionSchema
