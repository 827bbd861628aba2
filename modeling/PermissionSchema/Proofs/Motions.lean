import PermissionSchema.Proofs.Lines
import Mathlib.Order.Bounds.Defs

/-!
# Cursors, whatever has moved them

A cursor can be moved on by one character, over an expected one, over a run of characters and to a
byte offset. Whatever has moved it from the start of its source, it stands behind some prefix
(`Cursor.behind`), and all that it tells are counts over that prefix. So where a cursor stands
decides what it is, and not how it got there (`motions_tracked`).
-/

namespace PermissionSchema

namespace Text

/-- A boundary is the size of a prefix. -/
theorem isBoundary_iff {text : Text} {offset : Nat} :
    text.IsBoundary offset ↔ ∃ front back, text = front ++ back ∧ size front = offset := by
  constructor
  · intro hboundary
    obtain ⟨count, hcount⟩ := Option.isSome_iff_exists.1 hboundary
    obtain ⟨-, hsize⟩ := charsTo?_eq_some_iff.1 hcount
    exact ⟨text.take count, text.drop count, (List.take_append_drop count text).symm, hsize⟩
  · rintro ⟨front, back, rfl, rfl⟩
    simp [IsBoundary]

theorem isBoundary_size (front back : Text) : (front ++ back).IsBoundary (size front) :=
  isBoundary_iff.2 ⟨front, back, rfl, rfl⟩

/-- What stands before an offset, and what is left from it on. -/
theorem slice?_before (front back : Text) : (front ++ back).slice? 0 (size front) = some front := by
  have hslice := slice?_append [] front back
  rwa [size_nil, Nat.zero_add] at hslice

theorem slice?_behind (front back : Text) :
    (front ++ back).slice? (size front) (size (front ++ back)) = some back := by
  have hslice := slice?_append front back []
  rwa [List.append_nil, ← size_append] at hslice

/-- Of two prefixes of one text, the one with fewer bytes is a prefix of the other. -/
theorem isPrefix_of_size_le {text front front' : Text} (hfront : front <+: text)
    (hfront' : front' <+: text) (hsize : size front ≤ size front') : front <+: front' := by
  rcases List.prefix_or_prefix_of_prefix hfront hfront' with hprefix | ⟨more, rfl⟩
  · exact hprefix
  · have hmore : size more = 0 := by
      rw [size_append] at hsize
      omega
    simp [size_eq_zero_iff.1 hmore]

private theorem charsCoveringFrom_add (text : Text) (bytes count : Nat) :
    charsCoveringFrom text bytes count = count + charsCovering text bytes := by
  induction text generalizing bytes count with
  | nil => rfl
  | cons c rest ih =>
    rw [charsCovering, charsCoveringFrom, charsCoveringFrom]
    split
    · rfl
    · rw [ih, ih _ (0 + 1)]
      omega

theorem charsCovering_cons (c : Char) (rest : Text) (bytes : Nat) :
    charsCovering (c :: rest) bytes =
      if bytes = 0 then 0 else charsCovering rest (bytes - c.utf8Size) + 1 := by
  rw [charsCovering, charsCoveringFrom]
  split
  · rfl
  · rw [charsCoveringFrom_add]
    omega

@[simp] theorem charsCovering_zero (text : Text) : charsCovering text 0 = 0 := by
  cases text with
  | nil => rfl
  | cons c rest => rw [charsCovering_cons, if_pos rfl]

/-- The characters that cover some bytes do cover them, or are all there are. -/
theorem le_size_take_charsCovering (text : Text) (bytes : Nat) :
    min bytes (size text) ≤ size (text.take (charsCovering text bytes)) := by
  induction text generalizing bytes with
  | nil => simp
  | cons c rest ih =>
    rw [charsCovering_cons]
    split
    · next hbytes => simp [hbytes]
    · have hrest := ih (bytes - c.utf8Size)
      rw [List.take_succ_cons, size_cons, size_cons]
      omega

/-- No shorter prefix covers the same bytes. -/
theorem size_take_charsCovering_le {text front : Text} {bytes : Nat} (hfront : front <+: text)
    (hbytes : min bytes (size text) ≤ size front) :
    size (text.take (charsCovering text bytes)) ≤ size front := by
  induction text generalizing front bytes with
  | nil => simp
  | cons c rest ih =>
    rw [charsCovering_cons]
    split
    · simp
    · next hne =>
      -- some byte is wanted, so the first character is in the prefix
      cases front with
      | nil =>
        have hpos := c.utf8Size_pos
        rw [size_nil, size_cons] at hbytes
        omega
      | cons d front =>
        obtain ⟨rfl, htail⟩ := List.cons_prefix_cons.1 hfront
        rw [size_cons, size_cons] at hbytes
        have hrest : size (rest.take (charsCovering rest (bytes - d.utf8Size))) ≤ size front :=
          ih htail (by omega)
        rw [List.take_succ_cons, size_cons, size_cons]
        omega

end Text

/-! ### Where a cursor stands -/

namespace Cursor

/-- The cursor that has passed `before` and has `rest` left. -/
def behind (before rest : Text) : Cursor := ⟨before ++ rest, rest, Position.start.after before⟩

section

variable (before rest : Text)

@[simp] theorem behind_source : (behind before rest).source = before ++ rest := rfl

@[simp] theorem behind_remaining : (behind before rest).remaining = rest := rfl

@[simp] theorem behind_offset : (behind before rest).place.offset = Text.size before := by
  simp [behind, Position.start]

theorem behind_line : (behind before rest).place.line = 1 + before.count '\n' := by
  simp only [behind, Position.after_start]

theorem behind_column : (behind before rest).place.column = 1 + (lastLine before).length := by
  simp only [behind, Position.after_start]

theorem ofText_eq_behind : ofText rest = behind [] rest := rfl

/-- What is passed joins what has been passed before. -/
theorem move_behind (count : Nat) :
    (behind before rest).move count = behind (before ++ rest.take count) (rest.drop count) := by
  simp [move, behind, Position.after_append]

/-- Over a source of fewer than 2 ^ 32 - 1 bytes there is room to count what is left. -/
theorem counts_lt_behind (hsize : Text.size (before ++ rest) < UInt32.size - 1) :
    (behind before rest).place.line + rest.length < UInt32.size ∧
      (behind before rest).place.column + rest.length < UInt32.size := by
  have hlength := Text.length_le_size (before ++ rest)
  rw [List.length_append] at hlength
  have hlines : before.count '\n' ≤ before.length := List.count_le_length
  have hlast : (lastLine before).length ≤ before.length := by
    rw [lastLine, List.length_reverse]
    exact (List.takeWhile_prefix _).length_le.trans List.length_reverse.le
  rw [behind_line, behind_column]
  omega

theorem countsFit_behind (hsize : Text.size (before ++ rest) < UInt32.size - 1) :
    (behind before rest).CountsFit := by
  obtain ⟨hline, hcolumn⟩ := counts_lt_behind before rest hsize
  intro count
  have htaken : (rest.take count).length ≤ rest.length := List.length_take_le' _ _
  refine Position.foldlM_next32? ?_ ?_
  · rw [behind_remaining]
    omega
  · rw [behind_remaining]
    omega

/-- The text from a boundary up to a cursor, and what is left there, are all that the source has
    from the boundary on. -/
theorem cut_behind {start : Nat} (hstart : (before ++ rest).IsBoundary start)
    (hle : start ≤ Text.size before) :
    ∃ text, (behind before rest).textFrom? start = some text ∧
      (before ++ rest).slice? start (Text.size (before ++ rest)) = some (text ++ rest) := by
  obtain ⟨front, back, hsource, rfl⟩ := Text.isBoundary_iff.1 hstart
  obtain ⟨text, rfl⟩ : front <+: before :=
    Text.isPrefix_of_size_le ⟨back, hsource.symm⟩ (List.prefix_append before rest) hle
  refine ⟨text, ?_, ?_⟩
  · rw [textFrom?, behind_offset, behind_source, Text.size_append]
    exact Text.slice?_append front text rest
  · rw [List.append_assoc]
    exact Text.slice?_behind front (text ++ rest)

/-- A cursor that is told to go to an offset stops at the first boundary that is not before it, nor
    before the cursor itself; past the end there is none, so it stops at the end. -/
theorem isLeast_advanceTo_behind (target : Nat) :
    IsLeast {offset | (before ++ rest).IsBoundary offset ∧
      max (Text.size before) (min target (Text.size (before ++ rest))) ≤ offset}
      ((behind before rest).advanceTo target).place.offset := by
  have hcover := Text.le_size_take_charsCovering rest (target - Text.size before)
  rw [advanceTo, behind_remaining, behind_offset, move_behind, behind_offset, Text.size_append,
    Text.size_append]
  constructor
  · refine ⟨?_, by omega⟩
    have hboundary := Text.isBoundary_size
      (before ++ rest.take (rest.charsCovering (target - Text.size before)))
      (rest.drop (rest.charsCovering (target - Text.size before)))
    rwa [List.append_assoc, List.take_append_drop, Text.size_append] at hboundary
  · rintro offset ⟨hoffset, hle⟩
    obtain ⟨front, back, hsource, rfl⟩ := Text.isBoundary_iff.1 hoffset
    obtain ⟨passed, rfl⟩ : before <+: front :=
      Text.isPrefix_of_size_le (List.prefix_append before rest) ⟨back, hsource.symm⟩ (by omega)
    have hpassed : passed <+: rest := by
      rw [List.append_assoc] at hsource
      exact ⟨back, (List.append_cancel_left hsource).symm⟩
    rw [Text.size_append] at hle ⊢
    have hleast : Text.size (rest.take (rest.charsCovering (target - Text.size before))) ≤
        Text.size passed := Text.size_take_charsCovering_le hpassed (by omega)
    omega

end

/-! ### Motions -/

/-- The ways to move a cursor. -/
inductive Motion where
  | advance
  | accept (expected : Char)
  | skipWhile (p : Char → Bool)
  | advanceTo (target : Nat)

def moved (cursor : Cursor) : Motion → Cursor
  | .advance => cursor.advance
  | .accept expected => (cursor.accept expected).2
  | .skipWhile p => cursor.skipWhile p
  | .advanceTo target => cursor.advanceTo target

/-- The cursor after some motions in turn. -/
def movedBy (cursor : Cursor) (motions : List Motion) : Cursor := motions.foldl moved cursor

/-- An unexpected character is not passed. -/
theorem accept_of_false {cursor : Cursor} {expected : Char}
    (hrefused : (cursor.accept expected).1 = false) : (cursor.accept expected).2 = cursor := by
  rw [accept] at hrefused ⊢
  split
  · next hcurrent => simp [hcurrent] at hrefused
  · rfl

/-- Every motion passes a number of characters. -/
theorem exists_moved_eq_move (cursor : Cursor) (motion : Motion) :
    ∃ count, cursor.moved motion = cursor.move count := by
  cases motion with
  | advance => exact ⟨1, rfl⟩
  | accept expected =>
    cases haccept : (cursor.accept expected).1 with
    | false => exact ⟨0, by rw [moved, accept_of_false haccept, move_zero]⟩
    | true =>
      refine ⟨1, ?_⟩
      unfold accept at haccept
      split at haccept
      · next hcurrent => rw [moved, accept, if_pos hcurrent, advance]
      · simp at haccept
  | skipWhile p => exact ⟨_, rfl⟩
  | advanceTo target => exact ⟨_, rfl⟩

/-- Whatever moves a cursor on, it passes some of what is left. -/
theorem exists_movedBy_behind (before rest : Text) (motions : List Motion) :
    ∃ passed left, rest = passed ++ left ∧
      (behind before rest).movedBy motions = behind (before ++ passed) left := by
  -- the stretches that the motions pass one after the other add up
  induction motions generalizing before rest with
  | nil => exact ⟨[], rest, rfl, by rw [List.append_nil]; rfl⟩
  | cons motion motions ih =>
    obtain ⟨count, hmotion⟩ := (behind before rest).exists_moved_eq_move motion
    rw [move_behind] at hmotion
    obtain ⟨passed, left, hrest, hmoved⟩ := ih (before ++ rest.take count) (rest.drop count)
    refine ⟨rest.take count ++ passed, left, ?_, ?_⟩
    · rw [List.append_assoc, ← hrest, List.take_append_drop]
    · rw [movedBy, List.foldl_cons, hmotion, ← List.append_assoc]
      exact hmoved

/-- What holds of a cursor over a source at its byte offset. -/
structure Tracked (source : Text) (cursor : Cursor) : Prop where
  isBoundary : source.IsBoundary cursor.place.offset
  offset_le : cursor.place.offset ≤ Text.size source
  /-- Line and column are what is counted in the source before the cursor. -/
  counted : ∃ before, source.slice? 0 cursor.place.offset = some before ∧
    cursor.place.line = 1 + before.count '\n' ∧
    cursor.place.column = 1 + (lastLine before).length
  /-- No motion goes back. -/
  offset_le_moved : ∀ motion, cursor.place.offset ≤ (cursor.moved motion).place.offset
  advanceTo_least : ∀ target, IsLeast {offset | source.IsBoundary offset ∧
    max cursor.place.offset (min target (Text.size source)) ≤ offset}
    (cursor.advanceTo target).place.offset
  /-- An unexpected character is not passed, nothing is passed at the end, and nothing is passed on
      the way to where the cursor has been. -/
  accept_refused : ∀ expected, (cursor.accept expected).1 = false →
    (cursor.accept expected).2 = cursor
  advance_end : cursor.place.offset = Text.size source → cursor.advance = cursor
  advanceTo_passed : ∀ target, target ≤ cursor.place.offset → cursor.advanceTo target = cursor
  /-- The text from a boundary up to the cursor goes on with what is left. -/
  textFrom_append : ∀ start, source.IsBoundary start → start ≤ cursor.place.offset →
    ∃ text, cursor.textFrom? start = some text ∧
      source.slice? start (Text.size source) = some (text ++ cursor.remaining)

theorem tracked_behind (before rest : Text) : (behind before rest).Tracked (before ++ rest) where
  isBoundary := by
    rw [behind_offset]
    exact Text.isBoundary_size before rest
  offset_le := by
    rw [behind_offset, Text.size_append]
    omega
  counted := by
    rw [behind_offset]
    exact ⟨before, Text.slice?_before before rest, behind_line before rest,
      behind_column before rest⟩
  offset_le_moved motion := by
    obtain ⟨count, hmotion⟩ := (behind before rest).exists_moved_eq_move motion
    rw [hmotion, move_behind, behind_offset, behind_offset, Text.size_append]
    omega
  advanceTo_least target := by
    rw [behind_offset]
    exact isLeast_advanceTo_behind before rest target
  accept_refused _ hrefused := accept_of_false hrefused
  advance_end hend := by
    rw [behind_offset, Text.size_append] at hend
    have hrest : rest = [] := Text.size_eq_zero_iff.1 (by omega)
    rw [advance, move_behind, hrest, List.take_nil, List.drop_nil, List.append_nil]
  advanceTo_passed target hle := by
    rw [advanceTo, Nat.sub_eq_zero_of_le hle, Text.charsCovering_zero, move_zero]
  textFrom_append start hstart hle := by
    rw [behind_offset] at hle
    exact cut_behind before rest hstart hle

end Cursor

/-- Where a cursor over a source stands decides what it is. -/
theorem Cursor.behind_congr {before rest before' rest' : Text}
    (hsource : before ++ rest = before' ++ rest')
    (hoffset : (behind before rest).place.offset = (behind before' rest').place.offset) :
    behind before rest = behind before' rest' := by
  rw [behind_offset, behind_offset] at hoffset
  have hprefix : before <+: before' :=
    Text.isPrefix_of_size_le (List.prefix_append before rest) ⟨rest', hsource.symm⟩ hoffset.le
  have hprefix' : before' <+: before :=
    Text.isPrefix_of_size_le ⟨rest', hsource.symm⟩ (List.prefix_append before rest) hoffset.ge
  obtain rfl : before = before' :=
    hprefix.eq_of_length (Nat.le_antisymm hprefix.length_le hprefix'.length_le)
  rw [List.append_cancel_left hsource]

/-- **A cursor is told by where it stands.** Whatever has moved it, it keeps track of its place;
    other motions to the same place leave the same cursor; and its counts do not overflow over a
    source of fewer than 2 ^ 32 - 1 bytes. -/
theorem motions_tracked (source : Text) (motions : List Cursor.Motion) :
    ((Cursor.ofText source).movedBy motions).Tracked source ∧
      (∀ others, ((Cursor.ofText source).movedBy motions).place.offset =
          ((Cursor.ofText source).movedBy others).place.offset →
        (Cursor.ofText source).movedBy motions = (Cursor.ofText source).movedBy others) ∧
      (Text.size source < UInt32.size - 1 →
        ((Cursor.ofText source).movedBy motions).CountsFit) := by
  rw [Cursor.ofText_eq_behind]
  obtain ⟨before, rest, rfl, hmoved⟩ := Cursor.exists_movedBy_behind [] source motions
  rw [hmoved]
  refine ⟨Cursor.tracked_behind before rest, ?_, Cursor.countsFit_behind before rest⟩
  intro others hoffset
  obtain ⟨before', rest', hsource, hmoved'⟩ :=
    Cursor.exists_movedBy_behind [] (before ++ rest) others
  rw [hmoved'] at hoffset ⊢
  exact Cursor.behind_congr hsource hoffset

/-- A cursor that is sent into a character of two bytes stops behind it, as one that skips to the
    line feed does. -/
theorem motions_tracked_inside_character :
    ((Cursor.ofText "é\nx".toList).movedBy [.advanceTo 1, .accept 'x']).CountsFit ∧
      (Cursor.ofText "é\nx".toList).movedBy [.advanceTo 1, .accept 'x'] =
        (Cursor.ofText "é\nx".toList).movedBy [.skipWhile (· != '\n'), .advanceTo 0] := by
  obtain ⟨-, hsame, hfits⟩ := motions_tracked "é\nx".toList [.advanceTo 1, .accept 'x']
  exact ⟨hfits (by decide +kernel), hsame _ (by decide +kernel)⟩

end PermissionSchema
