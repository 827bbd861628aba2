import PermissionSchema.Source.Position

/-!
# Cursors

A `Cursor` is a place in a source text together with the text that is left. It only ever moves
forward, and every motion is `move`: pass a number of characters and count the bytes, lines and
columns on the way. So where a cursor stands depends on what it has passed, and not on the motions
that took it there (`move_move`).
-/

namespace PermissionSchema

/-- A place in a source text and the text from there on. -/
structure Cursor where
  source : Text
  remaining : Text
  place : Position

namespace Cursor

def ofText (source : Text) : Cursor := ⟨source, source, .start⟩

/-- A cursor set down at a byte offset. It has not seen the text before it, so its lines and
    columns start over. -/
def ofOffset (source : Text) (offset : Nat) : Cursor :=
  ⟨source, source.dropBytes offset, ⟨min offset (Text.size source), 1, 1⟩⟩

/-- The character under the cursor, if any is left. -/
def current? (cursor : Cursor) : Option Char := cursor.remaining.head?

/-- The character `ahead` characters past the current one. -/
def peek? (cursor : Cursor) (ahead : Nat) : Option Char := cursor.remaining[ahead]?

def atEnd (cursor : Cursor) : Bool := cursor.remaining.isEmpty

/-- Pass `count` characters, or all that are left. -/
def move (cursor : Cursor) (count : Nat) : Cursor :=
  { cursor with
    remaining := cursor.remaining.drop count
    place := cursor.place.after (cursor.remaining.take count) }

def advance (cursor : Cursor) : Cursor := cursor.move 1

/-- Pass the current character if it is the expected one, and say whether it was. -/
def accept (cursor : Cursor) (expected : Char) : Bool × Cursor :=
  if cursor.current? = some expected then (true, cursor.advance) else (false, cursor)

/-- Pass characters as long as they satisfy `p`. -/
def skipWhile (cursor : Cursor) (p : Char → Bool) : Cursor :=
  cursor.move (cursor.remaining.takeWhile p).length

/-- Pass characters until the cursor has reached the byte offset `target`; an offset behind the
    cursor is reached already, and one inside a character is reached behind it. -/
def advanceTo (cursor : Cursor) (target : Nat) : Cursor :=
  cursor.move (cursor.remaining.charsCovering (target - cursor.place.offset))

/-- The text between two cursors over the same source, the first of them not behind the second. -/
def textTo (first last : Cursor) : Text :=
  first.remaining.take (first.remaining.charsCovering (last.place.offset - first.place.offset))

/-- The text from the byte offset `start` up to the cursor, if there is such a stretch. -/
def textFrom? (cursor : Cursor) (start : Nat) : Option Text :=
  cursor.source.slice? start cursor.place.offset

@[simp] theorem move_source (cursor : Cursor) (count : Nat) :
    (cursor.move count).source = cursor.source := rfl

@[simp] theorem move_remaining (cursor : Cursor) (count : Nat) :
    (cursor.move count).remaining = cursor.remaining.drop count := rfl

@[simp] theorem move_zero (cursor : Cursor) : cursor.move 0 = cursor := by
  simp [move]

/-- Two motions in turn are one motion over both stretches. -/
theorem move_move (cursor : Cursor) (first second : Nat) :
    (cursor.move first).move second = cursor.move (first + second) := by
  simp [move, List.take_add, Position.after_append]

/-- Advancing to the end of a stretch of what is left passes exactly that stretch. -/
theorem advanceTo_size_take (cursor : Cursor) {count : Nat} (h : count ≤ cursor.remaining.length) :
    cursor.advanceTo (cursor.place.offset + Text.size (cursor.remaining.take count)) =
      cursor.move count := by
  simp [advanceTo, Text.charsCovering_size_take h]

end Cursor

end PermissionSchema
