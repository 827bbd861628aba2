import PermissionSchema.Text.Basic

/-!
# Positions and spans

A `Position` is a place in a source text: its byte offset, its line and its column. Lines and
columns count from one, columns in characters. `Position.after` walks over a text, and walking over
two texts in turn is walking over their concatenation (`after_append`).
-/

namespace PermissionSchema

structure Position where
  /-- Bytes before the place. -/
  offset : Nat
  /-- Lines begun up to the place. -/
  line : Nat
  /-- One more than the characters since the line began. -/
  column : Nat
  deriving DecidableEq, Repr

namespace Position

def start : Position := ⟨0, 1, 1⟩

/-- The place behind one more character; a line feed begins a line. -/
def next (place : Position) (c : Char) : Position where
  offset := place.offset + c.utf8Size
  line := if c = '\n' then place.line + 1 else place.line
  column := if c = '\n' then 1 else place.column + 1

/-- The place behind a stretch of text. -/
def after (place : Position) (passed : Text) : Position := passed.foldl next place

@[simp] theorem after_nil (place : Position) : place.after [] = place := rfl

@[simp] theorem after_cons (place : Position) (c : Char) (rest : Text) :
    place.after (c :: rest) = (place.next c).after rest := rfl

theorem after_append (place : Position) (front back : Text) :
    place.after (front ++ back) = (place.after front).after back := by
  simp [after]

@[simp] theorem after_offset (place : Position) (passed : Text) :
    (place.after passed).offset = place.offset + Text.size passed := by
  induction passed generalizing place with
  | nil => simp
  | cons c rest ih => simp [ih, next, Nat.add_assoc]

end Position

/-- A stretch of a source text: the byte offsets of its ends, and the line and column of its
    start. -/
structure Span where
  start : Nat
  /-- The offset just behind the stretch. -/
  stop : Nat
  line : Nat
  column : Nat
  deriving DecidableEq, Repr

namespace Span

def between (first last : Position) : Span := ⟨first.offset, last.offset, first.line, first.column⟩

def point (offset line column : Nat) : Span := ⟨offset, offset, line, column⟩

/-- The span of something that stands nowhere in the text; no line has number zero. -/
def nowhere : Span := ⟨0, 0, 0, 0⟩

end Span

end PermissionSchema
