/-!
# Texts and byte offsets

A text is its list of characters. Places in it are told by byte offsets into its UTF-8 form, and an
offset is a boundary when it falls between two characters or at an end. `charsTo?` turns a boundary
into a number of characters; the laws `charsTo?_append` and `charsTo?_eq_some_iff` say that it
inverts `size` on prefixes, and every cut below is made through it.
-/

namespace PermissionSchema

/-- A text is its list of characters. -/
abbrev Text := List Char

namespace Text

/-- The number of bytes of a text in UTF-8. -/
def size (text : Text) : Nat := text.foldl (fun bytes c => bytes + c.utf8Size) 0

private theorem foldl_utf8Size (text : Text) (bytes : Nat) :
    text.foldl (fun bytes c => bytes + c.utf8Size) bytes = bytes + size text := by
  induction text generalizing bytes with
  | nil => rfl
  | cons c rest ih => simp [size, ih (bytes + c.utf8Size), ih c.utf8Size, Nat.add_assoc]

@[simp] theorem size_nil : size [] = 0 := rfl

@[simp] theorem size_cons (c : Char) (rest : Text) : size (c :: rest) = c.utf8Size + size rest := by
  simp [size, foldl_utf8Size rest c.utf8Size]

@[simp] theorem size_append (front back : Text) :
    size (front ++ back) = size front + size back := by
  induction front with
  | nil => simp
  | cons c rest ih => simp [ih, Nat.add_assoc]

theorem size_eq_zero_iff {text : Text} : size text = 0 ↔ text = [] := by
  cases text with
  | nil => simp
  | cons c rest => have := c.utf8Size_pos; simp; omega

/-- Counts the characters that take exactly the next `bytes` bytes, from `count` on. -/
def charsToFrom? : Text → (bytes count : Nat) → Option Nat
  | _, 0, count => some count
  | [], _ + 1, _ => none
  | c :: rest, bytes + 1, count =>
    if c.utf8Size ≤ bytes + 1 then charsToFrom? rest (bytes + 1 - c.utf8Size) (count + 1) else none

/-- The number of characters before a byte offset, if the offset is a boundary of the text. -/
def charsTo? (text : Text) (offset : Nat) : Option Nat := charsToFrom? text offset 0

/-- Whether a byte offset falls between two characters of the text or at one of its ends. -/
def IsBoundary (text : Text) (offset : Nat) : Prop := (charsTo? text offset).isSome

instance (text : Text) (offset : Nat) : Decidable (IsBoundary text offset) :=
  inferInstanceAs (Decidable ((charsTo? text offset).isSome = true))

private theorem charsToFrom?_append (front back : Text) (count : Nat) :
    charsToFrom? (front ++ back) (size front) count = some (count + front.length) := by
  induction front generalizing count with
  | nil => simp [charsToFrom?]
  | cons c rest ih =>
    have hpos := c.utf8Size_pos
    obtain ⟨bytes, hbytes⟩ : ∃ bytes, c.utf8Size + size rest = bytes + 1 :=
      ⟨c.utf8Size + size rest - 1, by omega⟩
    have hle : c.utf8Size ≤ bytes + 1 := by omega
    have hrest : bytes + 1 - c.utf8Size = size rest := by omega
    simp [hbytes, charsToFrom?, hle, hrest, ih, Nat.add_assoc, Nat.add_comm 1]

@[simp] theorem charsTo?_append (front back : Text) :
    charsTo? (front ++ back) (size front) = some front.length := by
  simp [charsTo?, charsToFrom?_append]

private theorem eq_of_charsToFrom? {text : Text} {bytes count found : Nat}
    (h : charsToFrom? text bytes count = some found) :
    ∃ n, found = count + n ∧ n ≤ text.length ∧ size (text.take n) = bytes := by
  induction text generalizing bytes count with
  | nil =>
    cases bytes with
    | zero => exact ⟨0, by simpa [charsToFrom?] using h.symm, by simp, by simp⟩
    | succ bytes => simp [charsToFrom?] at h
  | cons c rest ih =>
    cases bytes with
    | zero => exact ⟨0, by simpa [charsToFrom?] using h.symm, by simp, by simp⟩
    | succ bytes =>
      simp only [charsToFrom?] at h
      split at h
      · obtain ⟨n, hfound, hle, hsize⟩ := ih h
        exact ⟨n + 1, by omega, by simpa using hle, by simp [hsize]; omega⟩
      · simp at h

/-- An offset is a boundary exactly when it is the size of some prefix, which is then unique. -/
theorem charsTo?_eq_some_iff {text : Text} {offset count : Nat} :
    charsTo? text offset = some count ↔
      count ≤ text.length ∧ size (text.take count) = offset := by
  constructor
  · intro h
    obtain ⟨n, hfound, hle, hsize⟩ := eq_of_charsToFrom? h
    obtain rfl : count = n := by omega
    exact ⟨hle, hsize⟩
  · rintro ⟨hle, rfl⟩
    have := charsTo?_append (text.take count) (text.drop count)
    rwa [List.take_append_drop, List.length_take, Nat.min_eq_left hle] at this

/-- The text from a byte offset on; nothing is left past the end. -/
def dropBytes (text : Text) (offset : Nat) : Text :=
  text.drop ((charsTo? text offset).getD text.length)

@[simp] theorem dropBytes_append (front back : Text) :
    dropBytes (front ++ back) (size front) = back := by
  simp [dropBytes]

/-- The text between two byte offsets, if both are boundaries and in order. -/
def slice? (text : Text) (start stop : Nat) : Option Text :=
  if start ≤ stop then do
    let skipped ← charsTo? text start
    let kept ← charsTo? text stop
    some ((text.drop skipped).take (kept - skipped))
  else
    none

/-- What stands between a prefix and a suffix is the slice between their offsets. -/
theorem slice?_append (front middle back : Text) :
    slice? (front ++ middle ++ back) (size front) (size front + size middle) = some middle := by
  have hstart := charsTo?_append front (middle ++ back)
  have hstop := charsTo?_append (front ++ middle) back
  simp only [List.append_assoc, size_append] at hstart hstop
  simp [slice?, hstart, hstop]

theorem slice?_between {text front middle back : Text} (htext : text = front ++ (middle ++ back)) :
    text.slice? (size front) (size front + size middle) = some middle := by
  rw [htext, ← List.append_assoc]
  exact slice?_append front middle back

/-- What stands before an offset is a prefix. -/
theorem isPrefix_of_slice? {text front : Text} {offset : Nat}
    (h : text.slice? 0 offset = some front) : front <+: text := by
  have hstart : charsTo? text 0 = some 0 := by
    simp [charsTo?, charsToFrom?]
  simp only [slice?, Nat.zero_le, if_true, hstart, Option.bind_eq_bind, Option.bind_some] at h
  obtain ⟨kept, -, hfront⟩ := Option.bind_eq_some_iff.1 h
  rw [← Option.some.inj hfront]
  exact List.take_prefix _ _

/-- Counts the characters needed to cover the next `bytes` bytes, from `count` on. -/
def charsCoveringFrom : Text → (bytes count : Nat) → Nat
  | [], _, count => count
  | c :: rest, bytes, count =>
    if bytes = 0 then count else charsCoveringFrom rest (bytes - c.utf8Size) (count + 1)

/-- The least number of characters that cover the first `bytes` bytes, or all of them. -/
def charsCovering (text : Text) (bytes : Nat) : Nat := charsCoveringFrom text bytes 0

private theorem charsCoveringFrom_append (front back : Text) (count : Nat) :
    charsCoveringFrom (front ++ back) (size front) count = count + front.length := by
  induction front generalizing count with
  | nil => cases back <;> simp [charsCoveringFrom]
  | cons c rest ih =>
    have hpos : c.utf8Size ≠ 0 := Nat.ne_of_gt c.utf8Size_pos
    simp [charsCoveringFrom, hpos, ih, Nat.add_assoc, Nat.add_comm 1]

@[simp] theorem charsCovering_append (front back : Text) :
    charsCovering (front ++ back) (size front) = front.length := by
  simp [charsCovering, charsCoveringFrom_append]

/-- Covering the bytes of a prefix takes exactly its characters. -/
theorem charsCovering_size_take {text : Text} {count : Nat} (h : count ≤ text.length) :
    charsCovering text (size (text.take count)) = count := by
  have := charsCovering_append (text.take count) (text.drop count)
  rwa [List.take_append_drop, List.length_take, Nat.min_eq_left h] at this

end Text

end PermissionSchema
