import PermissionSchema.Proofs.Motions

/-!
# Probes

A cursor keeps the text that is left, and cannot go wrong. A `Probe` keeps no text but the whole
source: it cuts what is left from it at a byte offset whenever it looks ahead, and its line and its
column have 32 bits. Here the motions are written over probes, with every check on the way: they
give nothing where a cut falls inside a character or outside the source, where a counter would
overflow, or where a loop would not end. None of this happens to a probe that `Faces` the text that
is left, and its motions are those of the cursor (`Cursor.advanceTo?_probe`).
-/

namespace PermissionSchema

/-- A column goes up by one at most for each character. -/
theorem Position.after_column_le (place : Position) (passed : Text) :
    (place.after passed).column ≤ place.column + passed.length := by
  induction passed generalizing place with
  | nil => simp
  | cons c rest ih =>
    have hnext : (place.next c).column ≤ place.column + 1 := by
      simp only [next]
      split <;> omega
    have hrest := ih (place.next c)
    rw [after_cons, List.length_cons]
    omega

/-- A place in a source text, without the text that is left there. -/
structure Probe where
  source : Text
  place : Position

def Cursor.probe (cursor : Cursor) : Probe := ⟨cursor.source, cursor.place⟩

namespace Probe

/-! ### Motions -/

/-- A probe set down at a byte offset, which must be a boundary. -/
def ofOffset? (source : Text) (offset : Nat) : Option Probe :=
  if source.IsBoundary offset then some ⟨source, min offset (Text.size source), 1, 1⟩ else none

def remaining? (probe : Probe) : Option Text :=
  probe.source.slice? probe.place.offset (Text.size probe.source)

def textFrom? (probe : Probe) (start : Nat) : Option Text :=
  probe.source.slice? start probe.place.offset

/-- The character `ahead` characters past the probe, if there is one. -/
def peek? (probe : Probe) (ahead : Nat) : Option (Option Char) := do
  let rest ← probe.remaining?
  some rest[ahead]?

def current? (probe : Probe) : Option (Option Char) := probe.peek? 0

/-- Pass the current character. At the end there is none, and the probe stays. -/
def advance? (probe : Probe) : Option Probe := do
  match ← probe.current? with
  | none => some probe
  | some c =>
    let place ← probe.place.next32? c
    some { probe with place }

/-- Pass the current character if it is the expected one, and say whether it was. -/
def accept? (probe : Probe) (expected : Char) : Option (Bool × Probe) := do
  if (← probe.current?) = some expected then
    let passed ← probe.advance?
    some (true, passed)
  else
    some (false, probe)

/-! ### Loops -/

/-- What a turn of a loop comes to. -/
inductive Turn (α : Type) where
  /-- Another turn is taken, at another place. -/
  | again (probe : Probe)
  | done (result : α)

/-- How many bytes are left behind the probe. -/
def left (probe : Probe) : Nat := Text.size probe.source - probe.place.offset

/-- Take turns until one is the last. After a turn that passes nothing the next one would be the
    same, and the loop would not end. -/
def loop? {α : Type} (turn : Probe → Option (Turn α)) (probe : Probe) : Option α :=
  match turn probe with
  | none => none
  | some (.done result) => some result
  | some (.again passed) => if _ : passed.left < probe.left then loop? turn passed else none
  termination_by probe.left

section

variable {α : Type} {turn : Probe → Option (Turn α)} {probe : Probe}

theorem loop?_of_done {result : α} (h : turn probe = some (.done result)) :
    probe.loop? turn = some result := by
  rw [loop?, h]

theorem loop?_of_again {passed : Probe} (h : turn probe = some (.again passed))
    (hlt : passed.left < probe.left) : probe.loop? turn = passed.loop? turn := by
  rw [loop?, h]
  exact dif_pos hlt

end

/-- Pass characters as long as they satisfy `p`. -/
def skipWhile? (probe : Probe) (p : Char → Bool) : Option Probe :=
  probe.loop? fun probe => do
    match ← probe.current? with
    | none => some (.done probe)
    | some c =>
      if p c then
        let passed ← probe.advance?
        some (.again passed)
      else
        some (.done probe)

/-- Pass characters as long as the probe is before a byte offset. -/
def advanceTo? (probe : Probe) (target : Nat) : Option Probe :=
  probe.loop? fun probe => do
    if probe.place.offset < min target (Text.size probe.source) then
      match ← probe.current? with
      | none => some (.done probe)
      | some _ =>
        let passed ← probe.advance?
        some (.again passed)
    else
      some (.done probe)

/-! ### Probes that face a text -/

/-- The probe that has passed some more text. -/
def past (probe : Probe) (passed : Text) : Probe :=
  { probe with place := probe.place.after passed }

@[simp] theorem past_nil (probe : Probe) : probe.past [] = probe := rfl

theorem past_past (probe : Probe) (front back : Text) :
    (probe.past front).past back = probe.past (front ++ back) := by
  simp [past, Position.after_append]

@[simp] theorem past_offset (probe : Probe) (passed : Text) :
    (probe.past passed).place.offset = probe.place.offset + Text.size passed :=
  Position.after_offset _ _

/-- The text that is left of the source at the probe, which its counters can count. -/
structure Faces (probe : Probe) (rest : Text) : Prop where
  cut : ∃ before, probe.source = before ++ rest ∧ probe.place.offset = Text.size before
  line_lt : probe.place.line + rest.length < UInt32.size
  column_lt : probe.place.column + rest.length < UInt32.size

namespace Faces

variable {probe : Probe} {c : Char} {passed rest : Text}

theorem past (h : probe.Faces (passed ++ rest)) : (probe.past passed).Faces rest where
  cut := by
    obtain ⟨before, hsource, hoffset⟩ := h.cut
    refine ⟨before ++ passed, ?_, ?_⟩
    · rw [List.append_assoc]
      exact hsource
    · rw [past_offset, hoffset, Text.size_append]
  line_lt := by
    have hline := h.line_lt
    have hcount : passed.count '\n' ≤ passed.length := List.count_le_length
    rw [List.length_append] at hline
    rw [Probe.past, Position.after_line]
    omega
  column_lt := by
    have hcolumn := h.column_lt
    have hle := Position.after_column_le probe.place passed
    rw [List.length_append] at hcolumn
    exact Nat.lt_of_le_of_lt (Nat.add_le_add_right hle _) (by omega)

theorem past_cons (h : probe.Faces (c :: rest)) : (probe.past [c]).Faces rest := h.past

theorem offset_add_size (h : probe.Faces rest) :
    probe.place.offset + Text.size rest = Text.size probe.source := by
  obtain ⟨before, hsource, hoffset⟩ := h.cut
  rw [hsource, hoffset, Text.size_append]

theorem remaining?_eq (h : probe.Faces rest) : probe.remaining? = some rest := by
  obtain ⟨before, hsource, hoffset⟩ := h.cut
  rw [remaining?, hsource, hoffset]
  exact Text.slice?_behind before rest

theorem peek?_eq (h : probe.Faces rest) (ahead : Nat) : probe.peek? ahead = some rest[ahead]? := by
  rw [peek?, h.remaining?_eq]
  rfl

theorem peek?_one (h : probe.Faces (c :: rest)) : probe.peek? 1 = some rest.head? := by
  rw [h.peek?_eq, List.getElem?_cons_succ, ← List.head?_eq_getElem?]

theorem current?_eq (h : probe.Faces rest) : probe.current? = some rest.head? := by
  rw [current?, h.peek?_eq, ← List.head?_eq_getElem?]

theorem advance?_cons (h : probe.Faces (c :: rest)) : probe.advance? = some (probe.past [c]) := by
  have hline := h.line_lt
  have hcolumn := h.column_lt
  rw [List.length_cons] at hline hcolumn
  have hcounted : [c].foldlM Position.next32? probe.place = some (probe.place.after [c]) :=
    Position.foldlM_next32? (by simp; omega) (by simp; omega)
  have hnext : probe.place.next32? c = some (probe.place.next c) := by simpa using hcounted
  simp [advance?, h.current?_eq, hnext, Probe.past]

theorem accept?_self (h : probe.Faces (c :: rest)) :
    probe.accept? c = some (true, probe.past [c]) := by
  simp [accept?, h.current?_eq, h.advance?_cons]

theorem accept?_ne (h : probe.Faces rest) (hne : rest.head? ≠ some c) :
    probe.accept? c = some (false, probe) := by
  simp [accept?, h.current?_eq, hne]

/-- A turn that passes something leaves less. -/
theorem left_past_lt (h : probe.Faces (c :: rest)) (passed : Text) :
    (probe.past (c :: passed)).left < probe.left := by
  have hsize := h.offset_add_size
  have hpos := c.utf8Size_pos
  rw [Text.size_cons] at hsize
  have hpast := past_offset probe (c :: passed)
  rw [Text.size_cons] at hpast
  have hsource : (probe.past (c :: passed)).source = probe.source := rfl
  rw [left, left, hsource]
  omega

theorem skipWhile?_eq (h : probe.Faces rest) (p : Char → Bool) :
    probe.skipWhile? p = some (probe.past (rest.takeWhile p)) := by
  induction rest generalizing probe with
  | nil => exact loop?_of_done (by simp [h.current?_eq])
  | cons c rest ih =>
    by_cases hc : p c = true
    · have hrest := ih h.past_cons
      rw [past_past] at hrest
      rw [List.takeWhile_cons_of_pos hc]
      refine (loop?_of_again ?_ (h.left_past_lt [])).trans hrest
      simp [h.current?_eq, hc, h.advance?_cons]
    · rw [List.takeWhile_cons_of_neg hc, past_nil]
      exact loop?_of_done (by simp [h.current?_eq, hc])

theorem advanceTo?_eq (h : probe.Faces rest) (target : Nat) :
    probe.advanceTo? target =
      some (probe.past (rest.take (rest.charsCovering (target - probe.place.offset)))) := by
  have hsize := h.offset_add_size
  induction rest generalizing probe with
  | nil =>
    rw [Text.size_nil] at hsize
    have hreached : ¬ probe.place.offset < min target (Text.size probe.source) := by omega
    rw [List.take_nil, past_nil]
    exact loop?_of_done (if_neg hreached)
  | cons c rest ih =>
    have hpos := c.utf8Size_pos
    rw [Text.size_cons] at hsize
    rw [Text.charsCovering_cons]
    by_cases htarget : probe.place.offset < target
    · have hmore : probe.place.offset < min target (Text.size probe.source) := by omega
      have hne : target - probe.place.offset ≠ 0 := by omega
      have hleft : target - (probe.past [c]).place.offset =
          target - probe.place.offset - c.utf8Size := by
        rw [past_offset, Text.size_cons, Text.size_nil]
        omega
      have hrest := ih h.past_cons h.past_cons.offset_add_size
      rw [hleft, past_past] at hrest
      rw [if_neg hne]
      refine (loop?_of_again ?_ (h.left_past_lt [])).trans hrest
      simp [hmore, h.current?_eq, h.advance?_cons]
    · have hreached : ¬ probe.place.offset < min target (Text.size probe.source) := by omega
      have hzero : target - probe.place.offset = 0 := by omega
      rw [if_pos hzero, List.take_zero, past_nil]
      exact loop?_of_done (if_neg hreached)

/-- What has been passed is cut from the source. -/
theorem textFrom?_past (h : probe.Faces (passed ++ rest)) :
    (probe.past passed).textFrom? probe.place.offset = some passed := by
  obtain ⟨before, hsource, hoffset⟩ := h.cut
  rw [textFrom?, past_offset, hoffset]
  exact Text.slice?_between hsource

end Faces

section

variable {before rest : Text}

/-- Over a short source, a probe faces what is left where it is set down. -/
theorem exists_ofOffset?_eq (hsize : Text.size (before ++ rest) < UInt32.size - 1) :
    ∃ probe, ofOffset? (before ++ rest) (Text.size before) = some probe ∧ probe.Faces rest ∧
      probe.place.offset = Text.size before := by
  have hlength := Text.length_le_size (before ++ rest)
  rw [List.length_append] at hlength
  have hmin : min (Text.size before) (Text.size (before ++ rest)) = Text.size before := by
    rw [Text.size_append]
    omega
  refine ⟨_, if_pos (Text.isBoundary_size before rest), ⟨⟨before, rfl, hmin⟩, ?_, ?_⟩, hmin⟩
  · simp only
    omega
  · simp only
    omega

/-- So does the probe of a cursor. -/
theorem faces_behind (hsize : Text.size (before ++ rest) < UInt32.size - 1) :
    (Cursor.behind before rest).probe.Faces rest where
  cut := ⟨before, rfl, Cursor.behind_offset before rest⟩
  line_lt := (Cursor.counts_lt_behind before rest hsize).1
  column_lt := (Cursor.counts_lt_behind before rest hsize).2

end

end Probe

/-- A cursor is sent to a byte offset with every check, and stands where it is sent without. -/
theorem Cursor.advanceTo?_probe {cursor : Cursor} (h : cursor.probe.Faces cursor.remaining)
    (target : Nat) : cursor.probe.advanceTo? target = some (cursor.advanceTo target).probe :=
  h.advanceTo?_eq target

end PermissionSchema
