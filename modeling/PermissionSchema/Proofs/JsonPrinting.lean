import PermissionSchema.Proofs.JsonGrammar
import Mathlib.Data.List.Forall2

/-!
# Pretty forms are JSON texts

The pretty form of a document is a text of the grammar that stands for the document
(`denotes_pretty`), whatever its strings hold and however its lists are nested.
-/

namespace PermissionSchema.Json

/-- The value that a document is. -/
def value (document : Json) : Value :=
  match document with
  | .number n => .number n
  | .string content => .string content
  | .array items => .array (items.map fun item => value item)
  | .object fields => .object (fields.map fun field => (field.1, value field.2))
  termination_by document
  decreasing_by
    · simp only [Json.array.sizeOf_spec]
      have := List.sizeOf_lt_of_mem ‹_›
      omega
    · simp only [Json.object.sizeOf_spec]
      have := List.sizeOf_lt_of_mem ‹_›
      have : sizeOf field.2 < sizeOf field := by
        cases field with
        | mk name value =>
          simp only [Prod.mk.sizeOf_spec]
          omega
      omega

/-! ### Numbers and strings -/

theorem number_toDigits (n : Nat) : Number (Nat.toDigits 10 n) n := by
  have hdigits : IsDigits (Nat.toDigits 10 n) :=
    ⟨Nat.toDigits_ne_nil, fun c hmem => Nat.isDigit_of_mem_toDigits (by decide) (by decide) hmem⟩
  have hzero : (Nat.toDigits 10 n).head? = some '0' → Nat.toDigits 10 n = ['0'] := by
    intro hhead
    cases n with
    | zero => rfl
    | succ n => exact absurd hhead (Numeral.head?_toDigits_ne_zero (by decide) n.succ_pos)
  have hnumber := Number.mk .plus (.digits hdigits hzero) .none .none
  rw [Numeral.value_toDigits (by decide) (by decide)] at hnumber
  rw [Rat.add_zero, Rat.one_mul, Rat.mul_one] at hnumber
  simpa using hnumber

theorem isUnit_fourHexDigits {n : Nat} (hn : n < 65536) : IsUnit (fourHexDigits n) n := by
  have hlength : (Quoted.hexDigits n).length ≤ 4 :=
    (Nat.length_toDigits_le_iff (by decide) (by decide)).2 hn
  refine ⟨?_, ?_, ?_⟩
  · simp only [fourHexDigits, List.length_append, List.length_replicate]
    omega
  · intro c hmem
    rcases List.mem_append.1 hmem with hzero | hdigit
    · rw [(List.mem_replicate.1 hzero).2]
      decide
    · exact Numeral.isSome_digit?_of_mem_toDigits (by decide) (by decide) hdigit
  · simp only [fourHexDigits, Numeral.value_replicate_zero_append]
    exact Numeral.value_toDigits (by decide) (by decide) n

theorem character_escape (c : Char) : Character (escape c) c := by
  unfold escape
  split_ifs with hself hb hf hn hr ht hcontrol
  · rw [Bool.or_eq_true, decide_eq_true_eq, decide_eq_true_eq] at hself
    rcases hself with rfl | rfl <;> exact .escaped (by decide)
  · exact .escaped (by simp [escapes, hb])
  · exact .escaped (by simp [escapes, hf])
  · exact .escaped (by simp [escapes, hn])
  · exact .escaped (by simp [escapes, hr])
  · exact .escaped (by simp [escapes, ht])
  · exact .codePoint (.whole (isUnit_fourHexDigits (Nat.lt_trans hcontrol (by decide))))
  · simp only [Bool.or_eq_true, decide_eq_true_eq, not_or] at hself
    exact .plain (Nat.le_of_not_lt hcontrol) hself.1 hself.2

theorem characters_escape (content : Text) : Characters (content.flatMap escape) content := by
  induction content with
  | nil => exact .nil
  | cons c content ih => exact .cons (character_escape c) ih

theorem denotes_quote (content : Text) : Denotes .value (quote content) (.string content) :=
  .string (characters_escape content)

/-! ### Blocks -/

theorem blank_lineBreak (depth : Nat) : Blank (lineBreak depth) := by
  intro c hmem
  rcases List.mem_cons.1 hmem with rfl | hmem
  · rfl
  · rw [(List.mem_replicate.1 hmem).2]
    rfl

theorem blank_nil : Blank [] := by simp [Blank]

/-- Lines between commas, with blanks behind the last of them: many texts are one, or one before
    many. -/
theorem many_of_lines {α : Type} (one : Text → α → Prop) (many : Text → List α → Prop)
    (hlast : ∀ text meaning, one text meaning → many text [meaning])
    (hmore : ∀ text meaning rest meanings, one text meaning → many rest meanings →
      many (text ++ ',' :: rest) (meaning :: meanings))
    {lines : List Text} {meanings : List α} (hne : lines ≠ [])
    (hlines : List.Forall₂ (fun line meaning => ∀ gap, Blank gap → one (line ++ gap) meaning)
      lines meanings) {gap : Text} (hgap : Blank gap) :
    many ((lines.intersperse [',']).flatten ++ gap) meanings := by
  induction hlines with
  | nil => exact absurd rfl hne
  | @cons line meaning lines meanings hline hrest ih =>
    cases hrest with
    | nil =>
      apply hlast
      simpa using hline gap hgap
    | @cons next meaning' lines' meanings' hnext hlines' =>
      have hfirst : one line meaning := by simpa using hline [] blank_nil
      have hbelow := ih (List.cons_ne_nil _ _)
      simpa using hmore _ _ _ _ hfirst hbelow

/-- The lines of a block that is not empty. -/
def blockLines (depth : Nat) (texts : List Text) : Text :=
  ((texts.map (lineBreak (depth + 1) ++ ·)).intersperse [',']).flatten ++ lineBreak depth

theorem block_of_ne_nil {texts : List Text} (hne : texts ≠ []) (opening closing : Char)
    (depth : Nat) : block opening closing depth texts =
      opening :: (blockLines depth texts ++ [closing]) := by
  unfold block
  rw [if_neg (by simpa using hne)]
  simp [blockLines]

theorem denotes_elements {texts : List Text} {items : List Value} (hne : texts ≠ [])
    (htexts : List.Forall₂ (Denotes .value) texts items) (depth : Nat) :
    Denotes .elements (blockLines depth texts) items := by
  refine many_of_lines (Denotes .element) (Denotes .elements) (fun _ _ => .lastElement)
    (fun _ _ _ _ => .moreElements) (by simpa using hne) ?_ (blank_lineBreak depth)
  rw [List.forall₂_map_left_iff]
  apply htexts.imp
  intro text item htext gap hgap
  rw [List.append_assoc]
  exact .element (blank_lineBreak (depth + 1)) htext hgap

/-- A field in its pretty form: a blank stands between the colon and the value. -/
theorem denotes_members {texts : List Text} {fields : List (Text × Value)} (hne : texts ≠ [])
    (htexts : List.Forall₂ (fun text field => ∃ item, text = quote field.1 ++ [':', ' '] ++ item ∧
      Denotes .value item field.2) texts fields) (depth : Nat) :
    Denotes .members (blockLines depth texts) fields := by
  refine many_of_lines (Denotes .member) (Denotes .members) (fun _ _ => .lastMember)
    (fun _ _ _ _ => .moreMembers) (by simpa using hne) ?_ (blank_lineBreak depth)
  rw [List.forall₂_map_left_iff]
  apply htexts.imp
  rintro text ⟨name, value⟩ ⟨item, rfl, hitem⟩ gap hgap
  have hblank : Blank [' '] := by simp [Blank, isBlank]
  have hmember := Denotes.member (blank_lineBreak (depth + 1)) (characters_escape name) blank_nil
    (.element hblank hitem hgap)
  simpa [quote] using hmember

/-! ### Documents -/

/-- Two images of a list, member by member. -/
theorem forall₂_map {α β γ : Type} {relation : β → γ → Prop} {left : α → β} {right : α → γ}
    {items : List α} (h : ∀ item ∈ items, relation (left item) (right item)) :
    List.Forall₂ relation (items.map left) (items.map right) := by
  rw [List.forall₂_map_left_iff, List.forall₂_map_right_iff]
  exact List.forall₂_same.2 h

/-- Wherever it is held, the pretty form of a value stands for it. -/
theorem denotes_prettyAt (depth : Nat) (document : Json) :
    Denotes .value (prettyAt depth document) document.value := by
  fun_induction prettyAt depth document with
  | case1 depth n =>
    rw [value]
    exact .number (number_toDigits n)
  | case2 depth content =>
    rw [value]
    exact denotes_quote content
  | case3 depth items ih =>
    rw [value]
    by_cases hnil : items = []
    · rw [hnil]
      exact .emptyArray blank_nil
    · rw [block_of_ne_nil (by simpa using hnil)]
      exact .array (denotes_elements (by simpa using hnil) (forall₂_map ih) depth)
  | case4 depth fields ih =>
    rw [value]
    by_cases hnil : fields = []
    · rw [hnil]
      exact .emptyObject blank_nil
    · rw [block_of_ne_nil (by simpa using hnil)]
      refine .object (denotes_members (by simpa using hnil) (forall₂_map ?_) depth)
      intro field hmem
      exact ⟨_, rfl, ih field hmem⟩

theorem denotes_pretty (document : Json) : Denotes .value document.pretty document.value :=
  denotes_prettyAt 0 document

end PermissionSchema.Json
