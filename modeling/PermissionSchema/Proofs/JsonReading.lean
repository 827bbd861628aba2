import PermissionSchema.Proofs.JsonGrammar

/-!
# JSON texts have one meaning

The grammar of JSON is unambiguous (`Denotes.unique`). A value is told from what follows it, since
its first character tells its shape (`Denotes.exists_shape`) and its last what it ends with; from
this all readers that go by the grammar read the same in a text.
-/

namespace PermissionSchema.Json

/-- Values that start alike. -/
inductive Shape where
  | literal
  | number
  | string
  | array
  | object

def Value.shape : Value → Shape
  | .null | .boolean _ => .literal
  | .number _ => .number
  | .string _ => .string
  | .array _ => .array
  | .object _ => .object

/-- The shape of the values that start with a character, if any do. -/
def shapeOf? (c : Char) : Option Shape :=
  if c = 'n' || c = 't' || c = 'f' then some .literal
  else if c = '-' || c.isDigit then some .number
  else if c = '"' then some .string
  else if c = '[' then some .array
  else if c = '\x7b' then some .object
  else none

theorem shapeOf?_of_isDigit {c : Char} (hc : c.isDigit = true) : shapeOf? c = some .number := by
  have hletter : ¬ (c = 'n' || c = 't' || c = 'f') = true := by
    intro hletter
    simp only [Bool.or_eq_true, decide_eq_true_eq] at hletter
    rcases hletter with (rfl | rfl) | rfl <;> exact absurd hc (by decide)
  unfold shapeOf?
  rw [if_neg hletter, if_pos (by rw [hc, Bool.or_true])]

theorem shapeOf?_of_isBlank {c : Char} (hc : isBlank c = true) : shapeOf? c = none := by
  simp only [isBlank, Bool.or_eq_true, beq_iff_eq] at hc
  rcases hc with ((rfl | rfl) | rfl) | rfl <;> rfl

theorem Number.exists_cons {text : Text} {q : Rat} (hnumber : Number text q) :
    ∃ c rest, text = c :: rest ∧ shapeOf? c = some .number := by
  obtain ⟨hsign, hwhole, -, -⟩ := hnumber
  cases hsign with
  | plus =>
    cases hwhole with
    | digits hdigits _ =>
      obtain ⟨c, rest, rfl, hc⟩ := hdigits.exists_cons
      exact ⟨c, _, rfl, shapeOf?_of_isDigit hc⟩
  | minus => exact ⟨'-', _, rfl, rfl⟩

/-- The first character of a value tells its shape. -/
theorem Denotes.exists_shape {text : Text} {value : Value} (h : Denotes .value text value) :
    ∃ c rest, text = c :: rest ∧ shapeOf? c = some value.shape := by
  cases h with
  | literal hmem =>
    simp only [literals, List.mem_cons, Prod.mk.injEq, List.not_mem_nil, or_false] at hmem
    rcases hmem with ⟨rfl, rfl⟩ | ⟨rfl, rfl⟩ | ⟨rfl, rfl⟩
    · exact ⟨'n', _, rfl, rfl⟩
    · exact ⟨'t', _, rfl, rfl⟩
    · exact ⟨'f', _, rfl, rfl⟩
  | number hnumber => exact hnumber.exists_cons
  | string _ => exact ⟨'"', _, rfl, rfl⟩
  | emptyArray _ => exact ⟨'[', _, rfl, rfl⟩
  | array _ => exact ⟨'[', _, rfl, rfl⟩
  | emptyObject _ => exact ⟨'\x7b', _, rfl, rfl⟩
  | object _ => exact ⟨'\x7b', _, rfl, rfl⟩

theorem Denotes.exists_start_of_value {text : Text} {value : Value}
    (h : Denotes .value text value) :
    ∃ before c rest, text = before ++ c :: rest ∧ Blank before ∧ (shapeOf? c).isSome = true := by
  obtain ⟨c, rest, rfl, hc⟩ := h.exists_shape
  have hblank : Blank [] := by simp [Blank]
  exact ⟨[], c, rest, rfl, hblank, by rw [hc]; rfl⟩

/-- Behind blanks, every text of the grammar starts as a value does. -/
theorem Denotes.exists_start {category : Category} {text : Text} {meaning : category.Meaning}
    (h : Denotes category text meaning) :
    ∃ before c rest, text = before ++ c :: rest ∧ Blank before ∧ (shapeOf? c).isSome = true := by
  induction h with
  | literal hmem => exact (Denotes.literal hmem).exists_start_of_value
  | number hnumber => exact (Denotes.number hnumber).exists_start_of_value
  | string hbody => exact (Denotes.string hbody).exists_start_of_value
  | emptyArray hgap => exact (Denotes.emptyArray hgap).exists_start_of_value
  | array hitems _ => exact (Denotes.array hitems).exists_start_of_value
  | emptyObject hgap => exact (Denotes.emptyObject hgap).exists_start_of_value
  | object hfields _ => exact (Denotes.object hfields).exists_start_of_value
  | element hbefore htext _ _ =>
    obtain ⟨c, rest, rfl, hc⟩ := htext.exists_shape
    exact ⟨_, c, _, rfl, hbefore, by rw [hc]; rfl⟩
  | lastElement _ ih => exact ih
  | moreElements _ _ ih _ =>
    obtain ⟨before, c, rest, rfl, hbefore, hc⟩ := ih
    exact ⟨before, c, _, List.append_assoc _ _ _, hbefore, hc⟩
  | member hbefore _ _ _ _ => exact ⟨_, '"', _, rfl, hbefore, rfl⟩
  | lastMember _ ih => exact ih
  | moreMembers _ _ ih _ =>
    obtain ⟨before, c, rest, rfl, hbefore, hc⟩ := ih
    exact ⟨before, c, _, List.append_assoc _ _ _, hbefore, hc⟩

/-- Blanks are told from what follows them. -/
theorem Blank.append_inj {gap gap' behind behind' : Text} (hgap : Blank gap) (hgap' : Blank gap')
    (hbehind : ∀ c ∈ behind.head?, isBlank c = false)
    (hbehind' : ∀ c ∈ behind'.head?, isBlank c = false)
    (h : gap ++ behind = gap' ++ behind') : gap = gap' ∧ behind = behind' :=
  run_append_inj hgap hbehind hgap' hbehind' h

theorem isBlank_of_shapeOf? {c : Char} (hc : (shapeOf? c).isSome = true) : isBlank c = false := by
  by_contra hblank
  rw [shapeOf?_of_isBlank (by simpa using hblank)] at hc
  cases hc

/-- Blanks between brackets are no elements and no members. -/
theorem Denotes.ne_blank {category : Category} {text gap behind behind' : Text} {closing : Char}
    {meaning : category.Meaning} (h : Denotes category text meaning) (hgap : Blank gap)
    (hclosing : shapeOf? closing = none) (hblank : isBlank closing = false) :
    text ++ behind ≠ gap ++ closing :: behind' := by
  intro heq
  obtain ⟨before, c, rest, rfl, hbefore, hc⟩ := h.exists_start
  rw [List.append_assoc] at heq
  obtain ⟨-, hrest⟩ := hbefore.append_inj hgap (head?_cons_stops (isBlank_of_shapeOf? hc) _)
    (head?_cons_stops hblank _) heq
  rw [(List.cons.inj hrest).1, hclosing] at hc
  cases hc

theorem literals_append_inj {text text' behind behind' : Text} {value value' : Value}
    (hmem : (text, value) ∈ literals) (hmem' : (text', value') ∈ literals)
    (h : text ++ behind = text' ++ behind') : value = value' ∧ behind = behind' := by
  have hnodup : (literals.map fun entry => entry.1.head?).Nodup := by decide
  have hheads : ∀ entry ∈ literals, ∀ rest : Text, (entry.1 ++ rest).head? = entry.1.head? := by
    intro entry hentry rest
    obtain ⟨c, tail, htext, -⟩ := (Denotes.literal hentry).exists_shape
    rw [htext]
    rfl
  have hsame := List.inj_on_of_nodup_map hnodup hmem hmem' (by
    rw [← hheads _ hmem behind, ← hheads _ hmem' behind', h])
  obtain ⟨rfl, rfl⟩ := Prod.mk.inj hsame
  exact ⟨rfl, List.append_cancel_left h⟩

/-- What may follow a text for its end to be told. -/
def Follows : Category → Text → Prop
  | .value, behind => EndsNumber behind
  | .element, behind | .member, behind => ∀ c ∈ behind.head?, c = ',' ∨ c = ']' ∨ c = '\x7d'
  | .elements, behind => behind.head? = some ']'
  | .members, behind => behind.head? = some '\x7d'

theorem Follows.not_blank {behind : Text} (hbehind : Follows .element behind) :
    ∀ c ∈ behind.head?, isBlank c = false := by
  intro c hc
  rcases hbehind c hc with rfl | rfl | rfl <;> decide

/-- Neither blanks nor what follows an element could go on a number. -/
theorem Follows.endsNumber {gap behind : Text} (hgap : Blank gap)
    (hbehind : Follows .element behind) : EndsNumber (gap ++ behind) := by
  have hplain : ∀ c ∈ (gap ++ behind).head?,
      c.isDigit = false ∧ c ≠ '.' ∧ c ≠ 'e' ∧ c ≠ 'E' := by
    intro c hc
    cases gap with
    | nil =>
      rcases hbehind c hc with rfl | rfl | rfl <;> decide
    | cons blank gap =>
      obtain rfl : blank = c := Option.some.inj hc
      have hblank := hgap blank List.mem_cons_self
      simp only [isBlank, Bool.or_eq_true, beq_iff_eq] at hblank
      rcases hblank with ((rfl | rfl) | rfl) | rfl <;> decide
  refine ⟨fun c hc => (hplain c hc).1, ?_, ?_, ?_⟩
  · exact fun hpoint => (hplain _ hpoint).2.1 rfl
  · exact fun he => (hplain _ he).2.2.1 rfl
  · exact fun he => (hplain _ he).2.2.2 rfl

theorem follows_elements (behind : Text) : Follows .elements (']' :: behind) := rfl

theorem follows_members (behind : Text) : Follows .members ('\x7d' :: behind) := rfl

theorem follows_comma (behind : Text) : Follows .element (',' :: behind) := by
  intro c hc
  obtain rfl : ',' = c := Option.some.inj hc
  exact Or.inl rfl

theorem Follows.element_of_elements {behind : Text} (hbehind : Follows .elements behind) :
    Follows .element behind := by
  intro c hc
  obtain rfl : c = ']' := Option.some.inj (hc.symm.trans hbehind)
  exact Or.inr (Or.inl rfl)

theorem Follows.member_of_members {behind : Text} (hbehind : Follows .members behind) :
    Follows .member behind := by
  intro c hc
  obtain rfl : c = '\x7d' := Option.some.inj (hc.symm.trans hbehind)
  exact Or.inr (Or.inr rfl)

namespace Denotes

variable {text : Text} {value : Value}

/-! #### Values of each shape -/

theorem literal_of_shape (h : Denotes .value text value) (hshape : value.shape = .literal) :
    (text, value) ∈ literals := by
  cases h with
  | literal hmem => exact hmem
  | _ => cases hshape

theorem shape_of_mem_literals (hmem : (text, value) ∈ literals) : value.shape = .literal := by
  simp only [literals, List.mem_cons, Prod.mk.injEq, List.not_mem_nil, or_false] at hmem
  rcases hmem with ⟨-, rfl⟩ | ⟨-, rfl⟩ | ⟨-, rfl⟩ <;> rfl

theorem number_of_shape (h : Denotes .value text value) (hshape : value.shape = .number) :
    ∃ q, value = .number q ∧ Number text q := by
  cases h with
  | number hnumber => exact ⟨_, rfl, hnumber⟩
  | literal hmem => cases hshape.symm.trans (shape_of_mem_literals hmem)
  | _ => cases hshape

theorem string_of_shape (h : Denotes .value text value) (hshape : value.shape = .string) :
    ∃ body content, text = '"' :: (body ++ ['"']) ∧ value = .string content ∧
      Characters body content := by
  cases h with
  | string hbody => exact ⟨_, _, rfl, rfl, hbody⟩
  | literal hmem => cases hshape.symm.trans (shape_of_mem_literals hmem)
  | _ => cases hshape

theorem array_of_shape (h : Denotes .value text value) (hshape : value.shape = .array) :
    ∃ inner items, text = '[' :: (inner ++ [']']) ∧ value = .array items ∧
      ((Blank inner ∧ items = []) ∨ Denotes .elements inner items) := by
  cases h with
  | emptyArray hgap => exact ⟨_, _, rfl, rfl, Or.inl ⟨hgap, rfl⟩⟩
  | array hitems => exact ⟨_, _, rfl, rfl, Or.inr hitems⟩
  | literal hmem => cases hshape.symm.trans (shape_of_mem_literals hmem)
  | _ => cases hshape

theorem object_of_shape (h : Denotes .value text value) (hshape : value.shape = .object) :
    ∃ inner fields, text = '\x7b' :: (inner ++ ['\x7d']) ∧ value = .object fields ∧
      ((Blank inner ∧ fields = []) ∨ Denotes .members inner fields) := by
  cases h with
  | emptyObject hgap => exact ⟨_, _, rfl, rfl, Or.inl ⟨hgap, rfl⟩⟩
  | object hfields => exact ⟨_, _, rfl, rfl, Or.inr hfields⟩
  | literal hmem => cases hshape.symm.trans (shape_of_mem_literals hmem)
  | _ => cases hshape

/-- Values that stand at the start of one text have one shape. -/
theorem shape_eq {text' behind behind' : Text} {value' : Value} (h : Denotes .value text value)
    (h' : Denotes .value text' value') (heq : text ++ behind = text' ++ behind') :
    value'.shape = value.shape := by
  obtain ⟨c, rest, rfl, hc⟩ := h.exists_shape
  obtain ⟨c', rest', rfl, hc'⟩ := h'.exists_shape
  rw [(List.cons.inj heq).1, hc'] at hc
  exact Option.some.inj hc

/-- No value starts with a blank. -/
theorem head?_append (h : Denotes .value text value) (behind : Text) :
    ∀ c ∈ (text ++ behind).head?, isBlank c = false := by
  obtain ⟨c, rest, rfl, hc⟩ := h.exists_shape
  exact head?_cons_stops (isBlank_of_shapeOf? (by rw [hc]; rfl)) _

/-! #### Texts of each category -/

/-- Whatever text of its category is read in the place of a text, it stands for the same and leaves
    the same behind. -/
def Told (category : Category) (text : Text) (meaning : category.Meaning) : Prop :=
  ∀ (text' behind behind' : Text) (meaning' : category.Meaning), Denotes category text' meaning' →
    Follows category behind → Follows category behind' → text ++ behind = text' ++ behind' →
    meaning = meaning' ∧ behind = behind'

theorem told_literal (hmem : (text, value) ∈ literals) : Told .value text value := by
  intro text' behind behind' value' h' _ _ heq
  have hshape := (literal hmem).shape_eq h' heq
  have hmem' := h'.literal_of_shape (hshape.trans (shape_of_mem_literals hmem))
  exact literals_append_inj hmem hmem' heq

theorem told_number {q : Rat} (hnumber : Number text q) : Told .value text (.number q) := by
  intro text' behind behind' value' h' hbehind hbehind' heq
  obtain ⟨q', rfl, hnumber'⟩ := h'.number_of_shape ((number hnumber).shape_eq h' heq)
  obtain ⟨rfl, hrest⟩ := hnumber.append_inj hnumber' hbehind hbehind' heq
  exact ⟨rfl, hrest⟩

theorem told_string {body content : Text} (hbody : Characters body content) :
    Told .value ('"' :: (body ++ ['"'])) (.string content) := by
  intro text' behind behind' value' h' _ _ heq
  obtain ⟨body', content', rfl, rfl, hbody'⟩ := h'.string_of_shape ((string hbody).shape_eq h' heq)
  simp only [List.cons_append, List.append_assoc, List.cons.injEq, true_and] at heq
  obtain ⟨rfl, hrest⟩ := hbody.append_inj hbody' heq
  exact ⟨rfl, hrest⟩

/-- What stands between brackets, if it is told from the closing bracket when it is not blank. -/
theorem inside_append_inj {many : Category} {inner inner' behind behind' : Text} {closing : Char}
    {nothing meaning meaning' : many.Meaning} (hclosing : shapeOf? closing = none)
    (hblank : isBlank closing = false) (hfollows : ∀ rest, Follows many (closing :: rest))
    (hinner : (Blank inner ∧ meaning = nothing) ∨
      (Denotes many inner meaning ∧ Told many inner meaning))
    (hinner' : (Blank inner' ∧ meaning' = nothing) ∨ Denotes many inner' meaning')
    (heq : inner ++ closing :: behind = inner' ++ closing :: behind') :
    meaning = meaning' ∧ behind = behind' := by
  rcases hinner with ⟨hgap, rfl⟩ | ⟨hmany, htold⟩
  · rcases hinner' with ⟨hgap', rfl⟩ | hmany'
    · obtain ⟨-, hrest⟩ := hgap.append_inj hgap' (head?_cons_stops hblank _)
        (head?_cons_stops hblank _) heq
      exact ⟨rfl, (List.cons.inj hrest).2⟩
    · exact absurd heq.symm (hmany'.ne_blank hgap hclosing hblank)
  · rcases hinner' with ⟨hgap', rfl⟩ | hmany'
    · exact absurd heq (hmany.ne_blank hgap' hclosing hblank)
    · obtain ⟨rfl, hrest⟩ := htold _ _ _ _ hmany' (hfollows _) (hfollows _) heq
      exact ⟨rfl, (List.cons.inj hrest).2⟩

theorem told_array {inner : Text} {items : List Value}
    (harray : Denotes .value ('[' :: (inner ++ [']'])) (.array items))
    (hinner : (Blank inner ∧ items = []) ∨
      (Denotes .elements inner items ∧ Told .elements inner items)) :
    Told .value ('[' :: (inner ++ [']'])) (.array items) := by
  intro text' behind behind' value' h' _ _ heq
  obtain ⟨inner', items', rfl, rfl, hinner'⟩ := h'.array_of_shape (harray.shape_eq h' heq)
  simp only [List.cons_append, List.append_assoc, List.cons.injEq, true_and] at heq
  obtain ⟨rfl, hrest⟩ := inside_append_inj rfl rfl follows_elements hinner hinner' heq
  exact ⟨rfl, hrest⟩

theorem told_object {inner : Text} {fields : List (Text × Value)}
    (hobject : Denotes .value ('\x7b' :: (inner ++ ['\x7d'])) (.object fields))
    (hinner : (Blank inner ∧ fields = []) ∨
      (Denotes .members inner fields ∧ Told .members inner fields)) :
    Told .value ('\x7b' :: (inner ++ ['\x7d'])) (.object fields) := by
  intro text' behind behind' value' h' _ _ heq
  obtain ⟨inner', fields', rfl, rfl, hinner'⟩ := h'.object_of_shape (hobject.shape_eq h' heq)
  simp only [List.cons_append, List.append_assoc, List.cons.injEq, true_and] at heq
  obtain ⟨rfl, hrest⟩ := inside_append_inj rfl rfl follows_members hinner hinner' heq
  exact ⟨rfl, hrest⟩

theorem told_element {before behind : Text} (hbefore : Blank before)
    (htext : Denotes .value text value) (hbehind : Blank behind) (htold : Told .value text value) :
    Told .element (before ++ (text ++ behind)) value := by
  intro text' rest rest' value' h' hrest hrest' heq
  cases h' with
  | element hbefore' htext' hbehind' =>
    simp only [List.append_assoc] at heq
    obtain ⟨-, hvalue⟩ :=
      hbefore.append_inj hbefore' (htext.head?_append _) (htext'.head?_append _) heq
    obtain ⟨rfl, hgap⟩ :=
      htold _ _ _ _ htext' (hrest.endsNumber hbehind) (hrest'.endsNumber hbehind') hvalue
    exact ⟨rfl, (hbehind.append_inj hbehind' hrest.not_blank hrest'.not_blank hgap).2⟩

theorem told_member {before body name gap : Text} (hbefore : Blank before)
    (hname : Characters body name) (hgap : Blank gap) (htold : Told .element text value) :
    Told .member (before ++ '"' :: (body ++ '"' :: (gap ++ ':' :: text))) (name, value) := by
  intro text' behind behind' field h' hbehind hbehind' heq
  cases h' with
  | member hbefore' hname' hgap' htext' =>
    simp only [List.append_assoc, List.cons_append] at heq
    obtain ⟨-, hquoted⟩ :=
      hbefore.append_inj hbefore' (head?_cons_stops rfl _) (head?_cons_stops rfl _) heq
    obtain ⟨rfl, hcolon⟩ := hname.append_inj hname' (List.cons.inj hquoted).2
    obtain ⟨-, hitem⟩ :=
      hgap.append_inj hgap' (head?_cons_stops rfl _) (head?_cons_stops rfl _) hcolon
    obtain ⟨rfl, hrest⟩ := htold _ _ _ _ htext' hbehind hbehind' (List.cons.inj hitem).2
    exact ⟨rfl, hrest⟩

theorem told_lastElement (htold : Told .element text value) : Told .elements text [value] := by
  intro text' behind behind' items h' hbehind hbehind' heq
  cases h' with
  | lastElement htext' =>
    obtain ⟨rfl, hrest⟩ :=
      htold _ _ _ _ htext' hbehind.element_of_elements hbehind'.element_of_elements heq
    exact ⟨rfl, hrest⟩
  | moreElements htext' _ =>
    rw [List.append_assoc] at heq
    obtain ⟨-, hrest⟩ := htold _ _ _ _ htext' hbehind.element_of_elements (follows_comma _) heq
    rw [hrest] at hbehind
    cases hbehind

theorem told_moreElements {rest : Text} {items : List Value} (htold : Told .element text value)
    (htoldRest : Told .elements rest items) :
    Told .elements (text ++ ',' :: rest) (value :: items) := by
  intro text' behind behind' items' h' hbehind hbehind' heq
  cases h' with
  | lastElement htext' =>
    rw [List.append_assoc] at heq
    obtain ⟨-, hrest⟩ := htold _ _ _ _ htext' (follows_comma _) hbehind'.element_of_elements heq
    rw [← hrest] at hbehind'
    cases hbehind'
  | moreElements htext' hrest' =>
    simp only [List.append_assoc, List.cons_append] at heq
    obtain ⟨rfl, hmore⟩ := htold _ _ _ _ htext' (follows_comma _) (follows_comma _) heq
    obtain ⟨rfl, hbelow⟩ := htoldRest _ _ _ _ hrest' hbehind hbehind' (List.cons.inj hmore).2
    exact ⟨rfl, hbelow⟩

theorem told_lastMember {field : Text × Value} (htold : Told .member text field) :
    Told .members text [field] := by
  intro text' behind behind' fields h' hbehind hbehind' heq
  cases h' with
  | lastMember hfield' =>
    obtain ⟨rfl, hrest⟩ :=
      htold _ _ _ _ hfield' hbehind.member_of_members hbehind'.member_of_members heq
    exact ⟨rfl, hrest⟩
  | moreMembers hfield' _ =>
    rw [List.append_assoc] at heq
    obtain ⟨-, hrest⟩ := htold _ _ _ _ hfield' hbehind.member_of_members (follows_comma _) heq
    rw [hrest] at hbehind
    cases hbehind

theorem told_moreMembers {rest : Text} {field : Text × Value} {fields : List (Text × Value)}
    (htold : Told .member text field) (htoldRest : Told .members rest fields) :
    Told .members (text ++ ',' :: rest) (field :: fields) := by
  intro text' behind behind' fields' h' hbehind hbehind' heq
  cases h' with
  | lastMember hfield' =>
    rw [List.append_assoc] at heq
    obtain ⟨-, hrest⟩ := htold _ _ _ _ hfield' (follows_comma _) hbehind'.member_of_members heq
    rw [← hrest] at hbehind'
    cases hbehind'
  | moreMembers hfield' hrest' =>
    simp only [List.append_assoc, List.cons_append] at heq
    obtain ⟨rfl, hmore⟩ := htold _ _ _ _ hfield' (follows_comma _) (follows_comma _) heq
    obtain ⟨rfl, hbelow⟩ := htoldRest _ _ _ _ hrest' hbehind hbehind' (List.cons.inj hmore).2
    exact ⟨rfl, hbelow⟩

/-- Every text of the grammar is told from what follows it. -/
theorem told {category : Category} {meaning : category.Meaning} (h : Denotes category text meaning) :
    Told category text meaning := by
  induction h with
  | literal hmem => exact told_literal hmem
  | number hnumber => exact told_number hnumber
  | string hbody => exact told_string hbody
  | emptyArray hgap => exact told_array (emptyArray hgap) (Or.inl ⟨hgap, rfl⟩)
  | array hitems ih => exact told_array (array hitems) (Or.inr ⟨hitems, ih⟩)
  | emptyObject hgap => exact told_object (emptyObject hgap) (Or.inl ⟨hgap, rfl⟩)
  | object hfields ih => exact told_object (object hfields) (Or.inr ⟨hfields, ih⟩)
  | element hbefore htext hbehind ih => exact told_element hbefore htext hbehind ih
  | lastElement _ ih => exact told_lastElement ih
  | moreElements _ _ ih ihRest => exact told_moreElements ih ihRest
  | member hbefore hname hgap _ ih => exact told_member hbefore hname hgap ih
  | lastMember _ ih => exact told_lastMember ih
  | moreMembers _ _ ih ihRest => exact told_moreMembers ih ihRest

/-- A text stands for one value at most. -/
theorem unique {text : Text} {value value' : Value} (h : Denotes .element text value)
    (h' : Denotes .element text value') : value = value' := by
  have hend : Follows .element [] := by simp [Follows]
  exact (h.told _ _ _ _ h' hend hend rfl).1

end Denotes

/-! ### Readers -/

/-- A reader that reads what the grammar says in every text that it gives a value. -/
def Conforms (reader : Text → Option Value) : Prop :=
  ∀ text value, Denotes .element text value → reader text = some value

theorem exists_conforms : ∃ reader, Conforms reader := by
  classical
  refine ⟨fun text => if h : ∃ value, Denotes .element text value then some h.choose else none, ?_⟩
  intro text value hdenotes
  have hfound : ∃ value, Denotes .element text value := ⟨value, hdenotes⟩
  simp only [dif_pos hfound]
  rw [hfound.choose_spec.unique hdenotes]

end PermissionSchema.Json
