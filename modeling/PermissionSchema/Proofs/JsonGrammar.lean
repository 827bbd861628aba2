import PermissionSchema.Json
import PermissionSchema.Proofs.Grammar
import PermissionSchema.Text.Numeral
import Mathlib.Data.List.Nodup

/-!
# The grammar of JSON

What a JSON text stands for. `Denotes category text meaning` follows the grammar of the format, with
all its numbers, escapes and blanks, of which the pretty form uses few. Numbers and strings are told
from what follows them, if it is nothing that they could go on with (`Number.append_inj`,
`Characters.append_inj`).
-/

namespace PermissionSchema.Json

/-! ### Numbers -/

def IsDigits (text : Text) : Prop := text ≠ [] ∧ ∀ c ∈ text, c.isDigit = true

/-- Of the signs only a minus is written. -/
inductive Sign : Text → Rat → Prop
  | plus : Sign [] 1
  | minus : Sign ['-'] (-1)

/-- The digits before the point. A zero among them is the first only if it stands alone. -/
inductive Whole : Text → Rat → Prop
  | digits {text : Text} : IsDigits text → (text.head? = some '0' → text = ['0']) →
      Whole text (Numeral.value 10 text)

/-- The digits behind the point, if there are any. -/
inductive Fraction : Text → Rat → Prop
  | none : Fraction [] 0
  | digits {text : Text} : IsDigits text →
      Fraction ('.' :: text) (Numeral.value 10 text / 10 ^ text.length)

/-- The sign of a power, and whether the power is to be divided by. -/
inductive PowerSign : Text → Bool → Prop
  | unsigned : PowerSign [] false
  | plus : PowerSign ['+'] false
  | minus : PowerSign ['-'] true

/-- The power of ten that a number is multiplied by or divided by, if there is one. -/
inductive Power : Text → Rat → Prop
  | none : Power [] 1
  | digits {e : Char} {sign text : Text} {divides : Bool} : e = 'e' ∨ e = 'E' →
      PowerSign sign divides → IsDigits text →
      Power (e :: (sign ++ text))
        (if divides then 1 / 10 ^ Numeral.value 10 text else 10 ^ Numeral.value 10 text)

inductive Number : Text → Rat → Prop
  | mk {sign whole fraction power : Text} {s n f p : Rat} : Sign sign s → Whole whole n →
      Fraction fraction f → Power power p →
      Number (sign ++ (whole ++ (fraction ++ power))) (s * (n + f) * p)

/-! ### Strings -/

/-- Four hexadecimal digits and the number that they stand for. -/
structure IsUnit (digits : Text) (unit : Nat) : Prop where
  length_eq : digits.length = 4
  isSome_digit? : ∀ c ∈ digits, (Numeral.digit? c).isSome = true
  value_eq : Numeral.value 16 digits = unit

/-- What stands behind a backslash and a `u`: the code point of a character, or the two halves that
    a greater one is split into. -/
inductive CodePoint : Text → Char → Prop
  | whole {digits : Text} {c : Char} : IsUnit digits c.toNat → CodePoint digits c
  | halves {high low : Text} {h l : Nat} {c : Char} : IsUnit high h → IsUnit low l →
      0xD800 ≤ h → h < 0xDC00 → 0xDC00 ≤ l → l < 0xE000 →
      c.toNat = 0x10000 + (h - 0xD800) * 0x400 + (l - 0xDC00) →
      CodePoint (high ++ '\\' :: 'u' :: low) c

/-- The letters that may stand behind a backslash, with what they stand for. -/
def escapes : List (Char × Char) :=
  [('"', '"'), ('\\', '\\'), ('/', '/'), ('b', '\x08'), ('f', '\x0c'), ('n', '\n'), ('r', '\r'),
    ('t', '\t')]

/-- One character of a string as it may be written. -/
inductive Character : Text → Char → Prop
  | plain {c : Char} : 0x20 ≤ c.toNat → c ≠ '"' → c ≠ '\\' → Character [c] c
  | escaped {letter c : Char} : (letter, c) ∈ escapes → Character ['\\', letter] c
  | codePoint {form : Text} {c : Char} : CodePoint form c → Character ('\\' :: 'u' :: form) c

inductive Characters : Text → Text → Prop
  | nil : Characters [] []
  | cons {form rest : Text} {c : Char} {content : Text} : Character form c →
      Characters rest content → Characters (form ++ rest) (c :: content)

/-! ### Values -/

/-- A JSON value. The fields of an object are in the order in which they are written. -/
inductive Value where
  | null
  | boolean (b : Bool)
  | number (q : Rat)
  | string (content : Text)
  | array (items : List Value)
  | object (fields : List (Text × Value))

def literals : List (Text × Value) :=
  [("null".toList, .null), ("true".toList, .boolean true), ("false".toList, .boolean false)]

/-- The categories of the grammar. An element is a value with blanks around it. -/
inductive Category where
  | value
  | element
  | elements
  | member
  | members

/-- What the texts of a category stand for. -/
abbrev Category.Meaning : Category → Type
  | .value | .element => Value
  | .elements => List Value
  | .member => Text × Value
  | .members => List (Text × Value)

/-- The blanks of JSON are those of the schema language. -/
def Blank (text : Text) : Prop := ∀ c ∈ text, isBlank c = true

/-- What a text of a category stands for. -/
inductive Denotes : (category : Category) → Text → category.Meaning → Prop
  | literal {text : Text} {value : Value} : (text, value) ∈ literals → Denotes .value text value
  | number {text : Text} {q : Rat} : Number text q → Denotes .value text (.number q)
  | string {body content : Text} : Characters body content →
      Denotes .value ('"' :: (body ++ ['"'])) (.string content)
  | emptyArray {gap : Text} : Blank gap → Denotes .value ('[' :: (gap ++ [']'])) (.array [])
  | array {text : Text} {items : List Value} : Denotes .elements text items →
      Denotes .value ('[' :: (text ++ [']'])) (.array items)
  | emptyObject {gap : Text} : Blank gap → Denotes .value ('\x7b' :: (gap ++ ['\x7d'])) (.object [])
  | object {text : Text} {fields : List (Text × Value)} : Denotes .members text fields →
      Denotes .value ('\x7b' :: (text ++ ['\x7d'])) (.object fields)
  | element {before text behind : Text} {value : Value} : Blank before →
      Denotes .value text value → Blank behind →
      Denotes .element (before ++ (text ++ behind)) value
  | lastElement {text : Text} {item : Value} : Denotes .element text item →
      Denotes .elements text [item]
  | moreElements {text rest : Text} {item : Value} {items : List Value} :
      Denotes .element text item → Denotes .elements rest items →
      Denotes .elements (text ++ ',' :: rest) (item :: items)
  | member {before body name gap text : Text} {value : Value} : Blank before →
      Characters body name → Blank gap → Denotes .element text value →
      Denotes .member (before ++ '"' :: (body ++ '"' :: (gap ++ ':' :: text))) (name, value)
  | lastMember {text : Text} {field : Text × Value} : Denotes .member text field →
      Denotes .members text [field]
  | moreMembers {text rest : Text} {field : Text × Value} {fields : List (Text × Value)} :
      Denotes .member text field → Denotes .members rest fields →
      Denotes .members (text ++ ',' :: rest) (field :: fields)

/-! ### Numbers are told from what follows them -/

/-- No digit follows. -/
def NoDigit (behind : Text) : Prop := ∀ c ∈ behind.head?, c.isDigit = false

/-- Nothing follows that a number could go on with. -/
structure EndsNumber (behind : Text) : Prop where
  noDigit : NoDigit behind
  point : behind.head? ≠ some '.'
  power : behind.head? ≠ some 'e' ∧ behind.head? ≠ some 'E'

theorem IsDigits.append_inj {text text' behind behind' : Text} (htext : IsDigits text)
    (htext' : IsDigits text') (hbehind : NoDigit behind) (hbehind' : NoDigit behind')
    (h : text ++ behind = text' ++ behind') : text = text' ∧ behind = behind' :=
  run_append_inj htext.2 hbehind htext'.2 hbehind' h

theorem IsDigits.exists_cons {text : Text} (htext : IsDigits text) :
    ∃ c rest, text = c :: rest ∧ c.isDigit = true := by
  obtain ⟨c, rest, rfl⟩ := List.exists_cons_of_ne_nil htext.1
  exact ⟨c, rest, rfl, htext.2 c List.mem_cons_self⟩

theorem Sign.append_inj {text text' behind behind' : Text} {s s' : Rat} (hsign : Sign text s)
    (hsign' : Sign text' s') (hbehind : behind.head? ≠ some '-')
    (hbehind' : behind'.head? ≠ some '-') (h : text ++ behind = text' ++ behind') :
    s = s' ∧ behind = behind' := by
  cases hsign with
  | plus =>
    cases hsign' with
    | plus => exact ⟨rfl, h⟩
    | minus =>
      rw [List.nil_append] at h
      rw [h] at hbehind
      exact absurd rfl hbehind
  | minus =>
    cases hsign' with
    | plus =>
      rw [List.nil_append] at h
      rw [← h] at hbehind'
      exact absurd rfl hbehind'
    | minus => exact ⟨rfl, (List.cons.inj h).2⟩

theorem Whole.append_inj {text text' behind behind' : Text} {n n' : Rat} (hwhole : Whole text n)
    (hwhole' : Whole text' n') (hbehind : NoDigit behind) (hbehind' : NoDigit behind')
    (h : text ++ behind = text' ++ behind') : n = n' ∧ behind = behind' := by
  cases hwhole with
  | digits hdigits _ =>
    cases hwhole' with
    | digits hdigits' _ =>
      obtain ⟨rfl, hrest⟩ := hdigits.append_inj hdigits' hbehind hbehind' h
      exact ⟨rfl, hrest⟩

theorem Fraction.append_inj {text text' behind behind' : Text} {f f' : Rat}
    (hfraction : Fraction text f) (hfraction' : Fraction text' f') (hbehind : NoDigit behind)
    (hbehind' : NoDigit behind') (hpoint : behind.head? ≠ some '.')
    (hpoint' : behind'.head? ≠ some '.') (h : text ++ behind = text' ++ behind') :
    f = f' ∧ behind = behind' := by
  cases hfraction with
  | none =>
    cases hfraction' with
    | none => exact ⟨rfl, h⟩
    | digits _ =>
      rw [List.nil_append] at h
      rw [h] at hpoint
      exact absurd rfl hpoint
  | digits hdigits =>
    cases hfraction' with
    | none =>
      rw [List.nil_append] at h
      rw [← h] at hpoint'
      exact absurd rfl hpoint'
    | digits hdigits' =>
      obtain ⟨rfl, hrest⟩ := hdigits.append_inj hdigits' hbehind hbehind' (List.cons.inj h).2
      exact ⟨rfl, hrest⟩

theorem PowerSign.append_inj {text text' behind behind' : Text} {divides divides' : Bool}
    (hsign : PowerSign text divides) (hsign' : PowerSign text' divides')
    (hbehind : ∀ c ∈ behind.head?, c.isDigit = true)
    (hbehind' : ∀ c ∈ behind'.head?, c.isDigit = true)
    (h : text ++ behind = text' ++ behind') : divides = divides' ∧ behind = behind' := by
  -- a digit is neither of the signs that may stand in its place
  have hmissing : ∀ {sign : Char} {rest other : Text}, (∀ c ∈ rest.head?, c.isDigit = true) →
      rest = sign :: other → sign.isDigit = true := by
    intro sign rest other hdigit hrest
    rw [hrest] at hdigit
    exact hdigit sign rfl
  cases hsign with
  | unsigned =>
    cases hsign' with
    | unsigned => exact ⟨rfl, h⟩
    | plus => exact absurd (hmissing hbehind h) (by decide)
    | minus => exact absurd (hmissing hbehind h) (by decide)
  | plus =>
    cases hsign' with
    | unsigned => exact absurd (hmissing hbehind' h.symm) (by decide)
    | plus => exact ⟨rfl, (List.cons.inj h).2⟩
    | minus => exact absurd (List.cons.inj h).1 (by decide)
  | minus =>
    cases hsign' with
    | unsigned => exact absurd (hmissing hbehind' h.symm) (by decide)
    | plus => exact absurd (List.cons.inj h).1 (by decide)
    | minus => exact ⟨rfl, (List.cons.inj h).2⟩

theorem IsDigits.head?_append {text : Text} (htext : IsDigits text) (behind : Text) :
    ∀ c ∈ (text ++ behind).head?, c.isDigit = true := by
  obtain ⟨first, rest, rfl, hfirst⟩ := htext.exists_cons
  intro c hc
  obtain rfl : first = c := Option.some.inj hc
  exact hfirst

theorem EndsNumber.ne_of_power {behind rest : Text} {e : Char} (hbehind : EndsNumber behind)
    (he : e = 'e' ∨ e = 'E') : behind ≠ e :: rest := by
  rintro rfl
  rcases he with rfl | rfl
  · exact hbehind.power.1 rfl
  · exact hbehind.power.2 rfl

theorem Power.append_inj {text text' behind behind' : Text} {p p' : Rat} (hpower : Power text p)
    (hpower' : Power text' p') (hbehind : EndsNumber behind) (hbehind' : EndsNumber behind')
    (h : text ++ behind = text' ++ behind') : p = p' ∧ behind = behind' := by
  cases hpower with
  | none =>
    cases hpower' with
    | none => exact ⟨rfl, h⟩
    | digits he _ _ => exact absurd h (hbehind.ne_of_power he)
  | digits he hsign hdigits =>
    cases hpower' with
    | none => exact absurd h.symm (hbehind'.ne_of_power he)
    | digits _ hsign' hdigits' =>
      have hrest := (List.cons.inj h).2
      simp only [List.append_eq, List.append_assoc] at hrest
      obtain ⟨rfl, hpowers⟩ := hsign.append_inj hsign' (hdigits.head?_append behind)
        (hdigits'.head?_append behind') hrest
      obtain ⟨rfl, hbelow⟩ := hdigits.append_inj hdigits' hbehind.noDigit hbehind'.noDigit hpowers
      exact ⟨rfl, hbelow⟩

/-- No digit or point follows the fraction of a number. -/
theorem Power.head?_append {text behind : Text} {p : Rat} (hpower : Power text p)
    (hbehind : EndsNumber behind) :
    NoDigit (text ++ behind) ∧ (text ++ behind).head? ≠ some '.' := by
  cases hpower with
  | none => exact ⟨hbehind.noDigit, hbehind.point⟩
  | digits he _ _ =>
    refine ⟨?_, ?_⟩
    · intro c hc
      cases hc
      rcases he with rfl | rfl <;> decide
    · intro hpoint
      cases hpoint
      rcases he with he | he <;> exact absurd he (by decide)

theorem Fraction.head?_append {text behind : Text} {f : Rat} (hfraction : Fraction text f)
    (hbehind : NoDigit behind) : NoDigit (text ++ behind) := by
  cases hfraction with
  | none => exact hbehind
  | digits _ =>
    intro c hc
    cases hc
    decide

theorem Whole.head?_append {text behind : Text} {n : Rat} (hwhole : Whole text n) :
    ∀ c ∈ (text ++ behind).head?, c.isDigit = true := by
  cases hwhole with
  | digits hdigits _ => exact hdigits.head?_append behind

/-- A number is told from what follows it, if it could not go on there. -/
theorem Number.append_inj {text text' behind behind' : Text} {q q' : Rat}
    (hnumber : Number text q) (hnumber' : Number text' q') (hbehind : EndsNumber behind)
    (hbehind' : EndsNumber behind') (h : text ++ behind = text' ++ behind') :
    q = q' ∧ behind = behind' := by
  obtain ⟨hsign, hwhole, hfraction, hpower⟩ := hnumber
  obtain ⟨hsign', hwhole', hfraction', hpower'⟩ := hnumber'
  obtain ⟨hdigit, hpoint⟩ := hpower.head?_append hbehind
  obtain ⟨hdigit', hpoint'⟩ := hpower'.head?_append hbehind'
  have hminus : ∀ {whole rest : Text} {n : Rat}, Whole whole n →
      (whole ++ rest).head? ≠ some '-' := by
    intro whole rest n hfound hhead
    exact absurd (hfound.head?_append '-' hhead) (by decide)
  simp only [List.append_assoc] at h
  obtain ⟨rfl, hrest⟩ := hsign.append_inj hsign' (hminus hwhole) (hminus hwhole') h
  obtain ⟨rfl, hrest⟩ := hwhole.append_inj hwhole' (hfraction.head?_append hdigit)
    (hfraction'.head?_append hdigit') hrest
  obtain ⟨rfl, hrest⟩ := hfraction.append_inj hfraction' hdigit hdigit' hpoint hpoint' hrest
  obtain ⟨rfl, hrest⟩ := hpower.append_inj hpower' hbehind hbehind' hrest
  exact ⟨rfl, hrest⟩

/-! ### Strings are told from what follows them -/

theorem IsUnit.append_inj {digits digits' behind behind' : Text} {unit unit' : Nat}
    (hunit : IsUnit digits unit) (hunit' : IsUnit digits' unit')
    (h : digits ++ behind = digits' ++ behind') : unit = unit' ∧ behind = behind' := by
  obtain ⟨rfl, hbehind⟩ := List.append_inj h (hunit.length_eq.trans hunit'.length_eq.symm)
  exact ⟨hunit.value_eq.symm.trans hunit'.value_eq, hbehind⟩

/-- Halves of code points are the numbers of no characters. -/
theorem toNat_not_half (c : Char) : ¬ (0xD800 ≤ c.toNat ∧ c.toNat < 0xDC00) := by
  have hvalid := c.valid
  intro hhalf
  rcases hvalid with hsmall | ⟨hlarge, -⟩
  · exact absurd (Nat.lt_of_le_of_lt hhalf.1 hsmall) (by decide)
  · exact absurd (Nat.lt_trans hlarge hhalf.2) (by decide)

theorem CodePoint.append_inj {form form' behind behind' : Text} {c c' : Char}
    (hform : CodePoint form c) (hform' : CodePoint form' c')
    (h : form ++ behind = form' ++ behind') : c = c' ∧ behind = behind' := by
  cases hform with
  | whole hunit =>
    cases hform' with
    | whole hunit' =>
      obtain ⟨hvalue, hbehind⟩ := hunit.append_inj hunit' h
      exact ⟨Char.toNat_inj.1 hvalue, hbehind⟩
    | halves hhigh _ hge hlt _ _ _ =>
      rw [List.append_assoc] at h
      obtain ⟨hvalue, -⟩ := hunit.append_inj hhigh h
      exact absurd ⟨hvalue ▸ hge, hvalue ▸ hlt⟩ (toNat_not_half c)
  | halves hhigh hlow hge hlt _ _ hc =>
    cases hform' with
    | whole hunit' =>
      rw [List.append_assoc] at h
      obtain ⟨hvalue, -⟩ := hhigh.append_inj hunit' h
      exact absurd ⟨hvalue ▸ hge, hvalue ▸ hlt⟩ (toNat_not_half c')
    | halves hhigh' hlow' _ _ _ _ hc' =>
      simp only [List.append_assoc, List.cons_append] at h
      obtain ⟨rfl, hrest⟩ := hhigh.append_inj hhigh' h
      obtain ⟨rfl, hbehind⟩ := hlow.append_inj hlow' (List.cons.inj (List.cons.inj hrest).2).2
      exact ⟨Char.toNat_inj.1 (hc.trans hc'.symm), hbehind⟩

theorem escapes_inj {letter c c' : Char} (hmem : (letter, c) ∈ escapes)
    (hmem' : (letter, c') ∈ escapes) : c = c' := by
  have hnodup : (escapes.map Prod.fst).Nodup := by decide
  exact congrArg Prod.snd (List.inj_on_of_nodup_map hnodup hmem hmem' rfl)

theorem escapes_ne {letter c : Char} (hmem : (letter, c) ∈ escapes) : letter ≠ 'u' := by
  have hplain : 'u' ∉ escapes.map Prod.fst := by decide
  rintro rfl
  exact hplain (List.mem_map_of_mem hmem)

namespace Character

variable {form form' behind behind' : Text} {c c' : Char}

/-- What is written for a character does not start as the closing quote does. -/
theorem exists_cons (hform : Character form c) :
    ∃ first rest, form = first :: rest ∧ first ≠ '"' := by
  cases hform with
  | plain _ hquote _ => exact ⟨c, [], rfl, hquote⟩
  | escaped _ => exact ⟨'\\', _, rfl, by decide⟩
  | codePoint _ => exact ⟨'\\', _, rfl, by decide⟩

theorem append_inj (hform : Character form c) (hform' : Character form' c')
    (h : form ++ behind = form' ++ behind') : c = c' ∧ behind = behind' := by
  cases hform with
  | plain _ _ hne =>
    cases hform' with
    | plain _ _ _ => exact List.cons.inj h
    | escaped _ => exact absurd (List.cons.inj h).1 hne
    | codePoint _ => exact absurd (List.cons.inj h).1 hne
  | escaped hmem =>
    cases hform' with
    | plain _ _ hne => exact absurd (List.cons.inj h).1.symm hne
    | escaped hmem' =>
      obtain ⟨rfl, hbehind⟩ := List.cons.inj (List.cons.inj h).2
      exact ⟨escapes_inj hmem hmem', hbehind⟩
    | codePoint _ => exact absurd (List.cons.inj (List.cons.inj h).2).1 (escapes_ne hmem)
  | codePoint hpoint =>
    cases hform' with
    | plain _ _ hne => exact absurd (List.cons.inj h).1.symm hne
    | escaped hmem' =>
      exact absurd (List.cons.inj (List.cons.inj h).2).1.symm (escapes_ne hmem')
    | codePoint hpoint' =>
      exact hpoint.append_inj hpoint' (List.cons.inj (List.cons.inj h).2).2

end Character

/-- The closing quote tells where the characters of a string end. -/
theorem Characters.append_inj {body body' content content' behind behind' : Text}
    (hbody : Characters body content) (hbody' : Characters body' content')
    (h : body ++ '"' :: behind = body' ++ '"' :: behind') :
    content = content' ∧ behind = behind' := by
  induction hbody generalizing body' content' with
  | nil =>
    cases hbody' with
    | nil => exact ⟨rfl, (List.cons.inj h).2⟩
    | cons hform _ =>
      obtain ⟨first, rest, rfl, hne⟩ := hform.exists_cons
      exact absurd (List.cons.inj h).1.symm hne
  | cons hform _ ih =>
    cases hbody' with
    | nil =>
      obtain ⟨first, rest, rfl, hne⟩ := hform.exists_cons
      exact absurd (List.cons.inj h).1 hne
    | cons hform' hrest' =>
      rw [List.append_assoc, List.append_assoc] at h
      obtain ⟨rfl, hrest⟩ := hform.append_inj hform' h
      obtain ⟨rfl, hbehind⟩ := ih hrest' hrest
      exact ⟨rfl, hbehind⟩

end PermissionSchema.Json
