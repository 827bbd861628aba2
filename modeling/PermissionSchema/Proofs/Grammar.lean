import PermissionSchema.Token.Step
import Mathlib.Data.List.Infix
import Mathlib.Data.List.TakeWhile

/-!
# The lexical grammar

What the tokens of a text are, said by its prefixes and not by scanners. `Lexeme rest kind text`
tells the token at the head of a text without blanks before it, family by family; `Reading`
repeats it over a whole text, with the longest run of blanks before each token, up to the first
token that ends the stream. The longest and the shortest prefix with a property are unique
(`Longest.unique`, `Shortest.unique`), and this is what makes the grammar unambiguous.
-/

namespace PermissionSchema

/-- `text` is the longest prefix of `rest` that has the property. -/
structure Longest (property : Text → Prop) (rest text : Text) : Prop where
  isPrefix : text <+: rest
  holds : property text
  length_le : ∀ other, other <+: rest → property other → other.length ≤ text.length

/-- `text` is the shortest prefix of `rest` that has the property. -/
structure Shortest (property : Text → Prop) (rest text : Text) : Prop where
  isPrefix : text <+: rest
  holds : property text
  le_length : ∀ other, other <+: rest → property other → text.length ≤ other.length

/-- Two prefixes of one text are equal as soon as they are equally long. -/
theorem eq_of_isPrefix_of_length_eq {rest left right : Text} (hleft : left <+: rest)
    (hright : right <+: rest) (hlength : left.length = right.length) : left = right :=
  (List.prefix_of_prefix_length_le hleft hright hlength.le).eq_of_length hlength

theorem Longest.unique {property : Text → Prop} {rest left right : Text}
    (hleft : Longest property rest left) (hright : Longest property rest right) : left = right := by
  apply eq_of_isPrefix_of_length_eq hleft.isPrefix hright.isPrefix
  exact Nat.le_antisymm (hright.length_le left hleft.isPrefix hleft.holds)
    (hleft.length_le right hright.isPrefix hright.holds)

/-- A shorter prefix with the property stands inside the longest one. -/
theorem Longest.isPrefix_of_holds {property : Text → Prop} {rest text other : Text}
    (hlongest : Longest property rest text) (hother : other <+: rest) (hholds : property other) :
    other <+: text :=
  List.prefix_of_prefix_length_le hother hlongest.isPrefix
    (hlongest.length_le other hother hholds)

theorem Shortest.unique {property : Text → Prop} {rest left right : Text}
    (hleft : Shortest property rest left) (hright : Shortest property rest right) :
    left = right := by
  apply eq_of_isPrefix_of_length_eq hleft.isPrefix hright.isPrefix
  exact Nat.le_antisymm (hleft.le_length right hright.isPrefix hright.holds)
    (hright.le_length left hleft.isPrefix hleft.holds)

/-- The longest prefix whose characters all satisfy a test is found by taking while it holds. -/
theorem longest_takeWhile (test : Char → Bool) (rest : Text) :
    Longest (fun text => ∀ c ∈ text, test c = true) rest (rest.takeWhile test) where
  isPrefix := List.takeWhile_prefix test
  holds := fun _ hmem => List.mem_takeWhile_imp hmem
  length_le := by
    rintro other ⟨behind, rfl⟩ hother
    rw [List.takeWhile_append_of_pos hother, List.length_append]
    exact Nat.le_add_right _ _

/-- Taking while a test holds stops where a run is followed by a character that fails it. -/
theorem takeWhile_append_eq {test : Char → Bool} {text behind : Text}
    (htext : ∀ c ∈ text, test c = true) (hstop : ∀ c ∈ behind.head?, test c = false) :
    (text ++ behind).takeWhile test = text := by
  rw [List.takeWhile_append_of_pos htext]
  cases behind with
  | nil => simp
  | cons c rest =>
    have htest : test c = false := hstop c rfl
    simp [htest]

/-- A run of characters that satisfy a test is told from what follows it. -/
theorem run_append_inj {test : Char → Bool} {text behind text' behind' : Text}
    (htext : ∀ c ∈ text, test c = true) (hstop : ∀ c ∈ behind.head?, test c = false)
    (htext' : ∀ c ∈ text', test c = true) (hstop' : ∀ c ∈ behind'.head?, test c = false)
    (h : text ++ behind = text' ++ behind') : text = text' ∧ behind = behind' := by
  have hruns : text = text' := by
    rw [← takeWhile_append_eq htext hstop, h, takeWhile_append_eq htext' hstop']
  subst hruns
  exact ⟨rfl, List.append_cancel_left h⟩

/-- A character that fails a test stops every run of characters that satisfy it. -/
theorem head?_cons_stops {test : Char → Bool} {c : Char} (hc : test c = false) (rest : Text) :
    ∀ d ∈ (c :: rest).head?, test d = false := by
  intro d hd
  obtain rfl : c = d := Option.some.inj hd
  exact hc

/-- A text without a delimiter is told from the delimiter and what follows it. -/
theorem delimited_append_inj {delimiter : Char} {text text' behind behind' : Text}
    (htext : delimiter ∉ text) (htext' : delimiter ∉ text')
    (h : text ++ delimiter :: behind = text' ++ delimiter :: behind') :
    text = text' ∧ behind = behind' := by
  have hplain : ∀ run : Text, delimiter ∉ run → ∀ c ∈ run, (c != delimiter) = true := by
    intro run hrun c hmem
    have hne : c ≠ delimiter := fun hc => hrun (hc ▸ hmem)
    simpa using hne
  have hstop : ∀ rest : Text, ∀ c ∈ (delimiter :: rest).head?, (c != delimiter) = false :=
    head?_cons_stops (by simp)
  obtain ⟨htexts, hbehind⟩ := run_append_inj (hplain text htext) (hstop behind)
    (hplain text' htext') (hstop behind') h
  exact ⟨htexts, (List.cons.inj hbehind).2⟩

/-! ### Families of tokens -/

/-- From `/*` through a `*/` that does not share a character with it. -/
def IsClosedComment (text : Text) : Prop := ∃ body, text = ['/', '*'] ++ body ++ ['*', '/']

/-- Documentation opens with `/**`; the empty comment `/**/` documents nothing. -/
def IsDocumentation (text : Text) : Prop :=
  ['/', '*', '*'] <+: text ∧ text ≠ ['/', '*', '*', '/']

instance (text : Text) : Decidable (IsDocumentation text) :=
  inferInstanceAs (Decidable (_ ∧ _))

/-- The inside of a string: plain characters, and backslashes each with the character that it
    escapes. Neither a plain nor an escaped character ends the line. -/
inductive StringBody : Text → Prop
  | nil : StringBody []
  | plain {c : Char} {body : Text} : c ≠ '"' → c ≠ '\\' → c ≠ '\n' → StringBody body →
      StringBody (c :: body)
  | escaped {c : Char} {body : Text} : c ≠ '\n' → StringBody body → StringBody ('\\' :: c :: body)

/-- A string with both its quotes. -/
def IsString (text : Text) : Prop := ∃ body, StringBody body ∧ text = ['"'] ++ body ++ ['"']

/-- The operators and punctuation marks with their kinds. -/
def marks : List (Text × Kind) :=
  [(['=', '>'], .arrow), (['=', '='], .equal), (['='], .assign), (['!', '='], .notEqual),
    (['!'], .not), (['|', '|'], .or), (['&', '&'], .and), (['{'], .leftBrace),
    (['}'], .rightBrace), (['('], .leftParen), ([')'], .rightParen), (['['], .leftBracket),
    ([']'], .rightBracket), ([','], .comma), ([':'], .colon), (['.'], .dot)]

def IsMark (text : Text) : Prop := ∃ kind, (text, kind) ∈ marks

/-- The token at the head of a text without blanks before it: its kind and its characters. -/
inductive Lexeme : (rest : Text) → (kind : Kind) → (text : Text) → Prop
  | endOfInput : Lexeme [] .endOfInput []
  | lineComment {rest text : Text} : ['/', '/'] <+: rest → Longest (fun t => '\n' ∉ t) rest text →
      Lexeme rest .lineComment text
  | blockComment {rest text : Text} : Shortest IsClosedComment rest text →
      ¬ IsDocumentation text → Lexeme rest .blockComment text
  | docComment {rest text : Text} : Shortest IsClosedComment rest text →
      IsDocumentation text → Lexeme rest .docComment text
  | unterminatedComment {rest : Text} : ['/', '*'] <+: rest →
      (∀ text, text <+: rest → ¬ IsClosedComment text) →
      Lexeme rest (.error .unterminatedComment) rest
  | string {rest text : Text} : text <+: rest → IsString text → Lexeme rest .string text
  | unterminatedString {rest text : Text} : ['"'] <+: rest →
      (∀ other, other <+: rest → ¬ IsString other) → Longest (fun t => '\n' ∉ t) rest text →
      Lexeme rest (.error .unterminatedString) text
  | keyword {c : Char} {rest : Text} {k : Keyword} : startsName c = true →
      Longest (fun t => ∀ d ∈ t, continuesName d = true) (c :: rest) k.spelling.toList →
      Lexeme (c :: rest) (.keyword k) k.spelling.toList
  | identifier {c : Char} {rest text : Text} : startsName c = true →
      Longest (fun t => ∀ d ∈ t, continuesName d = true) (c :: rest) text →
      (∀ k : Keyword, k.spelling.toList ≠ text) → Lexeme (c :: rest) .identifier text
  | mark {rest text : Text} {kind : Kind} : Longest IsMark rest text → (text, kind) ∈ marks →
      Lexeme rest kind text
  | unexpected {c : Char} {rest : Text} : isBlank c = false → startsName c = false → c ≠ '"' →
      ¬ ['/', '/'] <+: c :: rest → ¬ ['/', '*'] <+: c :: rest →
      (∀ text, IsMark text → ¬ text <+: c :: rest) →
      Lexeme (c :: rest) (.error (.unexpectedCharacter c)) [c]

/-- `gap` is all the blanks before `rest`. -/
structure IsGap (gap rest : Text) : Prop where
  blank : ∀ c ∈ gap, isBlank c = true
  maximal : ∀ c ∈ rest.head?, isBlank c = false

/-- The kinds and texts of the tokens of a text, up to the first that ends the stream. -/
inductive Reading : Text → List (Kind × Text) → Prop
  | last {gap rest text : Text} {kind : Kind} : IsGap gap rest → Lexeme rest kind text →
      kind.isTerminal = true → Reading (gap ++ rest) [(kind, text)]
  | more {gap text behind : Text} {kind : Kind} {stream : List (Kind × Text)} :
      IsGap gap (text ++ behind) → Lexeme (text ++ behind) kind text → kind.isTerminal = false →
      Reading behind stream → Reading (gap ++ (text ++ behind)) ((kind, text) :: stream)

end PermissionSchema
