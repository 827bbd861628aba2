import PermissionSchema.Text.Classes
import PermissionSchema.Token.Kind

/-!
# Scanning steps

A token is scanned in at most three steps: blanks before it, then its first step, then the body of a
string or block comment. A step looks only at the text that is left: it passes some characters, says
what becomes of them, and in which mode to go on. One scanner per family of tokens counts the
characters. A step passes no more than there is (`Scan.length_le`), and at least one character
unless it ends the token stream (`Scan.length_pos`).
-/

namespace PermissionSchema

/-- What the scanner is in the middle of. -/
inductive Mode where
  | top
  | string
  /-- Behind the opening `/*` of a comment, which is a doc comment if it opened with `/**`. -/
  | comment (doc : Bool)
  deriving DecidableEq, Repr

/-- What becomes of the characters that a step passes. -/
inductive Action where
  /-- They belong to no token; the next token starts behind them. -/
  | skip
  /-- They belong to a token that goes on. -/
  | resume
  /-- They complete a token. -/
  | emit (kind : Kind)
  deriving DecidableEq, Repr

/-- One step over the text that is left. -/
structure Scan where
  /-- How many characters the step passes. -/
  length : Nat
  action : Action
  /-- The mode of the step after this one. -/
  next : Mode
  deriving DecidableEq, Repr

namespace Scan

/-- A token of the given kind ends after `length` characters. -/
def emit (length : Nat) (kind : Kind) : Scan := ⟨length, .emit kind, .top⟩

/-- The next character starts no token. -/
def unexpected (c : Char) : Scan := emit 1 (.error (.unexpectedCharacter c))

/-! ### Bodies -/

/-- Counts the characters up to the end of the first `*/`, from `count` on. -/
def throughClose? : (count : Nat) → Text → Option Nat
  | _, [] => none
  | count, '*' :: '/' :: _ => some (count + 2)
  | count, _ :: rest => throughClose? (count + 1) rest

/-- The body of a block comment reaches through the first `*/`; comments do not nest. -/
def commentBody (doc : Bool) (rest : Text) : Scan :=
  match throughClose? 0 rest with
  | some length => emit length (if doc then .docComment else .blockComment)
  | none => emit rest.length (.error .unterminatedComment)

/-- Counts the characters of a string's body, from `count` on, and says whether it is closed. It
    ends behind the first quote that no backslash escapes, or before the end of the line. -/
def throughQuote : (count : Nat) → Text → Nat × Bool
  | count, [] => (count, false)
  | count, '\n' :: _ => (count, false)
  | count, '"' :: _ => (count + 1, true)
  | count, ['\\'] => (count + 1, false)
  | count, '\\' :: '\n' :: _ => (count + 1, false)
  | count, '\\' :: _ :: rest => throughQuote (count + 2) rest
  | count, _ :: rest => throughQuote (count + 1) rest

def stringBody (rest : Text) : Scan :=
  let (length, closed) := throughQuote 0 rest
  emit length (if closed then .string else .error .unterminatedString)

/-! ### First steps -/

def blanks (rest : Text) : Scan := ⟨(rest.takeWhile isBlank).length, .skip, .top⟩

/-- A line comment ends before the end of its line. -/
def lineComment (rest : Text) : Scan := emit (rest.takeWhile (· != '\n')).length .lineComment

/-- The opening `/*` of a comment, and what follows it. `/**/` is empty and documents nothing. -/
def commentOpening (body : Text) : Scan :=
  ⟨2, .resume, .comment (body.head? = some '*' && body[1]? ≠ some '/')⟩

/-- A slash only ever starts a comment. -/
def slash (rest : Text) : Scan :=
  match rest with
  | _ :: '/' :: _ => lineComment rest
  | _ :: '*' :: body => commentOpening body
  | _ => unexpected '/'

/-- The longest run of name characters: a keyword, or else an identifier. -/
def name (rest : Text) : Scan :=
  let run := rest.takeWhile continuesName
  emit run.length (match Keyword.ofSpelling? run with
    | some k => .keyword k
    | none => .identifier)

/-- The operators and punctuation marks, the longest first: the kind and the number of characters
    of the one that starts the text. `|` and `&` only occur doubled. -/
def symbol? : Text → Option (Kind × Nat)
  | '=' :: '>' :: _ => some (.arrow, 2)
  | '=' :: '=' :: _ => some (.equal, 2)
  | '=' :: _ => some (.assign, 1)
  | '!' :: '=' :: _ => some (.notEqual, 2)
  | '!' :: _ => some (.not, 1)
  | '|' :: '|' :: _ => some (.or, 2)
  | '&' :: '&' :: _ => some (.and, 2)
  | '{' :: _ => some (.leftBrace, 1)
  | '}' :: _ => some (.rightBrace, 1)
  | '(' :: _ => some (.leftParen, 1)
  | ')' :: _ => some (.rightParen, 1)
  | '[' :: _ => some (.leftBracket, 1)
  | ']' :: _ => some (.rightBracket, 1)
  | ',' :: _ => some (.comma, 1)
  | ':' :: _ => some (.colon, 1)
  | '.' :: _ => some (.dot, 1)
  | _ => none

/-- The first step of a token that starts with `c`; blanks come before any token. -/
def first (c : Char) (rest : Text) : Scan :=
  if isBlank c then blanks rest
  else if c = '/' then slash rest
  else if c = '"' then ⟨1, .resume, .string⟩
  else if startsName c then name rest
  else match symbol? rest with
    | some (kind, length) => emit length kind
    | none => unexpected c

/-- One step over the text that is left, in the given mode. -/
def ofText : Mode → Text → Scan
  | .top, [] => emit 0 .endOfInput
  | .top, c :: rest => first c (c :: rest)
  | .string, rest => stringBody rest
  | .comment doc, rest => commentBody doc rest

/-! ### Bounds -/

private theorem throughClose?_le {count length : Nat} {rest : Text}
    (h : throughClose? count rest = some length) :
    count + 2 ≤ length ∧ length ≤ count + rest.length := by
  fun_induction throughClose? count rest with
  | case1 => simp at h
  | case2 => simp at h; simp; omega
  | case3 count c rest _ ih => have := ih h; simp; omega

private theorem throughQuote_le (count : Nat) (rest : Text) :
    count ≤ (throughQuote count rest).1 ∧ (throughQuote count rest).1 ≤ count + rest.length := by
  fun_induction throughQuote count rest <;> simp_all <;> omega

private theorem throughQuote_closed {count : Nat} {rest : Text}
    (h : (throughQuote count rest).2 = true) : count < (throughQuote count rest).1 := by
  fun_induction throughQuote count rest <;> simp_all <;> omega

private theorem symbol?_bounds {rest : Text} {kind : Kind} {length : Nat}
    (h : symbol? rest = some (kind, length)) : 0 < length ∧ length ≤ rest.length := by
  fun_cases symbol? rest <;> simp_all [symbol?] <;> omega

private theorem length_takeWhile_le (p : Char → Bool) (rest : Text) :
    (rest.takeWhile p).length ≤ rest.length := (List.takeWhile_prefix p).length_le

theorem first_bounds (c : Char) (rest : Text) :
    0 < (first c (c :: rest)).length ∧ (first c (c :: rest)).length ≤ rest.length + 1 := by
  unfold first
  split
  · next hblank =>
    exact ⟨by simp [blanks, hblank], length_takeWhile_le isBlank (c :: rest)⟩
  split
  · next hslash =>
    subst hslash
    unfold slash
    split
    · next h =>
      obtain ⟨-, rfl⟩ : _ ∧ _ := by simpa using h
      exact ⟨by simp [lineComment, emit],
        by simpa [lineComment, emit] using length_takeWhile_le (· != '\n') _⟩
    · next h =>
      obtain ⟨-, rfl⟩ : _ ∧ _ := by simpa using h
      simp [commentOpening]
    · simp [unexpected, emit]
  split
  · simp
  split
  · next hname =>
    exact ⟨by simp [name, emit, continuesName_of_startsName hname],
      by simpa [name, emit] using length_takeWhile_le continuesName (c :: rest)⟩
  split
  · next h => simpa [emit] using symbol?_bounds h
  · simp [unexpected, emit]

/-- A step passes no more than there is. -/
theorem length_le (mode : Mode) (rest : Text) : (ofText mode rest).length ≤ rest.length := by
  unfold ofText
  split
  · simp [emit]
  · simpa using (first_bounds _ _).2
  · simpa [stringBody, emit] using (throughQuote_le 0 rest).2
  · unfold commentBody
    split
    · next h => simpa [emit] using (throughClose?_le h).2
    · simp [emit]

/-- Every step passes a character, unless it ends the token stream. -/
theorem length_pos {mode : Mode} {rest : Text}
    (h : ∀ kind, (ofText mode rest).action = .emit kind → kind.isTerminal = false) :
    0 < (ofText mode rest).length := by
  unfold ofText at h ⊢
  split at h
  · simp [emit, Kind.isTerminal] at h
  · exact (first_bounds _ _).1
  · simp only [stringBody, emit] at h ⊢
    split at h
    · next hclosed => exact throughQuote_closed hclosed
    · simp [Kind.isTerminal] at h
  · unfold commentBody at h ⊢
    split at h
    · next hclose => have := throughClose?_le hclose; simp [emit]; omega
    · simp [emit, Kind.isTerminal] at h

end Scan

/-- One step over a source text from a place in it. -/
structure Step where
  /-- The byte offset behind the characters that the step passes. -/
  stop : Nat
  action : Action
  next : Mode
  deriving DecidableEq, Repr

/-- The scan of what is left at a byte offset, told by where it ends. -/
def Scan.stepFrom (scan : Scan) (offset : Nat) (rest : Text) : Step :=
  ⟨offset + Text.size (rest.take scan.length), scan.action, scan.next⟩

/-- One step from a byte offset of a source text, which must be a boundary of it. -/
def step (source : Text) (offset : Nat) (mode : Mode) : Step :=
  let rest := source.dropBytes offset
  (Scan.ofText mode rest).stepFrom offset rest

end PermissionSchema
