import PermissionSchema.Log.Event
import PermissionSchema.Source.Cursor
import PermissionSchema.Token.Basic
import PermissionSchema.Token.Step

/-!
# Lexers

A `Lexer` hands out the tokens of one source text, one at a time and on demand. It can look one
token ahead (`peek`), and it can be drained as an iterator (`next?`), which ends after the terminal
token. Pulls after the terminal token (`next`) return that token again. The measure `left` bounds
how many tokens an iterator still yields; `left_lt_of_next?` is what the functions that drain one
rest on.
-/

namespace PermissionSchema

structure Lexer where
  sourceName : String
  /-- Where the token in the making starts. -/
  start : Cursor
  /-- How far the text has been scanned. -/
  cursor : Cursor
  mode : Mode
  /-- The token that `peek` has looked at and `next` has yet to return. -/
  peeked : Option Token
  /-- The token that ended the stream, once it has been scanned. -/
  terminal : Option Token
  /-- The iterator has yielded the terminal token. -/
  exhausted : Bool
  /-- What the lexer has reported so far, oldest first. -/
  log : List LogEvent
  terminal_isTerminal : ∀ token ∈ terminal, token.kind.isTerminal = true

/-- What a lexer reports when it meets the end of its stream. -/
def LogEvent.ofTerminal (sourceName : String) (token : Token) : LogEvent :=
  match token.kind with
  | .error fault => .lexingStopped sourceName token.span.line token.span.column fault
  | _ => .inputEnded sourceName token.span.start token.span.line

namespace Lexer

/-- A lexer before the first character of a named source text. -/
def ofSource (sourceName : String) (source : Text) : Lexer where
  sourceName := sourceName
  start := .ofText source
  cursor := .ofText source
  mode := .top
  peeked := none
  terminal := none
  exhausted := false
  log := []
  terminal_isTerminal := by simp

def source (lexer : Lexer) : Text := lexer.cursor.source

/-! ### Scanning one token -/

/-- Take one step. Skipped text belongs to no token, so the next token starts behind it. -/
def step (lexer : Lexer) : Action × Lexer :=
  let rest := lexer.cursor.remaining
  let step := (Scan.ofText lexer.mode rest).stepFrom lexer.cursor.place.offset rest
  let cursor := lexer.cursor.advanceTo step.stop
  (step.action,
    { lexer with
      cursor
      mode := step.next
      start := if step.action = .skip then cursor else lexer.start })

/-- The token of the given kind that ends at the cursor. -/
def token (lexer : Lexer) (kind : Kind) : Token :=
  ⟨kind, lexer.start.textTo lexer.cursor, .between lexer.start.place lexer.cursor.place⟩

/-- Complete a token at the cursor. A terminal token is kept and reported. -/
def finish (lexer : Lexer) (kind : Kind) : Token × Lexer :=
  if h : kind.isTerminal = true then
    (lexer.token kind,
      { lexer with
        start := lexer.cursor
        terminal := some (lexer.token kind)
        log := lexer.log ++ [.ofTerminal lexer.sourceName (lexer.token kind)]
        terminal_isTerminal := fun _ heq => Option.some.inj heq ▸ h })
  else
    (lexer.token kind, { lexer with start := lexer.cursor })

section

variable (lexer : Lexer) (kind : Kind)

@[simp] theorem finish_token : (lexer.finish kind).1 = lexer.token kind := by
  unfold finish
  split <;> rfl

@[simp] theorem finish_start : (lexer.finish kind).2.start = lexer.cursor := by
  unfold finish
  split <;> rfl

@[simp] theorem finish_cursor : (lexer.finish kind).2.cursor = lexer.cursor := by
  unfold finish
  split <;> rfl

@[simp] theorem finish_mode : (lexer.finish kind).2.mode = lexer.mode := by
  unfold finish
  split <;> rfl

@[simp] theorem finish_peeked : (lexer.finish kind).2.peeked = lexer.peeked := by
  unfold finish
  split <;> rfl

@[simp] theorem finish_exhausted : (lexer.finish kind).2.exhausted = lexer.exhausted := by
  unfold finish
  split <;> rfl

theorem finish_terminal : (lexer.finish kind).2.terminal =
    if kind.isTerminal = true then some (lexer.token kind) else lexer.terminal := by
  unfold finish
  split <;> simp_all

end

theorem step_action (lexer : Lexer) :
    lexer.step.1 = (Scan.ofText lexer.mode lexer.cursor.remaining).action := rfl

/-- A step moves the cursor over the characters that its scan passes. -/
theorem step_cursor (lexer : Lexer) :
    lexer.step.2.cursor =
      lexer.cursor.move (Scan.ofText lexer.mode lexer.cursor.remaining).length :=
  lexer.cursor.advanceTo_size_take (Scan.length_le _ _)

/-- A step leaves less text, unless it ends the stream. -/
theorem remaining_step_lt (lexer : Lexer)
    (h : ∀ kind, lexer.step.1 = .emit kind → kind.isTerminal = false) :
    lexer.step.2.cursor.remaining.length < lexer.cursor.remaining.length := by
  have hpos := Scan.length_pos h
  have hle := Scan.length_le lexer.mode lexer.cursor.remaining
  rw [step_cursor, Cursor.move_remaining, List.length_drop]
  omega

/-- Take steps until one completes a token. -/
def scan (lexer : Lexer) : Token × Lexer :=
  match _ : lexer.step with
  | (.emit kind, lexer') => lexer'.finish kind
  | (.skip, lexer') => lexer'.scan
  | (.resume, lexer') => lexer'.scan
  termination_by lexer.cursor.remaining.length
  decreasing_by
    all_goals
      rename_i hstep
      simpa [hstep] using remaining_step_lt lexer (by simp [hstep])

/-- The next token of the text; behind the terminal token there is none but itself. -/
def scanToken (lexer : Lexer) : Token × Lexer :=
  match lexer.terminal with
  | some token => (token, lexer)
  | none => lexer.scan

/-! ### Pulling tokens -/

/-- Pull the next token. Once it is the terminal token, every further pull returns it again. -/
def next (lexer : Lexer) : Token × Lexer :=
  match lexer.peeked with
  | some token => (token, { lexer with peeked := none })
  | none => lexer.scanToken

/-- The token that `next` will return. -/
def peek (lexer : Lexer) : Token × Lexer :=
  match lexer.peeked with
  | some token => (token, lexer)
  | none =>
    let (token, lexer') := lexer.scanToken
    (token, { lexer' with peeked := some token })

/-- Pull the next token as an iterator does: nothing follows the terminal token. -/
def next? (lexer : Lexer) : Option (Token × Lexer) :=
  if lexer.exhausted then none
  else
    let (token, lexer') := lexer.next
    some (token, { lexer' with exhausted := token.kind.isTerminal })

/-! ### Draining -/

/-- A bound on the number of tokens that `next?` still yields. -/
def left (lexer : Lexer) : Nat :=
  if lexer.exhausted then 0
  else lexer.cursor.remaining.length + (if lexer.peeked.isSome then 1 else 0) + 1

private theorem scan_left (lexer : Lexer) :
    lexer.scan.2.peeked = lexer.peeked ∧
      (lexer.scan.1.kind.isTerminal = false →
        lexer.scan.2.cursor.remaining.length < lexer.cursor.remaining.length) := by
  have hpeeked : lexer.step.2.peeked = lexer.peeked := rfl
  fun_induction scan lexer with
  | case1 lexer kind lexer' hstep =>
    rw [hstep] at hpeeked
    refine ⟨(finish_peeked lexer' kind).trans hpeeked, fun hkind => ?_⟩
    have hkind' : kind.isTerminal = false := by rwa [finish_token] at hkind
    rw [finish_cursor]
    simpa [hstep] using remaining_step_lt lexer (by simpa [hstep] using hkind')
  | case2 lexer lexer' hstep ih | case3 lexer lexer' hstep ih =>
    rw [hstep] at hpeeked
    refine ⟨(ih rfl).1.trans hpeeked, fun hkind => Nat.lt_trans ((ih rfl).2 hkind) ?_⟩
    simpa [hstep] using remaining_step_lt lexer (by simp [hstep])

/-- A pull that does not end the stream leaves less text, or takes a peeked token. -/
private theorem next_left {lexer : Lexer} (hkind : lexer.next.1.kind.isTerminal = false) :
    lexer.next.2.cursor.remaining.length + (if lexer.next.2.peeked.isSome then 1 else 0) <
      lexer.cursor.remaining.length + (if lexer.peeked.isSome then 1 else 0) := by
  unfold next at hkind ⊢
  split at hkind
  · next hpeeked => simp [hpeeked]
  · next hpeeked =>
    unfold scanToken at hkind ⊢
    split at hkind
    · next hterminal =>
      simp [lexer.terminal_isTerminal _ hterminal] at hkind
    · next hterminal =>
      obtain ⟨hpeeked', hlt⟩ := lexer.scan_left
      have := hlt hkind
      simp [hpeeked, hpeeked']
      omega

/-- Each token that the iterator yields brings its end nearer. -/
theorem left_lt_of_next? {lexer lexer' : Lexer} {token : Token}
    (h : lexer.next? = some (token, lexer')) : lexer'.left < lexer.left := by
  unfold next? at h
  split at h
  · simp at h
  · next hexhausted =>
    obtain ⟨rfl, rfl⟩ := by simpa using h
    cases hkind : lexer.next.1.kind.isTerminal with
    | true => simp [left, hexhausted]
    | false => simpa [left, hexhausted] using next_left hkind

/-- All that the iterator still yields, behind the tokens found so far, which are given in reverse;
    and the lexer that is left. -/
def drainOnto (found : List Token) (lexer : Lexer) : List Token × Lexer :=
  match _ : lexer.next? with
  | none => (found.reverse, lexer)
  | some (token, lexer') => drainOnto (token :: found) lexer'
  termination_by lexer.left
  decreasing_by exact left_lt_of_next? ‹_›

def drain (lexer : Lexer) : List Token × Lexer := drainOnto [] lexer

/-- The tokens that the iterator still yields before the end of input, behind the tokens found so
    far, which are given in reverse. The first error stops the iteration and is the result. -/
def collectOnto (sourceName : String) (found : List Token) (lexer : Lexer) :
    Except LexicalError (List Token) :=
  match _ : lexer.next? with
  | none => .ok found.reverse
  | some (token, lexer') =>
    match token.kind with
    | .endOfInput => .ok found.reverse
    | .error fault => .error ⟨fault, sourceName, token.span⟩
    | _ => collectOnto sourceName (token :: found) lexer'
  termination_by lexer.left
  decreasing_by exact left_lt_of_next? ‹_›

end Lexer

structure CommentFree where
  lexer : Lexer

def Lexer.skipComments (lexer : Lexer) : CommentFree := ⟨lexer⟩

namespace CommentFree

def next? (kept : CommentFree) : Option (Token × CommentFree) :=
  match _ : kept.lexer.next? with
  | none => none
  | some (token, lexer) =>
    if token.kind.isComment then next? ⟨lexer⟩ else some (token, ⟨lexer⟩)
  termination_by kept.lexer.left
  decreasing_by exact Lexer.left_lt_of_next? ‹_›

/-- Passing over comments brings the end nearer as well. -/
theorem left_lt_of_next? {kept kept' : CommentFree} {token : Token}
    (h : kept.next? = some (token, kept')) : kept'.lexer.left < kept.lexer.left := by
  fun_induction next? kept with
  | case1 => simp at h
  | case2 kept token' lexer hnext hcomment ih =>
    exact Nat.lt_trans (ih h) (Lexer.left_lt_of_next? hnext)
  | case3 kept token' lexer hnext hcomment =>
    obtain ⟨rfl, rfl⟩ := by simpa using h
    exact Lexer.left_lt_of_next? hnext

/-- All tokens still to come, behind the tokens found so far, which are given in reverse; and what
    is left. -/
def drainOnto (found : List Token) (kept : CommentFree) : List Token × CommentFree :=
  match _ : kept.next? with
  | none => (found.reverse, kept)
  | some (token, kept') => drainOnto (token :: found) kept'
  termination_by kept.lexer.left
  decreasing_by exact left_lt_of_next? ‹_›

def drain (kept : CommentFree) : List Token × CommentFree := drainOnto [] kept

end CommentFree

/-! ### Whole texts -/

/-- All tokens of a source text, the terminal one included. -/
def tokenize (sourceName : String) (source : Text) : List Token :=
  (Lexer.ofSource sourceName source).drain.1

/-- All tokens of a source text without the end of input, or the error that ends them. -/
def tokenizeAll (sourceName : String) (source : Text) : Except LexicalError (List Token) :=
  Lexer.collectOnto sourceName [] (.ofSource sourceName source)

end PermissionSchema
