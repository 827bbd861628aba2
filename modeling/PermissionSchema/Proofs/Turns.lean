import PermissionSchema.Proofs.Progress
import PermissionSchema.Proofs.Pulling

/-!
# How long scanning takes

Scanning one token is a loop of steps. From a state that a lexer can get into, the loop is over
after three turns: one for the blanks, one that opens a string or a comment, and the one that
completes the token. A source has at most one token more than it has characters, and some sources
have so many (`scanning_bounded`).
-/

namespace PermissionSchema

/-! ### What a step leads to -/

namespace Scan.Form

variable {mode : Mode} {rest : Text} {scan : Scan}

/-- A body is passed in one step. -/
theorem emit_of_body (hform : Form mode rest scan) (hmode : mode ≠ .top) :
    ∃ kind, scan.action = .emit kind := by
  cases hform with
  | endOfInput | blanks | opening | token => exact absurd rfl hmode
  | closed | openString | openComment => exact ⟨_, rfl⟩

theorem next_of_emit {kind : Kind} (hform : Form mode rest scan)
    (haction : scan.action = .emit kind) : scan.next = .top := by
  cases hform with
  | opening => simp at haction
  | endOfInput | blanks | token | closed | openString | openComment => rfl

theorem next_of_resume (hform : Form mode rest scan) (haction : scan.action = .resume) :
    scan.next ≠ .top := by
  cases hform with
  | opening _ _ hmode => exact hmode
  | endOfInput | blanks | token | closed | openString | openComment => simp [emit] at haction

/-- Only blanks are skipped, between tokens and all at once. -/
theorem of_skip (hform : Form mode rest scan) (haction : scan.action = .skip) :
    mode = .top ∧ scan.next = .top ∧ rest.drop scan.length = rest.dropWhile isBlank := by
  cases hform with
  | @blanks c rest =>
    have hsplit : (c :: rest).takeWhile isBlank ++ (c :: rest).dropWhile isBlank = c :: rest :=
      List.takeWhile_append_dropWhile
    exact ⟨rfl, rfl, (congrArg (List.drop _) hsplit).symm.trans List.drop_left⟩
  | endOfInput | opening | token | closed | openString | openComment => simp [emit] at haction

/-- Where no blank is ahead, nothing is skipped. -/
theorem not_skip (hform : Form mode rest scan) (hhead : ∀ c ∈ rest.head?, isBlank c = false) :
    scan.action ≠ .skip := by
  cases hform with
  | blanks hblank => simp [hhead _ rfl] at hblank
  | endOfInput | opening | token | closed | openString | openComment => simp [emit]

end Scan.Form

namespace Lexer

/-! ### States that a lexer gets into -/

/-- The states of a lexer over a source, whatever has been asked of it. -/
inductive Reachable (name : String) (source : Text) : Lexer → Prop
  | fresh : Reachable name source (ofSource name source)
  | next {lexer : Lexer} : Reachable name source lexer → Reachable name source lexer.next.2
  | peek {lexer : Lexer} : Reachable name source lexer → Reachable name source lexer.peek.2
  | iterate {lexer lexer' : Lexer} {token : Token} : Reachable name source lexer →
      lexer.next? = some (token, lexer') → Reachable name source lexer'

section

variable {kept : Lexer → Prop} {lexer : Lexer}

private theorem scanToken_invariant (hscan : ∀ lexer, kept lexer → kept lexer.scan.2)
    (h : kept lexer) : kept lexer.scanToken.2 := by
  cases hterminal : lexer.terminal with
  | none =>
    rw [scanToken_of_none hterminal]
    exact hscan lexer h
  | some token =>
    rw [scanToken_of_some hterminal]
    exact h

/-- What holds of a fresh lexer, is kept when a token is scanned, and has nothing to do with what
    has been peeked at or iterated, holds of every state that a lexer gets into. -/
theorem Reachable.invariant {name : String} {source : Text}
    (hfresh : kept (ofSource name source))
    (hscan : ∀ lexer, kept lexer → kept lexer.scan.2)
    (hpulled : ∀ lexer peeked exhausted, kept lexer →
      kept { lexer with peeked, exhausted })
    (hreachable : Reachable name source lexer) : kept lexer := by
  have hnext : ∀ lexer, kept lexer → kept lexer.next.2 := by
    intro lexer h
    cases hpeeked : lexer.peeked with
    | none =>
      rw [next_of_none hpeeked]
      exact scanToken_invariant hscan h
    | some token =>
      rw [next_of_some hpeeked]
      exact hpulled lexer none lexer.exhausted h
  induction hreachable with
  | fresh => exact hfresh
  | next _ ih => exact hnext _ ih
  | @peek lexer _ ih =>
    cases hpeeked : lexer.peeked with
    | none =>
      rw [peek_of_none hpeeked]
      exact hpulled _ _ _ (scanToken_invariant hscan ih)
    | some token =>
      rw [peek_of_some hpeeked]
      exact ih
  | @iterate lexer lexer' token _ hiterate ih =>
    rw [next?] at hiterate
    split at hiterate
    · simp at hiterate
    · obtain ⟨-, rfl⟩ := Prod.mk.inj (Option.some.inj hiterate)
      exact hpulled _ _ _ (hnext lexer ih)

end

/-! ### The loop -/

/-- The loop that scans a token: the states in which its steps are taken, and what it results in. -/
inductive Course : Lexer → List Lexer → Token × Lexer → Prop
  | emit {lexer lexer' : Lexer} {kind : Kind} : lexer.step = (.emit kind, lexer') →
      Course lexer [lexer] (lexer'.finish kind)
  | skip {lexer lexer' : Lexer} {states : List Lexer} {result : Token × Lexer} :
      lexer.step = (.skip, lexer') → Course lexer' states result →
      Course lexer (lexer :: states) result
  | resume {lexer lexer' : Lexer} {states : List Lexer} {result : Token × Lexer} :
      lexer.step = (.resume, lexer') → Course lexer' states result →
      Course lexer (lexer :: states) result

theorem form_step (lexer : Lexer) : Scan.Form lexer.mode lexer.cursor.remaining
    (Scan.ofText lexer.mode lexer.cursor.remaining) := Scan.form_ofText _ _

/-- A scan leaves the lexer between two tokens, wherever it starts. -/
theorem ready_scan (lexer : Lexer) : lexer.scan.2.Ready := by
  fun_induction scan lexer with
  | case1 lexer kind lexer' hstep =>
    obtain rfl : lexer.step.2 = lexer' := congrArg Prod.snd hstep
    have hmode : lexer.step.2.mode = .top :=
      lexer.form_step.next_of_emit (congrArg Prod.fst hstep)
    exact ⟨(finish_mode _ kind).trans hmode,
      (finish_start _ kind).trans (finish_cursor _ kind).symm⟩
  | case2 _ _ _ ih | case3 _ _ _ ih => exact ih

theorem Reachable.ready {name : String} {source : Text} {lexer : Lexer}
    (hreachable : Reachable name source lexer) : lexer.Ready :=
  hreachable.invariant ⟨rfl, rfl⟩ (fun lexer _ => lexer.ready_scan)
    fun _ _ _ hready => ⟨hready.mode_eq, hready.start_eq⟩

/-- The turns of the loop that scans a token: blanks are skipped at most once, while nothing of the
    token has been passed; then at most one step opens a body; the last completes the token. -/
structure Turns (lexer : Lexer) (skipping opening : List Lexer) (last : Lexer) : Prop where
  course : Course lexer (skipping ++ (opening ++ [last])) lexer.scan
  skipping_le : skipping.length ≤ 1
  skips : ∀ state ∈ skipping,
    state.step.1 = .skip ∧ state.mode = .top ∧ state.start = state.cursor
  opening_le : opening.length ≤ 1
  opens : ∀ state ∈ opening, state.step.1 = .resume
  emits : ∃ kind, last.step.1 = .emit kind

/-- A token that no blanks stand before takes one turn, or two if it has a body. -/
theorem exists_turns_of_not_skip {lexer : Lexer} (hskip : lexer.step.1 ≠ .skip) :
    ∃ opening last, lexer.Turns [] opening last := by
  cases hstep : lexer.step with
  | mk action lexer' =>
    rw [hstep] at hskip
    cases action with
    | skip => exact absurd rfl hskip
    | emit kind =>
      refine ⟨[], lexer, ?_, by simp, by simp, by simp, by simp, kind, by rw [hstep]⟩
      rw [scan_of_emit hstep]
      exact .emit hstep
    | resume =>
      -- the body that has been opened is completed in the next turn
      obtain rfl : lexer.step.2 = lexer' := congrArg Prod.snd hstep
      have hmode : lexer.step.2.mode ≠ .top :=
        lexer.form_step.next_of_resume (congrArg Prod.fst hstep)
      obtain ⟨kind, hkind⟩ := lexer.step.2.form_step.emit_of_body hmode
      have hemit : lexer.step.2.step = (.emit kind, lexer.step.2.step.2) := Prod.ext hkind rfl
      have hopens : ∀ state ∈ [lexer], state.step.1 = .resume := by
        intro state hstate
        rw [List.mem_singleton.1 hstate, hstep]
      refine ⟨[lexer], lexer.step.2, ?_, by simp, by simp, by simp, hopens, kind, hkind⟩
      rw [scan_of_resume hstep, scan_of_emit hemit]
      exact .resume hstep (.emit hemit)

/-- From between two tokens, a token is scanned in at most three turns. -/
theorem Ready.exists_turns {lexer : Lexer} (hready : lexer.Ready) :
    ∃ skipping opening last, lexer.Turns skipping opening last := by
  by_cases hskip : lexer.step.1 = .skip
  · -- behind all the blanks there is none left to skip
    obtain ⟨hmode, -, hleft⟩ := lexer.form_step.of_skip hskip
    have hremaining : lexer.step.2.cursor.remaining =
        lexer.cursor.remaining.dropWhile isBlank := by
      rw [step_cursor, Cursor.move_remaining, hleft]
    have hhead : ∀ c ∈ lexer.step.2.cursor.remaining.head?, isBlank c = false := by
      intro c hc
      have hnot := List.head?_dropWhile_not isBlank lexer.cursor.remaining
      rw [← hremaining, hc] at hnot
      simpa using hnot
    have hskip' : lexer.step.2.step.1 ≠ .skip := lexer.step.2.form_step.not_skip hhead
    obtain ⟨opening, last, hturns⟩ := exists_turns_of_not_skip hskip'
    have hstep : lexer.step = (.skip, lexer.step.2) := Prod.ext hskip rfl
    refine ⟨[lexer], opening, last, ?_, by simp, ?_, hturns.opening_le, hturns.opens,
      hturns.emits⟩
    · rw [scan_of_skip hstep]
      exact .skip hstep hturns.course
    · intro state hstate
      obtain rfl := List.mem_singleton.1 hstate
      exact ⟨hskip, hmode, hready.start_eq⟩
  · obtain ⟨opening, last, hturns⟩ := exists_turns_of_not_skip hskip
    exact ⟨[], opening, last, hturns⟩

/-- A string behind a blank takes all three turns. -/
theorem turns_blank_string (name : String) :
    (ofSource name [' ', '"', '"']).Turns [ofSource name [' ', '"', '"']]
      [(ofSource name [' ', '"', '"']).step.2] (ofSource name [' ', '"', '"']).step.2.step.2 := by
  generalize hfresh : ofSource name [' ', '"', '"'] = lexer
  have hskip : lexer.step = (.skip, lexer.step.2) := by rw [← hfresh]; rfl
  have hopen : lexer.step.2.step = (.resume, lexer.step.2.step.2) := by rw [← hfresh]; rfl
  have hemit : lexer.step.2.step.2.step = (.emit .string, lexer.step.2.step.2.step.2) := by
    rw [← hfresh]; rfl
  refine ⟨?_, by simp, ?_, by simp, ?_, .string, congrArg Prod.fst hemit⟩
  · rw [scan_of_skip hskip, scan_of_resume hopen, scan_of_emit hemit]
    exact .skip hskip (.resume hopen (.emit hemit))
  · intro state hstate
    obtain rfl := List.mem_singleton.1 hstate
    exact ⟨congrArg Prod.fst hskip, by rw [← hfresh]; rfl, by rw [← hfresh]; rfl⟩
  · intro state hstate
    obtain rfl := List.mem_singleton.1 hstate
    exact congrArg Prod.fst hopen

/-! ### Counting tokens -/

/-- The lexer after some tokens have been iterated, if there are so many. -/
def iterated? : (count : Nat) → Lexer → Option Lexer
  | 0, lexer => some lexer
  | count + 1, lexer => lexer.next?.bind fun pulled => pulled.2.iterated? count

/-- Iterating over the tokens before the last one leaves the last one to come. -/
theorem exists_iterated?_of_yields {lexer : Lexer} {front : List Token} {last : Token}
    (hyields : lexer.Yields (front ++ [last])) :
    ∃ lexer' ended, lexer.iterated? front.length = some lexer' ∧
      lexer'.next? = some (last, ended) := by
  induction front generalizing lexer with
  | nil =>
    obtain ⟨ended, hnext, -⟩ := next?_of_yields_cons hyields
    exact ⟨lexer, ended, rfl, hnext⟩
  | cons token front ih =>
    obtain ⟨pulled, hnext, hyields'⟩ := next?_of_yields_cons hyields
    obtain ⟨lexer', ended, hiterated, hlast⟩ := ih hyields'
    exact ⟨lexer', ended, by rw [List.length_cons, iterated?, hnext]; exact hiterated, hlast⟩

end Lexer

/-- Each token but the last has a character of its own. -/
theorem Stream.length_le {place : Position} {rest : Text} {tokens : List Token}
    (hstream : Stream place rest tokens) : tokens.length ≤ rest.length + 1 := by
  induction hstream with
  | last => simp
  | @more place gap text behind kind tokens hgap hlexeme hkind _ ih =>
    have htext : 0 < text.length := List.length_pos_iff.2 (hlexeme.text_ne_nil hkind)
    rw [List.length_cons, List.length_append, List.length_append]
    omega

/-- In a row of dots, every character is a token. -/
theorem exists_stream_dots (place : Position) (count : Nat) :
    ∃ tokens, Stream place (List.replicate count '.') tokens ∧ tokens.length = count + 1 := by
  induction count generalizing place with
  | zero =>
    have hgap : IsGap [] ([] ++ []) := ⟨by simp, by simp⟩
    have hlexeme : Lexeme ([] ++ []) .endOfInput [] := .endOfInput
    exact ⟨_, .last hgap hlexeme rfl, rfl⟩
  | succ count ih =>
    obtain ⟨tokens, hstream, hlength⟩ := ih (place.after ['.'])
    have hsymbol : Scan.symbol? ('.' :: List.replicate count '.') = some (.dot, 1) := rfl
    obtain ⟨hmem, -, hlongest⟩ := Scan.symbol?_some hsymbol
    have hlexeme : Lexeme (['.'] ++ List.replicate count '.') .dot ['.'] := .mark hlongest hmem
    have hgap : IsGap [] (['.'] ++ List.replicate count '.') := .of_lexeme (by simp) hlexeme
    exact ⟨_, .more hgap hlexeme rfl hstream, by rw [List.length_cons, hlength]⟩

/-- How many turns and tokens there can be over a source. -/
structure ScanningBounded (name : String) (source : Text) : Prop where
  /-- Once the terminal token has been met, it is given without a turn of the loop. -/
  ended : ∀ lexer token, Lexer.Reachable name source lexer → lexer.terminal = some token →
    lexer.scanToken = (token, lexer)
  turns : ∀ lexer, Lexer.Reachable name source lexer → lexer.terminal = none →
    lexer.scanToken = lexer.scan ∧ ∃ skipping opening last, lexer.Turns skipping opening last
  /-- A call leaves nothing of the next token scanned. -/
  ready : ∀ lexer, Lexer.Reachable name source lexer → lexer.scanToken.2.Ready
  /-- An iterator comes to the terminal token behind at most as many tokens as there are
      characters. -/
  iterated : ∃ count lexer token ended, count ≤ source.length ∧
    (Lexer.ofSource name source).iterated? count = some lexer ∧
    lexer.next? = some (token, ended) ∧ token.kind.isTerminal = true
  length_tokenize_le : (tokenize name source).length ≤ source.length + 1

/-- **Scanning is bounded**, by three turns for a token and by the number of characters for the
    tokens; and neither bound can be lowered. -/
theorem scanning_bounded (name : String) :
    (∀ source, ScanningBounded name source) ∧
      (∀ count, (tokenize name (List.replicate count '.')).length = count + 1) ∧
      ∃ source lexer skipping opening last, Lexer.Reachable name source lexer ∧
        lexer.Turns skipping opening last ∧ (skipping ++ (opening ++ [last])).length = 3 := by
  refine ⟨fun source => ⟨?_, ?_, ?_, ?_, (stream_tokenize name source).length_le⟩, ?_, ?_⟩
  · intro lexer token _ hterminal
    exact Lexer.scanToken_of_some hterminal
  · intro lexer hreachable hterminal
    exact ⟨Lexer.scanToken_of_none hterminal, hreachable.ready.exists_turns⟩
  · intro lexer hreachable
    exact Lexer.scanToken_invariant (fun lexer _ => lexer.ready_scan) hreachable.ready
  · have hstream := stream_tokenize name source
    have hle := hstream.length_le
    obtain ⟨front, last, htokens, hlast, -⟩ := hstream.endsOnce
    rw [htokens] at hstream hle
    obtain ⟨lexer, ended, hiterated, hnext⟩ :=
      Lexer.exists_iterated?_of_yields (.going rfl (Lexer.awaits_ofSource hstream))
    rw [List.length_append, List.length_singleton] at hle
    exact ⟨front.length, lexer, last, ended, by omega, hiterated, hnext, hlast⟩
  · intro count
    obtain ⟨tokens, hstream, hlength⟩ := exists_stream_dots .start count
    rw [(stream_tokenize name _).unique hstream, hlength]
  · exact ⟨[' ', '"', '"'], _, _, _, _, .fresh, Lexer.turns_blank_string name, rfl⟩

end PermissionSchema
