import PermissionSchema.Proofs.Scanners
import PermissionSchema.Token.Lexer

/-!
# Token streams

`Stream place rest tokens` tells the tokens of a text that starts at a place, with their places.
Every text has exactly one stream (`exists_stream`, `Stream.unique`). A lexer between two tokens
is `Ready`; what it scans next is the head of the stream of the text that is left (`scan_eq`).
-/

namespace PermissionSchema

namespace Span

variable (front back : Text)

@[simp] theorem start_between :
    (between (Position.start.after front) (Position.start.after back)).start = Text.size front :=
  (Position.after_offset _ _).trans (Nat.zero_add _)

@[simp] theorem stop_between :
    (between (Position.start.after front) (Position.start.after back)).stop = Text.size back :=
  (Position.after_offset _ _).trans (Nat.zero_add _)

end Span

namespace Token

/-- The token that stands behind the blanks `gap` at a place. -/
def behind (place : Position) (gap text : Text) (kind : Kind) : Token :=
  ⟨kind, text, .between (place.after gap) (place.after (gap ++ text))⟩

section

variable (place : Position) (gap text : Text) (kind : Kind)

@[simp] theorem behind_text : (behind place gap text kind).text = text := rfl

@[simp] theorem behind_start :
    (behind place gap text kind).span.start = place.offset + Text.size gap :=
  Position.after_offset place gap

@[simp] theorem behind_stop :
    (behind place gap text kind).span.stop = place.offset + Text.size (gap ++ text) :=
  Position.after_offset place (gap ++ text)

end

end Token

/-- The last of some tokens ends a stream, and no other does. -/
def EndsOnce (tokens : List Token) : Prop := ∃ front last, tokens = front ++ [last] ∧
  last.kind.isTerminal = true ∧ ∀ token ∈ front, token.kind.isTerminal = false

theorem EndsOnce.singleton {token : Token} (hkind : token.kind.isTerminal = true) :
    EndsOnce [token] :=
  ⟨[], token, rfl, hkind, by simp⟩

theorem EndsOnce.cons {token : Token} {tokens : List Token}
    (hkind : token.kind.isTerminal = false) (hends : EndsOnce tokens) :
    EndsOnce (token :: tokens) := by
  obtain ⟨front, last, rfl, hlast, hfront⟩ := hends
  refine ⟨token :: front, last, rfl, hlast, ?_⟩
  intro other hmem
  rcases List.mem_cons.1 hmem with rfl | hmem
  · exact hkind
  · exact hfront other hmem

theorem EndsOnce.ne_nil {tokens : List Token} (hends : EndsOnce tokens) : tokens ≠ [] := by
  obtain ⟨front, last, rfl, -⟩ := hends
  simp

/-- The tokens of a text that starts at a place, up to the first that ends the stream. -/
inductive Stream : Position → Text → List Token → Prop
  | last {place : Position} {gap text behind : Text} {kind : Kind} : IsGap gap (text ++ behind) →
      Lexeme (text ++ behind) kind text → kind.isTerminal = true →
      Stream place (gap ++ (text ++ behind)) [.behind place gap text kind]
  | more {place : Position} {gap text behind : Text} {kind : Kind} {tokens : List Token} :
      IsGap gap (text ++ behind) → Lexeme (text ++ behind) kind text → kind.isTerminal = false →
      Stream (place.after (gap ++ text)) behind tokens →
      Stream place (gap ++ (text ++ behind)) (.behind place gap text kind :: tokens)

namespace IsGap

variable {gap rest : Text}

/-- The blanks before a text are found by taking blanks. -/
theorem takeWhile_eq (hgap : IsGap gap rest) : (gap ++ rest).takeWhile isBlank = gap :=
  takeWhile_append_eq hgap.blank hgap.maximal

/-- Blanks before a text are skipped in one step. -/
theorem ofText_eq (hgap : IsGap gap rest) (hne : gap ≠ []) :
    Scan.ofText .top (gap ++ rest) = ⟨gap.length, .skip, .top⟩ := by
  obtain ⟨c, blanks, rfl⟩ := List.exists_cons_of_ne_nil hne
  have hblank : isBlank c = true := hgap.blank c List.mem_cons_self
  have htaken := hgap.takeWhile_eq
  rw [List.cons_append] at htaken ⊢
  simp only [Scan.ofText, Scan.first, if_pos hblank, Scan.blanks, htaken]

theorem of_lexeme {kind : Kind} {text : Text} (hblank : ∀ c ∈ gap, isBlank c = true)
    (hlexeme : Lexeme rest kind text) : IsGap gap rest :=
  ⟨hblank, hlexeme.head_not_blank⟩

end IsGap

/-- A text is a run of blanks, a token and what follows them. -/
theorem exists_gap_lexeme (rest : Text) : ∃ gap text behind kind, rest = gap ++ (text ++ behind) ∧
    IsGap gap (text ++ behind) ∧ Lexeme (text ++ behind) kind text := by
  have hsplit : rest.takeWhile isBlank ++ rest.dropWhile isBlank = rest :=
    List.takeWhile_append_dropWhile
  have hhead : ∀ c ∈ (rest.dropWhile isBlank).head?, isBlank c = false := by
    intro c hc
    have hnot := List.head?_dropWhile_not isBlank rest
    rw [hc] at hnot
    simpa using hnot
  obtain ⟨kind, text, hlexeme⟩ := Scan.exists_lexeme hhead
  obtain ⟨behind, hbehind⟩ := hlexeme.isPrefix
  rw [← hbehind] at hsplit hlexeme
  refine ⟨rest.takeWhile isBlank, text, behind, kind, hsplit.symm, ?_, hlexeme⟩
  exact .of_lexeme (fun _ => List.mem_takeWhile_imp) hlexeme

/-- Blanks, the token behind them and what follows it are determined by the text. -/
theorem gap_lexeme_unique {gap text behind gap' text' behind' : Text} {kind kind' : Kind}
    (hgap : IsGap gap (text ++ behind)) (hlexeme : Lexeme (text ++ behind) kind text)
    (hgap' : IsGap gap' (text' ++ behind')) (hlexeme' : Lexeme (text' ++ behind') kind' text')
    (h : gap ++ (text ++ behind) = gap' ++ (text' ++ behind')) :
    gap = gap' ∧ kind = kind' ∧ text = text' ∧ behind = behind' := by
  have hgaps : gap = gap' := by
    rw [← hgap.takeWhile_eq, h, hgap'.takeWhile_eq]
  subst hgaps
  have hrest : text ++ behind = text' ++ behind' := List.append_cancel_left h
  rw [← hrest] at hlexeme'
  obtain ⟨hkind, htext⟩ := hlexeme.unique hlexeme'
  subst htext
  exact ⟨rfl, hkind, rfl, List.append_cancel_left hrest⟩

theorem Lexeme.eq_nil_of_endOfInput {rest text : Text} (hlexeme : Lexeme rest .endOfInput text) :
    rest = [] := by
  cases hlexeme with
  | endOfInput => rfl
  | mark _ hkind => simp [marks] at hkind

namespace Stream

theorem exists_stream (place : Position) (rest : Text) : ∃ tokens, Stream place rest tokens := by
  -- on the length of the text: a token that does not end the stream leaves less of it
  induction hlength : rest.length using Nat.strongRecOn generalizing place rest with
  | ind length ih =>
    obtain ⟨gap, text, behind, kind, rfl, hgap, hlexeme⟩ := exists_gap_lexeme rest
    cases hkind : kind.isTerminal with
    | true => exact ⟨_, .last hgap hlexeme hkind⟩
    | false =>
      have htext : 0 < text.length := List.length_pos_iff.2 (hlexeme.text_ne_nil hkind)
      have hshorter : behind.length < length := by
        rw [← hlength, List.length_append, List.length_append]
        omega
      obtain ⟨tokens, hstream⟩ := ih _ hshorter (place.after (gap ++ text)) behind rfl
      exact ⟨_, .more hgap hlexeme hkind hstream⟩

/-- What a stream starts with shows in the token at the head of its text. -/
theorem inv {place : Position} {gap text behind : Text} {kind : Kind} {tokens : List Token}
    (hstream : Stream place (gap ++ (text ++ behind)) tokens) (hgap : IsGap gap (text ++ behind))
    (hlexeme : Lexeme (text ++ behind) kind text) :
    (kind.isTerminal = true ∧ tokens = [.behind place gap text kind]) ∨
      (kind.isTerminal = false ∧ ∃ tail, tokens = .behind place gap text kind :: tail ∧
        Stream (place.after (gap ++ text)) behind tail) := by
  generalize hrest : gap ++ (text ++ behind) = rest at hstream
  cases hstream with
  | last hgap' hlexeme' hkind =>
    obtain ⟨rfl, rfl, rfl, rfl⟩ := gap_lexeme_unique hgap hlexeme hgap' hlexeme' hrest
    exact Or.inl ⟨hkind, rfl⟩
  | more hgap' hlexeme' hkind htail =>
    obtain ⟨rfl, rfl, rfl, rfl⟩ := gap_lexeme_unique hgap hlexeme hgap' hlexeme' hrest
    exact Or.inr ⟨hkind, _, rfl, htail⟩

/-- A text has one stream. -/
theorem unique {place : Position} {rest : Text} {tokens tokens' : List Token}
    (hstream : Stream place rest tokens) (hstream' : Stream place rest tokens') :
    tokens = tokens' := by
  induction hstream generalizing tokens' with
  | last hgap hlexeme hkind =>
    rcases hstream'.inv hgap hlexeme with ⟨-, rfl⟩ | ⟨hnot, -⟩
    · rfl
    · exact absurd (hkind.symm.trans hnot) (by simp)
  | more hgap hlexeme hkind _ ih =>
    rcases hstream'.inv hgap hlexeme with ⟨hnot, -⟩ | ⟨-, tail, rfl, htail⟩
    · exact absurd (hkind.symm.trans hnot) (by simp)
    · rw [ih htail]

theorem endsOnce {place : Position} {rest : Text} {tokens : List Token}
    (hstream : Stream place rest tokens) : EndsOnce tokens := by
  induction hstream with
  | last _ _ hkind => exact .singleton hkind
  | more _ _ hkind _ ih => exact .cons hkind ih

theorem ne_nil {place : Position} {rest : Text} {tokens : List Token}
    (hstream : Stream place rest tokens) : tokens ≠ [] :=
  hstream.endsOnce.ne_nil

/-- A token is a lexeme where it stands, and its span tells where that is. -/
theorem lexeme_of_mem {place : Position} {rest : Text} {tokens : List Token}
    (hstream : Stream place rest tokens) {token : Token} (hmem : token ∈ tokens) :
    ∃ front behind, rest = front ++ (token.text ++ behind) ∧
      Lexeme (token.text ++ behind) token.kind token.text ∧
      token.span = .between (place.after front) (place.after (front ++ token.text)) := by
  induction hstream with
  | @last _ gap _ behind _ _ hlexeme _ =>
    obtain rfl := List.mem_singleton.1 hmem
    exact ⟨gap, behind, rfl, hlexeme, rfl⟩
  | @more place gap text behind _ _ _ hlexeme _ _ ih =>
    rcases List.mem_cons.1 hmem with rfl | hmem
    · exact ⟨gap, behind, rfl, hlexeme, rfl⟩
    · obtain ⟨front, back, rfl, hlexeme', hspan⟩ := ih hmem
      refine ⟨gap ++ text ++ front, back, by simp, hlexeme', ?_⟩
      rw [hspan, ← Position.after_append, ← Position.after_append]
      simp

end Stream

/-! ### Lexers between tokens -/

namespace Cursor

/-- Moving over a text that is ahead leaves the cursor behind it. -/
theorem place_move {cursor : Cursor} {text behind : Text}
    (hremaining : cursor.remaining = text ++ behind) :
    (cursor.move text.length).place = cursor.place.after text := by
  rw [move, hremaining, List.take_left]

/-- The text between a cursor and where it has moved to. -/
theorem textTo_move {cursor : Cursor} {text behind : Text}
    (hremaining : cursor.remaining = text ++ behind) :
    cursor.textTo (cursor.move text.length) = text := by
  simp [textTo, move, hremaining]

end Cursor

namespace Lexer

/-- Nothing of the next token has been scanned yet. -/
structure Ready (lexer : Lexer) : Prop where
  mode_eq : lexer.mode = .top
  start_eq : lexer.start = lexer.cursor

/-- The lexer with a token in the making between two cursors. -/
def spanning (lexer : Lexer) (start cursor : Cursor) : Lexer := { lexer with start, cursor }

@[simp] theorem spanning_start (lexer : Lexer) (start cursor : Cursor) :
    (lexer.spanning start cursor).start = start := rfl

@[simp] theorem spanning_cursor (lexer : Lexer) (start cursor : Cursor) :
    (lexer.spanning start cursor).cursor = cursor := rfl

theorem step_eq (lexer : Lexer) :
    lexer.step = ((Scan.ofText lexer.mode lexer.cursor.remaining).action,
      { lexer with
        cursor := lexer.cursor.move (Scan.ofText lexer.mode lexer.cursor.remaining).length
        mode := (Scan.ofText lexer.mode lexer.cursor.remaining).next
        start := if (Scan.ofText lexer.mode lexer.cursor.remaining).action = .skip
          then lexer.cursor.move (Scan.ofText lexer.mode lexer.cursor.remaining).length
          else lexer.start }) := by
  have hcursor := lexer.cursor.advanceTo_size_take
    (Scan.length_le lexer.mode lexer.cursor.remaining)
  simp [step, Scan.stepFrom, hcursor]

theorem scan_of_emit {lexer lexer' : Lexer} {kind : Kind} (h : lexer.step = (.emit kind, lexer')) :
    lexer.scan = lexer'.finish kind := by
  rw [scan]
  split <;> simp_all

theorem scan_of_skip {lexer lexer' : Lexer} (h : lexer.step = (.skip, lexer')) :
    lexer.scan = lexer'.scan := by
  rw [scan]
  split <;> simp_all

theorem scan_of_resume {lexer lexer' : Lexer} (h : lexer.step = (.resume, lexer')) :
    lexer.scan = lexer'.scan := by
  rw [scan]
  split <;> simp_all

/-- The steps of one token take the cursor over it, and the lexer finishes it there. -/
theorem scan_of_whole {lexer : Lexer} {length : Nat} {kind : Kind} (hmode : lexer.mode = .top)
    (hwhole : Scan.whole lexer.cursor.remaining = Scan.emit length kind) :
    lexer.scan = (lexer.spanning lexer.start (lexer.cursor.move length)).finish kind := by
  have hstep := lexer.step_eq
  rw [hmode] at hstep
  rcases Scan.emit_or_resume_of_whole hwhole with hscan | ⟨opening, mode, body, hscan, hbody, rfl⟩
  · rw [hscan] at hstep
    rw [scan_of_emit hstep]
    simp [Scan.emit, hmode, spanning]
  · -- the two motions add up
    rw [hscan] at hstep
    rw [scan_of_resume hstep]
    apply scan_of_emit
    rw [step_eq]
    simp [Cursor.move_move, hbody, Scan.emit, hmode, spanning]

/-- A lexer passes the blanks before a token. -/
theorem scan_of_gap {lexer : Lexer} {gap rest : Text} (hready : lexer.Ready)
    (hremaining : lexer.cursor.remaining = gap ++ rest) (hgap : IsGap gap rest) :
    lexer.scan =
      (lexer.spanning (lexer.cursor.move gap.length) (lexer.cursor.move gap.length)).scan := by
  cases gap with
  | nil =>
    have hsame : lexer.spanning lexer.cursor lexer.cursor = lexer :=
      calc lexer.spanning lexer.cursor lexer.cursor
        _ = lexer.spanning lexer.start lexer.cursor := by rw [hready.start_eq]
        _ = lexer := rfl
    rw [List.length_nil, Cursor.move_zero, hsame]
  | cons c gap =>
    have hskip : Scan.ofText lexer.mode lexer.cursor.remaining =
        ⟨(c :: gap).length, .skip, .top⟩ := by
      rw [hready.mode_eq, hremaining]
      exact hgap.ofText_eq (by simp)
    have hstep := lexer.step_eq
    rw [hskip] at hstep
    rw [scan_of_skip hstep]
    simp [hready.mode_eq, spanning]

/-- A lexer between tokens scans the token at the head of the text that is left. -/
theorem scan_eq {lexer : Lexer} {gap text behind : Text} {kind : Kind} (hready : lexer.Ready)
    (hremaining : lexer.cursor.remaining = gap ++ (text ++ behind))
    (hgap : IsGap gap (text ++ behind)) (hlexeme : Lexeme (text ++ behind) kind text) :
    lexer.scan = (lexer.spanning (lexer.cursor.move gap.length)
      (lexer.cursor.move (gap ++ text).length)).finish kind := by
  have hrest : (lexer.cursor.move gap.length).remaining = text ++ behind := by
    rw [Cursor.move_remaining, hremaining, List.drop_left]
  obtain ⟨hwhole, -⟩ := Scan.whole_of_lexeme hlexeme
  rw [← hrest] at hwhole
  rw [scan_of_gap hready hremaining hgap, List.length_append, ← Cursor.move_move]
  exact scan_of_whole hready.mode_eq hwhole

/-- The token that is scanned has its exact text and its exact place. -/
theorem token_spanning {lexer : Lexer} {gap text behind : Text}
    (hremaining : lexer.cursor.remaining = gap ++ (text ++ behind)) (kind : Kind) :
    (lexer.spanning (lexer.cursor.move gap.length)
      (lexer.cursor.move (gap ++ text).length)).token kind =
        .behind lexer.cursor.place gap text kind := by
  have hrest : (lexer.cursor.move gap.length).remaining = text ++ behind := by
    rw [Cursor.move_remaining, hremaining, List.drop_left]
  have hstart := Cursor.place_move hremaining
  have hstop := Cursor.place_move (hremaining.trans (List.append_assoc gap text behind).symm)
  have htext : (lexer.cursor.move gap.length).textTo (lexer.cursor.move (gap ++ text).length) =
      text := by
    rw [List.length_append, ← Cursor.move_move]
    exact Cursor.textTo_move hrest
  rw [token, spanning_start, spanning_cursor, htext, hstart, hstop, Token.behind]

end Lexer

end PermissionSchema
