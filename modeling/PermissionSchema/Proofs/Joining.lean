import PermissionSchema.Proofs.Following
import PermissionSchema.Proofs.Lines
import PermissionSchema.Proofs.Pulling

/-!
# Texts one after the other

The tokens of a text do not depend on where it stands in a longer one, but their places do. A `Lead`
tells what stands before a text, `Token.shift` moves a token of the text to its place in the longer
one. A text can be put behind a line feed (`tokenize_join_line`) and cut behind any token
(`tokenize_cut`): the tokens of the two parts are those of the whole, the later ones shifted.
-/

namespace PermissionSchema

/-- What stands before a text in a longer one: so many bytes, so many line feeds, and so many
    characters of the line in which the text starts. -/
structure Lead where
  bytes : Nat
  lines : Nat
  columns : Nat

/-- What a text is to the text behind it. -/
def Lead.ofText (before : Text) : Lead :=
  ⟨Text.size before, before.count '\n', (lastLine before).length⟩

theorem Lead.ofText_line (before : Text) :
    ofText (before ++ ['\n']) = ⟨Text.size before + 1, 1 + before.count '\n', 0⟩ := by
  have hsize : Char.utf8Size '\n' = 1 := rfl
  simp [ofText, lastLine_append_newline, hsize, Nat.add_comm]

namespace Position

/-- The place as it is counted in the longer text. Only the first line starts where the lead has
    columns. -/
def shift (lead : Lead) (place : Position) : Position where
  offset := place.offset + lead.bytes
  line := place.line + lead.lines
  column := if place.line = 1 then place.column + lead.columns else place.column

theorem next_line_pos {place : Position} (hline : 0 < place.line) (c : Char) :
    0 < (place.next c).line := by
  simp only [next]
  split <;> omega

theorem after_line_pos {place : Position} (hline : 0 < place.line) (passed : Text) :
    0 < (place.after passed).line := by
  rw [after_line]
  omega

theorem next_shift {place : Position} (hline : 0 < place.line) (lead : Lead) (c : Char) :
    (place.shift lead).next c = (place.next c).shift lead := by
  by_cases hc : c = '\n'
  · -- the next line is not the first one, so both begin it at column one
    subst hc
    have hnext : place.line + 1 ≠ 1 := by omega
    simp only [next, shift, if_true, if_neg hnext, Position.mk.injEq, and_true]
    omega
  · simp only [next, shift, if_neg hc, Position.mk.injEq, true_and]
    refine ⟨by omega, ?_⟩
    split <;> omega

theorem after_shift {place : Position} (hline : 0 < place.line) (lead : Lead) (passed : Text) :
    (place.shift lead).after passed = (place.after passed).shift lead := by
  induction passed generalizing place with
  | nil => rfl
  | cons c rest ih =>
    rw [after_cons, after_cons, next_shift hline, ih (next_line_pos hline c)]

/-- Behind a text, one is where the text that follows it starts. -/
theorem start_shift (before : Text) : start.shift (.ofText before) = start.after before := by
  rw [after_start]
  simp only [start, shift, Lead.ofText, if_true, Nat.zero_add]

end Position

/-- A stretch of a text as it stands in the longer one. -/
def Span.shift (lead : Lead) (span : Span) : Span where
  start := span.start + lead.bytes
  stop := span.stop + lead.bytes
  line := span.line + lead.lines
  column := if span.line = 1 then span.column + lead.columns else span.column

/-- A token of a text as a token of the longer one: its place is another, its kind and its
    characters are the same. -/
def Token.shift (lead : Lead) (token : Token) : Token :=
  { token with span := token.span.shift lead }

theorem Token.behind_shift {place : Position} (hline : 0 < place.line) (lead : Lead)
    (gap text : Text) (kind : Kind) :
    behind (place.shift lead) gap text kind = (behind place gap text kind).shift lead := by
  simp only [behind, Position.after_shift hline]
  rfl

/-- A token whose blanks are told in two stretches. -/
theorem Token.behind_append (place : Position) (front gap text : Text) (kind : Kind) :
    behind (place.after front) gap text kind = behind place (front ++ gap) text kind := by
  simp only [behind, List.append_assoc, Position.after_append]

/-- Blanks before a gap belong to it. -/
theorem IsGap.append {front gap rest : Text} (hgap : IsGap gap rest)
    (hfront : ∀ c ∈ front, isBlank c = true) : IsGap (front ++ gap) rest := by
  refine ⟨?_, hgap.maximal⟩
  intro c hc
  rcases List.mem_append.1 hc with hc | hc
  · exact hfront c hc
  · exact hgap.blank c hc

namespace Stream

variable {place : Position} {rest : Text} {tokens : List Token}

/-- The stream of a text that starts elsewhere has the same tokens, shifted. -/
theorem shift (hstream : Stream place rest tokens) (hline : 0 < place.line) (lead : Lead) :
    Stream (place.shift lead) rest (tokens.map (Token.shift lead)) := by
  induction hstream with
  | last hgap hlexeme hkind =>
    rw [List.map_singleton, ← Token.behind_shift hline]
    exact .last hgap hlexeme hkind
  | @more place gap text behind kind tokens hgap hlexeme hkind _ ih =>
    rw [List.map_cons, ← Token.behind_shift hline]
    have htail := ih (Position.after_line_pos hline (gap ++ text))
    rw [← Position.after_shift hline] at htail
    exact .more hgap hlexeme hkind htail

/-- Blanks before a text add nothing to its stream. -/
theorem blanks {front : Text} (hstream : Stream (place.after front) rest tokens)
    (hfront : ∀ c ∈ front, isBlank c = true) : Stream place (front ++ rest) tokens := by
  cases hstream with
  | @last _ gap text behind kind hgap hlexeme hkind =>
    rw [← List.append_assoc, Token.behind_append]
    exact .last (hgap.append hfront) hlexeme hkind
  | @more _ gap text behind kind tokens hgap hlexeme hkind htail =>
    rw [← List.append_assoc, Token.behind_append]
    refine .more (hgap.append hfront) hlexeme hkind ?_
    rwa [List.append_assoc, Position.after_append]

/-- The empty text has nothing but its end. -/
theorem nil (place : Position) : Stream place [] [.behind place [] [] .endOfInput] := by
  have hgap : IsGap [] ([] ++ []) := .of_lexeme (by simp) .endOfInput
  exact .last hgap .endOfInput rfl

/-! ### Joining -/

/-- A text that is read to its end can be followed by a new line: its tokens come first. -/
theorem join_line {last : Token} {next : Text} {tail : List Token}
    (hstream : Stream place rest tokens) (hlast : last ∈ tokens.getLast?)
    (hend : last.kind = .endOfInput) (hnext : next.head? = some '\n')
    (htail : Stream (place.after rest) next tail) :
    Stream place (rest ++ next) (tokens.dropLast ++ tail) := by
  induction hstream with
  | @last place gap text behind kind hgap hlexeme _ =>
    obtain rfl : Token.behind place gap text kind = last := by simpa using hlast
    obtain rfl : kind = .endOfInput := hend
    rw [hlexeme.eq_nil_of_endOfInput, List.append_nil] at htail ⊢
    exact htail.blanks hgap.blank
  | @more place gap text behind kind tokens hgap hlexeme hkind hstream ih =>
    obtain ⟨first, others, rfl⟩ := List.exists_cons_of_ne_nil hstream.ne_nil
    rw [List.getLast?_cons_cons] at hlast
    rw [← List.append_assoc gap, Position.after_append] at htail
    have hends : ∀ c ∈ (behind ++ next).head?, ¬ GoesOn kind text c := by
      intro c hc
      cases behind with
      | nil =>
        rw [List.nil_append, hnext] at hc
        obtain rfl : '\n' = c := Option.some.inj hc
        exact not_goesOn_of_isBlank (by decide) fun _ => rfl
      | cons d behind => exact hlexeme.not_goesOn hkind c hc
    have hlexeme' := hlexeme.before hkind hends
    rw [List.append_assoc, List.append_assoc, List.dropLast_cons_cons, List.cons_append]
    exact .more (.of_lexeme hgap.blank hlexeme') hlexeme' hkind (ih hlast htail)

/-! ### Cutting -/

/-- A stream can be cut behind any token that does not end it. -/
theorem cut (hstream : Stream place rest tokens) {index : Nat} {token : Token}
    (htoken : tokens[index]? = some token) (hkind : token.kind.isTerminal = false) :
    ∃ before behind, rest = before ++ behind ∧
      token.span.stop = place.offset + Text.size before ∧
      Stream place before
        (tokens.take (index + 1) ++ [.behind (place.after before) [] [] .endOfInput]) ∧
      Stream (place.after before) behind (tokens.drop (index + 1)) := by
  induction hstream generalizing index with
  | last _ _ hterminal =>
    cases index with
    | zero =>
      obtain rfl := Option.some.inj htoken
      exact absurd (hkind.symm.trans hterminal) (by simp)
    | succ index => simp at htoken
  | @more place gap text behind kind tokens hgap hlexeme hkind' hstream ih =>
    cases index with
    | zero =>
      obtain rfl := Option.some.inj htoken
      have hlexeme' : Lexeme (text ++ []) kind text := hlexeme.before hkind' (by simp)
      refine ⟨gap ++ text, behind, by simp, Token.behind_stop _ _ _ _, ?_, hstream⟩
      have hgap' : IsGap gap (text ++ []) := .of_lexeme hgap.blank hlexeme'
      have hwhole := more hgap' hlexeme' hkind' (nil (place.after (gap ++ text)))
      rwa [List.append_nil] at hwhole
    | succ index =>
      obtain ⟨before, after, rfl, hstop, hfirst, hsecond⟩ := ih htoken
      have hends : ∀ c ∈ before.head?, ¬ GoesOn kind text c := by
        intro c hc
        apply hlexeme.not_goesOn hkind'
        rw [List.head?_append, hc]
        rfl
      have hlexeme' := hlexeme.before hkind' hends
      have hplace : (place.after (gap ++ text)).after before =
          place.after (gap ++ (text ++ before)) := by
        rw [← Position.after_append, List.append_assoc]
      rw [hplace] at hfirst hsecond
      refine ⟨gap ++ (text ++ before), after, by simp, ?_, ?_, hsecond⟩
      · rw [hstop, Position.after_offset]
        simp only [Text.size_append]
        omega
      · exact .more (.of_lexeme hgap.blank hlexeme') hlexeme' hkind' hfirst

end Stream

/-- The tokens of a text that follows another are its own, shifted. -/
theorem stream_shift_tokenize (name : String) (before rest : Text) :
    Stream (Position.start.after before) rest
      ((tokenize name rest).map (Token.shift (.ofText before))) := by
  have hstream := (stream_tokenize name rest).shift Nat.one_pos (.ofText before)
  rwa [Position.start_shift] at hstream

/-- **Texts on lines of their own are lexed one by one.** If `a` is read to its end, the tokens of
    `a` and, below it, `b` are those of `a` without its end and those of `b`, further down. -/
theorem tokenize_join_line (name : String) (a b : Text) {last : Token}
    (hlast : last ∈ (tokenize name a).getLast?) (hend : last.kind = .endOfInput) :
    tokenize name (a ++ ['\n'] ++ b) = (tokenize name a).dropLast ++
      (tokenize name b).map (Token.shift ⟨Text.size a + 1, 1 + a.count '\n', 0⟩) := by
  have hbelow := stream_shift_tokenize name (a ++ ['\n']) b
  rw [Lead.ofText_line, Position.after_append] at hbelow
  have hnewline : ∀ c ∈ ['\n'], isBlank c = true := by simp [isBlank]
  have hjoined := (stream_tokenize name a).join_line hlast hend rfl (hbelow.blanks hnewline)
  rw [← List.append_assoc] at hjoined
  exact (stream_tokenize name _).unique hjoined

/-- A line comment keeps its carriage return, and the string below it stays open. -/
theorem tokenize_join_line_comment :
    ⟨.endOfInput, [], ⟨7, 7, 1, 7⟩⟩ ∈ (tokenize "a.opl" "a=//é\r".toList).getLast? ∧
      tokenize "a.opl" ("a=//é\r".toList ++ ['\n'] ++ "\"b\n".toList) =
        (tokenize "a.opl" "a=//é\r".toList).dropLast ++
          (tokenize "a.opl" "\"b\n".toList).map (Token.shift ⟨8, 1, 0⟩) := by
  have hlast : ⟨.endOfInput, [], ⟨7, 7, 1, 7⟩⟩ ∈
      (tokenize "a.opl" "a=//é\r".toList).getLast? := by
    decide +kernel
  exact ⟨hlast, tokenize_join_line "a.opl" _ _ hlast rfl⟩

/-- **A text can be cut behind any token and lexed on from there.** Up to the cut it has the tokens
    up to that one and then its end, at the place of the cut; what is behind the cut has the other
    tokens, as far up and, in its first line, as far left as the cut is down and right. -/
theorem tokenize_cut (name : String) (source : Text) {index : Nat} {token : Token}
    (htoken : (tokenize name source)[index]? = some token)
    (hkind : token.kind.isTerminal = false) :
    ∃ before behind, source = before ++ behind ∧ Text.size before = token.span.stop ∧
      tokenize name before = (tokenize name source).take (index + 1) ++
        [⟨.endOfInput, [], .point (Text.size before) (1 + before.count '\n')
          (1 + (lastLine before).length)⟩] ∧
      (tokenize name source).drop (index + 1) = (tokenize name behind).map
        (Token.shift ⟨Text.size before, before.count '\n', (lastLine before).length⟩) := by
  obtain ⟨before, behind, hsource, hstop, hfirst, hsecond⟩ :=
    (stream_tokenize name source).cut htoken hkind
  have hstart : Position.start.offset = 0 := rfl
  refine ⟨before, behind, hsource, by omega, ?_, ?_⟩
  · rw [(stream_tokenize name before).unique hfirst, Token.behind, List.append_nil,
      Position.after_nil, Position.after_start]
    rfl
  · exact hsecond.unique (stream_shift_tokenize name before behind)

/-- Behind a comment over two lines, what follows on its last line is moved right. -/
theorem tokenize_cut_comment :
    (tokenize "a.opl" "a/*\n*/=>\n|".toList)[1]? =
        some ⟨.blockComment, "/*\n*/".toList, ⟨1, 6, 1, 2⟩⟩ ∧
      ∃ before behind, "a/*\n*/=>\n|".toList = before ++ behind ∧ Text.size before = 6 ∧
        tokenize "a.opl" before = (tokenize "a.opl" "a/*\n*/=>\n|".toList).take 2 ++
          [⟨.endOfInput, [], .point (Text.size before) (1 + before.count '\n')
            (1 + (lastLine before).length)⟩] ∧
        (tokenize "a.opl" "a/*\n*/=>\n|".toList).drop 2 = (tokenize "a.opl" behind).map
          (Token.shift ⟨Text.size before, before.count '\n', (lastLine before).length⟩) := by
  have htoken : (tokenize "a.opl" "a/*\n*/=>\n|".toList)[1]? =
      some ⟨.blockComment, "/*\n*/".toList, ⟨1, 6, 1, 2⟩⟩ := by
    decide +kernel
  exact ⟨htoken, tokenize_cut "a.opl" _ htoken rfl⟩

end PermissionSchema
