import PermissionSchema.Proofs.Joining
import Mathlib.Data.List.Forall2

/-!
# Carriage returns

A text without carriage returns has a copy, `crlf`, with one before each line feed. A prefix of the
copy is a prefix of the text once its carriage returns are taken out, and so the copy has the same
tokens behind the same blanks (`Stream.copy`). The carriage return before a line feed is one of
these blanks, unless a line comment or a string that is left open takes it in (`CopyCut`).
-/

namespace PermissionSchema

/-- The copy of a text with a carriage return before each line feed. -/
def crlf (text : Text) : Text := text.flatMap fun c => if c = '\n' then ['\r', '\n'] else [c]

def withoutReturns (text : Text) : Text := text.filter (· != '\r')

section

variable {text : Text}

@[simp] theorem crlf_nil : crlf [] = [] := rfl

@[simp] theorem crlf_newline (rest : Text) : crlf ('\n' :: rest) = '\r' :: '\n' :: crlf rest := rfl

theorem crlf_other {c : Char} (hc : c ≠ '\n') (rest : Text) :
    crlf (c :: rest) = c :: crlf rest := by
  simp [crlf, hc]

@[simp] theorem crlf_append (front back : Text) : crlf (front ++ back) = crlf front ++ crlf back :=
  List.flatMap_append

/-- A stretch of one line is its own copy. -/
theorem crlf_eq_self (hline : '\n' ∉ text) : crlf text = text := by
  induction text with
  | nil => rfl
  | cons c rest ih =>
    rw [List.mem_cons, not_or] at hline
    rw [crlf_other (Ne.symm hline.1), ih hline.2]

theorem mem_crlf {c : Char} (hc : c ∈ crlf text) : c = '\r' ∨ c ∈ text := by
  obtain ⟨d, hd, hc⟩ := List.mem_flatMap.1 hc
  by_cases hline : d = '\n'
  · subst hline
    rw [if_pos rfl] at hc
    simp only [List.mem_cons, List.not_mem_nil, or_false] at hc
    rcases hc with rfl | rfl
    · exact Or.inl rfl
    · exact Or.inr hd
  · rw [if_neg hline, List.mem_singleton] at hc
    exact Or.inr (hc ▸ hd)

theorem head?_crlf {c : Char} (hc : c ∈ (crlf text).head?) : c = '\r' ∨ c ∈ text.head? := by
  cases text with
  | nil => simp at hc
  | cons d rest =>
    by_cases hd : d = '\n'
    · subst hd
      left
      simpa using hc.symm
    · right
      rwa [crlf_other hd] at hc

/-! ### Prefixes of a copy -/

@[simp] theorem withoutReturns_append (front back : Text) :
    withoutReturns (front ++ back) = withoutReturns front ++ withoutReturns back :=
  List.filter_append ..

theorem withoutReturns_eq_self (hreturn : '\r' ∉ text) : withoutReturns text = text := by
  rw [withoutReturns, List.filter_eq_self]
  intro c hc
  have hne : c ≠ '\r' := by
    rintro rfl
    exact hreturn hc
  simpa using hne

theorem withoutReturns_crlf (hreturn : '\r' ∉ text) : withoutReturns (crlf text) = text := by
  induction text with
  | nil => rfl
  | cons c rest ih =>
    rw [List.mem_cons, not_or] at hreturn
    by_cases hc : c = '\n'
    · subst hc
      exact congrArg ('\n' :: ·) (ih hreturn.2)
    · have hkept : (c != '\r') = true := by simpa using Ne.symm hreturn.1
      have hrest := ih hreturn.2
      rw [withoutReturns] at hrest ⊢
      rw [crlf_other hc, List.filter_cons, if_pos hkept, hrest]

theorem withoutReturns_isPrefix {other : Text} (hreturn : '\r' ∉ text)
    (hother : other <+: crlf text) : withoutReturns other <+: text := by
  obtain ⟨tail, htail⟩ := hother
  refine ⟨withoutReturns tail, ?_⟩
  rw [← withoutReturns_append, htail, withoutReturns_crlf hreturn]

/-- What has neither line feeds nor carriage returns is a prefix of the copy exactly when it is one
    of the text. -/
theorem isPrefix_crlf_iff {other : Text} (hreturn : '\r' ∉ text)
    (hplain : ∀ c ∈ other, isBlank c = false) : other <+: crlf text ↔ other <+: text := by
  have hline : '\n' ∉ other := fun hmem => absurd (hplain _ hmem) (by decide)
  have hkept : withoutReturns other = other :=
    withoutReturns_eq_self fun hmem => absurd (hplain _ hmem) (by decide)
  constructor
  · intro hother
    have hstart := withoutReturns_isPrefix hreturn hother
    rwa [hkept] at hstart
  · rintro ⟨tail, rfl⟩
    rw [crlf_append, crlf_eq_self hline]
    exact List.prefix_append other (crlf tail)

end

/-! ### Comments -/

theorem IsClosedComment.crlf {text : Text} (hclosed : IsClosedComment text) :
    IsClosedComment (crlf text) := by
  obtain ⟨body, rfl⟩ := hclosed
  refine ⟨PermissionSchema.crlf body, ?_⟩
  rw [crlf_append, crlf_append]
  rfl

theorem IsClosedComment.withoutReturns {text : Text} (hclosed : IsClosedComment text) :
    IsClosedComment (withoutReturns text) := by
  obtain ⟨body, rfl⟩ := hclosed
  refine ⟨PermissionSchema.withoutReturns body, ?_⟩
  rw [withoutReturns_append, withoutReturns_append]
  rfl

theorem IsClosedComment.exists_slash {text : Text} (hclosed : IsClosedComment text) :
    ∃ front, text = front ++ ['/'] := by
  obtain ⟨body, rfl⟩ := hclosed
  exact ⟨['/', '*'] ++ body ++ ['*'], by simp⟩

/-- A comment is closed no earlier in the copy. -/
theorem shortest_crlf {text : Text} (hreturn : '\r' ∉ text)
    (hshort : Shortest IsClosedComment text text) :
    Shortest IsClosedComment (crlf text) (crlf text) := by
  refine ⟨List.prefix_rfl, hshort.holds.crlf, ?_⟩
  intro other hother hclosed
  obtain ⟨front, rfl⟩ := hshort.holds.exists_slash
  have hcopy : crlf (front ++ ['/']) = crlf front ++ ['/'] := crlf_append front ['/']
  rw [hcopy] at hother ⊢
  rcases List.prefix_concat_iff.1 hother with rfl | hinside
  · exact Nat.le_refl _
  · -- without its carriage returns, this would be a shorter comment before the last slash
    have hfront : '\r' ∉ front := fun hmem => hreturn (List.mem_append_left ['/'] hmem)
    have hstart := withoutReturns_isPrefix hfront hinside
    have hle := hshort.le_length _ (hstart.trans (List.prefix_append front ['/']))
      hclosed.withoutReturns
    have hlt := hstart.length_le
    rw [List.length_append, List.length_singleton] at hle
    omega

theorem isDocumentation_crlf_iff {text : Text} (hreturn : '\r' ∉ text) :
    IsDocumentation (crlf text) ↔ IsDocumentation text := by
  have hopen : ['/', '*', '*'] <+: crlf text ↔ ['/', '*', '*'] <+: text :=
    isPrefix_crlf_iff hreturn (by simp [isBlank])
  have hempty : crlf text = ['/', '*', '*', '/'] ↔ text = ['/', '*', '*', '/'] := by
    constructor
    · intro hcopy
      have hkept := congrArg withoutReturns hcopy
      rwa [withoutReturns_crlf hreturn] at hkept
    · rintro rfl
      rfl
  rw [IsDocumentation, IsDocumentation, hopen, ne_eq, hempty]

/-! ### Tokens -/

/-- A token and what follows it, and the same two in the copy. A token that goes up to the end of
    its line takes the carriage return in there. -/
inductive CopyCut : Text → Text → Text → Text → Prop
  | whole (text behind : Text) : CopyCut text behind (crlf text) (crlf behind)
  | atLineEnd {text : Text} (below : Text) : '\n' ∉ text →
      CopyCut text ('\n' :: below) (text ++ ['\r']) ('\n' :: crlf below)

theorem CopyCut.withoutReturns_eq {text behind text' behind' : Text} (hreturn : '\r' ∉ text)
    (hcut : CopyCut text behind text' behind') : withoutReturns text' = text := by
  cases hcut with
  | whole => exact withoutReturns_crlf hreturn
  | atLineEnd =>
    rw [withoutReturns_append, withoutReturns_eq_self hreturn]
    exact List.append_nil text

theorem CopyCut.crlf_eq {text behind text' behind' : Text}
    (hcut : CopyCut text behind text' behind') : crlf (text ++ behind) = text' ++ behind' := by
  cases hcut with
  | whole => exact crlf_append text behind
  | atLineEnd below hplain =>
    rw [crlf_append, crlf_eq_self hplain, crlf_newline, List.append_assoc, List.singleton_append]

/-- What goes up to the end of its line does so in the copy. -/
theorem CopyCut.of_line {text behind : Text}
    (hline : Longest (fun t => '\n' ∉ t) (text ++ behind) text) :
    ∃ text' behind', CopyCut text behind text' behind' ∧
      Longest (fun t => '\n' ∉ t) (text' ++ behind') text' ∧ text <+: text' ∧
      text' <+: text ++ ['\r'] := by
  have hplain : '\n' ∉ text := hline.holds
  rw [Scan.newline_not_mem_eq, longest_run_append_iff] at hline
  cases behind with
  | nil =>
    refine ⟨crlf text, crlf [], .whole text [], ?_⟩
    rw [crlf_eq_self hplain, Scan.newline_not_mem_eq, longest_run_append_iff]
    exact ⟨⟨hline.1, by simp⟩, List.prefix_rfl, List.prefix_append text ['\r']⟩
  | cons c below =>
    have hc : c = '\n' := by simpa using hline.2 c rfl
    subst hc
    refine ⟨_, _, .atLineEnd below hplain, ?_, List.prefix_append text ['\r'], List.prefix_rfl⟩
    rw [Scan.newline_not_mem_eq, longest_run_append_iff]
    refine ⟨?_, hline.2⟩
    intro c hc
    rcases List.mem_append.1 hc with hc | hc
    · exact hline.1 c hc
    · obtain rfl := List.mem_singleton.1 hc
      decide

namespace Lexeme

variable {kind : Kind} {text behind : Text}

/-- A token within one line, other than a line comment, is its own copy. -/
theorem copy_of_plain (hlexeme : Lexeme (text ++ behind) kind text)
    (hkind : kind.isTerminal = false) (hcomment : kind ≠ .lineComment) :
    Lexeme (text ++ crlf behind) kind text := by
  apply hlexeme.before hkind
  intro c hc
  rcases head?_crlf hc with rfl | hc
  · exact not_goesOn_of_isBlank rfl fun heq => absurd heq hcomment
  · exact hlexeme.not_goesOn hkind c hc

theorem newline_not_mem (hlexeme : Lexeme (text ++ behind) kind text)
    (hkind : kind.isTerminal = false) (hcomment : kind.isComment = false) : '\n' ∉ text := by
  generalize text ++ behind = rest at hlexeme
  intro hmem
  cases hlexeme with
  | endOfInput | unterminatedComment | unterminatedString | unexpected =>
    simp [Kind.isTerminal] at hkind
  | lineComment | blockComment | docComment => simp [Kind.isComment] at hcomment
  | string _ hstring => exact newline_not_mem_of_isString hstring hmem
  | keyword _ hrun | identifier _ hrun =>
    have hname : continuesName '\n' = true := hrun.holds _ hmem
    rw [not_continuesName_of_isBlank rfl] at hname
    exact Bool.false_ne_true hname
  | mark hmark _ =>
    have hblank : isBlank '\n' = false := not_blank_of_isMark hmark.holds _ hmem
    exact absurd hblank (by decide)

/-- A comment has a copy of the same kind. -/
theorem copy_of_comment (hlexeme : Lexeme (text ++ behind) kind text)
    (hcomment : kind.isComment = true) (hreturn : '\r' ∉ text) :
    ∃ text' behind', CopyCut text behind text' behind' ∧
      Lexeme (text' ++ behind') kind text' := by
  generalize hrest : text ++ behind = rest at hlexeme
  cases hlexeme with
  | endOfInput | unterminatedComment | unterminatedString | unexpected | string | keyword
    | identifier => simp [Kind.isComment] at hcomment
  | mark _ hmem =>
    have hkinds : ∀ mark ∈ marks, mark.2.isComment = false := by decide
    exact absurd (hcomment.symm.trans (hkinds _ hmem)) (by simp)
  | lineComment hopen hline =>
    have hslashes : ['/', '/'] <+: text := hline.isPrefix_of_holds hopen (by decide)
    rw [← hrest] at hline
    obtain ⟨text', behind', hcut, hline', hinside, -⟩ := CopyCut.of_line hline
    have hslashes' := (hslashes.trans hinside).trans (List.prefix_append text' behind')
    exact ⟨text', behind', hcut, .lineComment hslashes' hline'⟩
  | blockComment hclosed hdoc =>
    rw [← hrest, shortest_append_iff] at hclosed
    have hclosed' : Shortest IsClosedComment (crlf text ++ crlf behind) (crlf text) :=
      shortest_append_iff.2 (shortest_crlf hreturn hclosed)
    exact ⟨_, _, .whole text behind, .blockComment hclosed'
      (mt (isDocumentation_crlf_iff hreturn).1 hdoc)⟩
  | docComment hclosed hdoc =>
    rw [← hrest, shortest_append_iff] at hclosed
    have hclosed' : Shortest IsClosedComment (crlf text ++ crlf behind) (crlf text) :=
      shortest_append_iff.2 (shortest_crlf hreturn hclosed)
    exact ⟨_, _, .whole text behind, .docComment hclosed'
      ((isDocumentation_crlf_iff hreturn).2 hdoc)⟩

/-- A string that is left open is so in the copy, as no string ends with a carriage return. -/
theorem not_isString_of_line {text' behind' : Text}
    (hopen : ∀ other, other <+: text ++ behind → ¬ IsString other)
    (hline' : Longest (fun t => '\n' ∉ t) (text' ++ behind') text')
    (hreturned : text' <+: text ++ ['\r']) :
    ∀ other, other <+: text' ++ behind' → ¬ IsString other := by
  intro other hother hstring
  have hinside := hline'.isPrefix_of_holds hother (newline_not_mem_of_isString hstring)
  rcases List.prefix_concat_iff.1 (hinside.trans hreturned) with rfl | hstart
  · obtain ⟨body, -, hbody⟩ := hstring
    have hlast : ['\r'] = ['"'] := (List.append_inj' hbody rfl).2
    exact absurd hlast (by decide)
  · exact hopen other (hstart.trans (List.prefix_append text behind)) hstring

/-- The end of the text and every error have a copy of the same kind. -/
theorem copy_of_isTerminal (hlexeme : Lexeme (text ++ behind) kind text)
    (hkind : kind.isTerminal = true) (hreturn : '\r' ∉ text ++ behind) :
    ∃ text' behind', CopyCut text behind text' behind' ∧
      Lexeme (text' ++ behind') kind text' := by
  generalize hrest : text ++ behind = rest at hlexeme
  cases hlexeme with
  | endOfInput =>
    obtain ⟨-, rfl⟩ := List.append_eq_nil_iff.1 hrest
    exact ⟨_, _, .whole [] [], .endOfInput⟩
  | unterminatedComment hopen hnone =>
    obtain rfl := List.append_right_eq_self.1 hrest
    rw [List.append_nil] at hreturn
    refine ⟨_, _, .whole text [], ?_⟩
    rw [crlf_nil, List.append_nil]
    refine .unterminatedComment ((isPrefix_crlf_iff hreturn (by simp [isBlank])).2 hopen) ?_
    intro other hother hclosed
    exact hnone _ (withoutReturns_isPrefix hreturn hother) hclosed.withoutReturns
  | unterminatedString hopen hnone hline =>
    have hquote : ['"'] <+: text := hline.isPrefix_of_holds hopen (by decide)
    rw [← hrest] at hnone hline
    obtain ⟨text', behind', hcut, hline', hinside, hreturned⟩ := CopyCut.of_line hline
    have hquote' := (hquote.trans hinside).trans (List.prefix_append text' behind')
    exact ⟨text', behind', hcut,
      .unterminatedString hquote' (not_isString_of_line hnone hline' hreturned) hline'⟩
  | @unexpected c rest hblank hname hquote hslashes hblock hmark =>
    have hc : c ≠ '\n' := by
      rintro rfl
      exact absurd hblank (by decide)
    obtain rfl : behind = rest := (List.cons.inj hrest).2
    have hsame : ∀ other : Text, (∀ d ∈ other, isBlank d = false) →
        other <+: c :: crlf behind → other <+: c :: behind := by
      intro other hplain hother
      rw [← crlf_other hc] at hother
      exact (isPrefix_crlf_iff hreturn hplain).1 hother
    have hself : crlf [c] = [c] := crlf_other hc []
    refine ⟨_, _, .whole [c] behind, ?_⟩
    rw [hself]
    refine .unexpected hblank hname hquote ?_ ?_ ?_
    · exact mt (hsame _ (by simp [isBlank])) hslashes
    · exact mt (hsame _ (by simp [isBlank])) hblock
    · intro other hother
      exact mt (hsame other (not_blank_of_isMark hother)) (hmark other hother)
  | mark _ hmem =>
    rw [not_isTerminal_of_mem_marks hmem] at hkind
    exact absurd hkind (by simp)
  | _ => simp [Kind.isTerminal] at hkind

/-- Every token has a copy of the same kind; only comments and errors have another text there. -/
theorem copy (hlexeme : Lexeme (text ++ behind) kind text) (hreturn : '\r' ∉ text ++ behind) :
    ∃ text' behind', CopyCut text behind text' behind' ∧ Lexeme (text' ++ behind') kind text' ∧
      (kind.isComment = false → kind.isTerminal = false → text' = text) := by
  cases hkind : kind.isTerminal with
  | true =>
    obtain ⟨text', behind', hcut, hlexeme'⟩ := hlexeme.copy_of_isTerminal hkind hreturn
    exact ⟨text', behind', hcut, hlexeme', by simp⟩
  | false =>
    cases hcomment : kind.isComment with
    | true =>
      have htext : '\r' ∉ text := fun hmem => hreturn (List.mem_append_left behind hmem)
      obtain ⟨text', behind', hcut, hlexeme'⟩ := hlexeme.copy_of_comment hcomment htext
      exact ⟨text', behind', hcut, hlexeme', by simp⟩
    | false =>
      have hself : crlf text = text := crlf_eq_self (hlexeme.newline_not_mem hkind hcomment)
      have hne : kind ≠ .lineComment := by
        rintro rfl
        exact absurd hcomment (by decide)
      refine ⟨_, _, .whole text behind, ?_, fun _ _ => hself⟩
      rw [hself]
      exact hlexeme.copy_of_plain hkind hne

end Lexeme

/-! ### Places -/

/-- Two places in texts that are counted alike, except in bytes. -/
structure Position.Beside (place place' : Position) : Prop where
  line_eq : place'.line = place.line
  column_eq : place'.column = place.column

theorem Position.Beside.after_crlf {place place' : Position} (hbeside : place.Beside place')
    (text : Text) : (place.after text).Beside (place'.after (crlf text)) := by
  induction text generalizing place place' with
  | nil => exact hbeside
  | cons c rest ih =>
    obtain ⟨hline, hcolumn⟩ := hbeside
    by_cases hc : c = '\n'
    · subst hc
      rw [crlf_newline, after_cons, after_cons, after_cons]
      apply ih
      exact ⟨congrArg (· + 1) hline, rfl⟩
    · rw [crlf_other hc, after_cons, after_cons]
      apply ih
      constructor
      · simp only [next, if_neg hc, hline]
      · simp only [next, if_neg hc, hcolumn]

/-! ### Streams -/

/-- A token of a text that starts at one place, and the same token of the copy, which starts at
    another. -/
inductive Copied (place place' : Position) (rest : Text) : Token → Token → Prop
  | intro {before text behind text' behind' : Text} {kind : Kind} :
      rest = before ++ (text ++ behind) → CopyCut text behind text' behind' →
      Lexeme (text ++ behind) kind text → Lexeme (text' ++ behind') kind text' →
      (kind.isComment = false → kind.isTerminal = false → text' = text) →
      Copied place place' rest (.behind place before text kind)
        (.behind place' (crlf before) text' kind)

theorem Copied.kind_eq {place place' : Position} {rest : Text} {token token' : Token}
    (hcopied : Copied place place' rest token token') : token'.kind = token.kind := by
  cases hcopied with
  | intro => rfl

/-- Tokens that are copies behind a stretch of text are so in the longer text. -/
theorem Copied.behind_front {place place' : Position} {front rest : Text} {token token' : Token}
    (hcopied : Copied (place.after front) (place'.after (crlf front)) rest token token') :
    Copied place place' (front ++ rest) token token' := by
  cases hcopied with
  | intro hrest hcut hlexeme hlexeme' hplain =>
    rw [Token.behind_append, Token.behind_append, ← crlf_append]
    refine .intro ?_ hcut hlexeme hlexeme' hplain
    rw [hrest, List.append_assoc]

theorem isBlank_crlf {gap : Text} (hblank : ∀ c ∈ gap, isBlank c = true) :
    ∀ c ∈ crlf gap, isBlank c = true := by
  intro c hc
  rcases mem_crlf hc with rfl | hc
  · rfl
  · exact hblank c hc

namespace Stream

/-- Blanks in front of a stream may be told with it or before it. -/
theorem of_blanks {place : Position} {front rest : Text} {tokens : List Token}
    (hfront : ∀ c ∈ front, isBlank c = true) (hstream : Stream place (front ++ rest) tokens) :
    Stream (place.after front) rest tokens := by
  obtain ⟨tokens', hstream'⟩ := exists_stream (place.after front) rest
  rwa [hstream.unique (hstream'.blanks hfront)]

/-- What follows a token in the copy has the same stream, whether or not the token takes the
    carriage return in. -/
theorem of_copyCut {place : Position} {text behind text' behind' : Text} {tokens : List Token}
    (hcut : CopyCut text behind text' behind')
    (hstream : Stream (place.after (crlf text)) (crlf behind) tokens) :
    Stream (place.after text') behind' tokens := by
  cases hcut with
  | whole => exact hstream
  | atLineEnd below hplain =>
    have hreturn : ∀ c ∈ ['\r'], isBlank c = true := by simp [isBlank]
    have hcopy : crlf ('\n' :: below) = ['\r'] ++ '\n' :: crlf below := rfl
    rw [hcopy, crlf_eq_self hplain] at hstream
    rw [Position.after_append]
    exact hstream.of_blanks hreturn

/-- The copy of a text has the copies of its tokens. -/
theorem copy {place : Position} {rest : Text} {tokens : List Token}
    (hstream : Stream place rest tokens) (hreturn : '\r' ∉ rest) (place' : Position) :
    ∃ tokens', Stream place' (crlf rest) tokens' ∧
      List.Forall₂ (Copied place place' rest) tokens tokens' := by
  induction hstream generalizing place' with
  | @last place gap text behind kind hgap hlexeme hkind =>
    rw [List.mem_append, not_or] at hreturn
    obtain ⟨text', behind', hcut, hlexeme', hplain⟩ := hlexeme.copy hreturn.2
    have hgap' : IsGap (crlf gap) (text' ++ behind') :=
      .of_lexeme (isBlank_crlf hgap.blank) hlexeme'
    rw [crlf_append, hcut.crlf_eq]
    exact ⟨_, .last hgap' hlexeme' hkind, .cons (.intro rfl hcut hlexeme hlexeme' hplain) .nil⟩
  | @more place gap text behind kind tokens hgap hlexeme hkind _ ih =>
    rw [List.mem_append, not_or] at hreturn
    have hbehind : '\r' ∉ behind := fun hmem => hreturn.2 (List.mem_append_right text hmem)
    obtain ⟨text', behind', hcut, hlexeme', hplain⟩ := hlexeme.copy hreturn.2
    have hgap' : IsGap (crlf gap) (text' ++ behind') :=
      .of_lexeme (isBlank_crlf hgap.blank) hlexeme'
    obtain ⟨tokens', hstream', hcopied⟩ := ih hbehind (place'.after (crlf (gap ++ text)))
    have hlater : List.Forall₂ (Copied place place' (gap ++ (text ++ behind))) tokens tokens' := by
      rw [← List.append_assoc]
      exact hcopied.imp fun _ _ h => h.behind_front
    rw [crlf_append, Position.after_append] at hstream'
    have htail := hstream'.of_copyCut hcut
    rw [← Position.after_append] at htail
    rw [crlf_append, hcut.crlf_eq]
    exact ⟨_, .more hgap' hlexeme' hkind htail,
      .cons (.intro rfl hcut hlexeme hlexeme' hplain) hlater⟩

end Stream

end PermissionSchema
