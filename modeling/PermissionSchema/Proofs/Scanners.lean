import PermissionSchema.Proofs.Grammar
import Mathlib.Data.List.Nodup

/-!
# Scanning meets the lexical grammar

The scanners of `Scan` count characters, one family of tokens each; the grammar speaks of prefixes.
Here each scanner is compared with its family, both ways: what it finds is a token of the family,
and where one is, it is found. `Scan.whole` takes the at most two steps of one token together.
The main statements are `whole_of_lexeme` and `exists_lexeme`; that the grammar is unambiguous
(`Lexeme.unique`) follows, since a scan has one result.
-/

namespace PermissionSchema

namespace Scan

/-! ### Bodies of comments and strings -/

theorem not_close_isPrefix {c : Char} {rest : Text}
    (hopen : ∀ tail, c = '*' → rest = '/' :: tail → False) : ¬ ['*', '/'] <+: c :: rest := by
  rintro ⟨tail, htail⟩
  obtain ⟨rfl, rfl⟩ : '*' = c ∧ '/' :: tail = rest := by simpa using htail
  exact hopen tail rfl rfl

/-- The first `*/` is found. -/
theorem throughClose?_some {count length : Nat} {rest : Text}
    (h : throughClose? count rest = some length) :
    ∃ body behind, rest = body ++ ['*', '/'] ++ behind ∧ length = count + body.length + 2 ∧
      ∀ inner, inner ++ ['*', '/'] <+: rest → body.length ≤ inner.length := by
  fun_induction throughClose? count rest with
  | case1 => simp at h
  | case2 count behind =>
    exact ⟨[], behind, rfl, by simpa using h.symm, by simp⟩
  | case3 count c rest hopen ih =>
    obtain ⟨body, behind, hrest, hlength, hfirst⟩ := ih h
    refine ⟨c :: body, behind, by simp [hrest], by simp [hlength]; omega, ?_⟩
    intro inner hinner
    cases inner with
    | nil => exact absurd hinner (not_close_isPrefix hopen)
    | cons d inner =>
      have htail : inner ++ ['*', '/'] <+: rest := (List.cons_prefix_cons.1 hinner).2
      simpa using hfirst inner htail

theorem throughClose?_none {count : Nat} {rest : Text} (h : throughClose? count rest = none)
    (inner : Text) : ¬ inner ++ ['*', '/'] <+: rest := by
  fun_induction throughClose? count rest generalizing inner with
  | case1 => simp
  | case2 => simp at h
  | case3 count c rest hopen ih =>
    intro hinner
    cases inner with
    | nil => exact not_close_isPrefix hopen hinner
    | cons d inner => exact ih h inner (List.cons_prefix_cons.1 hinner).2

theorem throughQuote_plain {c : Char} (hquote : c ≠ '"') (hslash : c ≠ '\\') (hline : c ≠ '\n')
    (count : Nat) (rest : Text) :
    throughQuote count (c :: rest) = throughQuote (count + 1) rest := by
  rw [throughQuote]
  · exact hline
  · exact hquote
  · exact fun hc _ => hslash hc
  · exact fun _ hc _ => hslash hc
  · exact fun _ _ hc _ => hslash hc

theorem throughQuote_escaped {c : Char} (hline : c ≠ '\n') (count : Nat) (rest : Text) :
    throughQuote count ('\\' :: c :: rest) = throughQuote (count + 2) rest := by
  rw [throughQuote]
  exact hline

/-- A closed body is passed whole: no character in it ends the scan. -/
theorem throughQuote_body {body : Text} (hbody : StringBody body) (count : Nat) (behind : Text) :
    throughQuote count (body ++ '"' :: behind) = (count + body.length + 1, true) := by
  induction hbody generalizing count with
  | nil => rfl
  | @plain c body hquote hslash hline _ ih =>
    rw [List.cons_append, throughQuote_plain hquote hslash hline, ih]
    simp; omega
  | @escaped c body hline _ ih =>
    rw [List.cons_append, List.cons_append, throughQuote_escaped hline, ih]
    simp; omega

/-- What is passed up to a closing quote is a body. -/
theorem throughQuote_closed_body {count length : Nat} {rest : Text}
    (h : throughQuote count rest = (length, true)) :
    ∃ body behind, StringBody body ∧ rest = body ++ '"' :: behind ∧
      length = count + body.length + 1 := by
  fun_induction throughQuote count rest with
  | case1 => simp at h
  | case2 => simp at h
  | case3 count behind => exact ⟨[], behind, .nil, rfl, by simpa using h.symm⟩
  | case4 => simp at h
  | case5 => simp at h
  | case6 count c rest hline ih =>
    obtain ⟨body, behind, hbody, hrest, hlength⟩ := ih h
    refine ⟨'\\' :: c :: body, behind, .escaped hline hbody, by simp [hrest], ?_⟩
    simp [hlength]; omega
  | case7 count c rest hline hquote hlast _ hescape ih =>
    obtain ⟨body, behind, hbody, hrest, hlength⟩ := ih h
    have hslash : c ≠ '\\' := by
      intro hc
      cases rest with
      | nil => exact hlast hc rfl
      | cons d rest => exact hescape d rest hc rfl
    refine ⟨c :: body, behind, .plain hquote hslash hline hbody, by simp [hrest], ?_⟩
    simp [hlength]; omega

/-- A body without a closing quote is passed up to the end of its line. -/
theorem throughQuote_open_length {count length : Nat} {rest : Text}
    (h : throughQuote count rest = (length, false)) :
    length = count + (rest.takeWhile (· != '\n')).length := by
  fun_induction throughQuote count rest with
  | case1 => simpa using h.symm
  | case2 => simpa using h.symm
  | case3 => simp at h
  | case4 => simpa using h.symm
  | case5 => simpa using h.symm
  | case6 count c rest hline ih =>
    rw [ih h, List.takeWhile_cons_of_pos (by decide),
      List.takeWhile_cons_of_pos (by simpa using hline)]
    simp; omega
  | case7 count c rest hline hquote hlast _ hescape ih =>
    rw [ih h, List.takeWhile_cons_of_pos (by simpa using hline)]
    simp; omega

/-! ### Operators and punctuation marks -/

theorem symbol?_isMark {rest : Text} {kind : Kind} {length : Nat}
    (h : symbol? rest = some (kind, length)) :
    (rest.take length, kind) ∈ marks ∧ length ≤ rest.length := by
  fun_cases symbol? rest
  all_goals
    simp only [symbol?, Option.some.injEq, Prod.mk.injEq, reduceCtorEq] at h
  all_goals
    obtain ⟨rfl, rfl⟩ := h
    simp [marks]

theorem exists_symbol?_of_isMark {text : Text} (hmark : IsMark text) (behind : Text) :
    ∃ found length, symbol? (text ++ behind) = some (found, length) ∧ text.length ≤ length := by
  obtain ⟨kind, hmem⟩ := hmark
  simp only [marks, List.mem_cons, Prod.mk.injEq, List.not_mem_nil, or_false] at hmem
  rcases hmem with h | h | h | h | h | h | h | h | h | h | h | h | h | h | h | h
  all_goals obtain ⟨rfl, -⟩ := h
  -- `=` and `!` may go on, all other marks are found at once
  case inr.inr.inl | inr.inr.inr.inr.inl =>
    rw [List.cons_append, List.nil_append]
    unfold symbol?
    split <;> simp_all
  all_goals exact ⟨_, _, rfl, le_rfl⟩

/-- The mark that is found is the longest there is. -/
theorem symbol?_some {rest : Text} {kind : Kind} {length : Nat}
    (h : symbol? rest = some (kind, length)) :
    (rest.take length, kind) ∈ marks ∧ (rest.take length).length = length ∧
      Longest IsMark rest (rest.take length) := by
  obtain ⟨hmem, hle⟩ := symbol?_isMark h
  have hlength : (rest.take length).length = length := List.length_take_of_le hle
  refine ⟨hmem, hlength, List.take_prefix length rest, ⟨kind, hmem⟩, ?_⟩
  rintro other ⟨behind, rfl⟩ hother
  obtain ⟨found, most, hfound, hmost⟩ := exists_symbol?_of_isMark hother behind
  rw [h] at hfound
  obtain ⟨-, rfl⟩ : kind = found ∧ length = most := by simpa using hfound
  rwa [hlength]

theorem symbol?_none {rest : Text} (h : symbol? rest = none) {text : Text}
    (hmark : IsMark text) : ¬ text <+: rest := by
  rintro ⟨behind, rfl⟩
  obtain ⟨found, length, hfound, -⟩ := exists_symbol?_of_isMark hmark behind
  rw [h] at hfound
  exact Option.some_ne_none _ hfound.symm

/-- No two marks are written alike. -/
theorem kind_unique_of_mem_marks {text : Text} {kind other : Kind} (hkind : (text, kind) ∈ marks)
    (hother : (text, other) ∈ marks) : kind = other := by
  have hnodup : (marks.map Prod.fst).Nodup := by decide
  exact congrArg Prod.snd (List.inj_on_of_nodup_map hnodup hkind hother rfl)

/-- No mark starts as another token or a blank does. -/
theorem ne_of_isMark {c : Char} {rest : Text} (hmark : IsMark (c :: rest)) :
    isBlank c = false ∧ c ≠ '/' ∧ c ≠ '"' ∧ startsName c = false := by
  have hstarts : (marks.all fun mark => mark.1.head?.all fun c =>
      !isBlank c && c != '/' && c != '"' && !startsName c) = true := by decide
  obtain ⟨kind, hmem⟩ := hmark
  have hstart := List.all_eq_true.1 hstarts _ hmem
  simpa [and_assoc] using hstart

theorem ne_nil_of_isMark {text : Text} (hmark : IsMark text) : text ≠ [] := by
  rintro rfl
  obtain ⟨kind, hmem⟩ := hmark
  have hempty : ∀ mark ∈ marks, mark.1 ≠ [] := by decide
  exact hempty _ hmem rfl

/-! ### Whole tokens -/

/-- The steps of one token taken together: the first step, and the body that it opens. -/
def whole (rest : Text) : Scan :=
  let opening := ofText .top rest
  if opening.action = .resume then
    let body := ofText opening.next (rest.drop opening.length)
    ⟨opening.length + body.length, body.action, body.next⟩
  else opening

theorem whole_of_emit {rest : Text} {length : Nat} {kind : Kind}
    (h : ofText .top rest = emit length kind) : whole rest = emit length kind := by
  simp [whole, h, emit]

/-- A token takes one step, or it takes two: its opening and the body that it opens. -/
theorem emit_or_resume_of_whole {rest : Text} {length : Nat} {kind : Kind}
    (h : whole rest = emit length kind) :
    ofText .top rest = emit length kind ∨
      ∃ opening mode body, ofText .top rest = ⟨opening, .resume, mode⟩ ∧
        ofText mode (rest.drop opening) = emit body kind ∧ length = opening + body := by
  rw [whole] at h
  cases hscan : ofText .top rest with
  | mk opening action mode =>
    rw [hscan] at h
    cases action with
    | skip =>
      -- blanks are no token
      exact absurd (congrArg Scan.action h) (by simp [emit])
    | emit found => exact Or.inl h
    | resume =>
      right
      refine ⟨opening, mode, (ofText mode (rest.drop opening)).length, rfl, ?_, ?_⟩
      · have haction : (ofText mode (rest.drop opening)).action = .emit kind :=
          congrArg Scan.action h
        have hnext : (ofText mode (rest.drop opening)).next = .top := congrArg Scan.next h
        rw [emit, ← haction, ← hnext]
      · exact (congrArg Scan.length h).symm

theorem opening_length_le_whole (rest : Text) :
    (ofText .top rest).length ≤ (whole rest).length := by
  simp only [whole]
  split
  · exact Nat.le_add_right _ _
  · exact Nat.le_refl _

theorem whole_slash_slash (rest : Text) : whole ('/' :: '/' :: rest) =
    emit (('/' :: '/' :: rest).takeWhile (· != '\n')).length .lineComment := rfl

theorem whole_slash_star (body : Text) : whole ('/' :: '*' :: body) =
    ⟨2 + (commentBody (body.head? = some '*' && body[1]? ≠ some '/') body).length,
      (commentBody (body.head? = some '*' && body[1]? ≠ some '/') body).action,
      (commentBody (body.head? = some '*' && body[1]? ≠ some '/') body).next⟩ := rfl

theorem whole_quote (rest : Text) : whole ('"' :: rest) =
    emit (1 + (throughQuote 0 rest).1)
      (if (throughQuote 0 rest).2 then .string else .error .unterminatedString) := rfl

/-- A stretch of one line is a run of characters other than the line feed. -/
theorem newline_not_mem_eq :
    (fun t : Text => '\n' ∉ t) = fun t => ∀ c ∈ t, (c != '\n') = true := by
  funext t
  simp only [bne_iff_ne, ne_eq, List.forall_mem_ne']

theorem longest_line (rest : Text) :
    Longest (fun t => '\n' ∉ t) rest (rest.takeWhile (· != '\n')) := by
  rw [newline_not_mem_eq]
  exact longest_takeWhile (· != '\n') rest

/-- Whether a comment documents something shows in the two characters behind its `/*`. -/
theorem isDocumentation_iff {body behind : Text}
    (hfirst : ∀ inner, inner ++ ['*', '/'] <+: body ++ ['*', '/'] ++ behind →
      body.length ≤ inner.length) :
    IsDocumentation (['/', '*'] ++ body ++ ['*', '/']) ↔
      (body ++ ['*', '/'] ++ behind).head? = some '*' ∧
        (body ++ ['*', '/'] ++ behind)[1]? ≠ some '/' := by
  -- the comment is `/**/`, has one character inside, or two that are not its end
  cases body with
  | nil => simp [IsDocumentation]
  | cons c body =>
    cases body with
    | nil => simp [IsDocumentation, eq_comm]
    | cons d body =>
      have hopen : ¬ (c = '*' ∧ d = '/') := by
        rintro ⟨rfl, rfl⟩
        have hshort := hfirst [] (by simp)
        simp at hshort
      have hdoc : IsDocumentation (['/', '*'] ++ (c :: d :: body) ++ ['*', '/']) ↔ '*' = c := by
        simp [IsDocumentation]
      rw [hdoc]
      constructor
      · rintro rfl
        exact ⟨rfl, by simpa using hopen⟩
      · rintro ⟨hhead, -⟩
        simpa using hhead.symm

/-- A block comment is scanned to its end, or it has none. -/
theorem whole_comment (body : Text) :
    (∃ text, Shortest IsClosedComment ('/' :: '*' :: body) text ∧
      whole ('/' :: '*' :: body) =
        emit text.length (if IsDocumentation text then .docComment else .blockComment)) ∨
    ((∀ text, text <+: '/' :: '*' :: body → ¬ IsClosedComment text) ∧
      whole ('/' :: '*' :: body) =
        emit ('/' :: '*' :: body).length (.error .unterminatedComment)) := by
  rw [whole_slash_star]
  cases hclose : throughClose? 0 body with
  | some length =>
    left
    obtain ⟨inner, behind, rfl, hlength, hfirst⟩ := throughClose?_some hclose
    refine ⟨['/', '*'] ++ inner ++ ['*', '/'], ⟨?_, ⟨inner, rfl⟩, ?_⟩, ?_⟩
    · exact ⟨behind, by simp⟩
    · rintro other hother ⟨shorter, rfl⟩
      have hinner : shorter ++ ['*', '/'] <+: inner ++ ['*', '/'] ++ behind := by
        simpa using hother
      have hle := hfirst shorter hinner
      simp only [List.length_append]
      omega
    · have hdoc := isDocumentation_iff hfirst
      have htest : (decide ((inner ++ ['*', '/'] ++ behind).head? = some '*') &&
          decide ((inner ++ ['*', '/'] ++ behind)[1]? ≠ some '/')) =
          decide (IsDocumentation (['/', '*'] ++ inner ++ ['*', '/'])) := by
        rw [Bool.eq_iff_iff, Bool.and_eq_true, decide_eq_true_iff, decide_eq_true_iff,
          decide_eq_true_iff, hdoc]
      have htotal : 2 + length = (['/', '*'] ++ inner ++ ['*', '/']).length := by
        simp only [List.length_append, List.length_cons, List.length_nil]
        omega
      simp only [htest, commentBody, hclose, emit, htotal, decide_eq_true_eq]
  | none =>
    right
    refine ⟨?_, ?_⟩
    · rintro other hother ⟨inner, rfl⟩
      have hinner : inner ++ ['*', '/'] <+: body := by simpa using hother
      exact throughClose?_none hclose inner hinner
    · simp [commentBody, hclose, emit]
      omega

theorem isPrefix_of_isClosedComment {text : Text} (hclosed : IsClosedComment text) :
    ['/', '*'] <+: text := by
  obtain ⟨body, rfl⟩ := hclosed
  exact ⟨body ++ ['*', '/'], by simp⟩

/-- A block comment that is closed is scanned to its end. -/
theorem whole_closedComment {rest text : Text} (hclosed : Shortest IsClosedComment rest text) :
    whole rest =
      emit text.length (if IsDocumentation text then .docComment else .blockComment) := by
  obtain ⟨body, rfl⟩ := (isPrefix_of_isClosedComment hclosed.holds).trans hclosed.isPrefix
  rcases whole_comment body with ⟨found, hfound, hwhole⟩ | ⟨hnone, -⟩
  · rw [← hfound.unique hclosed]
    exact hwhole
  · exact absurd hclosed.holds (hnone _ hclosed.isPrefix)

/-- A string is scanned to its closing quote. -/
theorem whole_string {text : Text} (hstring : IsString text) (behind : Text) :
    whole (text ++ behind) = emit text.length .string := by
  obtain ⟨body, hbody, rfl⟩ := hstring
  have hscan := throughQuote_body hbody 0 behind
  have htotal : 1 + (0 + body.length + 1) = (['"'] ++ body ++ ['"']).length := by
    simp only [List.length_append, List.length_cons, List.length_nil]
    omega
  simp only [List.append_assoc, List.cons_append, List.nil_append, whole_quote, hscan] at htotal ⊢
  rw [htotal, if_true]

/-- Without a closing quote, a string is scanned to the end of its line. -/
theorem whole_unterminatedString {rest : Text}
    (hopen : ∀ text, text <+: '"' :: rest → ¬ IsString text) :
    whole ('"' :: rest) = emit (('"' :: rest).takeWhile (· != '\n')).length
      (.error .unterminatedString) := by
  rw [whole_quote]
  cases hscan : throughQuote 0 rest with
  | mk length closed =>
    cases closed with
    | true =>
      obtain ⟨body, behind, hbody, rfl, -⟩ := throughQuote_closed_body hscan
      exact absurd ⟨body, hbody, rfl⟩ (hopen _ ⟨behind, by simp⟩)
    | false =>
      rw [throughQuote_open_length hscan, List.takeWhile_cons_of_pos (by decide),
        List.length_cons, Nat.zero_add, Nat.add_comm]
      rfl

/-- A character that starts a name starts no other token and is no blank. -/
theorem ne_of_startsName {c : Char} (hname : startsName c = true) :
    isBlank c = false ∧ c ≠ '/' ∧ c ≠ '"' := by
  refine ⟨?_, ?_, ?_⟩
  · by_contra hblank
    simp only [isBlank, Bool.not_eq_false, Bool.or_eq_true, beq_iff_eq] at hblank
    rcases hblank with ((rfl | rfl) | rfl) | rfl <;> exact absurd hname (by decide)
  · rintro rfl
    exact absurd hname (by decide)
  · rintro rfl
    exact absurd hname (by decide)

theorem whole_name {c : Char} {rest : Text} (hname : startsName c = true) :
    whole (c :: rest) = name (c :: rest) := by
  obtain ⟨hblank, hslash, hquote⟩ := ne_of_startsName hname
  have hfirst : ofText .top (c :: rest) = name (c :: rest) := by
    simp [ofText, first, hblank, hslash, hquote, hname]
  exact whole_of_emit hfirst

/-- The run of characters of a name. -/
theorem name_eq {rest text : Text}
    (hrun : Longest (fun t => ∀ d ∈ t, continuesName d = true) rest text) :
    name rest = emit text.length (match Keyword.ofSpelling? text with
      | some k => .keyword k
      | none => .identifier) := by
  rw [hrun.unique (longest_takeWhile continuesName rest)]
  rfl

theorem ofSpelling?_eq_none_iff {text : Text} :
    Keyword.ofSpelling? text = none ↔ ∀ k : Keyword, k.spelling.toList ≠ text := by
  constructor
  · rintro h k rfl
    rw [Keyword.ofSpelling?_spelling] at h
    exact Option.some_ne_none k h
  · intro h
    cases hfound : Keyword.ofSpelling? text with
    | none => rfl
    | some k => exact absurd (Keyword.spelling_of_ofSpelling? hfound) (h k)

/-- Where neither blanks, a comment, a string nor a name starts, the marks decide. -/
theorem ofText_symbol {c : Char} {rest : Text} (hblank : isBlank c = false) (hslash : c ≠ '/')
    (hquote : c ≠ '"') (hname : startsName c = false) :
    (∀ kind length, symbol? (c :: rest) = some (kind, length) →
      ofText .top (c :: rest) = emit length kind) ∧
      (symbol? (c :: rest) = none → ofText .top (c :: rest) = unexpected c) := by
  have hfirst : ofText .top (c :: rest) = first c (c :: rest) := rfl
  rw [hfirst, first, if_neg (by simp [hblank]), if_neg hslash, if_neg hquote,
    if_neg (by simp [hname])]
  constructor
  · intro kind length hsymbol
    rw [hsymbol]
  · intro hsymbol
    rw [hsymbol]

/-- An operator or punctuation mark is scanned as far as it goes. -/
theorem whole_mark {rest text : Text} {kind : Kind} (hmark : Longest IsMark rest text)
    (hkind : (text, kind) ∈ marks) : whole rest = emit text.length kind := by
  obtain ⟨behind, rfl⟩ := hmark.isPrefix
  obtain ⟨found, length, hfound, -⟩ := exists_symbol?_of_isMark hmark.holds behind
  obtain ⟨hmem, hlength, hlongest⟩ := symbol?_some hfound
  have htext : (text ++ behind).take length = text := hlongest.unique hmark
  rw [htext] at hmem hlength
  cases text with
  | nil => exact absurd rfl (ne_nil_of_isMark hmark.holds)
  | cons c tail =>
    obtain ⟨hblank, hslash, hquote, hname⟩ := ne_of_isMark hmark.holds
    apply whole_of_emit
    rw [List.cons_append] at hfound ⊢
    rw [(ofText_symbol hblank hslash hquote hname).1 found length hfound, hlength,
      kind_unique_of_mem_marks hkind hmem]

/-- A character that starts no token is an error by itself. -/
theorem whole_unexpected {c : Char} {rest : Text} (hblank : isBlank c = false)
    (hname : startsName c = false) (hquote : c ≠ '"') (hline : ¬ ['/', '/'] <+: c :: rest)
    (hblock : ¬ ['/', '*'] <+: c :: rest) (hmark : ∀ text, IsMark text → ¬ text <+: c :: rest) :
    whole (c :: rest) = emit 1 (.error (.unexpectedCharacter c)) := by
  apply whole_of_emit
  by_cases hslash : c = '/'
  · subst hslash
    have hfirst : ofText .top ('/' :: rest) = slash ('/' :: rest) := rfl
    rw [hfirst]
    unfold slash
    split
    · next heq => simp_all
    · next heq => simp_all
    · rfl
  · cases hsymbol : symbol? (c :: rest) with
    | none => exact (ofText_symbol hblank hslash hquote hname).2 hsymbol
    | some found =>
      obtain ⟨kind, length⟩ := found
      obtain ⟨-, -, hlongest⟩ := symbol?_some hsymbol
      exact absurd hlongest.isPrefix (hmark _ hlongest.holds)

/-! ### The grammar -/

/-- Scanning meets the grammar: where a token is, the steps of a token find it. -/
theorem whole_of_lexeme {rest text : Text} {kind : Kind} (hlexeme : Lexeme rest kind text) :
    whole rest = emit text.length kind ∧ text <+: rest := by
  cases hlexeme with
  | endOfInput => exact ⟨rfl, List.prefix_rfl⟩
  | lineComment hopen hline =>
    obtain ⟨body, rfl⟩ := hopen
    refine ⟨?_, hline.isPrefix⟩
    rw [hline.unique (longest_line _)]
    exact whole_slash_slash body
  | blockComment hclosed hdoc =>
    refine ⟨?_, hclosed.isPrefix⟩
    rw [whole_closedComment hclosed, if_neg hdoc]
  | docComment hclosed hdoc =>
    refine ⟨?_, hclosed.isPrefix⟩
    rw [whole_closedComment hclosed, if_pos hdoc]
  | unterminatedComment hopen hnone =>
    obtain ⟨body, rfl⟩ := hopen
    refine ⟨?_, List.prefix_rfl⟩
    rcases whole_comment body with ⟨found, hfound, -⟩ | ⟨-, hwhole⟩
    · exact absurd hfound.holds (hnone _ hfound.isPrefix)
    · exact hwhole
  | string hprefix hstring =>
    obtain ⟨behind, rfl⟩ := hprefix
    exact ⟨whole_string hstring behind, List.prefix_append _ _⟩
  | unterminatedString hopen hnone hline =>
    obtain ⟨body, rfl⟩ := hopen
    refine ⟨?_, hline.isPrefix⟩
    rw [hline.unique (longest_line _)]
    exact whole_unterminatedString hnone
  | keyword hname hrun =>
    refine ⟨?_, hrun.isPrefix⟩
    rw [whole_name hname, name_eq hrun, Keyword.ofSpelling?_spelling]
  | identifier hname hrun hkeyword =>
    refine ⟨?_, hrun.isPrefix⟩
    rw [whole_name hname, name_eq hrun, ofSpelling?_eq_none_iff.2 hkeyword]
  | mark hmark hkind => exact ⟨whole_mark hmark hkind, hmark.isPrefix⟩
  | unexpected hblank hname hquote hline hblock hmark =>
    exact ⟨whole_unexpected hblank hname hquote hline hblock hmark, by simp⟩

/-- Every text without a blank before it has a token at its head. -/
theorem exists_lexeme {rest : Text} (hhead : ∀ c ∈ rest.head?, isBlank c = false) :
    ∃ kind text, Lexeme rest kind text := by
  cases rest with
  | nil => exact ⟨_, _, .endOfInput⟩
  | cons c rest =>
    -- the families one after the other; the unexpected character is what none of them starts with
    by_cases hline : ['/', '/'] <+: c :: rest
    · exact ⟨_, _, .lineComment hline (longest_line _)⟩
    by_cases hblock : ['/', '*'] <+: c :: rest
    · obtain ⟨body, hbody⟩ := hblock
      rw [← hbody]
      rcases whole_comment body with ⟨text, hclosed, -⟩ | ⟨hnone, -⟩
      · by_cases hdoc : IsDocumentation text
        · exact ⟨_, _, .docComment hclosed hdoc⟩
        · exact ⟨_, _, .blockComment hclosed hdoc⟩
      · exact ⟨_, _, .unterminatedComment ⟨body, rfl⟩ hnone⟩
    by_cases hquote : c = '"'
    · subst hquote
      by_cases hstring : ∃ text, text <+: '"' :: rest ∧ IsString text
      · obtain ⟨text, hprefix, hstring⟩ := hstring
        exact ⟨_, _, .string hprefix hstring⟩
      · have hnone : ∀ text, text <+: '"' :: rest → ¬ IsString text :=
          fun text hprefix hstr => hstring ⟨text, hprefix, hstr⟩
        exact ⟨_, _, .unterminatedString ⟨rest, rfl⟩ hnone (longest_line _)⟩
    by_cases hname : startsName c = true
    · have hrun := longest_takeWhile continuesName (c :: rest)
      by_cases hkeyword : ∃ k : Keyword, k.spelling.toList = (c :: rest).takeWhile continuesName
      · obtain ⟨k, hk⟩ := hkeyword
        rw [← hk] at hrun
        exact ⟨_, _, .keyword hname hrun⟩
      · exact ⟨_, _, .identifier hname hrun fun k hk => hkeyword ⟨k, hk⟩⟩
    cases hsymbol : symbol? (c :: rest) with
    | some found =>
      obtain ⟨kind, length⟩ := found
      obtain ⟨hkind, -, hmark⟩ := symbol?_some hsymbol
      exact ⟨_, _, .mark hmark hkind⟩
    | none =>
      have hblank : isBlank c = false := hhead c rfl
      exact ⟨_, _, .unexpected hblank (by simpa using hname) hquote hline hblock
        fun _ => symbol?_none hsymbol⟩

end Scan

namespace Lexeme

open Scan

variable {rest text : Text} {kind : Kind}

theorem isPrefix (hlexeme : Lexeme rest kind text) : text <+: rest :=
  (whole_of_lexeme hlexeme).2

/-- A text has one token at its head. -/
theorem unique {kind' : Kind} {text' : Text} (hlexeme : Lexeme rest kind text)
    (hlexeme' : Lexeme rest kind' text') : kind = kind' ∧ text = text' := by
  obtain ⟨hwhole, hprefix⟩ := whole_of_lexeme hlexeme
  obtain ⟨hwhole', hprefix'⟩ := whole_of_lexeme hlexeme'
  rw [hwhole] at hwhole'
  have hlength : text.length = text'.length := congrArg Scan.length hwhole'
  have hkind : kind = kind' := Action.emit.inj (congrArg Scan.action hwhole')
  exact ⟨hkind, eq_of_isPrefix_of_length_eq hprefix hprefix' hlength⟩

/-- No token starts with a blank. -/
theorem head_not_blank (hlexeme : Lexeme rest kind text) :
    ∀ c ∈ rest.head?, isBlank c = false := by
  intro c hhead
  obtain ⟨tail, rfl⟩ := List.head?_eq_some_iff.1 hhead
  cases hblank : isBlank c with
  | false => rfl
  | true =>
    obtain ⟨hwhole, -⟩ := whole_of_lexeme hlexeme
    have hblanks : whole (c :: tail) = blanks (c :: tail) := by
      simp [whole, ofText, first, hblank, blanks]
    rw [hblanks] at hwhole
    exact absurd (congrArg Scan.action hwhole) (by simp [blanks, emit])

/-- A token has characters, unless it ends the stream. -/
theorem text_ne_nil (hlexeme : Lexeme rest kind text) (hkind : kind.isTerminal = false) :
    text ≠ [] := by
  rintro rfl
  obtain ⟨hwhole, -⟩ := whole_of_lexeme hlexeme
  have hopening : 0 < (ofText .top rest).length := by
    apply length_pos
    intro found hfound
    rw [whole, if_neg (by simp [hfound])] at hwhole
    rw [hwhole] at hfound
    rwa [← Action.emit.inj hfound]
  have hlength : (whole rest).length = 0 := congrArg Scan.length hwhole
  have hle := opening_length_le_whole rest
  omega

end Lexeme

end PermissionSchema
