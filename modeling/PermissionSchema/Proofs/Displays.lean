import PermissionSchema.Proofs.Dumping
import PermissionSchema.Proofs.PrintedLines
import PermissionSchema.Proofs.Quoting

/-!
# One-line forms of tokens

A text dump has a line for each token, since no one-line form breaks its line, whatever the text of
the token is. The form tells the category, of which the name can be read off before the opening
parenthesis (`name_append_inj`), and the text as far as it is shown; so two forms are the same
exactly when these are (`displays_faithful`).
-/

namespace PermissionSchema

/-! ### Names of categories -/

namespace Kind

/-- A kind with the same name, which is the same for all keywords and for all errors. -/
def representative : Kind → Kind
  | .keyword _ => .keyword .this
  | .error _ => .error .unterminatedString
  | kind => kind

def representatives : List Kind :=
  [.keyword .this, .identifier, .string, .lineComment, .blockComment, .docComment, .leftBrace,
    .rightBrace, .leftParen, .rightParen, .leftBracket, .rightBracket, .comma, .colon, .dot,
    .assign, .arrow, .or, .and, .equal, .notEqual, .not, .endOfInput, .error .unterminatedString]

variable {kind kind' : Kind}

theorem representative_mem (kind : Kind) : kind.representative ∈ representatives := by
  cases kind <;> simp [representative, representatives]

@[simp] theorem name_representative (kind : Kind) : kind.representative.name = kind.name := by
  cases kind <;> rfl

/-- Only keywords share their name with other kinds, and errors. -/
theorem representative_eq_of_name_eq (h : kind.name = kind'.name) :
    kind.representative = kind'.representative := by
  have hnodup : (representatives.map name).Nodup := by decide
  apply List.inj_on_of_nodup_map hnodup (representative_mem kind) (representative_mem kind')
  rw [name_representative, name_representative, h]

/-- A name has neither a parenthesis nor a line break. -/
theorem not_mem_name (kind : Kind) : '(' ∉ kind.name.toList ∧ '\n' ∉ kind.name.toList := by
  have hplain : ∀ kind ∈ representatives, '(' ∉ kind.name.toList ∧ '\n' ∉ kind.name.toList := by
    decide
  rw [← name_representative]
  exact hplain _ (representative_mem kind)

theorem exists_keyword_of_representative {k : Keyword} (h : kind.representative = .keyword k) :
    ∃ k', kind = .keyword k' := by
  cases kind with
  | keyword k' => exact ⟨k', rfl⟩
  | _ => cases h

theorem representative_eq_self (hterminal : kind.isTerminal = false)
    (hkeyword : ∀ k, kind ≠ .keyword k) : kind.representative = kind := by
  cases kind with
  | keyword k => exact absurd rfl (hkeyword k)
  | error fault => cases hterminal
  | _ => rfl

/-- Kinds of one name that do not end a stream are the same, or both are keywords. -/
theorem eq_or_keywords_of_name_eq (hterminal : kind.isTerminal = false)
    (hterminal' : kind'.isTerminal = false) (h : kind.name = kind'.name) :
    kind = kind' ∨ ∃ k k', kind = .keyword k ∧ kind' = .keyword k' := by
  have hsame := representative_eq_of_name_eq h
  by_cases hkeyword : ∃ k, kind = .keyword k
  · obtain ⟨k, rfl⟩ := hkeyword
    obtain ⟨k', hk'⟩ := exists_keyword_of_representative hsame.symm
    exact Or.inr ⟨k, k', rfl, hk'⟩
  · by_cases hkeyword' : ∃ k', kind' = .keyword k'
    · obtain ⟨k', rfl⟩ := hkeyword'
      exact absurd (exists_keyword_of_representative hsame) hkeyword
    · rw [not_exists] at hkeyword hkeyword'
      rw [representative_eq_self hterminal hkeyword,
        representative_eq_self hterminal' hkeyword'] at hsame
      exact Or.inl hsame

/-- The opening parenthesis tells where a name ends. -/
theorem name_append_inj {behind behind' : Text}
    (h : kind.name.toList ++ '(' :: behind = kind'.name.toList ++ '(' :: behind') :
    kind.name = kind'.name ∧ behind = behind' := by
  obtain ⟨hnames, hbehind⟩ :=
    delimited_append_inj (not_mem_name kind).1 (not_mem_name kind').1 h
  exact ⟨String.toList_inj.1 hnames, hbehind⟩

end Kind

/-! ### Faults -/

namespace Fault

theorem message_unexpectedCharacter (c : Char) :
    (message (.unexpectedCharacter c)).toList =
      "unexpected character ".toList ++ Quoted.char c := by
  unfold message
  rw [String.toList_append, @String.toList_ofList (Quoted.char c)]

theorem newline_not_mem_message (fault : Fault) : '\n' ∉ fault.message.toList := by
  cases fault with
  | unterminatedComment => decide
  | unterminatedString => decide
  | unexpectedCharacter c =>
    have hopening : '\n' ∉ "unexpected character ".toList := by decide
    rw [message_unexpectedCharacter, List.mem_append, not_or]
    exact ⟨hopening, Quoted.newline_not_mem_char c⟩

/-- The third character tells an unexpected character from the other faults. -/
theorem message_unexpectedCharacter_ne {c : Char} {fault : Fault}
    (hthird : fault.message.toList[2]? = some 't') :
    message (.unexpectedCharacter c) ≠ fault.message := by
  intro h
  rw [← h, message_unexpectedCharacter] at hthird
  exact absurd hthird (by simp)

/-- Different faults have different messages, down to the character that is unexpected. -/
theorem message_inj {fault fault' : Fault} (h : fault.message = fault'.message) :
    fault = fault' := by
  cases fault with
  | unterminatedComment =>
    cases fault' with
    | unterminatedComment => rfl
    | unterminatedString => exact absurd h (by decide)
    | unexpectedCharacter c => exact absurd h.symm (message_unexpectedCharacter_ne (by decide))
  | unterminatedString =>
    cases fault' with
    | unterminatedComment => exact absurd h (by decide)
    | unterminatedString => rfl
    | unexpectedCharacter c => exact absurd h.symm (message_unexpectedCharacter_ne (by decide))
  | unexpectedCharacter c =>
    cases fault' with
    | unterminatedComment => exact absurd h (message_unexpectedCharacter_ne (by decide))
    | unterminatedString => exact absurd h (message_unexpectedCharacter_ne (by decide))
    | unexpectedCharacter c' =>
      have hlists := congrArg String.toList h
      rw [message_unexpectedCharacter, message_unexpectedCharacter] at hlists
      rw [Quoted.char_inj (List.append_cancel_left hlists)]

end Fault

/-- The text of a keyword is its spelling. -/
theorem Lexeme.text_of_keyword {rest text : Text} {k : Keyword}
    (hlexeme : Lexeme rest (.keyword k) text) : text = k.spelling.toList := by
  cases hlexeme with
  | keyword _ _ => rfl
  | mark _ hmark => simp [marks] at hmark

/-! ### Displays -/

namespace Token

variable {token token' : Token}

theorem display_of_not_isTerminal (h : token.kind.isTerminal = false) :
    token.display.toList =
      token.kind.name.toList ++ '(' :: (Quoted.cut displayLimit token.text ++ [')']) := by
  unfold display
  split
  · next hkind => simp [hkind, Kind.isTerminal] at h
  · next hkind => simp [hkind, Kind.isTerminal] at h
  · simp [toString]

theorem display_of_error {fault : Fault} (h : token.kind = .error fault) :
    token.display.toList = token.kind.name.toList ++ '(' :: (fault.message.toList ++ [')']) := by
  unfold display
  rw [h]
  simp [toString]

theorem display_of_endOfInput (h : token.kind = .endOfInput) : token.display = "end-of-input" := by
  unfold display
  rw [h]
  rfl

/-- However a text looks, it does not break the line of its token. -/
theorem newline_not_mem_display (token : Token) : '\n' ∉ token.display.toList := by
  have hname := (Kind.not_mem_name token.kind).2
  cases hterminal : token.kind.isTerminal with
  | true =>
    rcases Kind.isTerminal_iff.1 hterminal with hkind | ⟨fault, hkind⟩
    · rw [display_of_endOfInput hkind]
      decide
    · rw [display_of_error hkind]
      simp [hname, Fault.newline_not_mem_message fault]
  | false =>
    rw [display_of_not_isTerminal hterminal]
    simp [hname, Quoted.newline_not_mem_cut]

theorem newline_not_mem_line (token : Token) (positions : Bool) :
    '\n' ∉ (token.line positions).toList := by
  have hdisplay := newline_not_mem_display token
  unfold line
  cases positions with
  | false => exact hdisplay
  | true =>
    show '\n' ∉ (toString token.span.line ++ ":" ++ toString token.span.column ++ " " ++
      token.display).toList
    simp [newline_not_mem_toDigits, hdisplay]

theorem text_of_keyword {name : String} {source : Text} {k : Keyword}
    (hmem : token ∈ tokenize name source) (hkind : token.kind = .keyword k) :
    token.text = k.spelling.toList := by
  obtain ⟨front, behind, -, hlexeme, -⟩ := (stream_tokenize name source).lexeme_of_mem hmem
  rw [hkind] at hlexeme
  exact hlexeme.text_of_keyword

/-- Two keywords that are shown in the same way are the same. -/
theorem keyword_eq_of_cut_eq {k k' : Keyword}
    (h : Quoted.cut displayLimit k.spelling.toList = Quoted.cut displayLimit k'.spelling.toList) :
    k = k' := by
  rcases Quoted.cut_eq_iff.1 h with hspelling | ⟨hlong, -, -⟩
  · have hfound := Keyword.ofSpelling?_spelling k
    rw [hspelling, Keyword.ofSpelling?_spelling] at hfound
    exact (Option.some.inj hfound).symm
  · cases k <;> exact absurd hlong (by decide)

/-- One-line forms that are the same show the same kind and the same part of the text. -/
theorem eq_of_display_eq {name name' : String} {source source' : Text}
    (hmem : token ∈ tokenize name source) (hmem' : token' ∈ tokenize name' source')
    (hterminal : token.kind.isTerminal = false) (hterminal' : token'.kind.isTerminal = false)
    (h : token.display = token'.display) :
    token.kind = token'.kind ∧
      Quoted.cut displayLimit token.text = Quoted.cut displayLimit token'.text := by
  have hlists := congrArg String.toList h
  rw [display_of_not_isTerminal hterminal, display_of_not_isTerminal hterminal'] at hlists
  obtain ⟨hname, hquoted⟩ := Kind.name_append_inj hlists
  have hcut := List.append_cancel_right hquoted
  refine ⟨?_, hcut⟩
  rcases Kind.eq_or_keywords_of_name_eq hterminal hterminal' hname with
    hkind | ⟨k, k', hkind, hkind'⟩
  · exact hkind
  · rw [text_of_keyword hmem hkind, text_of_keyword hmem' hkind'] at hcut
    rw [hkind, hkind', keyword_eq_of_cut_eq hcut]

theorem display_congr_of_cut (hterminal : token.kind.isTerminal = false)
    (hkind : token.kind = token'.kind)
    (hcut : Quoted.cut displayLimit token.text = Quoted.cut displayLimit token'.text) :
    token.display = token'.display := by
  have hterminal' : token'.kind.isTerminal = false := hkind ▸ hterminal
  apply String.toList_inj.1
  rw [display_of_not_isTerminal hterminal, display_of_not_isTerminal hterminal', hkind, hcut]

end Token

/-- **Text dumps are faithful.** A text dump has one line for each of its tokens. No one-line form
    breaks the line. Two tokens that do not end their streams have the same form exactly when they
    have the same kind and their texts are the same as far as they are shown; two errors, when they
    have the same fault. -/
theorem displays_faithful :
    (∀ (files : Files) (options : DumpOptions) (source : SourceFile), options.format = .text →
      readSource files options.file = .ok source →
      PrintedLines (dump files options).stdout
        ((keptTokens options.skipComments (tokenize source.name source.content)).map
          fun token => (token.line options.positions).toList)) ∧
    (∀ token : Token, '\n' ∉ token.display.toList) ∧
    (∀ (name name' : String) (source source' : Text), ∀ token ∈ tokenize name source,
      ∀ token' ∈ tokenize name' source', token.kind.isTerminal = false →
      token'.kind.isTerminal = false →
      (token.display = token'.display ↔ token.kind = token'.kind ∧
        (token.text = token'.text ∨ (24 < token.text.length ∧ 24 < token'.text.length ∧
          token.text.take 24 = token'.text.take 24)))) ∧
    ∀ (token token' : Token) (fault fault' : Fault), token.kind = .error fault →
      token'.kind = .error fault' → (token.display = token'.display ↔ fault = fault') := by
  refine ⟨?_, Token.newline_not_mem_display, ?_, ?_⟩
  · intro files options source hformat hread
    rw [dump_stdout hread, hformat]
    apply PrintedLines.join_lines
    intro token _
    exact token.newline_not_mem_line options.positions
  · intro name name' source source' token hmem token' hmem' hterminal hterminal'
    constructor
    · intro h
      obtain ⟨hkind, hcut⟩ := Token.eq_of_display_eq hmem hmem' hterminal hterminal' h
      exact ⟨hkind, Quoted.cut_eq_iff.1 hcut⟩
    · rintro ⟨hkind, htexts⟩
      exact Token.display_congr_of_cut hterminal hkind (Quoted.cut_eq_iff.2 htexts)
  · intro token token' fault fault' hkind hkind'
    constructor
    · intro h
      have hlists := congrArg String.toList h
      rw [Token.display_of_error hkind, Token.display_of_error hkind'] at hlists
      obtain ⟨-, hmessages⟩ := Kind.name_append_inj hlists
      exact Fault.message_inj (String.toList_inj.1 (List.append_cancel_right hmessages))
    · rintro rfl
      apply String.toList_inj.1
      rw [Token.display_of_error hkind, Token.display_of_error hkind', hkind, hkind']

/-- A comment over two lines, of which a longer one differs only where it is cut; and an error. -/
theorem displays_faithful_comments :
    ∃ token token' : Token, tokenize "a" "/*\"\n\\ é, which is cut before this*/".toList =
        [token, ⟨.endOfInput, [], ⟨36, 36, 2, 32⟩⟩] ∧
      tokenize "b" "/*\"\n\\ é, which is cut before that is said*/#".toList =
        [token', ⟨.error (.unexpectedCharacter '#'), ['#'], ⟨44, 45, 2, 40⟩⟩] ∧
      token.text ≠ token'.text ∧ token.display = token'.display ∧
      PrintedLines (dump (fun _ => .file "/*\"\n\\ é, which is cut before this*/".toUTF8)
        ⟨"a", .text, false, false⟩).stdout [token.display.toList, "end-of-input".toList] := by
  let token : Token :=
    ⟨.blockComment, "/*\"\n\\ é, which is cut before this*/".toList, ⟨0, 36, 1, 1⟩⟩
  let token' : Token :=
    ⟨.blockComment, "/*\"\n\\ é, which is cut before that is said*/".toList, ⟨0, 44, 1, 1⟩⟩
  have htokens : tokenize "a" "/*\"\n\\ é, which is cut before this*/".toList =
      [token, ⟨.endOfInput, [], ⟨36, 36, 2, 32⟩⟩] := by
    decide +kernel
  have htokens' : tokenize "b" "/*\"\n\\ é, which is cut before that is said*/#".toList =
      [token', ⟨.error (.unexpectedCharacter '#'), ['#'], ⟨44, 45, 2, 40⟩⟩] := by
    decide +kernel
  obtain ⟨hdumps, -, hforms, -⟩ := displays_faithful
  have hmem := htokens ▸ List.mem_cons_self
  have hmem' := htokens' ▸ List.mem_cons_self
  refine ⟨token, token', htokens, htokens', by decide, ?_, ?_⟩
  · exact (hforms "a" "b" _ _ token hmem token' hmem' rfl rfl).2 ⟨rfl, Or.inr (by decide)⟩
  · have hread : readSource (fun _ => .file "/*\"\n\\ é, which is cut before this*/".toUTF8) "a" =
        .ok ⟨"a", "/*\"\n\\ é, which is cut before this*/".toList⟩ := by
      simp only [readSource, FileEntry.text_toUTF8]
    have hlines := hdumps _ ⟨"a", .text, false, false⟩ _ rfl hread
    rwa [keptTokens_false, htokens] at hlines

end PermissionSchema
