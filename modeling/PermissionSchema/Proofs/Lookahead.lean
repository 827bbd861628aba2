import PermissionSchema.Proofs.Following
import PermissionSchema.Proofs.Pulling

/-!
# Looking ahead

To decide on a token, and on all tokens before it, no more of a source is looked at than what
stands up to its end and one character behind it. So two sources that are alike as far as that have
the same tokens up to there, whatever follows (`tokenize_lookahead`).
-/

namespace PermissionSchema

/-! ### One token -/

/-- A prefix of at most one more character than a text is decided by the character behind it. -/
theorem isPrefix_append_of_head? {other text behind behind' : Text}
    (hhead : behind'.head? = behind.head?) (hlength : other.length ≤ text.length + 1)
    (hother : other <+: text ++ behind') : other <+: text ++ behind := by
  have htake : ∀ back : Text,
      (text ++ back).take (text.length + 1) = text ++ back.head?.toList := by
    intro back
    rw [List.take_length_add_append, List.take_one]
  have hshort : other <+: (text ++ behind').take (text.length + 1) :=
    List.prefix_take_iff.2 ⟨hother, hlength⟩
  rw [htake, hhead, ← htake] at hshort
  exact hshort.trans (List.take_prefix _ _)

/-- A string that is left open stays open whatever follows the end of its line. -/
theorem not_isString_of_head? {text behind behind' : Text} (hhead : behind'.head? = behind.head?)
    (hline : Longest (fun t => '\n' ∉ t) (text ++ behind) text)
    (hopen : ∀ other, other <+: text ++ behind → ¬ IsString other) :
    ∀ other, other <+: text ++ behind' → ¬ IsString other := by
  intro other hother hstring
  rw [Scan.newline_not_mem_eq, longest_run_append_iff] at hline
  rcases Nat.lt_or_ge text.length other.length with hlonger | hle
  · -- a longer string would have the character behind the text, which ends the line
    obtain ⟨tail, rfl⟩ := List.prefix_of_prefix_length_le (List.prefix_append text behind') hother
      (Nat.le_of_lt hlonger)
    have hne : tail ≠ [] := by
      rintro rfl
      simp at hlonger
    obtain ⟨c, tail, rfl⟩ := List.exists_cons_of_ne_nil hne
    have htail : c :: tail <+: behind' := (List.prefix_append_right_inj text).1 hother
    obtain ⟨rest, rfl⟩ := htail
    have hends := hline.2 c (by rw [← hhead]; rfl)
    have hnewline : c = '\n' := by simpa using hends
    exact newline_not_mem_of_isString hstring (by simp [hnewline])
  · exact hopen other (isPrefix_append_of_head? hhead (Nat.le_succ_of_le hle) hother) hstring

/-- The token at the head of a text is decided by its characters and the one behind them. -/
theorem Lexeme.of_head? {text behind behind' : Text} {kind : Kind}
    (hlexeme : Lexeme (text ++ behind) kind text) (hhead : behind'.head? = behind.head?) :
    Lexeme (text ++ behind') kind text := by
  cases hkind : kind.isTerminal with
  | false =>
    apply hlexeme.before hkind
    rw [hhead]
    exact hlexeme.not_goesOn hkind
  | true =>
    generalize hrest : text ++ behind = rest at hlexeme
    cases hlexeme with
    | endOfInput =>
      obtain ⟨-, rfl⟩ := List.append_eq_nil_iff.1 hrest
      rw [List.head?_eq_none_iff.1 hhead]
      exact .endOfInput
    | unterminatedComment hopen hnone =>
      obtain rfl := List.append_right_eq_self.1 hrest
      rw [List.head?_eq_none_iff.1 hhead, List.append_nil]
      exact .unterminatedComment hopen hnone
    | unterminatedString hopen hnone hline =>
      have hquote : ['"'] <+: text := hline.isPrefix_of_holds hopen (by decide)
      rw [← hrest] at hnone hline
      refine .unterminatedString (hquote.trans (List.prefix_append text behind'))
        (not_isString_of_head? hhead hline hnone) ?_
      rw [Scan.newline_not_mem_eq, longest_run_append_iff] at hline ⊢
      rwa [hhead]
    | @unexpected c rest hblank hname hquote hslashes hblock hmark =>
      -- comments and marks show in two characters
      have hshort : ∀ other : Text, other.length ≤ 2 → other <+: [c] ++ behind' →
          other <+: c :: rest := by
        intro other hlength hother
        rw [← hrest]
        exact isPrefix_append_of_head? hhead hlength hother
      refine .unexpected hblank hname hquote ?_ ?_ ?_
      · intro hother
        exact hslashes (hshort _ (Nat.le_refl 2) hother)
      · intro hother
        exact hblock (hshort _ (Nat.le_refl 2) hother)
      · intro other hother hprefix
        exact hmark other hother (hshort other (length_le_two_of_isMark hother) hprefix)
    | mark _ hmem =>
      rw [not_isTerminal_of_mem_marks hmem] at hkind
      exact absurd hkind (by simp)
    | _ => simp [Kind.isTerminal] at hkind

/-! ### A stream -/

namespace Stream

/-- The token at the head of a text is the first one of every stream over a text that is the same
    up to its end and has the same character there. -/
theorem head_lookahead {place : Position} {gap text behind behind' : Text} {kind : Kind}
    {tokens' : List Token} (hgap : IsGap gap (text ++ behind))
    (hlexeme : Lexeme (text ++ behind) kind text) (hhead : behind'.head? = behind.head?)
    (hstream' : Stream place (gap ++ text ++ behind') tokens') :
    ∃ tail, tokens' = .behind place gap text kind :: tail ∧
      (kind.isTerminal = false → Stream (place.after (gap ++ text)) behind' tail) := by
  have hlexeme' := hlexeme.of_head? hhead
  rw [List.append_assoc] at hstream'
  rcases hstream'.inv (.of_lexeme hgap.blank hlexeme') hlexeme' with
    ⟨hterminal, rfl⟩ | ⟨-, tail, rfl, htail⟩
  · refine ⟨[], rfl, ?_⟩
    intro hkind
    exact absurd (hkind.symm.trans hterminal) (by simp)
  · exact ⟨tail, rfl, fun _ => htail⟩

/-- The tokens up to any one are the same over every text that is the same up to its end and has the
    same character there. -/
theorem lookahead {place : Position} {rest : Text} {tokens : List Token}
    (hstream : Stream place rest tokens) {index : Nat} {token : Token}
    (htoken : tokens[index]? = some token) :
    ∃ before behind, rest = before ++ behind ∧
      token.span.stop = place.offset + Text.size before ∧
      ∀ behind' tokens', behind'.head? = behind.head? → Stream place (before ++ behind') tokens' →
        tokens'.take (index + 1) = tokens.take (index + 1) := by
  induction hstream generalizing index with
  | @last place gap text behind kind hgap hlexeme _ =>
    cases index with
    | zero =>
      obtain rfl := Option.some.inj htoken
      refine ⟨gap ++ text, behind, by simp, Token.behind_stop _ _ _ _, ?_⟩
      intro behind' tokens' hhead hstream'
      obtain ⟨tail, rfl, -⟩ := head_lookahead hgap hlexeme hhead hstream'
      rfl
    | succ index => simp at htoken
  | @more place gap text behind kind tokens hgap hlexeme hkind _ ih =>
    cases index with
    | zero =>
      obtain rfl := Option.some.inj htoken
      refine ⟨gap ++ text, behind, by simp, Token.behind_stop _ _ _ _, ?_⟩
      intro behind' tokens' hhead hstream'
      obtain ⟨tail, rfl, -⟩ := head_lookahead hgap hlexeme hhead hstream'
      rfl
    | succ index =>
      obtain ⟨before, after, rfl, hstop, halike⟩ := ih htoken
      refine ⟨gap ++ text ++ before, after, by simp, ?_, ?_⟩
      · rw [hstop, Position.after_offset, Text.size_append (gap ++ text), Nat.add_assoc]
      · intro behind' tokens' hhead hstream'
        have hhead' : (before ++ behind').head? = (before ++ after).head? := by
          rw [List.head?_append, List.head?_append, hhead]
        rw [List.append_assoc (gap ++ text)] at hstream'
        obtain ⟨tail, rfl, htail⟩ := head_lookahead hgap hlexeme hhead' hstream'
        rw [List.take_succ_cons, List.take_succ_cons, halike behind' tail hhead (htail hkind)]

end Stream

/-! ### Two sources -/

/-- **A token and those before it depend on one character past its end.** Of two sources with the
    same text up to there, and with the same character behind it or none, the tokens are the same
    up to this one. If it is an error, it is what the other source results in, whatever follows. -/
theorem tokenize_lookahead (name name' : String) {source source' : Text} {index : Nat}
    {token : Token} (htoken : (tokenize name source)[index]? = some token)
    (hbefore : source'.slice? 0 token.span.stop = source.slice? 0 token.span.stop)
    (hbehind : (source'.dropBytes token.span.stop).head? =
      (source.dropBytes token.span.stop).head?) :
    (tokenize name' source').take (index + 1) = (tokenize name source).take (index + 1) ∧
      ∀ e, token.error? name' = some e → tokenizeAll name' source' = .error e := by
  obtain ⟨before, behind, rfl, hstop, halike⟩ := (stream_tokenize name source).lookahead htoken
  have hslice : (before ++ behind).slice? 0 (Text.size before) = some before := by
    have hcut := Text.slice?_append [] before behind
    rwa [Text.size_nil, Nat.zero_add] at hcut
  rw [Position.start, Nat.zero_add] at hstop
  rw [hstop] at hbefore hbehind
  obtain ⟨behind', rfl⟩ := Text.isPrefix_of_slice? (hbefore.trans hslice)
  rw [Text.dropBytes_append, Text.dropBytes_append] at hbehind
  have htokens := halike behind' _ hbehind (stream_tokenize name' _)
  refine ⟨htokens, ?_⟩
  intro e herror
  have htaken : token ∈ (tokenize name' (before ++ behind')).take (index + 1) := by
    rw [htokens]
    exact List.mem_of_getElem? ((List.getElem?_take_of_lt (Nat.lt_succ_self index)).trans htoken)
  exact tokenizeAll_of_error? (List.mem_of_mem_take htaken) herror

/-- A string is open whatever stands below its line, be it a closing quote. -/
theorem tokenize_lookahead_string :
    (tokenize "a.opl" "a:\"b\\\n".toList)[2]? =
        some ⟨.error .unterminatedString, "\"b\\".toList, ⟨2, 5, 1, 3⟩⟩ ∧
      (tokenize "b.opl" "a:\"b\\\n\"/*".toList).take 3 =
        (tokenize "a.opl" "a:\"b\\\n".toList).take 3 ∧
      tokenizeAll "b.opl" "a:\"b\\\n\"/*".toList =
        .error ⟨.unterminatedString, "b.opl", ⟨2, 5, 1, 3⟩⟩ := by
  have htoken : (tokenize "a.opl" "a:\"b\\\n".toList)[2]? =
      some ⟨.error .unterminatedString, "\"b\\".toList, ⟨2, 5, 1, 3⟩⟩ := by
    decide +kernel
  have hbefore : Text.slice? "a:\"b\\\n\"/*".toList 0 5 = Text.slice? "a:\"b\\\n".toList 0 5 := by
    decide +kernel
  have hbehind : (Text.dropBytes "a:\"b\\\n\"/*".toList 5).head? =
      (Text.dropBytes "a:\"b\\\n".toList 5).head? := by
    decide +kernel
  obtain ⟨htokens, herror⟩ := tokenize_lookahead "a.opl" "b.opl" htoken hbefore hbehind
  exact ⟨htoken, htokens, herror _ rfl⟩

end PermissionSchema
