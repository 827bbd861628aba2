import PermissionSchema.Proofs.Pulling

/-!
# Tokenization loses nothing

Every token stands in the source at its span, only blanks stand between two tokens, and the blanks
and texts in turn give back the source as far as it was read (`tokenize_lossless`).
-/

namespace PermissionSchema

/-- Each token with the byte offset at which the one before it ends. -/
def withEnds : (offset : Nat) → List Token → List (Nat × Token)
  | _, [] => []
  | offset, token :: tokens => (offset, token) :: withEnds token.span.stop tokens

/-- The texts of tokens, each behind what the source has since the end of the one before. -/
def rebuilt (source : Text) : (offset : Nat) → List Token → Text
  | _, [] => []
  | offset, token :: tokens =>
    (source.slice? offset token.span.start).getD [] ++ token.text ++
      rebuilt source token.span.stop tokens

/-- Nothing of the source is lost in the tokens, up to where the last of them ends. -/
structure Lossless (source : Text) (tokens : List Token) : Prop where
  /-- The text of a token is the slice of the source at its span. -/
  slice_eq : ∀ token ∈ tokens,
    source.slice? token.span.start token.span.stop = some token.text
  /-- A token starts where the one before it ends or later, and only blanks stand between. -/
  gap_blank : ∀ pair ∈ withEnds 0 tokens, pair.1 ≤ pair.2.span.start ∧
    ∃ gap, source.slice? pair.1 pair.2.span.start = some gap ∧ ∀ c ∈ gap, isBlank c = true
  text_ne_nil : ∀ token ∈ tokens, token.kind.isTerminal = false → token.text ≠ []
  /-- One token is terminal, the last. The tokens and the blanks between them are the source up to
      its end, which is the end of the source if it is the end of input. -/
  last_terminal : ∃ front last, tokens = front ++ [last] ∧ last.kind.isTerminal = true ∧
    (∀ token ∈ front, token.kind.isTerminal = false) ∧
    source.slice? 0 last.span.stop = some (rebuilt source 0 tokens) ∧
    (last.kind = .endOfInput → last.span.stop = Text.size source)

namespace Stream

variable {source before rest : Text} {place : Position} {tokens : List Token}

/-- Behind a token, what has been read is longer by the token and the blanks before it. -/
theorem read_through {gap text behind : Text} (hsource : source = before ++ (gap ++ (text ++ behind)))
    (hoffset : place.offset = Text.size before) :
    source = (before ++ (gap ++ text)) ++ behind ∧
      (place.after (gap ++ text)).offset = Text.size (before ++ (gap ++ text)) := by
  constructor
  · rw [hsource, List.append_assoc, List.append_assoc]
  · rw [Position.after_offset, Text.size_append before, hoffset]

theorem gap_blank (hstream : Stream place rest tokens) (hsource : source = before ++ rest)
    (hoffset : place.offset = Text.size before) :
    ∀ pair ∈ withEnds place.offset tokens, pair.1 ≤ pair.2.span.start ∧
      ∃ gap, source.slice? pair.1 pair.2.span.start = some gap ∧
        ∀ c ∈ gap, isBlank c = true := by
  induction hstream generalizing before with
  | @last place gap text behind kind hgap _ _ =>
    intro pair hmem
    obtain rfl := List.mem_singleton.1 hmem
    refine ⟨by simp, gap, ?_, hgap.blank⟩
    rw [Token.behind_start, hoffset]
    exact Text.slice?_between hsource
  | @more place gap text behind kind tokens hgap _ _ _ ih =>
    intro pair hmem
    rcases List.mem_cons.1 hmem with rfl | hmem
    · refine ⟨by simp, gap, ?_, hgap.blank⟩
      rw [Token.behind_start, hoffset]
      exact Text.slice?_between hsource
    · obtain ⟨hsource', hoffset'⟩ := read_through hsource hoffset
      exact ih hsource' hoffset' pair hmem

/-- What is rebuilt is what the stream has read, and the last token ends behind it. -/
theorem rebuilt_eq (hstream : Stream place rest tokens) (hsource : source = before ++ rest)
    (hoffset : place.offset = Text.size before) :
    ∃ behind, rest = rebuilt source place.offset tokens ++ behind ∧
      ∀ last ∈ tokens.getLast?,
        last.span.stop = Text.size (before ++ rebuilt source place.offset tokens) := by
  induction hstream generalizing before with
  | @last place gap text behind kind _ _ _ =>
    have hgap : source.slice? (Text.size before) (Text.size before + Text.size gap) = some gap :=
      Text.slice?_between hsource
    have hread : rebuilt source place.offset [.behind place gap text kind] = gap ++ text := by
      simp [rebuilt, Token.behind_text, hoffset, hgap]
    refine ⟨behind, by rw [hread, List.append_assoc], ?_⟩
    intro last hlast
    obtain rfl : Token.behind place gap text kind = last := by simpa using hlast
    rw [hread, Token.behind_stop, Text.size_append before, hoffset]
  | @more place gap text behind kind tokens _ _ _ htail ih =>
    have hgap : source.slice? (Text.size before) (Text.size before + Text.size gap) = some gap :=
      Text.slice?_between hsource
    obtain ⟨hsource', hoffset'⟩ := read_through hsource hoffset
    obtain ⟨back, hback, hlast⟩ := ih hsource' hoffset'
    have hread : rebuilt source place.offset (.behind place gap text kind :: tokens) =
        (gap ++ text) ++ rebuilt source (place.after (gap ++ text)).offset tokens := by
      simp [rebuilt, Token.behind_text, hoffset, hgap]
    refine ⟨back, ?_, ?_⟩
    -- the token and its blanks are read first, the tail of the stream reads on from there
    · rw [hread, List.append_assoc, ← hback, List.append_assoc]
    · intro last hmem
      obtain ⟨token, tokens, rfl⟩ := List.exists_cons_of_ne_nil htail.ne_nil
      rw [List.getLast?_cons_cons] at hmem
      rw [hlast last hmem, hread, List.append_assoc]

end Stream

/-- A token is the slice of the source at its span. -/
theorem slice_of_mem_tokenize {name : String} {source : Text} {token : Token}
    (hmem : token ∈ tokenize name source) :
    source.slice? token.span.start token.span.stop = some token.text := by
  obtain ⟨front, behind, hcut, -, hspan⟩ := (stream_tokenize name source).lexeme_of_mem hmem
  rw [hspan, Span.start_between, Span.stop_between, Text.size_append]
  exact Text.slice?_between hcut

/-- **Tokenization is lossless.** -/
theorem tokenize_lossless (name : String) (source : Text) :
    Lossless source (tokenize name source) := by
  have hstream := stream_tokenize name source
  have hsource : source = [] ++ source := rfl
  refine ⟨?_, hstream.gap_blank hsource rfl, ?_, ?_⟩
  · intro token hmem
    exact slice_of_mem_tokenize hmem
  · intro token hmem hkind
    obtain ⟨front, behind, -, hlexeme, -⟩ := hstream.lexeme_of_mem hmem
    exact hlexeme.text_ne_nil hkind
  · obtain ⟨front, last, htokens, hlast, hfront⟩ := hstream.endsOnce
    have hmem : last ∈ tokenize name source := by simp [htokens]
    refine ⟨front, last, htokens, hlast, hfront, ?_, ?_⟩
    · obtain ⟨behind, hread, hstop⟩ := hstream.rebuilt_eq hsource rfl
      have hcut : source = [] ++ (rebuilt source 0 (tokenize name source) ++ behind) := hread
      have hslice := Text.slice?_between hcut
      rw [hstop last (by simp [htokens])]
      rwa [Text.size_nil, Nat.zero_add] at hslice
    · intro hkind
      obtain ⟨before, behind, hcut, hlexeme, hspan⟩ := hstream.lexeme_of_mem hmem
      rw [hkind] at hlexeme
      have hrest := hlexeme.eq_nil_of_endOfInput
      have htext : last.text = [] := (List.append_eq_nil_iff.1 hrest).1
      rw [hrest, List.append_nil] at hcut
      rw [hspan, Span.stop_between, htext, List.append_nil, hcut]

end PermissionSchema
