import PermissionSchema.Proofs.Stream

/-!
# Pulling the stream of a lexer

`Awaits lexer tokens` says what the pulls of a lexer are still to give, whatever it holds: nothing
scanned ahead, a token that was peeked at, or the terminal token. Every operation of a lexer acts
on these tokens alone (`next_of_awaits`, `peek_of_awaits`), so draining a fresh lexer gives the
stream of its source (`stream_tokenize`), with or without its comments (`drain_skipComments`) or up
to its error (`exists_tokenizeAll_eq`).
-/

namespace PermissionSchema

namespace Lexer

/-- The tokens that a lexer is still to give; the last of them ends the stream and is given again
    and again. -/
inductive Awaits : Lexer → List Token → Prop
  | scanning {lexer : Lexer} {tokens : List Token} : lexer.Ready → lexer.terminal = none →
      lexer.peeked = none → Stream lexer.cursor.place lexer.cursor.remaining tokens →
      Awaits lexer tokens
  | peeked {lexer : Lexer} {token : Token} {tokens : List Token} : lexer.Ready →
      lexer.terminal = none → lexer.peeked = some token → token.kind.isTerminal = false →
      Stream lexer.cursor.place lexer.cursor.remaining tokens → Awaits lexer (token :: tokens)
  | ended {lexer : Lexer} {token : Token} : lexer.terminal = some token →
      lexer.peeked = none ∨ lexer.peeked = some token → Awaits lexer [token]

/-- Whether the iterator has ended makes no difference to what is awaited. -/
theorem Awaits.of_exhausted {lexer : Lexer} {tokens : List Token} (hawaits : lexer.Awaits tokens)
    (exhausted : Bool) : Awaits { lexer with exhausted } tokens := by
  cases hawaits with
  | scanning hready hterminal hpeeked hstream =>
    exact .scanning ⟨hready.mode_eq, hready.start_eq⟩ hterminal hpeeked hstream
  | peeked hready hterminal hpeeked hkind hstream =>
    exact .peeked ⟨hready.mode_eq, hready.start_eq⟩ hterminal hpeeked hkind hstream
  | ended hterminal hpeeked => exact .ended hterminal hpeeked

/-- What is left to give once the head of these tokens has been pulled. -/
def afterPull : List Token → List Token
  | [] => []
  | [token] => [token]
  | _ :: tokens => tokens

/-- A lexer between tokens scans the head of its stream, and keeps it if it ends the stream. -/
theorem scan_of_stream {lexer : Lexer} {token : Token} {tokens : List Token}
    (hready : lexer.Ready)
    (hstream : Stream lexer.cursor.place lexer.cursor.remaining (token :: tokens)) :
    lexer.scan.1 = token ∧ lexer.scan.2.peeked = lexer.peeked ∧
      lexer.scan.2.exhausted = lexer.exhausted ∧
      ((token.kind.isTerminal = true ∧ tokens = [] ∧ lexer.scan.2.terminal = some token) ∨
        (token.kind.isTerminal = false ∧ lexer.scan.2.Ready ∧
          lexer.scan.2.terminal = lexer.terminal ∧
          Stream lexer.scan.2.cursor.place lexer.scan.2.cursor.remaining tokens)) := by
  obtain ⟨gap, text, behind, kind, hremaining, hgap, hlexeme⟩ :=
    exists_gap_lexeme lexer.cursor.remaining
  have hscan := scan_eq hready hremaining hgap hlexeme
  have htoken := token_spanning hremaining kind
  have hpeeked : lexer.scan.2.peeked = lexer.peeked := by rw [hscan, finish_peeked]; rfl
  have hexhausted : lexer.scan.2.exhausted = lexer.exhausted := by
    rw [hscan, finish_exhausted]; rfl
  have hfirst : lexer.scan.1 = .behind lexer.cursor.place gap text kind := by
    rw [hscan, finish_token, htoken]
  have hterminal := finish_terminal (lexer.spanning (lexer.cursor.move gap.length)
    (lexer.cursor.move (gap ++ text).length)) kind
  rw [← hscan, htoken] at hterminal
  have hremaining' : lexer.cursor.remaining = (gap ++ text) ++ behind := by
    rw [hremaining, List.append_assoc]
  rw [hremaining] at hstream
  rcases hstream.inv hgap hlexeme with ⟨hkind, htokens⟩ | ⟨hkind, tail, htokens, htail⟩
  · obtain ⟨rfl, rfl⟩ := List.cons.inj htokens
    rw [if_pos hkind] at hterminal
    exact ⟨hfirst, hpeeked, hexhausted, Or.inl ⟨hkind, rfl, hterminal⟩⟩
  · obtain ⟨rfl, rfl⟩ := List.cons.inj htokens
    rw [if_neg (by simp [hkind])] at hterminal
    have hcursor : lexer.scan.2.cursor = lexer.cursor.move (gap ++ text).length := by
      rw [hscan, finish_cursor, spanning_cursor]
    have hready' : lexer.scan.2.Ready := by
      rw [hscan]
      exact ⟨(finish_mode _ _).trans hready.mode_eq,
        (finish_start _ _).trans (finish_cursor _ _).symm⟩
    have hleft : Stream lexer.scan.2.cursor.place lexer.scan.2.cursor.remaining tokens := by
      rw [hcursor, Cursor.move_remaining, Cursor.place_move hremaining', hremaining',
        List.drop_left]
      exact htail
    exact ⟨hfirst, hpeeked, hexhausted, Or.inr ⟨hkind, hready', hterminal, hleft⟩⟩

theorem afterPull_of_ne_nil {token : Token} {tokens : List Token} (hne : tokens ≠ []) :
    afterPull (token :: tokens) = tokens := by
  cases tokens with
  | nil => exact absurd rfl hne
  | cons => rfl

theorem scanToken_of_none {lexer : Lexer} (hterminal : lexer.terminal = none) :
    lexer.scanToken = lexer.scan := by
  simp [scanToken, hterminal]

theorem scanToken_of_some {lexer : Lexer} {token : Token} (hterminal : lexer.terminal = some token) :
    lexer.scanToken = (token, lexer) := by
  simp [scanToken, hterminal]

theorem next_of_none {lexer : Lexer} (hpeeked : lexer.peeked = none) :
    lexer.next = lexer.scanToken := by
  simp [next, hpeeked]

theorem next_of_some {lexer : Lexer} {token : Token} (hpeeked : lexer.peeked = some token) :
    lexer.next = (token, { lexer with peeked := none }) := by
  simp [next, hpeeked]

theorem peek_of_none {lexer : Lexer} (hpeeked : lexer.peeked = none) :
    lexer.peek = (lexer.scanToken.1, { lexer.scanToken.2 with peeked := some lexer.scanToken.1 }) := by
  simp [peek, hpeeked]

theorem peek_of_some {lexer : Lexer} {token : Token} (hpeeked : lexer.peeked = some token) :
    lexer.peek = (token, lexer) := by
  simp [peek, hpeeked]

/-- A pull gives the token that is awaited first. -/
theorem next_of_awaits {lexer : Lexer} {token : Token} {tokens : List Token}
    (hawaits : lexer.Awaits (token :: tokens)) :
    lexer.next.1 = token ∧ lexer.next.2.Awaits (afterPull (token :: tokens)) ∧
      lexer.next.2.exhausted = lexer.exhausted := by
  cases hawaits with
  | scanning hready hterminal hpeeked hstream =>
    rw [next_of_none hpeeked, scanToken_of_none hterminal]
    obtain ⟨hfirst, hpeeked', hexhausted, hcase⟩ := scan_of_stream hready hstream
    refine ⟨hfirst, ?_, hexhausted⟩
    rcases hcase with ⟨-, rfl, hterminal'⟩ | ⟨-, hready', hterminal', hstream'⟩
    · exact .ended hterminal' (Or.inl (hpeeked'.trans hpeeked))
    · rw [afterPull_of_ne_nil hstream'.ne_nil]
      exact .scanning hready' (hterminal'.trans hterminal) (hpeeked'.trans hpeeked) hstream'
  | peeked hready hterminal hpeeked _ hstream =>
    rw [next_of_some hpeeked, afterPull_of_ne_nil hstream.ne_nil]
    exact ⟨rfl, .scanning ⟨hready.mode_eq, hready.start_eq⟩ hterminal rfl hstream, rfl⟩
  | ended hterminal hpeeked =>
    -- the last token is given again, from where it is kept or from where it was peeked at
    rcases hpeeked with hpeeked | hpeeked
    · rw [next_of_none hpeeked, scanToken_of_some hterminal]
      exact ⟨rfl, .ended hterminal (Or.inl hpeeked), rfl⟩
    · rw [next_of_some hpeeked]
      exact ⟨rfl, .ended hterminal (Or.inl rfl), rfl⟩

/-- A look ahead shows the token that is awaited first, and the lexer awaits it still. -/
theorem peek_of_awaits {lexer : Lexer} {token : Token} {tokens : List Token}
    (hawaits : lexer.Awaits (token :: tokens)) :
    lexer.peek.1 = token ∧ lexer.peek.2.Awaits (token :: tokens) ∧
      lexer.peek.2.exhausted = lexer.exhausted := by
  cases hawaits with
  | scanning hready hterminal hpeeked hstream =>
    rw [peek_of_none hpeeked, scanToken_of_none hterminal]
    obtain ⟨hfirst, -, hexhausted, hcase⟩ := scan_of_stream hready hstream
    refine ⟨hfirst, ?_, hexhausted⟩
    rw [hfirst]
    rcases hcase with ⟨-, rfl, hterminal'⟩ | ⟨hkind, hready', hterminal', hstream'⟩
    · exact .ended hterminal' (Or.inr rfl)
    · exact .peeked ⟨hready'.mode_eq, hready'.start_eq⟩ (hterminal'.trans hterminal) rfl hkind
        hstream'
  | peeked hready hterminal hpeeked hkind hstream =>
    rw [peek_of_some hpeeked]
    exact ⟨rfl, .peeked hready hterminal hpeeked hkind hstream, rfl⟩
  | ended hterminal hpeeked =>
    rcases hpeeked with hpeeked | hpeeked
    · rw [peek_of_none hpeeked, scanToken_of_some hterminal]
      exact ⟨rfl, .ended hterminal (Or.inr rfl), rfl⟩
    · rw [peek_of_some hpeeked]
      exact ⟨rfl, .ended hterminal (Or.inr hpeeked), rfl⟩

theorem Awaits.endsOnce {lexer : Lexer} {tokens : List Token} (hawaits : lexer.Awaits tokens) :
    EndsOnce tokens := by
  cases hawaits with
  | scanning _ _ _ hstream => exact hstream.endsOnce
  | peeked _ _ _ hkind hstream => exact .cons hkind hstream.endsOnce
  | ended hterminal _ => exact .singleton (lexer.terminal_isTerminal _ hterminal)

/-- The token that is awaited first ends the stream exactly when no other is awaited. -/
theorem Awaits.isTerminal_iff {lexer : Lexer} {token : Token} {tokens : List Token}
    (hawaits : lexer.Awaits (token :: tokens)) :
    token.kind.isTerminal = true ↔ tokens = [] := by
  obtain ⟨front, last, htokens, hlast, hfront⟩ := hawaits.endsOnce
  cases front with
  | nil =>
    obtain ⟨rfl, rfl⟩ := List.cons.inj htokens
    simp [hlast]
  | cons first front =>
    obtain ⟨rfl, rfl⟩ := List.cons.inj htokens
    simp [hfront token (by simp)]

/-! ### Iterating -/

/-- A lexer that is not exhausted yields the token that is awaited first, and is exhausted when
    that token ends the stream. -/
theorem next?_of_awaits {lexer : Lexer} {token : Token} {tokens : List Token}
    (hawaits : lexer.Awaits (token :: tokens)) (hexhausted : lexer.exhausted = false) :
    ∃ lexer', lexer.next? = some (token, lexer') ∧
      lexer'.Awaits (afterPull (token :: tokens)) ∧ lexer'.exhausted = token.kind.isTerminal := by
  obtain ⟨hfirst, hawaits', -⟩ := next_of_awaits hawaits
  refine ⟨{ lexer.next.2 with exhausted := token.kind.isTerminal }, ?_, ?_, rfl⟩
  · simp [next?, hexhausted, hfirst]
  · exact hawaits'.of_exhausted _

/-- The tokens that a lexer still yields as an iterator: all that it awaits, unless it has yielded
    the last of them. -/
inductive Yields : Lexer → List Token → Prop
  | going {lexer : Lexer} {tokens : List Token} : lexer.exhausted = false →
      lexer.Awaits tokens → Yields lexer tokens
  | exhausted {lexer : Lexer} : lexer.exhausted = true → Yields lexer []

theorem next?_of_yields_nil {lexer : Lexer} (hyields : lexer.Yields []) : lexer.next? = none := by
  cases hyields with
  | going _ hawaits => exact absurd rfl hawaits.endsOnce.ne_nil
  | exhausted hexhausted => simp [next?, hexhausted]

theorem next?_of_yields_cons {lexer : Lexer} {token : Token} {tokens : List Token}
    (hyields : lexer.Yields (token :: tokens)) :
    ∃ lexer', lexer.next? = some (token, lexer') ∧ lexer'.Yields tokens := by
  cases hyields with
  | going hexhausted hawaits =>
    obtain ⟨lexer', hnext, hawaits', hexhausted'⟩ := next?_of_awaits hawaits hexhausted
    refine ⟨lexer', hnext, ?_⟩
    cases hkind : token.kind.isTerminal with
    | true =>
      rw [hawaits.isTerminal_iff.1 hkind]
      exact .exhausted (hexhausted'.trans hkind)
    | false =>
      have hne : tokens ≠ [] := by
        rw [ne_eq, ← hawaits.isTerminal_iff, hkind]
        simp
      rw [afterPull_of_ne_nil hne] at hawaits'
      exact .going (hexhausted'.trans hkind) hawaits'

theorem drainOnto_of_yields {lexer : Lexer} {tokens : List Token} (hyields : lexer.Yields tokens)
    (found : List Token) : (drainOnto found lexer).1 = found.reverse ++ tokens := by
  induction tokens generalizing lexer found with
  | nil =>
    rw [drainOnto]
    split
    · simp
    · next hnext =>
      rw [next?_of_yields_nil hyields] at hnext
      exact absurd hnext (by simp)
  | cons token tokens ih =>
    obtain ⟨lexer', hnext', hyields'⟩ := next?_of_yields_cons hyields
    rw [drainOnto]
    split
    · next hnext =>
      rw [hnext'] at hnext
      exact absurd hnext (by simp)
    · next hnext =>
      rw [hnext'] at hnext
      obtain ⟨rfl, rfl⟩ := Prod.mk.inj (Option.some.inj hnext)
      rw [ih hyields', List.reverse_cons, List.append_assoc, List.singleton_append]

/-- Draining a lexer collects all that it yields. -/
theorem drain_of_yields {lexer : Lexer} {tokens : List Token} (hyields : lexer.Yields tokens) :
    lexer.drain.1 = tokens := by
  rw [drain, drainOnto_of_yields hyields, List.reverse_nil, List.nil_append]

theorem awaits_ofSource {name : String} {source : Text} {tokens : List Token}
    (hstream : Stream .start source tokens) : (ofSource name source).Awaits tokens :=
  .scanning ⟨rfl, rfl⟩ rfl rfl hstream

end Lexer

/-- The tokens of a source text are its stream. -/
theorem stream_tokenize (name : String) (source : Text) :
    Stream .start source (tokenize name source) := by
  obtain ⟨tokens, hstream⟩ := Stream.exists_stream .start source
  have hyields : (Lexer.ofSource name source).Yields tokens :=
    .going rfl (Lexer.awaits_ofSource hstream)
  rw [tokenize, Lexer.drain_of_yields hyields]
  exact hstream

/-! ### Up to an error -/

namespace Token

variable {token : Token} {name : String}

theorem kind_of_error? {e : LexicalError} (h : token.error? name = some e) :
    token.kind = .error e.fault ∧ token.span = e.span := by
  obtain ⟨fault, hfault, rfl⟩ := Option.map_eq_some_iff.1 h
  refine ⟨?_, rfl⟩
  cases hkind : token.kind <;> simp_all [Kind.fault?]

theorem error?_of_kind {fault : Fault} (h : token.kind = .error fault) (name : String) :
    token.error? name = some ⟨fault, name, token.span⟩ := by
  rw [error?, h]
  rfl

/-- A token that does not end the stream is no error. -/
theorem error?_of_not_isTerminal (h : token.kind.isTerminal = false) (name : String) :
    token.error? name = none := by
  cases hkind : token.kind <;> simp_all [error?, Kind.fault?, Kind.isTerminal]

end Token

namespace Lexer

/-- Collecting goes on behind every token but one that ends the stream. -/
theorem collectOnto_of_some {lexer lexer' : Lexer} {token : Token}
    (h : lexer.next? = some (token, lexer')) (name : String) (found : List Token) :
    collectOnto name found lexer =
      if token.kind.isTerminal = true then
        match token.error? name with
        | some e => .error e
        | none => .ok found.reverse
      else collectOnto name (token :: found) lexer' := by
  rw [collectOnto]
  split
  · next hnext =>
    rw [h] at hnext
    exact absurd hnext (by simp)
  · next hnext =>
    rw [h] at hnext
    obtain ⟨rfl, rfl⟩ := Prod.mk.inj (Option.some.inj hnext)
    cases hkind : token.kind <;> simp [Token.error?, Kind.fault?, Kind.isTerminal, hkind]

/-- What is collected is all that comes before the last token, unless that one is an error. -/
theorem collectOnto_of_yields {lexer : Lexer} {front : List Token} {last : Token}
    (hyields : lexer.Yields (front ++ [last])) (hlast : last.kind.isTerminal = true)
    (hfront : ∀ token ∈ front, token.kind.isTerminal = false) (name : String)
    (found : List Token) :
    collectOnto name found lexer = match last.error? name with
      | some e => .error e
      | none => .ok (found.reverse ++ front) := by
  induction front generalizing lexer found with
  | nil =>
    obtain ⟨lexer', hnext, -⟩ := next?_of_yields_cons hyields
    rw [collectOnto_of_some hnext, if_pos hlast, List.append_nil]
  | cons token front ih =>
    obtain ⟨lexer', hnext, hyields'⟩ := next?_of_yields_cons hyields
    have hkind : token.kind.isTerminal = false := hfront token List.mem_cons_self
    have hrest : ∀ other ∈ front, other.kind.isTerminal = false :=
      fun other hmem => hfront other (List.mem_cons_of_mem token hmem)
    rw [collectOnto_of_some hnext, if_neg (by simp [hkind]), ih hyields' hrest,
      List.reverse_cons, List.append_assoc, List.singleton_append]

end Lexer

/-- The tokens of a source with the last one apart, which decides whether there is an error. -/
theorem exists_tokenizeAll_eq (name : String) (source : Text) :
    ∃ front last, tokenize name source = front ++ [last] ∧ last.kind.isTerminal = true ∧
      (∀ token ∈ front, token.kind.isTerminal = false) ∧
      tokenizeAll name source = match last.error? name with
        | some e => .error e
        | none => .ok front := by
  have hstream := stream_tokenize name source
  obtain ⟨front, last, htokens, hlast, hfront⟩ := hstream.endsOnce
  rw [htokens] at hstream
  have hyields : (Lexer.ofSource name source).Yields (front ++ [last]) :=
    .going rfl (Lexer.awaits_ofSource hstream)
  exact ⟨front, last, htokens, hlast, hfront,
    Lexer.collectOnto_of_yields hyields hlast hfront name []⟩

/-- An error among the tokens is what collecting them results in. -/
theorem tokenizeAll_of_error? {name : String} {source : Text} {token : Token} {e : LexicalError}
    (hmem : token ∈ tokenize name source) (herror : token.error? name = some e) :
    tokenizeAll name source = .error e := by
  obtain ⟨front, last, htokens, -, hfront, hall⟩ := exists_tokenizeAll_eq name source
  rw [htokens, List.mem_append, List.mem_singleton] at hmem
  rcases hmem with hmem | rfl
  · rw [Token.error?_of_not_isTerminal (hfront token hmem)] at herror
    exact absurd herror (by simp)
  · rw [hall, herror]

/-! ### Without comments -/

namespace CommentFree

theorem next?_of_none {kept : CommentFree} (h : kept.lexer.next? = none) : kept.next? = none := by
  rw [next?]
  split <;> simp_all

theorem next?_of_some {kept : CommentFree} {token : Token} {lexer : Lexer}
    (h : kept.lexer.next? = some (token, lexer)) :
    kept.next? = if token.kind.isComment then next? ⟨lexer⟩ else some (token, ⟨lexer⟩) := by
  rw [next?]
  split
  · next hnext =>
    rw [h] at hnext
    exact absurd hnext (by simp)
  · next hnext =>
    rw [h] at hnext
    obtain ⟨rfl, rfl⟩ := Prod.mk.inj (Option.some.inj hnext)
    rfl

/-- Passing over comments yields the next token that is none, if there is one. -/
theorem next?_of_yields {kept : CommentFree} {tokens : List Token}
    (hyields : kept.lexer.Yields tokens) :
    (tokens.filter (!·.kind.isComment) = [] ∧ kept.next? = none) ∨
      ∃ token kept' tokens', kept.next? = some (token, kept') ∧ kept'.lexer.Yields tokens' ∧
        tokens.filter (!·.kind.isComment) = token :: tokens'.filter (!·.kind.isComment) := by
  induction tokens generalizing kept with
  | nil => exact Or.inl ⟨rfl, next?_of_none (Lexer.next?_of_yields_nil hyields)⟩
  | cons token tokens ih =>
    obtain ⟨lexer, hnext, hyields'⟩ := Lexer.next?_of_yields_cons hyields
    rw [next?_of_some hnext]
    cases hcomment : token.kind.isComment with
    | true =>
      have hfilter : (token :: tokens).filter (!·.kind.isComment) =
          tokens.filter (!·.kind.isComment) := by simp [hcomment]
      have hrest : (⟨lexer⟩ : CommentFree).lexer.Yields tokens := hyields'
      rw [hfilter, if_pos rfl]
      exact ih hrest
    | false =>
      right
      rw [if_neg (by simp)]
      exact ⟨token, ⟨lexer⟩, tokens, rfl, hyields', by simp [hcomment]⟩

theorem drainOnto_of_none {kept : CommentFree} (h : kept.next? = none) (found : List Token) :
    drainOnto found kept = (found.reverse, kept) := by
  rw [drainOnto]
  split <;> simp_all

theorem drainOnto_of_some {kept kept' : CommentFree} {token : Token}
    (h : kept.next? = some (token, kept')) (found : List Token) :
    drainOnto found kept = drainOnto (token :: found) kept' := by
  rw [drainOnto]
  split <;> simp_all

theorem drainOnto_of_yields {kept : CommentFree} {tokens wanted : List Token}
    (hyields : kept.lexer.Yields tokens)
    (hwanted : tokens.filter (!·.kind.isComment) = wanted) (found : List Token) :
    (drainOnto found kept).1 = found.reverse ++ wanted := by
  -- on the tokens that are wanted, since a pull passes over any number of the others
  induction wanted generalizing kept tokens found with
  | nil =>
    rcases next?_of_yields hyields with ⟨-, hnext⟩ | ⟨token, kept', tokens', -, -, htokens⟩
    · rw [drainOnto_of_none hnext, List.append_nil]
    · rw [hwanted] at htokens
      exact absurd htokens (by simp)
  | cons token wanted ih =>
    rcases next?_of_yields hyields with
      ⟨hnone, -⟩ | ⟨token', kept', tokens', hnext, hyields', htokens⟩
    · rw [hwanted] at hnone
      exact absurd hnone (by simp)
    · obtain ⟨rfl, rfl⟩ := List.cons.inj (hwanted.symm.trans htokens)
      rw [drainOnto_of_some hnext, ih hyields' rfl, List.reverse_cons, List.append_assoc,
        List.singleton_append]

/-- Draining collects all that the lexer yields but the comments. -/
theorem drain_of_yields {kept : CommentFree} {tokens : List Token}
    (hyields : kept.lexer.Yields tokens) :
    kept.drain.1 = tokens.filter (!·.kind.isComment) := by
  rw [drain, drainOnto_of_yields hyields rfl, List.reverse_nil, List.nil_append]

end CommentFree

/-- Without comments, the tokens of a source are its tokens but the comments. -/
theorem drain_skipComments (name : String) (source : Text) :
    (Lexer.ofSource name source).skipComments.drain.1 =
      (tokenize name source).filter (!·.kind.isComment) :=
  CommentFree.drain_of_yields (.going rfl (Lexer.awaits_ofSource (stream_tokenize name source)))

end PermissionSchema
