import PermissionSchema.Proofs.Pulling

/-!
# Lexing follows the grammar

The stream of a text is its reading by the lexical grammar with places added (`Stream.reading`),
and every reading comes from a stream (`Reading.exists_stream`). So the kinds and texts of the
tokens of a source are its one reading, which is `reading_iff_tokenize`.
-/

namespace PermissionSchema

/-- A token without its place. -/
def Token.lexed (token : Token) : Kind × Text := (token.kind, token.text)

/-- A stream without its places is a reading of its text. -/
theorem Stream.reading {place : Position} {rest : Text} {tokens : List Token}
    (hstream : Stream place rest tokens) : Reading rest (tokens.map Token.lexed) := by
  induction hstream with
  | last hgap hlexeme hkind => exact .last hgap hlexeme hkind
  | more hgap hlexeme hkind _ ih => exact .more hgap hlexeme hkind ih

/-- Wherever a text starts, its readings are streams without their places. -/
theorem Reading.exists_stream {source : Text} {stream : List (Kind × Text)}
    (hreading : Reading source stream) (place : Position) :
    ∃ tokens, Stream place source tokens ∧ tokens.map Token.lexed = stream := by
  induction hreading generalizing place with
  | last hgap hlexeme hkind =>
    obtain ⟨behind, rfl⟩ := hlexeme.isPrefix
    exact ⟨_, .last hgap hlexeme hkind, rfl⟩
  | more hgap hlexeme hkind _ ih =>
    obtain ⟨tokens, hstream, rfl⟩ := ih (place.after (_ ++ _))
    exact ⟨_, .more hgap hlexeme hkind hstream, rfl⟩

/-- **The kinds and texts of the tokens of a source are its one reading by the lexical grammar.** -/
theorem reading_iff_tokenize (name : String) (source : Text) (stream : List (Kind × Text)) :
    Reading source stream ↔
      stream = (tokenize name source).map fun token => (token.kind, token.text) := by
  constructor
  · intro hreading
    obtain ⟨tokens, hstream, rfl⟩ := hreading.exists_stream .start
    rw [hstream.unique (stream_tokenize name source)]
    rfl
  · rintro rfl
    exact (stream_tokenize name source).reading

/-- Comments do not nest, an unclosed string ends before its line does, and nothing follows it. -/
example : (tokenize "" "/*/**/ a=>\"\\".toList).map Token.lexed =
    [(.blockComment, "/*/**/".toList), (.identifier, ['a']), (.arrow, ['=', '>']),
      (.error .unterminatedString, ['"', '\\'])] := by
  decide +kernel

end PermissionSchema
