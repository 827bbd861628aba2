import PermissionSchema.Proofs.Following
import PermissionSchema.Proofs.Reading

/-!
# Printing tokens

Tokens from anywhere can be printed one after the other, with blanks of any kind between them, and
lexing what is printed gives the same kinds and texts again (`tokenize_printed`). Blanks are needed
between two tokens, and behind a line comment they start with the end of its line.
-/

namespace PermissionSchema

/-- A token to print and the blanks behind it. -/
structure Printed where
  token : Token
  blanks : Text

def printed (items : List Printed) : Text :=
  items.flatMap fun item => item.token.text ++ item.blanks

/-- There are blanks between any two tokens, and a line comment is not made longer by those that
    follow it. -/
structure Spaced (items : List Printed) : Prop where
  blank : ∀ item ∈ items, ∀ c ∈ item.blanks, isBlank c = true
  apart : ∀ item ∈ items.dropLast, item.blanks ≠ []
  line_ended : ∀ item ∈ items, item.token.kind = .lineComment → ∀ c ∈ item.blanks.head?, c = '\n'

namespace Spaced

variable {item : Printed} {items : List Printed}

theorem tail (hspaced : Spaced (item :: items)) : Spaced items := by
  refine ⟨?_, ?_, ?_⟩
  · intro other hmem
    exact hspaced.blank other (List.mem_cons_of_mem item hmem)
  · intro other hmem
    have hne : items ≠ [] := by
      rintro rfl
      simp at hmem
    apply hspaced.apart other
    rw [List.dropLast_cons_of_ne_nil hne]
    exact List.mem_cons_of_mem item hmem
  · intro other hmem
    exact hspaced.line_ended other (List.mem_cons_of_mem item hmem)

/-- What is printed behind a token does not go on with it. -/
theorem not_goesOn (hspaced : Spaced (item :: items)) :
    ∀ c ∈ (item.blanks ++ printed items).head?, ¬ GoesOn item.token.kind item.token.text c := by
  intro c hc
  cases hblanks : item.blanks with
  | nil =>
    -- only behind the last token there may be no blanks, and then there is nothing at all
    cases items with
    | nil => simp [hblanks, printed] at hc
    | cons next items =>
      have happart : item.blanks ≠ [] := hspaced.apart item (by simp)
      exact absurd hblanks happart
  | cons d blanks =>
    obtain rfl : d = c := by simpa [hblanks] using hc
    have hmem : item ∈ item :: items := List.mem_cons_self
    refine not_goesOn_of_isBlank (hspaced.blank item hmem d (by simp [hblanks])) ?_
    intro hkind
    exact hspaced.line_ended item hmem hkind d (by simp [hblanks])

end Spaced

/-- The tokens that are printed are read again, one after the other. -/
theorem reading_printed {front : Text} {items : List Printed}
    (hfront : ∀ c ∈ front, isBlank c = true) (hspaced : Spaced items)
    (htokens : ∀ item ∈ items, item.token.kind.isTerminal = false ∧
      ∃ behind, Lexeme (item.token.text ++ behind) item.token.kind item.token.text) :
    Reading (front ++ printed items)
      (items.map (fun item => item.token.lexed) ++ [(.endOfInput, [])]) := by
  induction items generalizing front with
  | nil => exact .last (.of_lexeme hfront .endOfInput) .endOfInput rfl
  | cons item items ih =>
    obtain ⟨hkind, behind, hlexeme⟩ := htokens item List.mem_cons_self
    have hlexeme' := hlexeme.before hkind hspaced.not_goesOn
    have hprinted : printed (item :: items) =
        item.token.text ++ (item.blanks ++ printed items) := by
      simp [printed]
    rw [hprinted]
    refine .more (.of_lexeme hfront hlexeme') hlexeme' hkind ?_
    refine ih (hspaced.blank item List.mem_cons_self) hspaced.tail ?_
    intro other hmem
    exact htokens other (List.mem_cons_of_mem item hmem)

/-- **Printing tokens and lexing them again is the identity.** The tokens may come from different
    sources, where other tokens stood beside them. -/
theorem tokenize_printed (name : String) {front : Text} {items : List Printed}
    (hfront : ∀ c ∈ front, isBlank c = true) (hspaced : Spaced items)
    (htokens : ∀ item ∈ items, item.token.kind.isTerminal = false ∧
      ∃ origin source, item.token ∈ tokenize origin source) :
    (tokenize name (front ++ printed items)).map (fun token => (token.kind, token.text)) =
      items.map (fun item => (item.token.kind, item.token.text)) ++ [(.endOfInput, [])] := by
  have hlexemes : ∀ item ∈ items, item.token.kind.isTerminal = false ∧
      ∃ behind, Lexeme (item.token.text ++ behind) item.token.kind item.token.text := by
    intro item hitem
    obtain ⟨hkind, origin, source, hmem⟩ := htokens item hitem
    obtain ⟨_, behind, -, hlexeme, -⟩ := (stream_tokenize origin source).lexeme_of_mem hmem
    exact ⟨hkind, behind, hlexeme⟩
  have hreading := reading_printed hfront hspaced hlexemes
  obtain ⟨tokens, hstream, hlexed⟩ := hreading.exists_stream .start
  rw [← hstream.unique (stream_tokenize name _)]
  exact hlexed

/-- A line comment with its carriage return, and two marks that would be one without a blank. -/
theorem tokenize_printed_marks :
    (tokenize "a.opl" (['\t'] ++ printed
      [⟨⟨.lineComment, "//\r".toList, ⟨0, 3, 1, 1⟩⟩, ['\n']⟩,
        ⟨⟨.assign, ['='], ⟨1, 2, 1, 2⟩⟩, ['\r']⟩, ⟨⟨.equal, ['=', '='], ⟨0, 2, 1, 1⟩⟩, []⟩])).map
          (fun token => (token.kind, token.text)) =
      [(.lineComment, "//\r".toList), (.assign, ['=']), (.equal, ['=', '=']),
        (.endOfInput, [])] := by
  refine tokenize_printed "a.opl" (by simp [isBlank]) ⟨by simp [isBlank], by decide, ?_⟩ ?_
  · intro item hmem hkind
    simp only [List.mem_cons, List.not_mem_nil, or_false] at hmem
    rcases hmem with rfl | rfl | rfl <;> simp_all
  · intro item hmem
    simp only [List.mem_cons, List.not_mem_nil, or_false] at hmem
    rcases hmem with rfl | rfl | rfl
    · exact ⟨rfl, "b.opl", "//\r".toList, by decide +kernel⟩
    · exact ⟨rfl, "b.opl", "a=b".toList, by decide +kernel⟩
    · exact ⟨rfl, "c.opl", "===>".toList, by decide +kernel⟩

end PermissionSchema
