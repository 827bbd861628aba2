import PermissionSchema.Proofs.Scanners

/-!
# What may follow a token

Where a token ends is decided by the one character behind it. `GoesOn kind text c` says that a
token would take one more character in. No complete token is followed by such a character
(`Lexeme.not_goesOn`), and any other text may follow it instead (`Lexeme.before`): so a token can be
cut out of its text and put before another one. Blanks end every token but a line comment.
-/

namespace PermissionSchema

/-- A token of the given kind and text takes in the character `c` if it stands right behind it. -/
def GoesOn (kind : Kind) (text : Text) (c : Char) : Prop :=
  match kind with
  | .lineComment => c ≠ '\n'
  | .keyword _ | .identifier => continuesName c = true
  | .string | .blockComment | .docComment => False
  | _ => IsMark (text ++ [c])

/-! ### Prefixes of a text and of what it continues -/

/-- The longest run goes to the end, or up to a character that fails the test. -/
theorem longest_run_append_iff {test : Char → Bool} {text behind : Text} :
    Longest (fun t => ∀ c ∈ t, test c = true) (text ++ behind) text ↔
      (∀ c ∈ text, test c = true) ∧ ∀ c ∈ behind.head?, test c = false := by
  constructor
  · intro hrun
    refine ⟨hrun.holds, ?_⟩
    intro c hc
    obtain ⟨rest, rfl⟩ := List.head?_eq_some_iff.1 hc
    by_contra htest
    have hlonger : ∀ d ∈ text ++ [c], test d = true := by
      intro d hd
      rcases List.mem_append.1 hd with hd | hd
      · exact hrun.holds d hd
      · obtain rfl := List.mem_singleton.1 hd
        simpa using htest
    have hle := hrun.length_le (text ++ [c]) ⟨rest, by simp⟩ hlonger
    rw [List.length_append, List.length_singleton] at hle
    omega
  · rintro ⟨htext, hbehind⟩
    have htaken : (text ++ behind).takeWhile test = text := takeWhile_append_eq htext hbehind
    have hrun := longest_takeWhile test (text ++ behind)
    rwa [htaken] at hrun

/-- What is shortest among the prefixes of a text does not depend on what the text goes on with. -/
theorem shortest_append_iff {property : Text → Prop} {text behind : Text} :
    Shortest property (text ++ behind) text ↔ Shortest property text text := by
  constructor
  · intro hshort
    refine ⟨List.prefix_rfl, hshort.holds, ?_⟩
    intro other hother hproperty
    exact hshort.le_length other (hother.trans (List.prefix_append text behind)) hproperty
  · intro hshort
    refine ⟨List.prefix_append text behind, hshort.holds, ?_⟩
    intro other hother hproperty
    by_contra hlt
    have hinside : other <+: text :=
      List.prefix_of_prefix_length_le hother (List.prefix_append text behind) (by omega)
    exact hlt (hshort.le_length other hinside hproperty)

/-! ### Marks -/

theorem length_le_two_of_isMark {text : Text} (hmark : IsMark text) : text.length ≤ 2 := by
  obtain ⟨kind, hmem⟩ := hmark
  have hlengths : ∀ mark ∈ marks, mark.1.length ≤ 2 := by decide
  exact hlengths _ hmem

theorem not_blank_of_isMark {text : Text} (hmark : IsMark text) :
    ∀ c ∈ text, isBlank c = false := by
  obtain ⟨kind, hmem⟩ := hmark
  have hchars : ∀ mark ∈ marks, mark.1.all (fun c => !isBlank c) = true := by decide
  simpa using hchars _ hmem

theorem not_isTerminal_of_mem_marks {text : Text} {kind : Kind} (hkind : (text, kind) ∈ marks) :
    kind.isTerminal = false := by
  have hkinds : ∀ mark ∈ marks, mark.2.isTerminal = false := by decide
  exact hkinds _ hkind

/-- A mark ends where the next character makes no longer mark of it. -/
theorem longest_mark_append_iff {text behind : Text} :
    Longest IsMark (text ++ behind) text ↔
      IsMark text ∧ ∀ c ∈ behind.head?, ¬ IsMark (text ++ [c]) := by
  constructor
  · intro hlongest
    refine ⟨hlongest.holds, ?_⟩
    intro c hc hmark
    obtain ⟨rest, rfl⟩ := List.head?_eq_some_iff.1 hc
    have hle := hlongest.length_le (text ++ [c]) ⟨rest, by simp⟩ hmark
    rw [List.length_append, List.length_singleton] at hle
    omega
  · rintro ⟨hmark, hends⟩
    refine ⟨List.prefix_append text behind, hmark, ?_⟩
    intro other hother hlonger
    by_contra hlt
    -- no mark has more than two characters, so a longer one has just one character more
    have hpos : 0 < text.length := List.length_pos_iff.2 (Scan.ne_nil_of_isMark hmark)
    have htwo := length_le_two_of_isMark hlonger
    have hstarts : text <+: other :=
      List.prefix_of_prefix_length_le (List.prefix_append text behind) hother (by omega)
    obtain ⟨tail, rfl⟩ := hstarts
    have htail : tail.length = 1 := by
      rw [List.length_append] at htwo hlt
      omega
    obtain ⟨c, rfl⟩ := List.length_eq_one_iff.1 htail
    have hnext : [c] <+: behind := (List.prefix_append_right_inj text).1 hother
    obtain ⟨rest, rfl⟩ := hnext
    exact hends c rfl hlonger

theorem goesOn_of_mem_marks {kind : Kind} {text : Text} (hkind : (text, kind) ∈ marks) (c : Char) :
    GoesOn kind text c ↔ IsMark (text ++ [c]) := by
  cases kind
  case keyword | identifier | string | lineComment | blockComment | docComment =>
    simp [marks] at hkind
  all_goals exact Iff.rfl

/-! ### Names -/

/-- The run of a name has the character that starts it. -/
theorem head?_of_run {c : Char} {rest text : Text} (hname : startsName c = true)
    (hrun : Longest (fun t => ∀ d ∈ t, continuesName d = true) (c :: rest) text) :
    text.head? = some c := by
  have hstart : ∀ d ∈ [c], continuesName d = true := by
    intro d hd
    obtain rfl := List.mem_singleton.1 hd
    exact continuesName_of_startsName hname
  obtain ⟨tail, rfl⟩ := hrun.isPrefix_of_holds ⟨rest, rfl⟩ hstart
  rfl

/-- The run of a name is the same before any text that does not go on with it. -/
theorem run_before {c : Char} {rest text behind' : Text} (hname : startsName c = true)
    (hrun : Longest (fun t => ∀ d ∈ t, continuesName d = true) (c :: rest) text)
    (hends : ∀ d ∈ behind'.head?, ¬ continuesName d = true) :
    ∃ rest', text ++ behind' = c :: rest' ∧
      Longest (fun t => ∀ d ∈ t, continuesName d = true) (c :: rest') text := by
  obtain ⟨tail, htext⟩ := List.head?_eq_some_iff.1 (head?_of_run hname hrun)
  have hrest' : text ++ behind' = c :: (tail ++ behind') := by
    rw [htext, List.cons_append]
  refine ⟨tail ++ behind', hrest', ?_⟩
  rw [← hrest', longest_run_append_iff]
  refine ⟨hrun.holds, ?_⟩
  intro d hd
  simpa using hends d hd

/-! ### Strings -/

theorem newline_not_mem_of_isString {text : Text} (hstring : IsString text) : '\n' ∉ text := by
  obtain ⟨body, hbody, rfl⟩ := hstring
  have hinside : '\n' ∉ body := by
    induction hbody with
    | nil => simp
    | plain _ _ hline _ ih => simp [hline.symm, ih]
    | escaped hline _ ih => simp [hline.symm, ih]
  simp [hinside]

/-! ### Blanks -/

theorem not_continuesName_of_isBlank {c : Char} (hblank : isBlank c = true) :
    continuesName c = false := by
  simp only [isBlank, Bool.or_eq_true, beq_iff_eq] at hblank
  rcases hblank with ((rfl | rfl) | rfl) | rfl <;> decide

/-- A blank goes on with no token, but a line comment takes in all blanks except the line feed. -/
theorem not_goesOn_of_isBlank {kind : Kind} {text : Text} {c : Char} (hblank : isBlank c = true)
    (hline : kind = .lineComment → c = '\n') : ¬ GoesOn kind text c := by
  intro hgoes
  cases kind
  case lineComment => exact hgoes (hline rfl)
  case keyword | identifier =>
    have hname : continuesName c = true := hgoes
    rw [not_continuesName_of_isBlank hblank] at hname
    simp at hname
  case string | blockComment | docComment => exact hgoes
  all_goals
    have hmark : IsMark (text ++ [c]) := hgoes
    have hnot := not_blank_of_isMark hmark c (by simp)
    rw [hblank] at hnot
    simp at hnot

namespace Lexeme

/-! ### Cutting tokens out -/

variable {kind : Kind} {text behind : Text}

/-- A token that does not end the stream is not followed by a character that it would take in. -/
theorem not_goesOn (hlexeme : Lexeme (text ++ behind) kind text)
    (hkind : kind.isTerminal = false) : ∀ c ∈ behind.head?, ¬ GoesOn kind text c := by
  generalize hrest : text ++ behind = rest at hlexeme
  intro c hc
  cases hlexeme with
  | endOfInput | unterminatedComment | unterminatedString | unexpected =>
    simp [Kind.isTerminal] at hkind
  | lineComment _ hline =>
    rw [Scan.newline_not_mem_eq, ← hrest, longest_run_append_iff] at hline
    simpa [GoesOn] using hline.2 c hc
  | blockComment | docComment | string => exact id
  | keyword _ hrun | identifier _ hrun =>
    rw [← hrest, longest_run_append_iff] at hrun
    simpa [GoesOn] using hrun.2 c hc
  | mark hmark hmem =>
    rw [← hrest, longest_mark_append_iff] at hmark
    rw [goesOn_of_mem_marks hmem]
    exact hmark.2 c hc

/-- A token stays the same before any text that it does not take in. -/
theorem before {behind' : Text} (hlexeme : Lexeme (text ++ behind) kind text)
    (hkind : kind.isTerminal = false) (hends : ∀ c ∈ behind'.head?, ¬ GoesOn kind text c) :
    Lexeme (text ++ behind') kind text := by
  generalize hrest : text ++ behind = rest at hlexeme
  cases hlexeme with
  | endOfInput | unterminatedComment | unterminatedString | unexpected =>
    simp [Kind.isTerminal] at hkind
  | lineComment hopen hline =>
    have hslashes : ['/', '/'] <+: text := hline.isPrefix_of_holds hopen (by decide)
    refine .lineComment (hslashes.trans (List.prefix_append text behind')) ?_
    rw [Scan.newline_not_mem_eq, ← hrest, longest_run_append_iff] at hline
    rw [Scan.newline_not_mem_eq, longest_run_append_iff]
    refine ⟨hline.1, ?_⟩
    intro c hc
    simpa [GoesOn] using hends c hc
  | blockComment hclosed hdoc =>
    rw [← hrest, shortest_append_iff] at hclosed
    exact .blockComment (shortest_append_iff.2 hclosed) hdoc
  | docComment hclosed hdoc =>
    rw [← hrest, shortest_append_iff] at hclosed
    exact .docComment (shortest_append_iff.2 hclosed) hdoc
  | string _ hstring => exact .string (List.prefix_append text behind') hstring
  | keyword hname hrun =>
    obtain ⟨rest', hrest', hrun'⟩ := run_before hname hrun hends
    rw [hrest']
    exact .keyword hname hrun'
  | identifier hname hrun hkeyword =>
    obtain ⟨rest', hrest', hrun'⟩ := run_before hname hrun hends
    rw [hrest']
    exact .identifier hname hrun' hkeyword
  | mark hmark hmem =>
    rw [← hrest, longest_mark_append_iff] at hmark
    refine .mark (longest_mark_append_iff.2 ⟨hmark.1, ?_⟩) hmem
    intro c hc
    rw [← goesOn_of_mem_marks hmem]
    exact hends c hc

end Lexeme

end PermissionSchema
