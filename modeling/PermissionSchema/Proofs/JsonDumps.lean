import PermissionSchema.Proofs.Dumping
import PermissionSchema.Proofs.JsonPrinting
import PermissionSchema.Proofs.JsonReading
import PermissionSchema.Proofs.Lossless

/-!
# JSON dumps are read back

A JSON dump is one JSON text and a newline. Every reader finds the dumped tokens in it, each with
its kind, its exact text and its place (`json_dump_read_back`). If nothing was left out, the source
is rebuilt from what is read, up to the blanks between its tokens (`Stream.foldl_rebuildFrom`).
-/

namespace PermissionSchema

/-! ### The object of a token -/

/-- The value of a field, in an object that has the field. -/
def Json.Value.field? (value : Json.Value) (name : String) : Option Json.Value :=
  match value with
  | .object fields => fields.lookup name.toList
  | _ => none

/-- An object that stands for a token of a source. -/
structure RecordOf (source : Text) (token : Token) (item : Json.Value) : Prop where
  /-- No two fields share a name, so that it does not matter which of them a reader keeps. -/
  names_nodup : ∃ fields, item = .object fields ∧ (fields.map Prod.fst).Nodup
  kind_eq : item.field? "kind" = some (.string token.kind.name.toList)
  text_eq : item.field? "text" = some (.string token.text)
  slice_eq : source.slice? token.span.start token.span.stop = some token.text
  offset_eq : item.field? "offset" = some (.number token.span.start)
  line_eq : item.field? "line" = some (.number token.span.line)
  column_eq : item.field? "column" = some (.number token.span.column)
  message_iff : (item.field? "message").isSome = true ↔ ∃ fault, token.kind = .error fault
  message_eq : ∀ fault, token.kind = .error fault →
    item.field? "message" = some (.string fault.message.toList)

theorem Token.value_toJson (token : Token) : token.toJson.value = .object
    ([("kind".toList, .string token.kind.name.toList),
      ("text".toList, .string token.text),
      ("offset".toList, .number token.span.start),
      ("line".toList, .number token.span.line),
      ("column".toList, .number token.span.column)] ++
    (token.kind.fault?.map fun fault =>
      ("message".toList, Json.Value.string fault.message.toList)).toList) := by
  cases hfault : token.kind.fault? <;> simp [toJson, Json.value, hfault]

theorem Token.recordOf_toJson {source : Text} {token : Token}
    (hslice : source.slice? token.span.start token.span.stop = some token.text) :
    RecordOf source token token.toJson.value := by
  rw [token.value_toJson]
  refine ⟨⟨_, rfl, ?_⟩, rfl, rfl, hslice, rfl, rfl, rfl, ?_, ?_⟩
  · cases token.kind.fault? with
    | none => simp
    | some fault => simp
  · cases token.kind with
    | error fault => exact ⟨fun _ => ⟨fault, rfl⟩, fun _ => rfl⟩
    | _ => exact ⟨nofun, nofun⟩
  · intro fault hkind
    rw [hkind]
    rfl

/-! ### Rebuilding -/

/-- The text of an object, written at its offset: spaces fill what is missing before it. -/
def rebuildFrom (written : Text) (item : Json.Value) : Text :=
  match item.field? "offset", item.field? "text" with
  | some (.number offset), some (.string text) =>
    written ++ (List.replicate (offset.num.toNat - Text.size written) ' ' ++ text)
  | _, _ => written

/-- The text that the objects of tokens tell of. -/
def rebuild (items : List Json.Value) : Text := items.foldl rebuildFrom []

/-- The second of two texts is the first with a space for each blank between the given texts, which
    both texts hold one behind the other. -/
inductive Respaced : List Text → Text → Text → Prop
  | nil : Respaced [] [] []
  | cons {gap text rest rest' : Text} {texts : List Text} : (∀ c ∈ gap, isBlank c = true) →
      Respaced texts rest rest' → Respaced (text :: texts) (gap ++ (text ++ rest))
        (List.replicate gap.length ' ' ++ (text ++ rest'))

/-- A blank is one byte. -/
theorem size_of_blank {gap : Text} (hgap : ∀ c ∈ gap, isBlank c = true) :
    Text.size gap = gap.length := by
  induction gap with
  | nil => rfl
  | cons c gap ih =>
    have hbelow := ih fun d hmem => hgap d (List.mem_cons_of_mem c hmem)
    have hblank := hgap c List.mem_cons_self
    have hbyte : c.utf8Size = 1 := by
      simp only [isBlank, Bool.or_eq_true, beq_iff_eq] at hblank
      rcases hblank with ((rfl | rfl) | rfl) | rfl <;> rfl
    rw [Text.size_cons, hbyte, hbelow, List.length_cons, Nat.add_comm]

theorem size_replicate_space (n : Nat) : Text.size (List.replicate n ' ') = n := by
  have hblank : ∀ c ∈ List.replicate n ' ', isBlank c = true := by
    intro c hmem
    rw [(List.mem_replicate.1 hmem).2]
    rfl
  rw [size_of_blank hblank, List.length_replicate]

theorem rebuildFrom_of_record {source written : Text} {place : Position} {gap text : Text}
    {kind : Kind} {item : Json.Value} (hrecord : RecordOf source (.behind place gap text kind) item)
    (hgap : ∀ c ∈ gap, isBlank c = true) (hwritten : Text.size written = place.offset) :
    rebuildFrom written item = written ++ (List.replicate gap.length ' ' ++ text) := by
  have hoffset := hrecord.offset_eq
  rw [Token.behind_start, size_of_blank hgap] at hoffset
  have htext := hrecord.text_eq
  rw [Token.behind_text] at htext
  unfold rebuildFrom
  rw [hoffset, htext]
  simp only [Rat.num_natCast, Int.toNat_natCast, hwritten, Nat.add_sub_cancel_left]

namespace Stream

/-- The objects of a whole stream tell its text, up to the blanks between the tokens. -/
theorem foldl_rebuildFrom {source rest : Text} {place : Position} {tokens : List Token}
    (hstream : Stream place rest tokens) {last : Token} (hlast : last ∈ tokens.getLast?)
    (hend : last.kind = .endOfInput) {items : List Json.Value}
    (hrecords : List.Forall₂ (RecordOf source) tokens items) {written : Text}
    (hwritten : Text.size written = place.offset) :
    ∃ rebuilt, items.foldl rebuildFrom written = written ++ rebuilt ∧
      Respaced (tokens.map Token.text) rest rebuilt := by
  induction hstream generalizing items written with
  | @last place gap text behind kind hgap hlexeme _ =>
    obtain rfl : Token.behind place gap text kind = last := by simpa using hlast
    obtain rfl : kind = .endOfInput := hend
    -- nothing is left behind the end of input
    obtain ⟨rfl, rfl⟩ := List.append_eq_nil_iff.1 hlexeme.eq_nil_of_endOfInput
    cases hrecords with
    | cons hrecord hnone =>
      cases hnone
      exact ⟨_, rebuildFrom_of_record hrecord hgap.blank hwritten, .cons hgap.blank .nil⟩
  | @more place gap text behind kind tokens hgap _ _ htail ih =>
    obtain ⟨next, below, hcons⟩ := List.exists_cons_of_ne_nil htail.ne_nil
    have hlast' : last ∈ tokens.getLast? := by
      rw [hcons] at hlast ⊢
      exact hlast
    cases hrecords with
    | cons hrecord hbelow =>
      have hstep := rebuildFrom_of_record hrecord hgap.blank hwritten
      have hsize : Text.size (written ++ (List.replicate gap.length ' ' ++ text)) =
          (place.after (gap ++ text)).offset := by
        rw [Position.after_offset, Text.size_append, Text.size_append, Text.size_append,
          size_replicate_space, size_of_blank hgap.blank, hwritten]
      obtain ⟨rebuilt, hfold, hrespaced⟩ := ih hlast' hbelow hsize
      refine ⟨_, ?_, .cons hgap.blank hrespaced⟩
      rw [List.foldl_cons, hstep, hfold]
      simp only [List.append_assoc, Token.behind_text]

end Stream

/-! ### Dumps -/

/-- What readers find in the dump of some tokens of a source. -/
structure ReadBack (source : Text) (tokens : List Token) (stdout : String)
    (items : List Json.Value) : Prop where
  /-- The dump is a JSON text and a newline. -/
  document : ∃ text, stdout = String.ofList text ++ "\n" ∧ Json.Denotes .value text (.array items)
  denotes_iff : ∀ value, Json.Denotes .element stdout.toList value ↔ value = .array items
  read_eq : ∀ reader, Json.Conforms reader → reader stdout.toList = some (.array items)
  records : List.Forall₂ (RecordOf source) tokens items

theorem readBack_dumpTokens {source : Text} {tokens : List Token}
    (hslices : ∀ token ∈ tokens,
      source.slice? token.span.start token.span.stop = some token.text) (positions : Bool) :
    ReadBack source tokens (dumpTokens tokens .json positions)
      (tokens.map fun token => token.toJson.value) := by
  have hvalue : (Json.array (tokens.map Token.toJson)).value =
      .array (tokens.map fun token => token.toJson.value) := by
    rw [Json.value, List.map_map]
    rfl
  have hdocument := Json.denotes_pretty (.array (tokens.map Token.toJson))
  rw [hvalue] at hdocument
  have hnewline : Json.Blank ['\n'] := by simp [Json.Blank, isBlank]
  have helement := Json.Denotes.element Json.blank_nil hdocument hnewline
  have hstdout : (dumpTokens tokens .json positions).toList =
      [] ++ ((Json.array (tokens.map Token.toJson)).pretty ++ ['\n']) := by
    simp [dumpTokens]
  rw [← hstdout] at helement
  refine ⟨⟨_, rfl, hdocument⟩, ?_, ?_, ?_⟩
  · intro value
    constructor
    · intro hdenotes
      exact hdenotes.unique helement
    · rintro rfl
      exact helement
  · intro reader hconforms
    exact hconforms _ _ helement
  · rw [List.forall₂_map_right_iff, List.forall₂_same]
    intro token hmem
    exact Token.recordOf_toJson (hslices token hmem)

/-- **A JSON dump tells the tokens of its source.** It tells even the source, up to the blanks
    between the tokens, if no comment is left out and there is no error. -/
theorem json_dump_read_back {files : Files} {options : DumpOptions} {source : SourceFile}
    (hformat : options.format = .json) (hread : readSource files options.file = .ok source) :
    ∃ items, ReadBack source.content
        (keptTokens options.skipComments (tokenize source.name source.content))
        (dump files options).stdout items ∧
      (options.skipComments = false → ∀ tokens,
        tokenizeAll source.name source.content = .ok tokens →
        Respaced ((tokenize source.name source.content).map Token.text) source.content
          (rebuild items)) := by
  let kept := keptTokens options.skipComments (tokenize source.name source.content)
  have hslices : ∀ token ∈ kept, source.content.slice? token.span.start token.span.stop =
      some token.text := by
    intro token hmem
    exact slice_of_mem_tokenize (mem_of_mem_keptTokens hmem)
  have hback := readBack_dumpTokens hslices options.positions
  refine ⟨kept.map fun token => token.toJson.value, ?_, ?_⟩
  · rw [dump_stdout hread, hformat]
    exact hback
  · intro hskip tokens hclean
    obtain ⟨last, log, htokens, hend, -⟩ := dump_of_clean hread hclean
    have hlast : last ∈ (tokenize source.name source.content).getLast? := by simp [htokens]
    have hkept : kept = tokenize source.name source.content := by
      simp only [kept, hskip, keptTokens_false]
    have hrecords := hback.records
    rw [hkept] at hrecords ⊢
    have hempty : Text.size [] = Position.start.offset := rfl
    obtain ⟨rebuilt, hfold, hrespaced⟩ :=
      (stream_tokenize source.name source.content).foldl_rebuildFrom hlast hend hrecords hempty
    rw [rebuild, hfold]
    exact hrespaced

/-- A string with a backslash and quotes, and a comment with a control and a newline. -/
theorem json_dump_read_back_escapes :
    ∃ content reader items, content = "\"\\\"\"\t/*é\x01\n*/\n" ∧ Json.Conforms reader ∧
      reader (dump (fun _ => .file content.toUTF8) ⟨"a", .json, false, true⟩).stdout.toList =
        some (.array items) ∧
      List.Forall₂ (RecordOf content.toList)
        [⟨.string, "\"\\\"\"".toList, ⟨0, 4, 1, 1⟩⟩,
          ⟨.blockComment, "/*é\x01\n*/".toList, ⟨5, 13, 1, 6⟩⟩,
          ⟨.endOfInput, [], ⟨14, 14, 3, 1⟩⟩] items ∧
      Respaced ["\"\\\"\"".toList, "/*é\x01\n*/".toList, []] content.toList (rebuild items) := by
  let content := "\"\\\"\"\t/*é\x01\n*/\n"
  let files : Files := fun _ => .file content.toUTF8
  have hread : readSource files "a" = .ok ⟨"a", content.toList⟩ := by
    simp only [readSource, files, FileEntry.text_toUTF8]
  have hclean : tokenizeAll "a" content.toList =
      .ok [⟨.string, "\"\\\"\"".toList, ⟨0, 4, 1, 1⟩⟩,
        ⟨.blockComment, "/*é\x01\n*/".toList, ⟨5, 13, 1, 6⟩⟩] := by
    decide +kernel
  have htokens : tokenize "a" content.toList =
      [⟨.string, "\"\\\"\"".toList, ⟨0, 4, 1, 1⟩⟩,
        ⟨.blockComment, "/*é\x01\n*/".toList, ⟨5, 13, 1, 6⟩⟩,
        ⟨.endOfInput, [], ⟨14, 14, 3, 1⟩⟩] := by
    decide +kernel
  have hformat : DumpOptions.format ⟨"a", .json, false, true⟩ = .json := rfl
  obtain ⟨items, hback, hrespaced⟩ := json_dump_read_back hformat hread
  obtain ⟨reader, hconforms⟩ := Json.exists_conforms
  refine ⟨content, reader, items, rfl, hconforms, hback.read_eq reader hconforms, ?_, ?_⟩
  · have hrecords := hback.records
    rw [keptTokens_false, htokens] at hrecords
    exact hrecords
  · have hrebuilt := hrespaced rfl _ hclean
    rw [htokens] at hrebuilt
    exact hrebuilt

end PermissionSchema
