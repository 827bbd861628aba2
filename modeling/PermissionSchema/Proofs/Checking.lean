import PermissionSchema.Command.Check
import Mathlib.Data.List.Perm.Basic
import Mathlib.Data.List.Nodup

/-!
# Checking many files

A pool completes every item once (`WorkerPool.completions_perm`), in any order that a schedule may
bring about (`WorkerPool.exists_schedule`), and so its results are those of the items one after the
other (`WorkerPool.results_eq`). A check therefore reports every file once and in order, and counts
the files that it reports (`check_reports`).
-/

namespace PermissionSchema

/-! ### Pools -/

namespace WorkerPool

variable {α β : Type} {workers : Nat} {schedule : Schedule} {work : α → β}
  {inHand waiting : List (Nat × α)}

/-- Taking an item out of a list by its number leaves the others. -/
theorem perm_cons_eraseIdx {γ : Type} {items : List γ} {number : Nat} {item : γ}
    (h : items[number]? = some item) : (item :: items.eraseIdx number).Perm items := by
  obtain ⟨hlt, rfl⟩ := List.getElem?_eq_some_iff.1 h
  exact List.getElem_cons_eraseIdx_perm hlt

theorem getElem?_mod_ne_none {γ : Type} {items : List γ} (hne : items ≠ []) (choice : Nat) :
    items[choice % items.length]? ≠ none := by
  have hpos : 0 < items.length := List.length_pos_iff.2 hne
  have hlt := Nat.mod_lt choice hpos
  rw [List.getElem?_eq_getElem hlt]
  exact Option.some_ne_none _

/-- Every item, in hand or waiting, is completed once. -/
theorem completions_perm (workers : Nat) (schedule : Schedule) (work : α → β)
    (inHand waiting : List (Nat × α)) :
    (completions workers schedule work inHand waiting).Perm
      ((inHand ++ waiting).map (Prod.map id work)) := by
  fun_induction completions workers schedule work inHand waiting with
  | case1 schedule inHand waiting turn hstarts chosen hnone =>
    exact absurd hnone (getElem?_mod_ne_none hstarts.2.1 _)
  | case2 schedule inHand waiting turn hstarts chosen taken htaken ih =>
    have hmoved : (taken :: inHand ++ waiting.eraseIdx chosen).Perm
        (inHand ++ taken :: waiting.eraseIdx chosen) := List.perm_middle.symm
    have hwhole := hmoved.trans ((perm_cons_eraseIdx htaken).append_left inHand)
    exact ih.trans (hwhole.map _)
  | case3 schedule inHand waiting turn hstays chosen hnone =>
    -- a pool is only ever stuck when there is nothing left to do
    have hidle : inHand = [] := by
      by_contra hne
      exact getElem?_mod_ne_none hne _ hnone
    have hempty : waiting = [] := by
      by_contra hne
      apply hstays
      refine ⟨?_, hne, Or.inr hidle⟩
      rw [hidle, List.length_nil]
      omega
    rw [hidle, hempty]
    exact .nil
  | case4 schedule inHand waiting turn hstays chosen place item hdone ih =>
    have hwhole := (perm_cons_eraseIdx hdone).append_right waiting
    exact (ih.cons (place, work item)).trans (hwhole.map (Prod.map id work))

theorem completions_of_start {taken : Nat × α} (hidle : inHand.length < max workers 1)
    (hstarts : (schedule 0).starts ∨ inHand = [])
    (htaken : waiting[(schedule 0).choice % waiting.length]? = some taken) :
    completions workers schedule work inHand waiting =
      completions workers schedule.later work (taken :: inHand)
        (waiting.eraseIdx ((schedule 0).choice % waiting.length)) := by
  have hne : waiting ≠ [] := by
    rintro rfl
    simp at htaken
  rw [completions, if_pos ⟨hidle, hne, hstarts⟩]
  simp only []
  split
  · next hnone => exact absurd (hnone.symm.trans htaken) (by simp)
  · next found hfound => rw [Option.some.inj (hfound.symm.trans htaken)]

theorem completions_of_finish {place : Nat} {item : α} (hstays : (schedule 0).starts = false)
    (hdone : inHand[(schedule 0).choice % inHand.length]? = some (place, item)) :
    completions workers schedule work inHand waiting =
      (place, work item) :: completions workers schedule.later work
        (inHand.eraseIdx ((schedule 0).choice % inHand.length)) waiting := by
  have hne : inHand ≠ [] := by
    rintro rfl
    simp at hdone
  rw [completions, if_neg (by simp [hstays, hne])]
  simp only []
  split
  · next hnone => exact absurd (hnone.symm.trans hdone) (by simp)
  · next found hfound =>
    obtain ⟨rfl, rfl⟩ := Prod.mk.inj (Option.some.inj (hfound.symm.trans hdone))
    rfl

theorem completions_nil : completions workers schedule work [] [] = [] := by
  have hperm := completions_perm workers schedule work [] []
  exact hperm.eq_nil

/-- One waiting item is taken up and done before anything else happens. -/
def doneFirst (number : Nat) (rest : Schedule) : Schedule
  | 0 => ⟨true, number⟩
  | 1 => ⟨false, 0⟩
  | turn + 2 => rest turn

theorem completions_doneFirst {number : Nat} {taken : Nat × α}
    (htaken : waiting[number]? = some taken) (rest : Schedule) :
    completions workers (doneFirst number rest) work [] waiting =
      (taken.1, work taken.2) :: completions workers rest work [] (waiting.eraseIdx number) := by
  have hlt := (List.getElem?_eq_some_iff.1 htaken).1
  have hchoice : (doneFirst number rest 0).choice % waiting.length = number := Nat.mod_eq_of_lt hlt
  have hidle : ([] : List (Nat × α)).length < max workers 1 :=
    Nat.lt_of_lt_of_le Nat.one_pos (Nat.le_max_right workers 1)
  rw [completions_of_start hidle (Or.inl rfl) (by rw [hchoice, htaken]), hchoice,
    completions_of_finish rfl rfl]
  rfl

/-- Any order of the waiting items is the order of their completion under some schedule, however
    many workers there are. -/
theorem exists_schedule (workers : Nat) (work : α → β) {waiting : List (Nat × α)}
    {order : List Nat} (horder : order.Perm (waiting.map Prod.fst)) :
    ∃ schedule, (completions workers schedule work [] waiting).map Prod.fst = order := by
  induction order generalizing waiting with
  | nil =>
    have hempty : waiting = [] := List.map_eq_nil_iff.1 horder.symm.eq_nil
    exact ⟨.inOrder, by rw [hempty, completions_nil, List.map_nil]⟩
  | cons place order ih =>
    obtain ⟨taken, hmem, rfl⟩ := List.mem_map.1 (horder.subset List.mem_cons_self)
    obtain ⟨number, htaken⟩ := List.getElem?_of_mem hmem
    have hrest : order.Perm ((waiting.eraseIdx number).map Prod.fst) :=
      (horder.trans ((perm_cons_eraseIdx htaken).map Prod.fst).symm).cons_inv
    obtain ⟨rest, horder'⟩ := ih hrest
    refine ⟨doneFirst number rest, ?_⟩
    rw [completions_doneFirst htaken, List.map_cons, horder']

/-! #### Results -/

theorem map_fst_placed (items : List α) :
    (placed items).map Prod.fst = List.range items.length := by
  rw [placed, List.map_map]
  exact (List.zipIdx_map_snd 0 items).trans (List.range_eq_range' ▸ rfl)

theorem map_snd_placed (items : List α) : (placed items).map Prod.snd = items := by
  rw [placed, List.map_map]
  exact List.zipIdx_map_fst 0 items

theorem lookup_eq_of_mem {entries : List (Nat × β)} (hnodup : (entries.map Prod.fst).Nodup)
    {place : Nat} {result : β} (hmem : (place, result) ∈ entries) :
    entries.lookup place = some result := by
  induction entries with
  | nil => simp at hmem
  | cons entry entries ih =>
    rw [List.map_cons, List.nodup_cons] at hnodup
    rcases List.mem_cons.1 hmem with rfl | hlater
    · exact List.lookup_cons_self
    · have hne : place ≠ entry.1 := by
        rintro rfl
        exact hnodup.1 (List.mem_map.2 ⟨_, hlater, rfl⟩)
      rw [List.lookup_cons, beq_false_of_ne hne]
      exact ih hnodup.2 hlater

theorem finished_perm (workers : Nat) (schedule : Schedule) (work : α → β) (items : List α) :
    (finished workers schedule work items).Perm ((placed items).map (Prod.map id work)) :=
  completions_perm workers schedule work [] (placed items)

theorem nodup_places_finished (workers : Nat) (schedule : Schedule) (work : α → β)
    (items : List α) : ((finished workers schedule work items).map Prod.fst).Nodup := by
  have hperm := (finished_perm workers schedule work items).map Prod.fst
  have hplaces : ((placed items).map (Prod.map id work)).map Prod.fst =
      List.range items.length := by
    rw [List.map_map, ← map_fst_placed]
    rfl
  rw [hplaces] at hperm
  exact hperm.nodup_iff.2 List.nodup_range

/-- The results of a pool are those of the items in turn, whatever the schedule. -/
theorem results_eq (workers : Nat) (schedule : Schedule) (work : α → β) (items : List α) :
    results workers schedule work items = items.map work := by
  have hfound : ∀ entry ∈ placed items,
      (finished workers schedule work items).lookup entry.1 = some (work entry.2) := by
    intro entry hentry
    apply lookup_eq_of_mem (nodup_places_finished workers schedule work items)
    exact (finished_perm workers schedule work items).symm.subset (List.mem_map_of_mem hentry)
  calc results workers schedule work items
    _ = (placed items).filterMap fun entry =>
          (finished workers schedule work items).lookup entry.1 := by
        rw [results, ← map_fst_placed, List.filterMap_map]
        rfl
    _ = (placed items).filterMap fun entry => some (work entry.2) := List.filterMap_congr hfound
    _ = ((placed items).map Prod.snd).map work := by
        rw [List.map_map, ← List.filterMap_eq_map]
        rfl
    _ = items.map work := by rw [map_snd_placed]

end WorkerPool

/-! ### Verdicts -/

/-- What is printed for the lexical error of a file, if it has one. -/
def lexicalReport? (file : SourceFile) : Option String :=
  match tokenizeAll file.name file.content with
  | .ok _ => none
  | .error e => some (e.diagnostic.render file)

/-- What is printed for a path that cannot be read or has a lexical error. -/
def failureReport? (files : Files) (path : String) : Option String :=
  match readSource files path with
  | .error e => some (renderUnreadable path e)
  | .ok source => lexicalReport? source

/-- The number of places in a list of paths where one fails. -/
def failureCount (files : Files) (paths : List String) : Nat :=
  paths.countP fun path => (failureReport? files path).isSome

theorem FileEntry.text_toUTF8 (text : String) :
    (FileEntry.file text.toUTF8).text = .ok text.toList := by
  have hvalid : String.fromUTF8? text.toUTF8 = some text := by
    rw [String.fromUTF8?, String.toUTF8_eq_toByteArray, dif_pos text.isValidUTF8]
    rfl
  rw [FileEntry.text, hvalid]

theorem failureReport?_of_text {files : Files} {path text : String}
    (hfile : files path = .file text.toUTF8) :
    failureReport? files path = lexicalReport? ⟨path, text.toList⟩ := by
  simp only [failureReport?, readSource, hfile, FileEntry.text_toUTF8]

theorem checkFile_cases (files : Files) (path : String) :
    (∃ tokens, checkFile files path = .clean tokens ∧ failureReport? files path = none) ∨
    (∃ diagnostic source, checkFile files path = .faulty diagnostic source ∧
      diagnostic.level = .error ∧
      failureReport? files path = some (diagnostic.render source)) ∨
    ∃ rendered, checkFile files path = .unreadable rendered ∧
      failureReport? files path = some rendered := by
  cases hread : readSource files path with
  | error e =>
    refine Or.inr (Or.inr ⟨renderUnreadable path e, ?_, ?_⟩)
    · rw [checkFile, hread]
    · rw [failureReport?, hread]
  | ok source =>
    cases htokens : tokenizeAll source.name source.content with
    | ok tokens =>
      refine Or.inl ⟨tokens.length, ?_, ?_⟩
      · simp only [checkFile, hread, htokens]
      · simp only [failureReport?, hread, lexicalReport?, htokens]
    | error e =>
      refine Or.inr (Or.inl ⟨e.diagnostic, source, ?_, rfl, ?_⟩)
      · simp only [checkFile, hread, htokens]
      · simp only [failureReport?, hread, lexicalReport?, htokens]

theorem join_reports (files : Files) (paths : List String) :
    String.join ((paths.map (checkFile files)).map Verdict.report) =
      String.join (paths.filterMap (failureReport? files)) := by
  induction paths with
  | nil => rfl
  | cons path paths ih =>
    rw [List.map_cons, List.map_cons, String.join_cons, ih]
    rcases checkFile_cases files path with
      ⟨tokens, hverdict, hreport⟩ | ⟨diagnostic, source, hverdict, -, hreport⟩ |
        ⟨rendered, hverdict, hreport⟩
    · rw [hverdict, List.filterMap_cons_none hreport, Verdict.report, String.empty_append]
    · rw [hverdict, List.filterMap_cons_some hreport, String.join_cons, Verdict.report]
    · rw [hverdict, List.filterMap_cons_some hreport, String.join_cons, Verdict.report]

theorem errorCount_cons_of_error {diagnostic : Diagnostic} (hlevel : diagnostic.level = .error)
    (diagnostics : List Diagnostic) : Diagnostic.errorCount (diagnostic :: diagnostics) =
      Diagnostic.errorCount diagnostics + 1 := by
  rw [Diagnostic.errorCount, List.countP_cons_of_pos (by rw [hlevel]; rfl), Diagnostic.errorCount]

/-- The errors among the diagnostics and the files that cannot be read are the failures. -/
theorem count_failures (files : Files) (paths : List String) :
    Diagnostic.errorCount ((paths.map (checkFile files)).filterMap Verdict.diagnostic?) +
      (paths.map (checkFile files)).countP (·.isUnreadable) = failureCount files paths := by
  induction paths with
  | nil => rfl
  | cons path paths ih =>
    rw [failureCount] at ih ⊢
    rw [List.map_cons, List.countP_cons, List.countP_cons, ← ih]
    rcases checkFile_cases files path with
      ⟨tokens, hverdict, hreport⟩ | ⟨diagnostic, source, hverdict, hlevel, hreport⟩ |
        ⟨rendered, hverdict, hreport⟩
    · rw [hverdict, hreport, List.filterMap_cons_none rfl]
      rfl
    · have hfound : (Verdict.faulty diagnostic source).diagnostic? = some diagnostic := rfl
      have hread : (Verdict.faulty diagnostic source).isUnreadable = false := rfl
      rw [hverdict, hreport, List.filterMap_cons_some hfound, errorCount_cons_of_error hlevel,
        hread, if_neg Bool.false_ne_true, Option.isSome_some, if_pos rfl]
      omega
    · have hunread : (Verdict.unreadable rendered).isUnreadable = true := rfl
      rw [hverdict, hreport, List.filterMap_cons_none rfl, hunread, if_pos rfl,
        Option.isSome_some, if_pos rfl]
      omega

theorem failureCount_le (files : Files) (paths : List String) :
    failureCount files paths ≤ paths.length :=
  List.countP_le_length

/-! ### Checks -/

/-- What a check of some paths prints and results in: one report for each failure, in the order of
    the paths, and a summary whose two counts make up the number of paths. -/
structure Checked (files : Files) (paths : List String) (run : CommandRun) : Prop where
  stdout_eq : run.stdout = ""
  stderr_eq : ∃ ok, ok + failureCount files paths = paths.length ∧
    run.stderr = String.join (paths.filterMap (failureReport? files)) ++
      s!"checked {paths.length} file(s): {ok} ok, {failureCount files paths} failed\n"
  result_eq : run.result =
    if 0 < failureCount files paths then .error (.filesFailed (failureCount files paths))
    else .ok paths.length
  message_eq : ∀ e, run.result = .error e →
    e.message = s!"Validation error: {failureCount files paths} file(s) failed to lex"

/-- The outcome of a check in which nothing is left to the schedule. -/
theorem checked (files : Files) (schedule : Schedule) {options : CheckOptions}
    (hpaths : options.paths ≠ []) : Checked files options.paths (check files schedule options) := by
  have hsome : ¬ options.paths.isEmpty := by simpa using hpaths
  have hcount := Nat.sub_add_cancel (failureCount_le files options.paths)
  rw [check, if_neg hsome]
  simp only [WorkerPool.results_eq, count_failures, join_reports, checkSummary]
  refine ⟨rfl, ⟨_, hcount, rfl⟩, rfl, ?_⟩
  intro e herror
  split at herror
  · obtain rfl := Except.error.inj herror
    rfl
  · simp at herror

/-- **A check reports every file once and in order, whatever the pool does.** The files may be
    finished in any order. -/
theorem check_reports (files : Files) (schedule : Schedule) (options : CheckOptions) :
    (options.paths = [] → ∃ e, (check files schedule options).stdout = "" ∧
      (check files schedule options).stderr = "" ∧
      (check files schedule options).result = .error e ∧
      e.message = "Validation error: No input files specified") ∧
    (options.paths ≠ [] → Checked files options.paths (check files schedule options)) ∧
    ∀ order : List Nat, order.Perm (List.range options.paths.length) → ∃ schedule',
      (WorkerPool.finished options.jobs schedule' (checkFile files) options.paths).map Prod.fst =
        order := by
  refine ⟨?_, checked files schedule, ?_⟩
  · intro hempty
    rw [check, if_pos (by rw [hempty]; rfl)]
    exact ⟨.noInput, rfl, rfl, rfl, rfl⟩
  · intro order horder
    apply WorkerPool.exists_schedule
    rwa [WorkerPool.map_fst_placed]

/-- A path that is given twice is reported twice. -/
theorem check_reports_twice :
    ∃ run, run = check (fun path => if path = "a" then .file "a#".toUTF8 else .missing)
        (fun turn => ⟨turn % 3 = 0, 7 * turn⟩) ⟨["b", "a", "b"], 0⟩ ∧
      run.stderr = "error[E0100]: could not read `b`\n" ++
        "  = note: File operation failed: Input path does not exist: b\n" ++
        "error[E0001]: unexpected character '#'\n  --> a:1:2\n  1 | a#\n    |  ^\n" ++
        "error[E0100]: could not read `b`\n" ++
        "  = note: File operation failed: Input path does not exist: b\n" ++
        "checked 3 file(s): 0 ok, 3 failed\n" ∧
      run.result = .error (.filesFailed 3) := by
  let files : Files := fun path => if path = "a" then .file "a#".toUTF8 else .missing
  obtain ⟨-, hchecked, -⟩ :=
    check_reports files (fun turn => ⟨turn % 3 = 0, 7 * turn⟩) ⟨["b", "a", "b"], 0⟩
  obtain ⟨-, ⟨ok, hsum, hstderr⟩, hresult, -⟩ := hchecked (List.cons_ne_nil _ _)
  have hfaulty : failureReport? files "a" = some
      "error[E0001]: unexpected character '#'\n  --> a:1:2\n  1 | a#\n    |  ^\n" := by
    rw [failureReport?_of_text rfl]
    decide +kernel
  have hmissing : failureReport? files "b" = some (renderUnreadable "b" (.missing "b")) := rfl
  have hcount : failureCount files ["b", "a", "b"] = 3 := by
    simp [failureCount, hfaulty, hmissing]
  rw [hcount] at hsum hstderr hresult
  obtain rfl : ok = 0 := Nat.add_right_cancel (hsum.trans (Nat.zero_add 3).symm)
  refine ⟨_, rfl, hstderr.trans ?_, hresult⟩
  simp only [List.filterMap, hfaulty, hmissing]
  decide +kernel

end PermissionSchema
