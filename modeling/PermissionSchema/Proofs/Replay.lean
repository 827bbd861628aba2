import PermissionSchema.Proofs.Pulling
import Mathlib.Data.List.Forall2

/-!
# Handles replay the tokens of their source

A handle is a lexer, or the iterator without comments that it was turned into. A `Track` is all
that can be told of a handle from outside: the fixed list of the tokens of its source, how many
of them have been pulled, and whether the iterator has ended. Whatever is asked of any number of
handles in whatever order, copies included, the tracks answer the same (`handles_replay`).
-/

namespace PermissionSchema

inductive Handle where
  | plain (lexer : Lexer)
  | filtered (kept : CommentFree)

/-- A place in the list of the tokens of a source. -/
structure Replay where
  tokens : List Token
  /-- How often a token has been pulled, be it past the end. -/
  pulled : Nat
  /-- The iterator has yielded the last token. -/
  done : Bool

namespace Replay

/-- The token that a pull returns: past the end, the last one again. -/
def current? (replay : Replay) : Option Token :=
  replay.tokens[min replay.pulled (replay.tokens.length - 1)]?

def pull (replay : Replay) : Replay := { replay with pulled := replay.pulled + 1 }

/-- The tokens that the iterator still yields. -/
def toCome (replay : Replay) : List Token :=
  if replay.done then []
  else replay.tokens.drop (min replay.pulled (replay.tokens.length - 1))

end Replay

/-- What stands for a handle: a place in a list, or the tokens without comments still to come. -/
inductive Track where
  | plain (replay : Replay)
  | filtered (tokens : List Token)

/-- What can be asked of a handle. One without comments can only be iterated. -/
inductive Call where
  | next
  | peek
  | iterate
  | skipComments

namespace Handle

def fresh (name : String) (source : Text) : Handle := .plain (.ofSource name source)

def call : Call → Handle → Option Token × Handle
  | .next, .plain lexer => (some lexer.next.1, .plain lexer.next.2)
  | .peek, .plain lexer => (some lexer.peek.1, .plain lexer.peek.2)
  | .iterate, .plain lexer =>
    match lexer.next? with
    | none => (none, .plain lexer)
    | some (token, lexer') => (some token, .plain lexer')
  | .skipComments, .plain lexer => (none, .filtered lexer.skipComments)
  | .iterate, .filtered kept =>
    match kept.next? with
    | none => (none, .filtered kept)
    | some (token, kept') => (some token, .filtered kept')
  | _, .filtered kept => (none, .filtered kept)

end Handle

namespace Track

def fresh (name : String) (source : Text) : Track := .plain ⟨tokenize name source, 0, false⟩

def call : Call → Track → Option Token × Track
  | .next, .plain replay => (replay.current?, .plain replay.pull)
  | .peek, .plain replay => (replay.current?, .plain replay)
  | .iterate, .plain replay =>
    if replay.done then (none, .plain replay)
    else (replay.current?,
      .plain { replay.pull with done := replay.current?.any (·.kind.isTerminal) })
  | .skipComments, .plain replay =>
    (none, .filtered (replay.toCome.filter (!·.kind.isComment)))
  | .iterate, .filtered tokens => (tokens.head?, .filtered tokens.tail)
  | _, .filtered tokens => (none, .filtered tokens)

end Track

/-! ### Any number of handles -/

/-- What can be asked of a row of handles: a new handle, a copy of one, or a call of one. -/
inductive Request where
  | fresh (name : String) (source : Text)
  | clone (slot : Nat)
  | call (slot : Nat) (call : Call)

/-- What handles do, by whatever they are represented. -/
structure Behaviour (σ : Type) where
  fresh : String → Text → σ
  call : Call → σ → Option Token × σ

def handles : Behaviour Handle := ⟨Handle.fresh, Handle.call⟩

def tracks : Behaviour Track := ⟨Track.fresh, Track.call⟩

namespace Behaviour

variable {σ : Type} (behaviour : Behaviour σ)

/-- A new handle and a copy come last in the row; a call changes the handle that is called. -/
def respond (row : List σ) : Request → Option Token × List σ
  | .fresh name source => (none, row ++ [behaviour.fresh name source])
  | .clone slot => (none, row ++ row[slot]?.toList)
  | .call slot call =>
    match row[slot]? with
    | none => (none, row)
    | some handle =>
      ((behaviour.call call handle).1, row.set slot (behaviour.call call handle).2)

theorem respond_call {row : List σ} {slot : Nat} {handle : σ} (hslot : row[slot]? = some handle)
    (c : Call) : behaviour.respond row (.call slot c) =
      ((behaviour.call c handle).1, row.set slot (behaviour.call c handle).2) := by
  simp only [respond, hslot]

theorem getElem?_set {row : List σ} {slot : Nat} {handle : σ} (hslot : row[slot]? = some handle)
    (handle' : σ) : (row.set slot handle')[slot]? = some handle' :=
  List.getElem?_set_self (List.getElem?_eq_some_iff.1 hslot).1

/-- The answers to some requests in turn, and the row that is left. -/
def run (row : List σ) : List Request → List (Option Token) × List σ
  | [] => ([], row)
  | request :: requests =>
    let answered := behaviour.respond row request
    let rest := run answered.2 requests
    (answered.1 :: rest.1, rest.2)

end Behaviour

/-! ### Places in the list -/

namespace Replay

/-- The tokens from the place of a replay on; the last is never passed. -/
def ahead (replay : Replay) : List Token :=
  replay.tokens.drop (min replay.pulled (replay.tokens.length - 1))

theorem current?_eq_head? (replay : Replay) : replay.current? = replay.ahead.head? := by
  rw [ahead, List.head?_drop, current?]

theorem current?_of_ahead {replay : Replay} {token : Token} {tokens : List Token}
    (hahead : replay.ahead = token :: tokens) : replay.current? = some token := by
  rw [current?_eq_head?, hahead, List.head?_cons]

theorem ahead_pull (replay : Replay) : replay.pull.ahead = Lexer.afterPull replay.ahead := by
  have hpull : replay.pull.ahead =
      replay.tokens.drop (min (replay.pulled + 1) (replay.tokens.length - 1)) := rfl
  rw [hpull, ahead]
  by_cases hlast : replay.pulled < replay.tokens.length - 1
  · -- the place moves on, and the last token is still ahead
    have hlt : replay.pulled < replay.tokens.length := by omega
    rw [Nat.min_eq_left hlast.le, Nat.min_eq_left hlast, List.drop_eq_getElem_cons hlt]
    refine (Lexer.afterPull_of_ne_nil ?_).symm
    rw [ne_eq, List.drop_eq_nil_iff]
    omega
  · -- the place is at the last token and stays there
    rw [Nat.min_eq_right (by omega), Nat.min_eq_right (by omega)]
    have hlength : (replay.tokens.drop (replay.tokens.length - 1)).length ≤ 1 := by
      rw [List.length_drop]
      omega
    match replay.tokens.drop (replay.tokens.length - 1), hlength with
    | [], _ => rfl
    | [_], _ => rfl

end Replay

/-! ### Tracks follow handles -/

/-- The tokens that a handle still yields when it is iterated. -/
inductive Handle.Iterates : Handle → List Token → Prop
  | plain {lexer : Lexer} {tokens : List Token} : lexer.Yields tokens →
      Iterates (.plain lexer) tokens
  | filtered {kept : CommentFree} {tokens : List Token} : kept.lexer.Yields tokens →
      Iterates (.filtered kept) (tokens.filter (!·.kind.isComment))

/-- A track tells all there is to know of a handle. -/
inductive Track.Follows : Track → Handle → Prop
  | plain {replay : Replay} {lexer : Lexer} : lexer.Awaits replay.ahead →
      lexer.exhausted = replay.done → Follows (.plain replay) (.plain lexer)
  | filtered {tokens : List Token} {kept : CommentFree} :
      Handle.Iterates (.filtered kept) tokens → Follows (.filtered tokens) (.filtered kept)

namespace Handle

/-- Iterating a handle gives the tokens that it yields one after the other, then none. -/
theorem call_iterate {handle : Handle} {tokens : List Token} (hiterates : handle.Iterates tokens) :
    (handle.call .iterate).1 = tokens.head? ∧ (handle.call .iterate).2.Iterates tokens.tail := by
  cases hiterates with
  | plain hyields =>
    cases tokens with
    | nil =>
      simp only [call, Lexer.next?_of_yields_nil hyields]
      exact ⟨rfl, .plain hyields⟩
    | cons token tokens =>
      obtain ⟨lexer', hnext, hyields'⟩ := Lexer.next?_of_yields_cons hyields
      simp only [call, hnext]
      exact ⟨rfl, .plain hyields'⟩
  | filtered hyields =>
    rcases CommentFree.next?_of_yields hyields with
      ⟨hnone, hnext⟩ | ⟨token, kept', tokens', hnext, hyields', htokens⟩
    · simp only [call, hnext, hnone]
      refine ⟨rfl, ?_⟩
      have hsame := Iterates.filtered hyields
      rwa [hnone] at hsame
    · simp only [call, hnext, htokens]
      exact ⟨rfl, .filtered hyields'⟩

theorem call_filtered (kept : CommentFree) :
    ∃ kept', (call .iterate (.filtered kept)).2 = .filtered kept' := by
  simp only [call]
  split
  · exact ⟨_, rfl⟩
  · exact ⟨_, rfl⟩

end Handle

namespace Track.Follows

theorem iterates {replay : Replay} {lexer : Lexer}
    (hfollows : Follows (.plain replay) (.plain lexer)) :
    Handle.Iterates (.plain lexer) replay.toCome := by
  cases hfollows with
  | plain hawaits hexhausted =>
    rw [Replay.toCome]
    cases hdone : replay.done with
    | true => exact .plain (.exhausted (hexhausted.trans hdone))
    | false => exact .plain (.going (hexhausted.trans hdone) hawaits)

/-- Whatever is asked of a handle, its track answers the same and follows it on. -/
theorem call {track : Track} {handle : Handle} (hfollows : track.Follows handle) (c : Call) :
    (handle.call c).1 = (track.call c).1 ∧ (track.call c).2.Follows (handle.call c).2 := by
  cases hfollows with
  | @plain replay lexer hawaits hexhausted =>
    have hiterates := iterates (.plain hawaits hexhausted)
    obtain ⟨token, tokens, hahead⟩ := List.exists_cons_of_ne_nil hawaits.endsOnce.ne_nil
    have hcurrent := Replay.current?_of_ahead hahead
    have hpull := replay.ahead_pull
    rw [hahead] at hawaits hpull
    cases c with
    | next =>
      obtain ⟨hfirst, hawaits', hexhausted'⟩ := Lexer.next_of_awaits hawaits
      refine ⟨?_, .plain (hpull ▸ hawaits') (hexhausted'.trans hexhausted)⟩
      exact (congrArg some hfirst).trans hcurrent.symm
    | peek =>
      obtain ⟨hfirst, hawaits', hexhausted'⟩ := Lexer.peek_of_awaits hawaits
      refine ⟨?_, .plain (hahead ▸ hawaits') (hexhausted'.trans hexhausted)⟩
      exact (congrArg some hfirst).trans hcurrent.symm
    | iterate =>
      cases hdone : replay.done with
      | true =>
        -- ended, though `next` may have been pulling the last token ever since
        rw [hdone] at hexhausted
        have hnext := Lexer.next?_of_yields_nil (.exhausted hexhausted)
        simp only [Handle.call, hnext, Track.call, hdone, if_true]
        exact ⟨trivial, .plain (hahead ▸ hawaits) (hexhausted.trans hdone.symm)⟩
      | false =>
        obtain ⟨lexer', hnext, hawaits', hexhausted'⟩ :=
          Lexer.next?_of_awaits hawaits (hexhausted.trans hdone)
        simp only [Handle.call, hnext, Track.call, hdone, hcurrent, Option.any_some]
        exact ⟨rfl, .plain (hpull ▸ hawaits') hexhausted'⟩
    | skipComments =>
      cases hiterates with
      | plain hyields => exact ⟨rfl, .filtered (.filtered hyields)⟩
  | filtered hiterates =>
    cases c with
    | iterate =>
      obtain ⟨hfirst, hiterates'⟩ := Handle.call_iterate hiterates
      refine ⟨hfirst, ?_⟩
      obtain ⟨kept', hkept'⟩ := Handle.call_filtered _
      rw [hkept'] at hiterates' ⊢
      exact .filtered hiterates'
    | next => exact ⟨rfl, .filtered hiterates⟩
    | peek => exact ⟨rfl, .filtered hiterates⟩
    | skipComments => exact ⟨rfl, .filtered hiterates⟩

end Track.Follows

/-! ### Rows of handles -/

section

variable {σ τ : Type} {follows : σ → τ → Prop} {row : List σ} {row' : List τ}

theorem getElem?_of_follows (hrow : List.Forall₂ follows row row') (slot : Nat) :
    Option.Rel follows row[slot]? row'[slot]? := by
  induction hrow generalizing slot with
  | nil => exact .none
  | cons hfollows _ ih =>
    cases slot with
    | zero => exact .some hfollows
    | succ slot => exact ih slot

theorem set_follows (hrow : List.Forall₂ follows row row') {track : σ} {handle : τ}
    (hfollows : follows track handle) (slot : Nat) :
    List.Forall₂ follows (row.set slot track) (row'.set slot handle) := by
  induction hrow generalizing slot with
  | nil => exact .nil
  | cons hfirst hrest ih =>
    cases slot with
    | zero => exact .cons hfollows hrest
    | succ slot => exact .cons hfirst (ih slot)

/-- Two behaviours answer alike, of which one follows the other. -/
structure Behaviour.Simulates (behaviour : Behaviour σ) (behaviour' : Behaviour τ)
    (follows : σ → τ → Prop) : Prop where
  fresh : ∀ name source, follows (behaviour.fresh name source) (behaviour'.fresh name source)
  call : ∀ c {track handle}, follows track handle →
    (behaviour'.call c handle).1 = (behaviour.call c track).1 ∧
      follows (behaviour.call c track).2 (behaviour'.call c handle).2

namespace Behaviour.Simulates

variable {behaviour : Behaviour σ} {behaviour' : Behaviour τ}

/-- One request is answered alike by rows of which one follows the other. -/
theorem respond (hsimulates : behaviour.Simulates behaviour' follows)
    (hrow : List.Forall₂ follows row row') (request : Request) :
    (behaviour'.respond row' request).1 = (behaviour.respond row request).1 ∧
      List.Forall₂ follows (behaviour.respond row request).2
        (behaviour'.respond row' request).2 := by
  cases request with
  | fresh name source =>
    exact ⟨rfl, List.rel_append hrow (.cons (hsimulates.fresh name source) .nil)⟩
  | clone slot =>
    refine ⟨rfl, List.rel_append hrow ?_⟩
    have hslot := getElem?_of_follows hrow slot
    generalize row[slot]? = track at hslot ⊢
    generalize row'[slot]? = handle at hslot ⊢
    cases hslot with
    | none => exact .nil
    | some hfollows => exact .cons hfollows .nil
  | call slot c =>
    have hslot := getElem?_of_follows hrow slot
    simp only [Behaviour.respond]
    generalize row[slot]? = track at hslot
    generalize row'[slot]? = handle at hslot
    cases hslot with
    | none => exact ⟨rfl, hrow⟩
    | some hfollows =>
      obtain ⟨hanswer, hfollows'⟩ := hsimulates.call c hfollows
      exact ⟨hanswer, set_follows hrow hfollows' slot⟩

theorem run (hsimulates : behaviour.Simulates behaviour' follows)
    (hrow : List.Forall₂ follows row row') (requests : List Request) :
    (behaviour'.run row' requests).1 = (behaviour.run row requests).1 ∧
      List.Forall₂ follows (behaviour.run row requests).2 (behaviour'.run row' requests).2 := by
  -- what holds between two requests is that one row follows the other, slot by slot
  induction requests generalizing row row' with
  | nil => exact ⟨rfl, hrow⟩
  | cons request requests ih =>
    obtain ⟨hanswer, hrow'⟩ := hsimulates.respond hrow request
    obtain ⟨hanswers, hrows⟩ := ih hrow'
    simp only [Behaviour.run]
    rw [hanswer, hanswers]
    exact ⟨rfl, hrows⟩

end Behaviour.Simulates

end

theorem tracks_simulate : tracks.Simulates handles Track.Follows where
  fresh name source := .plain (Lexer.awaits_ofSource (stream_tokenize name source)) rfl
  call c _ _ hfollows := hfollows.call c

section

variable {row : List Track} {row' : List Handle}

theorem run_follows (hrow : List.Forall₂ Track.Follows row row') (requests : List Request) :
    (handles.run row' requests).1 = (tracks.run row requests).1 ∧
      List.Forall₂ Track.Follows (tracks.run row requests).2 (handles.run row' requests).2 :=
  tracks_simulate.run hrow requests

/-- Iterating one handle of a row again and again gives what it yields, then none. -/
theorem run_iterate {slot : Nat} {handle : Handle} {tokens : List Token}
    (hslot : row'[slot]? = some handle) (hiterates : handle.Iterates tokens) (count : Nat) :
    (handles.run row' (List.replicate count (.call slot .iterate))).1 =
      (List.range count).map (tokens[·]?) := by
  induction count generalizing row' handle tokens with
  | zero => rfl
  | succ count ih =>
    obtain ⟨hfirst, hiterates'⟩ := Handle.call_iterate hiterates
    have hslot' := Behaviour.getElem?_set hslot (handle.call .iterate).2
    rw [List.replicate_succ, Behaviour.run, handles.respond_call hslot, List.range_succ_eq_map,
      List.map_cons, List.map_map]
    have hrest := ih hslot' hiterates'
    simp only [handles] at hrest ⊢
    rw [hrest, hfirst]
    cases tokens with
    | nil => rfl
    | cons token tokens => rfl

/-- Told to skip comments, a lexer gives what it yields without them. -/
theorem run_skipComments {slot : Nat} {lexer : Lexer} {tokens : List Token}
    (hslot : row'[slot]? = some (.plain lexer)) (hyields : lexer.Yields tokens) (count : Nat) :
    (handles.run row' (.call slot .skipComments :: List.replicate count (.call slot .iterate))).1 =
      none :: (List.range count).map ((tokens.filter (!·.kind.isComment))[·]?) := by
  have hkept : Handle.Iterates (.filtered lexer.skipComments)
      (tokens.filter (!·.kind.isComment)) := .filtered hyields
  have hslot' := Behaviour.getElem?_set hslot (.filtered lexer.skipComments)
  rw [Behaviour.run, handles.respond_call hslot]
  exact congrArg (none :: ·) (run_iterate hslot' hkept count)

end

/-- **Handles replay the tokens of their sources.** Whatever is asked of any number of handles,
    their tracks answer the same. A handle that is iterated yields some tokens and then none; had
    it been told to skip comments, it would yield those of them that are no comments. -/
theorem handles_replay (requests : List Request) :
    (handles.run [] requests).1 = (tracks.run [] requests).1 ∧
      ∀ slot lexer, (handles.run [] requests).2[slot]? = some (.plain lexer) →
        ∃ yielded : List Token, ∀ count,
          (handles.run (handles.run [] requests).2
            (List.replicate count (.call slot .iterate))).1 =
              (List.range count).map (yielded[·]?) ∧
          (handles.run (handles.run [] requests).2
            (.call slot .skipComments :: List.replicate count (.call slot .iterate))).1 =
              none :: (List.range count).map ((yielded.filter (!·.kind.isComment))[·]?) := by
  obtain ⟨hanswers, hrow⟩ := run_follows .nil requests
  refine ⟨hanswers, ?_⟩
  intro slot lexer hslot
  have hfollows := getElem?_of_follows hrow slot
  rw [hslot] at hfollows
  generalize (tracks.run [] requests).2[slot]? = track at hfollows
  cases hfollows with
  | @some track _ hfollows =>
    cases hfollows with
    | @plain replay _ hawaits hexhausted =>
      have hiterates := Track.Follows.iterates (.plain hawaits hexhausted)
      refine ⟨replay.toCome, fun count => ⟨run_iterate hslot hiterates count, ?_⟩⟩
      cases hiterates with
      | plain hyields => exact run_skipComments hslot hyields count

/-- A copy made between a look ahead and a pull is iterated like any other handle. -/
theorem handles_replay_copy :
    ∃ yielded : List Token, ∀ count,
      (handles.run (handles.run [] [.fresh "a.opl" "/**/ a".toList, .call 0 .peek, .clone 0,
        .call 0 .next]).2 (.call 1 .skipComments :: List.replicate count (.call 1 .iterate))).1 =
          none :: (List.range count).map ((yielded.filter (!·.kind.isComment))[·]?) := by
  obtain ⟨yielded, hyielded⟩ := (handles_replay [.fresh "a.opl" "/**/ a".toList, .call 0 .peek,
    .clone 0, .call 0 .next]).2 1 _ rfl
  exact ⟨yielded, fun count => (hyielded count).2⟩

end PermissionSchema
