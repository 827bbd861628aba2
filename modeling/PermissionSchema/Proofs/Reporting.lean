import PermissionSchema.Proofs.Replay

/-!
# What lexers report

A lexer reports the terminal token of its source when it scans it, and nothing else. An `Account` is
what can be told from outside: the tokens that a handle gives, and whether the terminal token has
been among them. In every run, copies and comment-free iterators included, a handle has reported
nothing until its account has heard of the terminal token, and one event from then on
(`end_reported_once`).
-/

namespace PermissionSchema

/-- An event that tells how a named source ends: in an error at some place, or in the end of input
    at some offset and line. -/
def LogEvent.TellsOf (event : LogEvent) (name : String) (token : Token) : Prop :=
  (∃ fault, token.kind = .error fault ∧ event.severity = .debug ∧
      event.message = "lexing stopped on error" ∧
      event.fields = [("source", .text name), ("line", .number token.span.line),
        ("column", .number token.span.column), ("error", .text fault.message)]) ∨
    (token.kind = .endOfInput ∧ event.severity = .trace ∧
      event.message = "reached end of input" ∧
      event.fields = [("source", .text name), ("offset", .number token.span.start),
        ("line", .number token.span.line)])

theorem LogEvent.tellsOf_ofTerminal (name : String) {token : Token}
    (hkind : token.kind.isTerminal = true) :
    (LogEvent.ofTerminal name token).TellsOf name token := by
  rcases Kind.isTerminal_iff.1 hkind with hend | ⟨fault, herror⟩
  · right
    simp [ofTerminal, hend, severity, message, fields]
  · left
    refine ⟨fault, herror, ?_⟩
    simp [ofTerminal, herror, severity, message, fields]

/-- The token that an answer gives, if it ends a stream. -/
def ending? (answer : Option Token) : Option Token := answer.filter (·.kind.isTerminal)

@[simp] theorem ending?_none : ending? none = none := rfl

theorem ending?_of_isTerminal {token : Token} (hkind : token.kind.isTerminal = true) :
    ending? (some token) = some token := by
  simp [ending?, hkind]

theorem ending?_of_not_isTerminal {token : Token} (hkind : token.kind.isTerminal = false) :
    ending? (some token) = none := by
  simp [ending?, hkind]

theorem ending?_eq_some_iff {answer : Option Token} {token : Token} :
    ending? answer = some token ↔ answer = some token ∧ token.kind.isTerminal = true := by
  simp [ending?, Option.filter_eq_some_iff]

namespace Lexer

/-- A lexer of a named source has reported the terminal token if it has scanned it, and nothing
    besides. -/
structure Logged (name : String) (lexer : Lexer) : Prop where
  sourceName_eq : lexer.sourceName = name
  log_eq : lexer.log = (lexer.terminal.map (.ofTerminal name)).toList

/-- What a lexer has become by giving an answer: it keeps the terminal token that it has, or else
    the one that it answers. -/
structure Answered (name : String) (lexer : Lexer) (answer : Option Token) (lexer' : Lexer) :
    Prop where
  logged : lexer'.Logged name
  terminal_eq : lexer'.terminal = lexer.terminal.or (ending? answer)

variable {name : String} {lexer : Lexer}

theorem Logged.answered_none (hlogged : lexer.Logged name) :
    Answered name lexer none lexer where
  logged := hlogged
  terminal_eq := by simp

/-- Answering a token that ends nothing before another answer makes no difference. -/
theorem Answered.trans {lexer' lexer'' : Lexer} {token : Token} {answer : Option Token}
    (hfirst : Answered name lexer (some token) lexer') (hkind : token.kind.isTerminal = false)
    (hsecond : Answered name lexer' answer lexer'') : Answered name lexer answer lexer'' where
  logged := hsecond.logged
  terminal_eq := by
    have hsame : lexer'.terminal = lexer.terminal := by
      simpa [ending?_of_not_isTerminal hkind] using hfirst.terminal_eq
    rw [hsecond.terminal_eq, hsame]

theorem answered_finish (hlogged : lexer.Logged name) (hterminal : lexer.terminal = none)
    (kind : Kind) :
    Answered name lexer (some (lexer.finish kind).1) (lexer.finish kind).2 := by
  have hlog : lexer.log = [] := by
    rw [hlogged.log_eq, hterminal]
    rfl
  unfold finish
  split
  · next hkind =>
    have hending : ending? (some (lexer.token kind)) = some (lexer.token kind) :=
      ending?_of_isTerminal hkind
    refine ⟨⟨hlogged.sourceName_eq, ?_⟩, ?_⟩
    · simp [hlog, hlogged.sourceName_eq]
    · simp [hterminal, hending]
  · next hkind =>
    have hother : (lexer.token kind).kind.isTerminal = false := Bool.eq_false_iff.2 hkind
    have hending := ending?_of_not_isTerminal hother
    refine ⟨⟨hlogged.sourceName_eq, hlogged.log_eq⟩, ?_⟩
    simp [hending]

/-- Scanning reports the token that it comes to, if that one ends the stream. -/
theorem answered_scan (hlogged : lexer.Logged name) (hterminal : lexer.terminal = none) :
    Answered name lexer (some lexer.scan.1) lexer.scan.2 := by
  fun_induction scan lexer with
  | case1 lexer kind lexer' hstep =>
    obtain rfl : lexer.step.2 = lexer' := congrArg Prod.snd hstep
    have hstepped : lexer.step.2.Logged name := ⟨hlogged.sourceName_eq, hlogged.log_eq⟩
    have hanswered := answered_finish hstepped hterminal kind
    exact ⟨hanswered.logged, hanswered.terminal_eq⟩
  | case2 lexer lexer' hstep ih | case3 lexer lexer' hstep ih =>
    obtain rfl : lexer.step.2 = lexer' := congrArg Prod.snd hstep
    have hanswered := ih ⟨hlogged.sourceName_eq, hlogged.log_eq⟩ hterminal
    exact ⟨hanswered.logged, hanswered.terminal_eq⟩

theorem answered_scanToken (hlogged : lexer.Logged name) :
    Answered name lexer (some lexer.scanToken.1) lexer.scanToken.2 := by
  cases hterminal : lexer.terminal with
  | none =>
    rw [scanToken_of_none hterminal]
    exact answered_scan hlogged hterminal
  | some token =>
    rw [scanToken_of_some hterminal]
    exact ⟨hlogged, by simp [hterminal]⟩

/-- A token that was peeked at is kept already, if it ends the stream. -/
theorem Awaits.terminal_of_peeked {tokens : List Token} {token : Token}
    (hawaits : lexer.Awaits tokens) (hpeeked : lexer.peeked = some token) :
    lexer.terminal = lexer.terminal.or (ending? (some token)) := by
  cases hawaits with
  | scanning _ _ hnone _ => simp [hnone] at hpeeked
  | peeked _ hterminal hsome hkind _ =>
    obtain rfl := Option.some.inj (hsome.symm.trans hpeeked)
    simp [hterminal, ending?_of_not_isTerminal hkind]
  | ended hterminal _ => simp [hterminal]

theorem answered_next {tokens : List Token} (hawaits : lexer.Awaits tokens)
    (hlogged : lexer.Logged name) : Answered name lexer (some lexer.next.1) lexer.next.2 := by
  cases hpeeked : lexer.peeked with
  | none =>
    rw [next_of_none hpeeked]
    exact answered_scanToken hlogged
  | some token =>
    rw [next_of_some hpeeked]
    exact ⟨⟨hlogged.sourceName_eq, hlogged.log_eq⟩, hawaits.terminal_of_peeked hpeeked⟩

theorem answered_peek {tokens : List Token} (hawaits : lexer.Awaits tokens)
    (hlogged : lexer.Logged name) : Answered name lexer (some lexer.peek.1) lexer.peek.2 := by
  cases hpeeked : lexer.peeked with
  | none =>
    rw [peek_of_none hpeeked]
    have hanswered := answered_scanToken hlogged
    exact ⟨⟨hanswered.logged.sourceName_eq, hanswered.logged.log_eq⟩, hanswered.terminal_eq⟩
  | some token =>
    rw [peek_of_some hpeeked]
    exact ⟨hlogged, hawaits.terminal_of_peeked hpeeked⟩

/-- Only a lexer that is still to yield something answers as an iterator. -/
theorem answered_next? {tokens : List Token} {token : Token} {lexer' : Lexer}
    (hyields : lexer.Yields tokens) (hlogged : lexer.Logged name)
    (hnext : lexer.next? = some (token, lexer')) : Answered name lexer (some token) lexer' := by
  cases hyields with
  | exhausted hexhausted => simp [next?, hexhausted] at hnext
  | going hexhausted hawaits =>
    have hanswered := answered_next hawaits hlogged
    rw [next?, if_neg (by simp [hexhausted])] at hnext
    obtain ⟨rfl, rfl⟩ := Prod.mk.inj (Option.some.inj hnext)
    exact ⟨⟨hanswered.logged.sourceName_eq, hanswered.logged.log_eq⟩, hanswered.terminal_eq⟩

end Lexer

/-- Passing over comments reports nothing. -/
theorem CommentFree.answered_next? {name : String} {kept kept' : CommentFree}
    {tokens : List Token} {token : Token} (hyields : kept.lexer.Yields tokens)
    (hlogged : kept.lexer.Logged name) (hnext : kept.next? = some (token, kept')) :
    Lexer.Answered name kept.lexer (some token) kept'.lexer := by
  induction tokens generalizing kept with
  | nil =>
    rw [next?_of_none (Lexer.next?_of_yields_nil hyields)] at hnext
    cases hnext
  | cons first tokens ih =>
    obtain ⟨lexer, hfirst, hyields'⟩ := Lexer.next?_of_yields_cons hyields
    have hanswered := Lexer.answered_next? hyields hlogged hfirst
    rw [next?_of_some hfirst] at hnext
    split at hnext
    · next hcomment =>
      have hkind : first.kind.isTerminal = false := by
        cases hterminal : first.kind.isTerminal with
        | false => rfl
        | true => simp [Kind.not_isComment_of_isTerminal hterminal] at hcomment
      exact hanswered.trans hkind (ih hyields' hanswered.logged hnext)
    · obtain ⟨rfl, rfl⟩ := Prod.mk.inj (Option.some.inj hnext)
      exact hanswered

namespace Handle

def lexer : Handle → Lexer
  | .plain lexer => lexer
  | .filtered kept => kept.lexer

/-- What has been reported through a handle so far, and through the one that it is a copy of before
    it was copied. -/
def log (handle : Handle) : List LogEvent := handle.lexer.log

end Handle

/-- Whatever is asked of a handle, it reports its answer if that one ends the stream and is the
    first such answer. -/
theorem Track.Follows.answered {name : String} {track : Track} {handle : Handle}
    (hfollows : track.Follows handle) (hlogged : handle.lexer.Logged name) (c : Call) :
    Lexer.Answered name handle.lexer (handle.call c).1 (handle.call c).2.lexer := by
  cases hfollows with
  | @plain replay lexer hawaits hexhausted =>
    cases c with
    | next => exact Lexer.answered_next hawaits hlogged
    | peek => exact Lexer.answered_peek hawaits hlogged
    | skipComments => exact hlogged.answered_none
    | iterate =>
      have hiterates := iterates (.plain hawaits hexhausted)
      cases hiterates with
      | plain hyields =>
        simp only [Handle.call]
        split
        · exact hlogged.answered_none
        · next hnext => exact Lexer.answered_next? hyields hlogged hnext
  | @filtered tokens kept hiterates =>
    cases c with
    | iterate =>
      cases hiterates with
      | filtered hyields =>
        simp only [Handle.call]
        split
        · exact hlogged.answered_none
        · next hnext => exact CommentFree.answered_next? hyields hlogged hnext
    | next | peek | skipComments => exact hlogged.answered_none

/-! ### Accounts of handles -/

/-- The tokens that a track may still answer are among those of its source. -/
def Track.Within (tokens : List Token) : Track → Prop
  | .plain replay => replay.tokens = tokens
  | .filtered toCome => ∀ token ∈ toCome, token ∈ tokens

theorem Track.Within.call {tokens : List Token} {track : Track} (hwithin : track.Within tokens)
    (c : Call) :
    (∀ token ∈ (track.call c).1, token ∈ tokens) ∧ (track.call c).2.Within tokens := by
  cases track with
  | plain replay =>
    obtain rfl : replay.tokens = tokens := hwithin
    have hcurrent : ∀ token ∈ replay.current?, token ∈ replay.tokens :=
      fun token hmem => List.mem_of_getElem? hmem
    cases c with
    | next | peek => exact ⟨hcurrent, rfl⟩
    | iterate =>
      rw [Track.call]
      split
      · exact ⟨by simp, rfl⟩
      · exact ⟨hcurrent, rfl⟩
    | skipComments =>
      refine ⟨by simp [Track.call], ?_⟩
      intro token hmem
      have htoCome : token ∈ replay.toCome := List.mem_of_mem_filter hmem
      rw [Replay.toCome] at htoCome
      split at htoCome
      · cases htoCome
      · exact List.mem_of_mem_drop htoCome
  | filtered toCome =>
    cases c with
    | iterate =>
      exact ⟨fun token hmem => hwithin token (List.mem_of_mem_head? hmem),
        fun token hmem => hwithin token (List.mem_of_mem_tail hmem)⟩
    | next | peek | skipComments => exact ⟨by simp [Track.call], hwithin⟩

/-- The terminal token of a source is the last one. -/
theorem getLast?_of_isTerminal {name : String} {source : Text} {token : Token}
    (hmem : token ∈ tokenize name source) (hkind : token.kind.isTerminal = true) :
    (tokenize name source).getLast? = some token := by
  obtain ⟨front, last, htokens, -, hfront⟩ := (stream_tokenize name source).endsOnce
  rw [htokens] at hmem ⊢
  rw [List.getLast?_concat]
  rcases List.mem_append.1 hmem with hmem | hmem
  · simp [hfront token hmem] at hkind
  · rw [List.mem_singleton.1 hmem]

/-- What can be told of a handle from outside: what its source is, what it answers, and the terminal
    token once it has been given, by the handle or by the one that it is a copy of. -/
structure Account where
  name : String
  source : Text
  track : Track
  heard : Option Token

namespace Account

def fresh (name : String) (source : Text) : Account := ⟨name, source, .fresh name source, none⟩

def call (c : Call) (account : Account) : Option Token × Account :=
  ((account.track.call c).1,
    { account with
      track := (account.track.call c).2
      heard := account.heard.or (ending? (account.track.call c).1) })

/-- An account of a handle: they answer alike, and what the handle has reported is told by what the
    account has heard. -/
structure Tells (account : Account) (handle : Handle) : Prop where
  follows : account.track.Follows handle
  logged : handle.lexer.Logged account.name
  terminal_eq : handle.lexer.terminal = account.heard
  within : account.track.Within (tokenize account.name account.source)
  heard_eq : ∀ token ∈ account.heard, token.kind.isTerminal = true ∧
    (tokenize account.name account.source).getLast? = some token

variable {account : Account} {handle : Handle}

theorem tells_fresh (name : String) (source : Text) :
    (fresh name source).Tells (.fresh name source) where
  follows := tracks_simulate.fresh name source
  logged := ⟨rfl, rfl⟩
  terminal_eq := rfl
  within := rfl
  heard_eq := by simp [fresh]

theorem Tells.call (htells : account.Tells handle) (c : Call) :
    (handle.call c).1 = (account.call c).1 ∧ (account.call c).2.Tells (handle.call c).2 := by
  obtain ⟨hanswer, hfollows⟩ := htells.follows.call c
  have hanswered := htells.follows.answered htells.logged c
  obtain ⟨hmem, hwithin⟩ := htells.within.call c
  refine ⟨hanswer, hfollows, hanswered.logged, ?_, hwithin, ?_⟩
  · rw [hanswered.terminal_eq, htells.terminal_eq, hanswer]
    rfl
  · intro token htoken
    -- it was heard before, or else it is the answer
    have hheard : account.heard.or (ending? (account.track.call c).1) = some token := htoken
    rcases Option.or_eq_some_iff.1 hheard with hbefore | ⟨-, hending⟩
    · exact htells.heard_eq token hbefore
    · obtain ⟨hgiven, hkind⟩ := ending?_eq_some_iff.1 hending
      exact ⟨hkind, getLast?_of_isTerminal (hmem token hgiven) hkind⟩

end Account

def accounts : Behaviour Account := ⟨Account.fresh, Account.call⟩

theorem accounts_simulate : accounts.Simulates handles Account.Tells where
  fresh := Account.tells_fresh
  call c _ _ htells := htells.call c

/-! ### One report for one end -/

/-- How the log of a handle goes with what has been heard of it. A copy takes over the log and the
    account of what it is a copy of, so what it reports itself is what its own calls add. -/
structure ReportsEnd (account : Account) (handle : Handle) : Prop where
  /-- The terminal token has been scanned when it has been given, and not before. -/
  scanned : handle.lexer.terminal = account.heard
  silent : account.heard = none → handle.log = []
  told : ∀ token, account.heard = some token →
    (tokenize account.name account.source).getLast? = some token ∧
      ∃ event, handle.log = [event] ∧ event.TellsOf account.name token
  /-- The call that gives the terminal token for the first time reports it. -/
  first : ∀ c token, account.heard = none → (handle.call c).1 = some token →
    token.kind.isTerminal = true →
    (tokenize account.name account.source).getLast? = some token ∧
      ∃ event, (handle.call c).2.log = handle.log ++ [event] ∧ event.TellsOf account.name token
  /-- No other call reports anything. -/
  others : ∀ c, (account.heard.isSome = true ∨
      ∀ token ∈ (handle.call c).1, token.kind.isTerminal = false) →
    (handle.call c).2.log = handle.log

namespace Account.Tells

variable {account : Account} {handle : Handle}

theorem log_eq (htells : account.Tells handle) :
    handle.log = (account.heard.map (.ofTerminal account.name)).toList := by
  rw [Handle.log, htells.logged.log_eq, htells.terminal_eq]

theorem told (htells : account.Tells handle) {token : Token} (hheard : account.heard = some token) :
    (tokenize account.name account.source).getLast? = some token ∧
      ∃ event, handle.log = [event] ∧ event.TellsOf account.name token := by
  obtain ⟨hkind, hlast⟩ := htells.heard_eq token hheard
  refine ⟨hlast, .ofTerminal account.name token, ?_, LogEvent.tellsOf_ofTerminal _ hkind⟩
  rw [htells.log_eq, hheard]
  rfl

theorem reportsEnd (htells : account.Tells handle) : ReportsEnd account handle := by
  refine ⟨htells.terminal_eq, ?_, fun token => htells.told, ?_, ?_⟩
  · intro hheard
    rw [htells.log_eq, hheard]
    rfl
  · intro c token hheard hgiven hkind
    obtain ⟨hanswer, htells'⟩ := htells.call c
    have hheard' : (account.call c).2.heard = some token := by
      have hanswer' : (account.track.call c).1 = some token := hanswer.symm.trans hgiven
      simp [Account.call, hheard, hanswer', ending?_of_isTerminal hkind]
    have hlog : handle.log = [] := by
      rw [htells.log_eq, hheard]
      rfl
    rw [hlog]
    exact htells'.told hheard'
  · intro c hcase
    obtain ⟨hanswer, htells'⟩ := htells.call c
    have hheard' : (account.call c).2.heard = account.heard := by
      have hanswer' : (account.track.call c).1 = (handle.call c).1 := hanswer.symm
      simp only [Account.call, hanswer']
      rcases hcase with hheard | hgoesOn
      · obtain ⟨token, hheard⟩ := Option.isSome_iff_exists.1 hheard
        rw [hheard]
        rfl
      · have hending : ending? (handle.call c).1 = none := by
          cases hgiven : (handle.call c).1 with
          | none => rfl
          | some token => exact ending?_of_not_isTerminal (hgoesOn token hgiven)
        rw [hending]
        exact Option.or_none
    rw [htells.log_eq, htells'.log_eq, hheard']
    rfl

end Account.Tells

/-- **The end of lexing is reported once.** Whatever is asked of any number of handles, copies and
    comment-free iterators included, each has reported nothing until its terminal token has been
    given, be it by a look ahead or by a pull; the call that gives it reports it in one event, and
    no later call reports anything. -/
theorem end_reported_once (requests : List Request) :
    (handles.run [] requests).1 = (accounts.run [] requests).1 ∧
      List.Forall₂ ReportsEnd (accounts.run [] requests).2 (handles.run [] requests).2 := by
  obtain ⟨hanswers, hrow⟩ := accounts_simulate.run .nil requests
  exact ⟨hanswers, hrow.imp fun _ _ htells => htells.reportsEnd⟩

/-- A copy made before the end is met reports it for itself; one made behind it has the report of
    what it is a copy of. -/
example :
    (handles.run [] [.fresh "a" "a".toList, .call 0 .next, .clone 0, .call 0 .peek, .clone 0,
      .call 0 .next, .call 1 .skipComments, .call 1 .iterate, .call 2 .next]).2.map Handle.log =
        List.replicate 3 [.inputEnded "a" 1 1] := by
  decide +kernel

end PermissionSchema
