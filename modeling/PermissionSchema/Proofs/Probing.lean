import PermissionSchema.Proofs.Probes
import PermissionSchema.Proofs.Scanners

/-!
# Scanning by byte offsets

The scanners of `Scan` count the characters of the text that is left. Here they are written over
probes, where an end is a byte offset that is reached character by character, told by the length of
the source, or found by a search for `*/`. Over a source of fewer than 2 ^ 32 - 1 bytes no check on
the way fails, and the steps are those of `step` (`Probe.step?_eq`).
-/

namespace PermissionSchema

namespace Text

/-- The byte offset at which a pattern first occurs in a text. -/
def offsetOf? (pattern : Text) : Text → Option Nat
  | [] => if pattern.isPrefixOf [] then some 0 else none
  | c :: rest =>
    if pattern.isPrefixOf (c :: rest) then some 0
    else (offsetOf? pattern rest).map (c.utf8Size + ·)

variable {pattern : Text}

theorem offsetOf?_of_isPrefix {rest : Text} (h : pattern <+: rest) :
    offsetOf? pattern rest = some 0 := by
  cases rest with
  | nil => rw [offsetOf?, if_pos (List.isPrefixOf_iff_prefix.2 h)]
  | cons c rest => rw [offsetOf?, if_pos (List.isPrefixOf_iff_prefix.2 h)]

theorem offsetOf?_cons_of_not {c : Char} {rest : Text} (h : ¬ pattern <+: c :: rest) :
    offsetOf? pattern (c :: rest) = (offsetOf? pattern rest).map (c.utf8Size + ·) := by
  rw [offsetOf?, if_neg (by rwa [List.isPrefixOf_iff_prefix])]

theorem offsetOf?_eq_none {rest : Text} (hnowhere : ∀ inner, ¬ inner ++ pattern <+: rest) :
    offsetOf? pattern rest = none := by
  induction rest with
  | nil =>
    have hhead : ¬ pattern <+: [] := hnowhere []
    rw [offsetOf?, if_neg (by rwa [List.isPrefixOf_iff_prefix])]
  | cons c rest ih =>
    have hhead : ¬ pattern <+: c :: rest := hnowhere []
    have htail : ∀ inner, ¬ inner ++ pattern <+: rest := fun inner hinner =>
      hnowhere (c :: inner) (List.cons_prefix_cons.2 ⟨rfl, hinner⟩)
    rw [offsetOf?_cons_of_not hhead, ih htail]
    rfl

theorem offsetOf?_eq_some {before behind : Text} (hfirst : ∀ inner,
    inner ++ pattern <+: before ++ pattern ++ behind → before.length ≤ inner.length) :
    offsetOf? pattern (before ++ pattern ++ behind) = some (size before) := by
  induction before with
  | nil => exact offsetOf?_of_isPrefix ⟨behind, rfl⟩
  | cons c before ih =>
    have hhead : ¬ pattern <+: c :: (before ++ pattern ++ behind) := fun hpattern => by
      simpa using hfirst [] hpattern
    have htail := ih fun inner hinner => by
      simpa using hfirst (c :: inner) (List.cons_prefix_cons.2 ⟨rfl, hinner⟩)
    rw [List.cons_append, List.cons_append, offsetOf?_cons_of_not hhead, htail, size_cons]
    rfl

end Text

namespace Scan

/-- The punctuation marks of one character that no operator starts with. -/
def punctuation? : Char → Option Kind
  | '\x7b' => some .leftBrace
  | '\x7d' => some .rightBrace
  | '(' => some .leftParen
  | ')' => some .rightParen
  | '[' => some .leftBracket
  | ']' => some .rightBracket
  | ',' => some .comma
  | ':' => some .colon
  | '.' => some .dot
  | _ => none

/-- The step at a character that only an operator or a punctuation mark could start. -/
def symbol (c : Char) (rest : Text) : Scan :=
  match symbol? rest with
  | some (kind, length) => emit length kind
  | none => unexpected c

/-- A run of name characters is a keyword, or else an identifier. -/
def kindOfName (run : Text) : Kind :=
  match Keyword.ofSpelling? run with
  | some k => .keyword k
  | none => .identifier

section

variable {c : Char} {rest : Text}

theorem symbol?_assign (harrow : rest.head? ≠ some '>') (hequal : rest.head? ≠ some '=') :
    symbol? ('=' :: rest) = some (.assign, 1) := by
  cases rest with
  | nil => rfl
  | cons c rest => simp_all [symbol?]

theorem symbol?_not (hequal : rest.head? ≠ some '=') :
    symbol? ('!' :: rest) = some (.not, 1) := by
  cases rest with
  | nil => rfl
  | cons c rest => simp_all [symbol?]

/-- A bar or an ampersand alone is no operator. -/
theorem symbol?_single (hc : c = '|' ∨ c = '&') (hdouble : rest.head? ≠ some c) :
    symbol? (c :: rest) = none := by
  rcases hc with rfl | rfl
  all_goals
    cases rest with
    | nil => rfl
    | cons c rest => simp_all [symbol?]

theorem symbol?_of_not_operator (hc : ¬ (c = '=' ∨ c = '|' ∨ c = '&' ∨ c = '!')) :
    symbol? (c :: rest) = (punctuation? c).map (·, 1) := by
  unfold punctuation?
  split
  all_goals try rfl
  -- any other character starts no mark either
  unfold symbol?
  split <;> simp_all

end

end Scan

namespace Probe

/-! ### Scanners -/

/-- A step that ends at the probe. -/
def stopping (probe : Probe) (action : Action) (next : Mode) : Step :=
  ⟨probe.place.offset, action, next⟩

/-- A token of the given kind ends at the probe. -/
def emit (probe : Probe) (kind : Kind) : Step := probe.stopping (.emit kind) .top

def unexpected? (probe : Probe) (c : Char) : Option Step := do
  let passed ← probe.advance?
  some (passed.emit (.error (.unexpectedCharacter c)))

def slash? (probe : Probe) : Option Step := do
  let probe ← probe.advance?
  let (line, probe) ← probe.accept? '/'
  if line then
    let probe ← probe.skipWhile? (· != '\n')
    some (probe.emit .lineComment)
  else
    let (opening, probe) ← probe.accept? '*'
    if opening then
      let current ← probe.current?
      let ahead ← probe.peek? 1
      some (probe.stopping .resume (.comment (current = some '*' && ahead ≠ some '/')))
    else
      some (probe.emit (.error (.unexpectedCharacter '/')))

def operator? (probe : Probe) (c : Char) : Option Step := do
  if c = '=' then
    let probe ← probe.advance?
    let (arrow, probe) ← probe.accept? '>'
    if arrow then
      some (probe.emit .arrow)
    else
      let (equal, probe) ← probe.accept? '='
      some (probe.emit (if equal then .equal else .assign))
  else if c = '!' then
    let probe ← probe.advance?
    let (different, probe) ← probe.accept? '='
    some (probe.emit (if different then .notEqual else .not))
  else
    let ahead ← probe.peek? 1
    if (c = '|' ∨ c = '&') ∧ ahead = some c then
      let probe ← probe.advance?
      let probe ← probe.advance?
      some (probe.emit (if c = '|' then .or else .and))
    else
      probe.unexpected? c

def mark? (probe : Probe) (c : Char) : Option Step := do
  match Scan.punctuation? c with
  | some kind =>
    let probe ← probe.advance?
    some (probe.emit kind)
  | none => probe.unexpected? c

def name? (probe : Probe) : Option Step := do
  let passed ← probe.advance?
  let passed ← passed.skipWhile? continuesName
  let run ← passed.textFrom? probe.place.offset
  some (passed.emit (Scan.kindOfName run))

/-- The first step of a token that starts with `c`; blanks come before any token. -/
def first? (probe : Probe) (c : Char) : Option Step := do
  if isBlank c then
    let probe ← probe.skipWhile? isBlank
    some (probe.stopping .skip .top)
  else if c = '/' then
    probe.slash?
  else if c = '"' then
    let probe ← probe.advance?
    some (probe.stopping .resume .string)
  else if c = '=' ∨ c = '|' ∨ c = '&' ∨ c = '!' then
    probe.operator? c
  else if startsName c then
    probe.name?
  else
    probe.mark? c

def top? (source : Text) (offset : Nat) : Option Step := do
  let probe ← ofOffset? source offset
  match ← probe.current? with
  | none => some ⟨offset, .emit .endOfInput, .top⟩
  | some c => probe.first? c

/-- The rest of a string's body. A turn passes one character, or an escaped one. -/
def stringBody? (probe : Probe) : Option Step :=
  probe.loop? fun probe => do
    match ← probe.current? with
    | none => some (.done (probe.emit (.error .unterminatedString)))
    | some c =>
      if c = '\n' then
        some (.done (probe.emit (.error .unterminatedString)))
      else
        let passed ← probe.advance?
        if c = '"' then
          some (.done (passed.emit .string))
        else if c = '\\' then
          match ← passed.current? with
          | none => some (.done (passed.emit (.error .unterminatedString)))
          | some d =>
            if d = '\n' then
              some (.done (passed.emit (.error .unterminatedString)))
            else
              let passed ← passed.advance?
              some (.again passed)
        else
          some (.again passed)

/-- The body of a block comment, searched for the first `*/`. -/
def commentBody? (source : Text) (offset : Nat) (doc : Bool) : Option Step := do
  let body ← source.slice? offset (Text.size source)
  match Text.offsetOf? ['*', '/'] body with
  | some close =>
    some ⟨offset + close + 2, .emit (if doc then .docComment else .blockComment), .top⟩
  | none => some ⟨Text.size source, .emit (.error .unterminatedComment), .top⟩

/-- One step from a byte offset of a source text. -/
def step? (source : Text) (offset : Nat) : Mode → Option Step
  | .top => top? source offset
  | .string => do
    let probe ← ofOffset? source offset
    probe.stringBody?
  | .comment doc => commentBody? source offset doc

/-! ### Scanners over a probe that faces a text -/

theorem stopping_past (probe : Probe) {passed rest : Text} (hpassed : passed <+: rest)
    (action : Action) (next : Mode) :
    (probe.past passed).stopping action next =
      (⟨passed.length, action, next⟩ : Scan).stepFrom probe.place.offset rest := by
  obtain ⟨behind, rfl⟩ := hpassed
  simp [stopping, Scan.stepFrom]

theorem emit_past (probe : Probe) {passed rest : Text} (hpassed : passed <+: rest) (kind : Kind) :
    (probe.past passed).emit kind =
      (Scan.emit passed.length kind).stepFrom probe.place.offset rest :=
  probe.stopping_past hpassed _ _

theorem emit_past_one (probe : Probe) (c : Char) (rest : Text) (kind : Kind) :
    (probe.past [c]).emit kind = (Scan.emit 1 kind).stepFrom probe.place.offset (c :: rest) :=
  probe.emit_past ⟨rest, rfl⟩ kind

theorem emit_past_two (probe : Probe) (c d : Char) (rest : Text) (kind : Kind) :
    ((probe.past [c]).past [d]).emit kind =
      (Scan.emit 2 kind).stepFrom probe.place.offset (c :: d :: rest) := by
  rw [past_past]
  exact probe.emit_past ⟨rest, rfl⟩ kind

namespace Faces

variable {probe : Probe} {c : Char} {rest : Text}

theorem unexpected?_eq (h : probe.Faces (c :: rest)) :
    probe.unexpected? c =
      some ((Scan.unexpected c).stepFrom probe.place.offset (c :: rest)) := by
  rw [unexpected?, h.advance?_cons]
  exact congrArg some (probe.emit_past_one c rest _)

theorem slash?_eq (h : probe.Faces ('/' :: rest)) :
    probe.slash? =
      some ((Scan.slash ('/' :: rest)).stepFrom probe.place.offset ('/' :: rest)) := by
  have hrest := h.past_cons
  by_cases hline : rest.head? = some '/'
  · obtain ⟨rest, rfl⟩ := List.head?_eq_some_iff.1 hline
    have hrun := hrest.past_cons.skipWhile?_eq (· != '\n')
    have hslash : probe.slash? = some ((((probe.past ['/']).past ['/']).past
        (rest.takeWhile (· != '\n'))).emit .lineComment) := by
      simp [slash?, h.advance?_cons, hrest.accept?_self, hrun]
    have hpassed : '/' :: '/' :: rest.takeWhile (· != '\n') <+: '/' :: '/' :: rest :=
      List.takeWhile_prefix (· != '\n') (l := '/' :: '/' :: rest)
    rw [hslash, past_past, past_past]
    exact congrArg some (probe.emit_past hpassed _)
  by_cases hopening : rest.head? = some '*'
  · obtain ⟨rest, rfl⟩ := List.head?_eq_some_iff.1 hopening
    have hbody := hrest.past_cons
    have hslash : probe.slash? = some (((probe.past ['/']).past ['*']).stopping .resume
        (.comment (rest.head? = some '*' && rest[1]? ≠ some '/'))) := by
      simp [slash?, h.advance?_cons, hrest.accept?_ne hline, hrest.accept?_self, hbody.current?_eq,
        hbody.peek?_eq]
    rw [hslash, past_past, probe.stopping_past ⟨rest, rfl⟩]
    rfl
  · have hslash : probe.slash? =
        some ((probe.past ['/']).emit (.error (.unexpectedCharacter '/'))) := by
      simp [slash?, h.advance?_cons, hrest.accept?_ne hline, hrest.accept?_ne hopening]
    have hscan : Scan.slash ('/' :: rest) = .unexpected '/' := by
      cases rest with
      | nil => rfl
      | cons c rest =>
        rw [List.head?_cons, Option.some.injEq] at hline hopening
        simp [Scan.slash, hline, hopening]
    rw [hslash, hscan]
    exact congrArg some (probe.emit_past_one '/' rest _)

theorem operator?_equals (h : probe.Faces ('=' :: rest)) :
    probe.operator? '=' =
      some ((Scan.symbol '=' ('=' :: rest)).stepFrom probe.place.offset ('=' :: rest)) := by
  have hrest := h.past_cons
  by_cases harrow : rest.head? = some '>'
  · obtain ⟨rest, rfl⟩ := List.head?_eq_some_iff.1 harrow
    have hoperator : probe.operator? '=' = some (((probe.past ['=']).past ['>']).emit .arrow) := by
      simp [operator?, h.advance?_cons, hrest.accept?_self]
    rw [hoperator]
    exact congrArg some (probe.emit_past_two '=' '>' rest _)
  by_cases hequal : rest.head? = some '='
  · obtain ⟨rest, rfl⟩ := List.head?_eq_some_iff.1 hequal
    have hoperator : probe.operator? '=' = some (((probe.past ['=']).past ['=']).emit .equal) := by
      simp [operator?, h.advance?_cons, hrest.accept?_ne harrow, hrest.accept?_self]
    rw [hoperator]
    exact congrArg some (probe.emit_past_two '=' '=' rest _)
  · have hoperator : probe.operator? '=' = some ((probe.past ['=']).emit .assign) := by
      simp [operator?, h.advance?_cons, hrest.accept?_ne harrow, hrest.accept?_ne hequal]
    rw [hoperator, Scan.symbol, Scan.symbol?_assign harrow hequal]
    exact congrArg some (probe.emit_past_one '=' rest _)

theorem operator?_bang (h : probe.Faces ('!' :: rest)) :
    probe.operator? '!' =
      some ((Scan.symbol '!' ('!' :: rest)).stepFrom probe.place.offset ('!' :: rest)) := by
  have hrest := h.past_cons
  by_cases hequal : rest.head? = some '='
  · obtain ⟨rest, rfl⟩ := List.head?_eq_some_iff.1 hequal
    have hoperator : probe.operator? '!' =
        some (((probe.past ['!']).past ['=']).emit .notEqual) := by
      simp [operator?, h.advance?_cons, hrest.accept?_self]
    rw [hoperator]
    exact congrArg some (probe.emit_past_two '!' '=' rest _)
  · have hoperator : probe.operator? '!' = some ((probe.past ['!']).emit .not) := by
      simp [operator?, h.advance?_cons, hrest.accept?_ne hequal]
    rw [hoperator, Scan.symbol, Scan.symbol?_not hequal]
    exact congrArg some (probe.emit_past_one '!' rest _)

/-- A bar or an ampersand is an operator where it is doubled. -/
theorem operator?_double (h : probe.Faces (c :: rest)) (hc : c = '|' ∨ c = '&') :
    probe.operator? c =
      some ((Scan.symbol c (c :: rest)).stepFrom probe.place.offset (c :: rest)) := by
  have hother : c ≠ '=' ∧ c ≠ '!' := by
    rcases hc with rfl | rfl <;> decide
  by_cases hdouble : rest.head? = some c
  · obtain ⟨rest, rfl⟩ := List.head?_eq_some_iff.1 hdouble
    have hoperator : probe.operator? c =
        some (((probe.past [c]).past [c]).emit (if c = '|' then .or else .and)) := by
      simp [operator?, hother, hc, h.peek?_one, h.advance?_cons, h.past_cons.advance?_cons]
    rw [hoperator, probe.emit_past_two c c rest]
    rcases hc with rfl | rfl <;> rfl
  · have hoperator : probe.operator? c = probe.unexpected? c := by
      simp [operator?, hother, h.peek?_one, hdouble]
    rw [hoperator, Scan.symbol, Scan.symbol?_single hc hdouble]
    exact h.unexpected?_eq

theorem operator?_eq (h : probe.Faces (c :: rest)) (hc : c = '=' ∨ c = '|' ∨ c = '&' ∨ c = '!') :
    probe.operator? c =
      some ((Scan.symbol c (c :: rest)).stepFrom probe.place.offset (c :: rest)) := by
  rcases hc with rfl | hc | hc | rfl
  · exact h.operator?_equals
  · exact h.operator?_double (Or.inl hc)
  · exact h.operator?_double (Or.inr hc)
  · exact h.operator?_bang

theorem mark?_eq (h : probe.Faces (c :: rest)) (hc : ¬ (c = '=' ∨ c = '|' ∨ c = '&' ∨ c = '!')) :
    probe.mark? c =
      some ((Scan.symbol c (c :: rest)).stepFrom probe.place.offset (c :: rest)) := by
  rw [mark?, Scan.symbol, Scan.symbol?_of_not_operator hc]
  cases Scan.punctuation? c with
  | none => exact h.unexpected?_eq
  | some kind =>
    rw [h.advance?_cons]
    exact congrArg some (probe.emit_past_one c rest kind)

theorem name?_eq (h : probe.Faces (c :: rest)) (hc : startsName c = true) :
    probe.name? =
      some ((Scan.name (c :: rest)).stepFrom probe.place.offset (c :: rest)) := by
  have hrun : (c :: rest).takeWhile continuesName = c :: rest.takeWhile continuesName :=
    List.takeWhile_cons_of_pos (continuesName_of_startsName hc)
  have hpassed : (c :: rest).takeWhile continuesName <+: c :: rest := List.takeWhile_prefix _
  have hskip : (probe.past [c]).skipWhile? continuesName =
      some (probe.past ((c :: rest).takeWhile continuesName)) := by
    rw [h.past_cons.skipWhile?_eq, past_past, hrun]
    rfl
  have htext : (probe.past ((c :: rest).takeWhile continuesName)).textFrom? probe.place.offset =
      some ((c :: rest).takeWhile continuesName) := by
    obtain ⟨behind, hbehind⟩ := hpassed
    rw [← hbehind] at h
    exact h.textFrom?_past
  have hscan : Scan.name (c :: rest) =
      .emit ((c :: rest).takeWhile continuesName).length
        (Scan.kindOfName ((c :: rest).takeWhile continuesName)) := rfl
  rw [hscan, ← probe.emit_past hpassed]
  simp only [name?, h.advance?_cons, hskip, htext, Option.bind_eq_bind, Option.bind_some]

/-- A string's body is passed up to where `throughQuote` counts to. -/
theorem exists_stringBody?_eq (h : probe.Faces rest) (count : Nat) : ∃ passed behind closed,
    rest = passed ++ behind ∧ Scan.throughQuote count rest = (count + passed.length, closed) ∧
      probe.stringBody? = some ((probe.past passed).emit
        (if closed then .string else .error .unterminatedString)) := by
  fun_induction Scan.throughQuote count rest generalizing probe with
  | case1 count => exact ⟨[], [], false, rfl, rfl, loop?_of_done (by simp [h.current?_eq])⟩
  | case2 count rest => exact ⟨[], _, false, rfl, rfl, loop?_of_done (by simp [h.current?_eq])⟩
  | case3 count rest =>
    refine ⟨['"'], rest, true, rfl, rfl, loop?_of_done ?_⟩
    simp [h.current?_eq, h.advance?_cons]
  | case4 count =>
    refine ⟨['\\'], [], false, rfl, rfl, loop?_of_done ?_⟩
    simp [h.current?_eq, h.advance?_cons, h.past_cons.current?_eq]
  | case5 count rest =>
    refine ⟨['\\'], _, false, rfl, rfl, loop?_of_done ?_⟩
    simp [h.current?_eq, h.advance?_cons, h.past_cons.current?_eq]
  | case6 count c rest hline ih =>
    have hrest := h.past_cons
    obtain ⟨passed, behind, closed, hcut, hscan, hbody⟩ := ih hrest.past_cons
    rw [past_past, past_past] at hbody
    refine ⟨'\\' :: c :: passed, behind, closed, by rw [hcut]; rfl, ?_, ?_⟩
    · rw [hscan, List.length_cons, List.length_cons, Prod.mk.injEq]
      exact ⟨by omega, rfl⟩
    · have hother : c ≠ '\n' := hline
      refine (loop?_of_again ?_ (h.left_past_lt [c])).trans hbody
      simp [h.current?_eq, h.advance?_cons, hrest.current?_eq, hother, hrest.advance?_cons,
        past_past]
  | case7 count c rest hline hquote hlast _ hescape ih =>
    obtain ⟨passed, behind, closed, hcut, hscan, hbody⟩ := ih h.past_cons
    rw [past_past] at hbody
    have hslash : c ≠ '\\' := by
      intro hc
      cases rest with
      | nil => exact hlast hc rfl
      | cons d rest => exact hescape d rest hc rfl
    refine ⟨c :: passed, behind, closed, by rw [hcut]; rfl, ?_, ?_⟩
    · rw [hscan, List.length_cons, Prod.mk.injEq]
      exact ⟨by omega, rfl⟩
    · have hother : c ≠ '\n' ∧ c ≠ '"' := ⟨hline, hquote⟩
      refine (loop?_of_again ?_ (h.left_past_lt [])).trans hbody
      simp [h.current?_eq, hother, hslash, h.advance?_cons]

theorem stringBody?_eq (h : probe.Faces rest) :
    probe.stringBody? = some ((Scan.stringBody rest).stepFrom probe.place.offset rest) := by
  obtain ⟨passed, behind, closed, hcut, hscan, hbody⟩ := h.exists_stringBody?_eq 0
  have hlength : Scan.throughQuote 0 rest = (passed.length, closed) := by
    rw [hscan, Nat.zero_add]
  rw [hbody, Scan.stringBody, hlength]
  exact congrArg some (probe.emit_past ⟨behind, hcut.symm⟩ _)

/-- Operators are told before names here; none starts as a name does. -/
theorem first?_eq (h : probe.Faces (c :: rest)) :
    probe.first? c = some ((Scan.first c (c :: rest)).stepFrom probe.place.offset (c :: rest)) := by
  rw [first?, Scan.first]
  split
  · rw [h.skipWhile?_eq]
    exact congrArg some (probe.stopping_past (List.takeWhile_prefix _) _ _)
  split
  · next hslash =>
    subst hslash
    exact h.slash?_eq
  split
  · rw [h.advance?_cons]
    exact congrArg some (probe.stopping_past ⟨rest, rfl⟩ _ _)
  split
  · next hoperator =>
    have hname : startsName c = false := by
      rcases hoperator with rfl | rfl | rfl | rfl <;> decide
    rw [if_neg (by simp [hname]), h.operator?_eq hoperator]
    rfl
  split
  · next hname => exact h.name?_eq hname
  · next hoperator _ => exact h.mark?_eq hoperator

end Faces

/-! ### Steps -/

section

variable {before rest : Text}

theorem top?_append (hsize : Text.size (before ++ rest) < UInt32.size - 1) :
    top? (before ++ rest) (Text.size before) =
      some ((Scan.ofText .top rest).stepFrom (Text.size before) rest) := by
  obtain ⟨probe, hprobe, h, hoffset⟩ := exists_ofOffset?_eq hsize
  rw [top?, hprobe, Option.bind_eq_bind, Option.bind_some, h.current?_eq]
  cases rest with
  | nil => rfl
  | cons c rest =>
    rw [← hoffset]
    exact h.first?_eq

theorem commentBody?_append (doc : Bool) :
    commentBody? (before ++ rest) (Text.size before) doc =
      some ((Scan.commentBody doc rest).stepFrom (Text.size before) rest) := by
  rw [commentBody?, Text.slice?_behind, Option.bind_eq_bind, Option.bind_some, Scan.commentBody]
  cases hclose : Scan.throughClose? 0 rest with
  | none =>
    rw [Text.offsetOf?_eq_none (Scan.throughClose?_none hclose)]
    simp [Scan.emit, Scan.stepFrom]
  | some length =>
    obtain ⟨inner, behind, rfl, rfl, hfirst⟩ := Scan.throughClose?_some hclose
    have htake : (inner ++ ['*', '/'] ++ behind).take (0 + inner.length + 2) =
        inner ++ ['*', '/'] := List.take_left' (by simp)
    have hclosed : Text.size (inner ++ ['*', '/']) = Text.size inner + 2 := Text.size_append _ _
    simp only [Text.offsetOf?_eq_some hfirst, Scan.emit, Scan.stepFrom, htake, hclosed]
    rw [Nat.add_assoc]

theorem step?_append (hsize : Text.size (before ++ rest) < UInt32.size - 1) (mode : Mode) :
    step? (before ++ rest) (Text.size before) mode =
      some ((Scan.ofText mode rest).stepFrom (Text.size before) rest) := by
  cases mode with
  | top => exact top?_append hsize
  | string =>
    obtain ⟨probe, hprobe, h, hoffset⟩ := exists_ofOffset?_eq hsize
    rw [step?, hprobe, ← hoffset]
    exact h.stringBody?_eq
  | comment doc => exact commentBody?_append doc

end

/-- Over a short source, the step from any boundary is taken without a failing check. -/
theorem step?_eq {source : Text} (hsize : Text.size source < UInt32.size - 1) {offset : Nat}
    (hoffset : source.IsBoundary offset) (mode : Mode) :
    step? source offset mode = some (step source offset mode) := by
  obtain ⟨before, rest, rfl, rfl⟩ := Text.isBoundary_iff.1 hoffset
  rw [step?_append hsize, step, Text.dropBytes_append]

end Probe

end PermissionSchema
