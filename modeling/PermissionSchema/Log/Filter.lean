import PermissionSchema.Log.Event
import PermissionSchema.Text.Alphabetic
import PermissionSchema.Text.Numeral
import PermissionSchema.Text.Numeric

/-!
# Log filters

A filter is a list of directives with commas between them, each written `level`, `origin=level` or
`origin[scope]=level`. An event is shown if the directive that fits it most closely lets its severity
through; without a directive that fits it is not shown.
-/

namespace PermissionSchema

/-- Which events of an origin a directive is about. -/
inductive Directive.Scope where
  | every
  /-- Those that have a field of a name. -/
  | withField (name : Text)
  /-- Those within a span of work, of which this program opens none. -/
  | withinSpan
  deriving DecidableEq, Repr

/-- How important an event must be to be shown. -/
structure Directive where
  /-- Only events whose origin starts with this text are meant. -/
  origin : Option Text
  scope : Directive.Scope
  /-- The rank of the least important severity that is shown; nothing has rank zero. -/
  threshold : Nat
  deriving DecidableEq, Repr

/-- Directives, of which a later one replaces an earlier one about the same events. -/
abbrev LogFilter := List Directive

namespace Directive

/-- The threshold that a level names, by its word in any case or by its rank. -/
def threshold? (level : Text) : Option Nat :=
  match Numeral.natural? level with
  | some rank => if rank ≤ 5 then some rank else none
  | none =>
    ["off", "error", "warn", "info", "debug", "trace"].idxOf?
      (String.ofList (level.map Char.toLower))

private def startsOrigin (c : Char) : Bool :=
  alphabetic.contains c || numeric.contains c || c == '-' || c == ':' || c == '_'

/-- Read the level at the end of a directive; without one everything is let through. -/
def ending? : Text → Option Nat
  | [] | ['='] => some Severity.trace.rank
  | '=' :: level => threshold? level
  | _ => none

/-- Read a scope behind its opening bracket, with what follows its closing one. It is the name of a
    span, a field in braces, or a span and a field; a field may come with a value. Events have no
    values to compare, so only a field on its own is about events outside spans. -/
def scope? (text : Text) : Option (Scope × Text) :=
  let (span, rest) := text.span fun c => c != ']' && c != '\x7b'
  match rest with
  | ']' :: rest => some (.withinSpan, rest)
  | _ :: rest =>
    let (field, rest) := rest.span (· != '\x7d')
    match field, rest with
    | [], _ => none
    | field, '\x7d' :: ']' :: rest =>
      some (if span.isEmpty && !field.contains '=' then .withField field else .withinSpan, rest)
    | _, _ => none
  | [] => none

/-- Read a directive. A word that is no level is an origin from which everything is let through. -/
def parse? (text : Text) : Option Directive :=
  let (word, rest) := text.span fun c => c != '=' && c != '['
  if !(word.head?.all startsOrigin) then none
  else
    let origin := if word.isEmpty then none else some word
    match rest with
    | [] =>
      match origin, threshold? word with
      | none, _ => none
      | some _, some threshold => some ⟨none, .every, threshold⟩
      | some word, none => some ⟨some word, .every, Severity.trace.rank⟩
    | '[' :: rest => do
      let (scope, rest) ← scope? rest
      some ⟨origin, scope, ← ending? rest⟩
    | level => do
      let origin ← origin
      some ⟨some origin, .every, ← ending? level⟩

def covers (directive : Directive) (event : LogEvent) : Bool :=
  (directive.origin.all fun origin => origin.isPrefixOf event.origin.toList) &&
    match directive.scope with
    | .every => true
    | .withField name => event.hasField name
    | .withinSpan => false

/-- Whether a directive fits events at least as closely as another: by the length of the origin
    that it names, then by naming a field at all, and at last by the name of the field. -/
def closerOrEqual (directive other : Directive) : Bool :=
  let length (directive : Directive) : Nat := directive.origin.elim 0 (·.length + 1)
  let field (directive : Directive) : Text :=
    match directive.scope with
    | .withField name => name
    | _ => []
  length other < length directive ||
    (length other = length directive &&
      !(field directive).lex (field other) fun a b => decide (a.toNat < b.toNat))

end Directive

namespace LogFilter

/-- The filter that shows events of at least a severity, wherever they come from. -/
def atLeast (severity : Severity) : LogFilter := [⟨none, .every, severity.rank⟩]

def parse? (text : String) : Option LogFilter :=
  ((text.splitOn ",").filter (· != "")).mapM fun directive => Directive.parse? directive.toList

/-- The directive that decides about an event: the closest one, and the last of those. -/
def deciding? (filter : LogFilter) (event : LogEvent) : Option Directive :=
  (filter.filter (·.covers event)).foldl
    (fun best directive =>
      match best with
      | none => some directive
      | some best => if directive.closerOrEqual best then some directive else some best)
    none

def shows (filter : LogFilter) (event : LogEvent) : Bool :=
  match filter.deciding? event with
  | none => false
  | some directive => event.severity.rank ≤ directive.threshold

end LogFilter

end PermissionSchema
