import PermissionSchema.Source.File

/-!
# Snippets

A `Snippet` quotes one source line and marks a range of its columns with carets. Both lines of its
form start with a gutter of the same width; below the quoted line a tab stands under every tab and a
blank under every other character, so that the carets line up however wide the terminal draws tabs.
-/

namespace PermissionSchema

/-- One source line with a marked range of columns. -/
structure Snippet where
  line : Text
  lineNumber : Nat
  /-- The first marked column, counted from one. -/
  startColumn : Nat
  /-- The column behind the last marked one. -/
  endColumn : Nat
  label : Option String
  deriving DecidableEq, Repr

namespace Snippet

/-- The snippet for a span of a file, if the file has the span's line. The mark ends with the line
    at the latest, and where the span's offsets make no sense it covers no column. -/
def ofSpan? (file : SourceFile) (span : Span) : Option Snippet :=
  match file.lineAt span.line with
  | .error _ => none
  | .ok line =>
    let startColumn := max span.column 1
    let marked := match file.extract span.start span.stop with
      | .ok text => (text.takeWhile (· != '\n')).length
      | .error _ => 0
    let endColumn := min (startColumn + marked) (line.length + 1)
    some ⟨line, span.line, startColumn, max endColumn startColumn, none⟩

def number (snippet : Snippet) : Text := Nat.toDigits 10 snippet.lineNumber

def numberWidth (snippet : Snippet) : Nat := max snippet.number.length 3

/-- What stands left of the quoted line and of the carets, filled up with blanks. -/
def gutter (snippet : Snippet) (content : Text) : Text :=
  List.replicate (snippet.numberWidth - content.length) ' ' ++ content ++ [' ', '|', ' ']

/-- What stands below the characters before the mark. -/
def indent (snippet : Snippet) : Text :=
  (snippet.line.take (snippet.startColumn - 1)).map (fun c => if c = '\t' then '\t' else ' ') ++
    List.replicate (snippet.startColumn - 1 - snippet.line.length) ' '

/-- The marks; even an empty range is marked by one. -/
def carets (snippet : Snippet) : Text :=
  List.replicate (max (snippet.endColumn - snippet.startColumn) 1) '^'

def remark (snippet : Snippet) : String :=
  match snippet.label with
  | some label => " " ++ label
  | none => ""

/-- The quoted line and the line of carets below it. -/
def format (snippet : Snippet) : String :=
  String.ofList (snippet.gutter snippet.number ++ snippet.line) ++ "\n" ++
    String.ofList (snippet.gutter [] ++ snippet.indent ++ snippet.carets) ++ snippet.remark

end Snippet

end PermissionSchema
