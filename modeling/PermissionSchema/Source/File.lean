import PermissionSchema.Source.Position
import PermissionSchema.Text.Quoted

/-!
# Source files

A `SourceFile` is a named text with its division into lines. A line starts at the beginning of the
text and behind every line feed, so a text has one line more than it has line feeds, and the last
line may be empty. Lines are told by their number, stretches of text by byte offsets; every look-up
is checked.
-/

namespace PermissionSchema

structure SourceFile where
  name : String
  content : Text

inductive LookupError where
  /-- The stretch ends before it starts. -/
  | inverted (start stop : Nat)
  /-- The stretch ends behind the text, which has `size` bytes. -/
  | outOfBounds (size start stop : Nat)
  /-- The text has `lines` lines, and none has the number `line`. -/
  | noSuchLine (line lines : Nat)
  /-- The stretch starts or ends inside a character. -/
  | insideCharacter
  deriving DecidableEq, Repr

namespace LookupError

def message : LookupError → String
  | .inverted start stop => s!"Invalid span: start {start} > end {stop}"
  | .outOfBounds size start stop =>
    s!"Span out of bounds: file has {size} bytes, span is {start}..{stop}"
  | .noSuchLine line lines => s!"Invalid line number: {line} (file has {lines} lines)"
  | .insideCharacter => "Failed to extract source: Range is not on character boundaries"

end LookupError

/-- The offsets behind the line feeds of a text that starts at `offset`. -/
def lineStartsFrom (offset : Nat) : Text → List Nat
  | [] => []
  | c :: rest =>
    let behind := offset + c.utf8Size
    if c = '\n' then behind :: lineStartsFrom behind rest else lineStartsFrom behind rest

/-- Whether a character belongs to the end of a line. -/
def isLineEnd (c : Char) : Bool := c == '\n' || c == '\r'

/-- A text without the line feeds and carriage returns at its end. -/
def trimLineEnd (line : Text) : Text := (line.reverse.dropWhile isLineEnd).reverse

namespace SourceFile

def lineStarts (file : SourceFile) : List Nat := 0 :: lineStartsFrom 0 file.content

def lineCount (file : SourceFile) : Nat := file.lineStarts.length

/-- The offset at which a line starts, the first line being number zero here. -/
def lineStart? (file : SourceFile) (index : Nat) : Option Nat := file.lineStarts[index]?

def extract (file : SourceFile) (start stop : Nat) : Except LookupError Text :=
  if start > stop then .error (.inverted start stop)
  else if stop > Text.size file.content then
    .error (.outOfBounds (Text.size file.content) start stop)
  else match file.content.slice? start stop with
    | some text => .ok text
    | none => .error .insideCharacter

/-- The line with the given number, counted from one, without the end of the line. -/
def lineAt (file : SourceFile) (number : Nat) : Except LookupError Text :=
  match number with
  | 0 => .error (.noSuchLine 0 file.lineCount)
  | index + 1 =>
    match file.lineStart? index with
    | none => .error (.noSuchLine (index + 1) file.lineCount)
    | some start =>
      let stop := (file.lineStart? (index + 1)).getD (Text.size file.content)
      (file.extract start stop).map trimLineEnd

/-- The file in one line: its name and its number of lines. -/
def summary (file : SourceFile) : String :=
  "SourceFile \x7b name: " ++ String.ofList (Quoted.text file.name.toList) ++
    s!", line_count: {file.lineCount}" ++ " \x7d"

end SourceFile

end PermissionSchema
