import PermissionSchema.Toml.Scalar

/-!
# TOML documents

A document is a list of statements, one a line: a key with its value, or the header of a table or of
an element of an array of tables. `Entries.apply` adds one statement to the document's tables, and
`parse?` reads a whole text. Arrays and inline tables may be nested fewer than `nestingLimit` deep,
and a dotted key has fewer parts than that.
-/

namespace PermissionSchema.Toml

open Reader

/-- Nothing may be nested this deep. -/
def nestingLimit : Nat := 80

/-! ### Keys -/

/-- The characters of keys without quotes. -/
def isKeyCharacter (c : Char) : Bool := c.isAlphanum || c == '-' || c == '_'

def keyPart : Reader Text := basicString <|> literalString <|> do
  let name ← run isKeyCharacter
  if name.isEmpty then failure else pure name

/-- A key: the path to the table that holds it, and its last part. -/
def dottedKey : Reader (List Text × Text) := do
  let parts ← separated (spaces *> keyPart <* spaces) (literal ['.'])
  match parts.getLast? with
  | some key => if parts.length < nestingLimit then pure (parts.dropLast, key) else failure
  | none => failure

/-! ### Values that hold others -/

/-- The values between the brackets of an array. A comma may follow the last one. -/
def arrayOf (item : Reader Value) : Reader Value := do
  literal ['[']
  let items ← separated (gap *> item <* gap) (literal [','])
  if !items.isEmpty then discard (Reader.optional (literal [',']))
  gap
  literal [']']
  pure (.array items)

def pairOf (item : Reader Value) : Reader ((List Text × Text) × Value) := do
  let key ← dottedKey
  literal ['=']
  spaces
  let value ← item
  pure (key, value)

/-- The entries between the braces of an inline table, all on one line. -/
def inlineTableOf (item : Reader Value) : Reader Value := do
  literal ['{']
  let pairs ← separated (pairOf item <* spaces) (literal [','])
  spaces
  literal ['}']
  let entries := pairs.foldlM (fun entries (pair : (List Text × Text) × Value) =>
    Entries.define entries pair.1.1 pair.1.2 pair.2) []
  match entries with
  | some entries => pure (.table .inline entries)
  | none => failure

/-- A value that holds others at most `depth` deep. -/
def valueWithin : (depth : Nat) → Reader Value
  | 0 => scalar
  | depth + 1 => scalar <|> arrayOf (valueWithin depth) <|> inlineTableOf (valueWithin depth)

def value : Reader Value := valueWithin (nestingLimit - 1)

/-! ### Statements -/

inductive Statement where
  /-- A value at a key of the current table. -/
  | entry (path : List Text) (key : Text) (value : Value)
  /-- The header of a table, which becomes the current one. -/
  | table (path : List Text) (key : Text)
  /-- The header of a new element of an array of tables, which becomes the current table. -/
  | element (path : List Text) (key : Text)

/-- A statement, up to the end of its line. -/
def statement : Reader Statement :=
  (do
    literal ['[', '[']
    let (path, key) ← dottedKey
    literal [']', ']']
    lineEnd
    pure (.element path key)) <|>
  (do
    literal ['[']
    let (path, key) ← dottedKey
    literal [']']
    lineEnd
    pure (.table path key)) <|>
  (do
    let ((path, key), value) ← pairOf value
    lineEnd
    pure (.entry path key value))

/-- Blanks, line ends and comments between statements. -/
def emptyLines : Reader Unit :=
  discard (many (discard (satisfy isSpace) <|> newline <|> (comment *> (newline <|> ending))))

/-- All statements of a document, which may start with a byte order mark. -/
def statements : Reader (List Statement) := do
  discard (Reader.optional (literal ['\ufeff']))
  emptyLines
  many (statement <* emptyLines)

/-- Add a statement to a document: its tables, and the path to the current one. -/
def Entries.apply : Entries × List Text → Statement → Option (Entries × List Text)
  | (root, current), .entry path key value => do
    let root ← root.within current fun entries => entries.define path key value
    some (root, current)
  | (root, _), .table path key => do
    let root ← root.within path fun entries => entries.openTable key
    some (root, path ++ [key])
  | (root, _), .element path key => do
    let root ← root.within path fun entries => entries.openElement key
    some (root, path ++ [key])

/-- The entries of the document that a text is, if it is one. -/
def parse? (text : Text) : Option Entries := do
  let statements ← whole? statements text
  let (root, _) ← statements.foldlM Entries.apply ([], [])
  some root

end PermissionSchema.Toml
