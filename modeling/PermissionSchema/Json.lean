import PermissionSchema.Text.Quoted

/-!
# JSON documents

The part of JSON that token dumps use, and its pretty form: every item on a line of its own,
indented by two blanks more than what holds it. In a string only the quote, the backslash and the
controls are escaped.
-/

namespace PermissionSchema

/-- A JSON value without truth values, fractions and negative numbers. -/
inductive Json where
  | number (n : Nat)
  | string (content : Text)
  | array (items : List Json)
  | object (fields : List (Text × Json))

namespace Json

/-- A number below 65536 in four hexadecimal digits. -/
def fourHexDigits (n : Nat) : Text :=
  let digits := Quoted.hexDigits n
  List.replicate (4 - digits.length) '0' ++ digits

/-- One character inside a string. The commonest controls have short escapes. -/
def escape (c : Char) : Text :=
  if c = '"' || c = '\\' then ['\\', c]
  else if c = '\x08' then ['\\', 'b']
  else if c = '\x0c' then ['\\', 'f']
  else if c = '\n' then ['\\', 'n']
  else if c = '\r' then ['\\', 'r']
  else if c = '\t' then ['\\', 't']
  else if c.toNat < 0x20 then ['\\', 'u'] ++ fourHexDigits c.toNat
  else [c]

def quote (content : Text) : Text := '"' :: content.flatMap escape ++ ['"']

/-- The line break before an item that is held by `depth` others. -/
def lineBreak (depth : Nat) : Text := '\n' :: List.replicate (2 * depth) ' '

/-- Items between brackets, each on a line of its own; nothing stands between the brackets of an
    empty list. -/
def block (opening closing : Char) (depth : Nat) (items : List Text) : Text :=
  if items.isEmpty then [opening, closing]
  else
    let lines := items.map (lineBreak (depth + 1) ++ ·)
    opening :: (lines.intersperse [',']).flatten ++ lineBreak depth ++ [closing]

/-- The pretty form of a value that is held by `depth` others. -/
def prettyAt (depth : Nat) (value : Json) : Text :=
  match value with
  | .number n => Nat.toDigits 10 n
  | .string content => quote content
  | .array items => block '[' ']' depth (items.map fun item => prettyAt (depth + 1) item)
  | .object fields =>
    block '{' '}' depth
      (fields.map fun field => quote field.1 ++ [':', ' '] ++ prettyAt (depth + 1) field.2)
  termination_by value
  decreasing_by
    · simp only [Json.array.sizeOf_spec]
      have := List.sizeOf_lt_of_mem ‹_›
      omega
    · simp only [Json.object.sizeOf_spec]
      have := List.sizeOf_lt_of_mem ‹_›
      have : sizeOf field.2 < sizeOf field := by
        cases field with
        | mk name value =>
          simp only [Prod.mk.sizeOf_spec]
          omega
      omega

def pretty (document : Json) : Text := prettyAt 0 document

end Json

end PermissionSchema
