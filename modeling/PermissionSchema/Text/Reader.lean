import PermissionSchema.Text.Basic

/-!
# Readers

A reader takes a value off the front of a text, or fails. Readers are chained by the state monad
over `Option`, so a choice `p <|> q` reads with `q` from where `p` started. `many` stops as soon as
its item fails or takes nothing, and so it ends on every text.
-/

namespace PermissionSchema

/-- Takes a value off the front of a text, or fails. -/
abbrev Reader := StateT Text Option

namespace Reader

variable {α β : Type}

/-- The next character, which stays where it is. -/
def peek? : Reader (Option Char) := fun text => some (text.head?, text)

/-- The next character, if it satisfies `p`. -/
def satisfy (p : Char → Bool) : Reader Char
  | [] => none
  | c :: rest => if p c then some (c, rest) else none

def literal (expected : Text) : Reader Unit := fun text =>
  if expected.isPrefixOf text then some ((), text.drop expected.length) else none

/-- The longest run of characters that satisfy `p`. -/
def run (p : Char → Bool) : Reader Text := fun text =>
  some (text.takeWhile p, text.dropWhile p)

def ending : Reader Unit := fun text => if text.isEmpty then some ((), text) else none

/-- Items as long as they can be read, behind the ones found so far, which are given in reverse. -/
def manyOnto (item : Reader α) (found : List α) (text : Text) : List α × Text :=
  match item text with
  | none => (found.reverse, text)
  | some (value, rest) =>
    if rest.length < text.length then manyOnto item (value :: found) rest
    else (found.reverse, text)
  termination_by text.length

/-- Items as long as they can be read. -/
def many (item : Reader α) : Reader (List α) := fun text => some (manyOnto item [] text)

/-- Items with separators between them, none before the first or after the last. -/
def separated (item : Reader α) (separator : Reader β) : Reader (List α) :=
  (do
    let head ← item
    let tail ← many (separator *> item)
    pure (head :: tail)) <|> pure []

/-- A reader whose value may be missing from the text. -/
def optional (item : Reader α) : Reader (Option α) := (some <$> item) <|> pure none

/-- Reads with `item` a text that it must use up. -/
def whole? (item : Reader α) (text : Text) : Option α := (item <* ending).run' text

end Reader

end PermissionSchema
