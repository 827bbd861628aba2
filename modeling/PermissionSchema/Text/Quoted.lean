import PermissionSchema.Text.Basic
import PermissionSchema.Text.Extending
import PermissionSchema.Text.Unprintable

/-!
# Quoted texts

How a text or a character is shown in a message: between quotes, on one line, with everything that
would not be visible replaced by an escape. A mark that would join the character before it counts
as invisible wherever it stands.
-/

namespace PermissionSchema.Quoted

/-- The digits of a number in lower-case hexadecimal, without leading zeros. -/
def hexDigits (n : Nat) : Text := Nat.toDigits 16 n

/-- The escape of a character by its code point. -/
def codePoint (c : Char) : Text := ['\\', 'u', '\x7b'] ++ hexDigits c.toNat ++ ['\x7d']

/-- One character inside a pair of `quote` marks. The mark itself and the backslash are escaped,
    the usual controls by a letter, and all else that has no form of its own by its code point. -/
def escape (quote c : Char) : Text :=
  if c = '\x00' then ['\\', '0']
  else if c = '\t' then ['\\', 't']
  else if c = '\r' then ['\\', 'r']
  else if c = '\n' then ['\\', 'n']
  else if c = '\\' || c = quote then ['\\', c]
  else if extending.contains c || unprintable.contains c then codePoint c
  else [c]

def text (content : Text) : Text := '"' :: content.flatMap (escape '"') ++ ['"']

def char (c : Char) : Text := '\'' :: escape '\'' c ++ ['\'']

/-- A text between double quotes, cut to its first `limit` characters; dots after the closing quote
    say that something was cut. -/
def cut (limit : Nat) (content : Text) : Text :=
  if content.length ≤ limit then text content else text (content.take limit) ++ ['.', '.', '.']

end PermissionSchema.Quoted
