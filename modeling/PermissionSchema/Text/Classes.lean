import PermissionSchema.Text.Alphabetic
import PermissionSchema.Text.Numeric

/-!
# Character classes of the schema language

Names may be written in any script, so a letter is any alphabetic character and a digit any numeric
one. Blanks are narrow: only the four layout characters of ASCII separate tokens.
-/

namespace PermissionSchema

/-- A name starts with a letter of any script or an underscore. -/
def startsName (c : Char) : Bool := c == '_' || alphabetic.contains c

/-- A name goes on with letters, digits and other numbers of any script, and underscores. -/
def continuesName (c : Char) : Bool := startsName c || numeric.contains c

/-- Space, tab, carriage return and line feed separate tokens; no other character does. -/
def isBlank (c : Char) : Bool := c == ' ' || c == '\t' || c == '\r' || c == '\n'

theorem continuesName_of_startsName {c : Char} (h : startsName c = true) :
    continuesName c = true := by
  simp [continuesName, h]

end PermissionSchema
