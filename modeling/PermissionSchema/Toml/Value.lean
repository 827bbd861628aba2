import PermissionSchema.Text.Basic

/-!
# TOML values and tables

The values of a TOML document, and the rules by which headers and dotted keys build up its tables. A
table remembers how it came to be, because that decides who may still add to it: a table that a
header or an inline value has defined is closed to dotted keys, and only a table that was implied by
a longer header may still get a header of its own.
-/

namespace PermissionSchema.Toml

inductive Origin where
  /-- Its own header, or an element of an array of tables. -/
  | header
  /-- A longer header that passes through it. -/
  | implied
  /-- A dotted key that passes through it. -/
  | dotted
  /-- A value in braces. -/
  | inline
  deriving DecidableEq, Repr

/-- A value of a document. Fractions and date-times are kept as they are written. -/
inductive Value where
  | string (content : Text)
  | integer (n : Int)
  | float (literal : Text)
  | boolean (b : Bool)
  | dateTime (literal : Text)
  | array (items : List Value)
  | table (origin : Origin) (entries : List (Text × Value))
  /-- An array of tables, each defined by a header of its own. -/
  | tables (elements : List (List (Text × Value)))

/-- The entries of a table, in the order in which they were made. -/
abbrev Entries := List (Text × Value)

namespace Entries

def get? (entries : Entries) (key : Text) : Option Value := entries.lookup key

/-- Put a value at a key, in the place of the one that is there. -/
def put (entries : Entries) (key : Text) (value : Value) : Entries :=
  if entries.any (·.1 == key) then
    entries.map fun entry => if entry.1 == key then (key, value) else entry
  else
    entries ++ [(key, value)]

/-- Define a key that is reached through a dotted path of keys. -/
def define : Entries → (path : List Text) → (key : Text) → Value → Option Entries
  | entries, [], key, value =>
    if (entries.get? key).isSome then none else some (entries.put key value)
  | entries, name :: path, key, value =>
    match entries.get? name with
    | none => do
      let inner ← define [] path key value
      some (entries.put name (.table .dotted inner))
    | some (.table .dotted inner) => do
      let inner ← define inner path key value
      some (entries.put name (.table .dotted inner))
    | some (.table .implied inner) =>
      if path.isEmpty then none
      else do
        let inner ← define inner path key value
        some (entries.put name (.table .implied inner))
    | some (.tables elements) =>
      match path, elements.getLast? with
      | _ :: _, some element => do
        let element ← define element path key value
        some (entries.put name (.tables (elements.dropLast ++ [element])))
      | _, _ => none
    | some _ => none

/-- Change the table that a header path leads to. The path leads through the last element of an
    array of tables, and tables that it needs are implied by it. -/
def within : Entries → (path : List Text) → (change : Entries → Option Entries) → Option Entries
  | entries, [], change => change entries
  | entries, name :: path, change =>
    match entries.get? name with
    | none => do
      let inner ← within [] path change
      some (entries.put name (.table .implied inner))
    | some (.table .inline _) => none
    | some (.table origin inner) => do
      let inner ← within inner path change
      some (entries.put name (.table origin inner))
    | some (.tables elements) =>
      match elements.getLast? with
      | some element => do
        let element ← within element path change
        some (entries.put name (.tables (elements.dropLast ++ [element])))
      | none => none
    | some _ => none

def openTable (entries : Entries) (key : Text) : Option Entries :=
  match entries.get? key with
  | none => some (entries.put key (.table .header []))
  | some (.table .implied inner) => some (entries.put key (.table .header inner))
  | some _ => none

/-- Begin a new element of an array of tables. -/
def openElement (entries : Entries) (key : Text) : Option Entries :=
  match entries.get? key with
  | none => some (entries.put key (.tables [[]]))
  | some (.tables elements) => some (entries.put key (.tables (elements ++ [[]])))
  | some _ => none

end Entries

end PermissionSchema.Toml
