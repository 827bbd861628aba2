import PermissionSchema.Text.Quoted

/-!
# Kinds of tokens

The closed set of lexical categories of the schema language, the keywords among its names, and the
faults that end a token stream early.
-/

namespace PermissionSchema

inductive Keyword where
  | «class»
  | implements
  | metadata
  | related
  | permits
  | this
  deriving DecidableEq, Repr

namespace Keyword

/-- Every keyword, in the order in which they are numbered. -/
def all : List Keyword := [.class, .implements, .metadata, .related, .permits, .this]

/-- How a keyword is written; case matters. -/
def spelling : Keyword → String
  | .class => "class"
  | .implements => "implements"
  | .metadata => "metadata"
  | .related => "related"
  | .permits => "permits"
  | .this => "this"

/-- The keyword with the given spelling. -/
def ofSpelling? (name : Text) : Option Keyword := all.find? (fun k => k.spelling.toList == name)

theorem ofSpelling?_spelling (k : Keyword) : ofSpelling? k.spelling.toList = some k := by
  cases k <;> decide

theorem spelling_of_ofSpelling? {name : Text} {k : Keyword} (h : ofSpelling? name = some k) :
    k.spelling.toList = name := by
  simpa using List.find?_some h

end Keyword

/-- Why a token stream ends before its text does. -/
inductive Fault where
  /-- A block comment has no closing `*/`. -/
  | unterminatedComment
  /-- A string meets the end of its line, or of the text, before its closing quote. -/
  | unterminatedString
  /-- No token starts with the character. -/
  | unexpectedCharacter (c : Char)
  deriving DecidableEq, Repr

namespace Fault

def message : Fault → String
  | .unterminatedComment => "unterminated comment"
  | .unterminatedString => "unterminated string"
  | .unexpectedCharacter c => "unexpected character " ++ String.ofList (Quoted.char c)

/-- How the fault may be mended, where there is a likely way. -/
def help? : Fault → Option String
  | .unterminatedComment => some "close the comment with `*/`"
  | .unterminatedString => some "close the string with `\"` before the end of the line"
  | .unexpectedCharacter '|' => some "did you mean `||`?"
  | .unexpectedCharacter '&' => some "did you mean `&&`?"
  | .unexpectedCharacter '/' => some "comments start with `//` or `/*`"
  | .unexpectedCharacter _ => none

end Fault

inductive Kind where
  | keyword (k : Keyword)
  | identifier
  | string
  | lineComment
  | blockComment
  | docComment
  | leftBrace
  | rightBrace
  | leftParen
  | rightParen
  | leftBracket
  | rightBracket
  | comma
  | colon
  | dot
  | assign
  | arrow
  | or
  | and
  | equal
  | notEqual
  | not
  | endOfInput
  | error (fault : Fault)
  deriving DecidableEq, Repr

namespace Kind

/-- The name of a category; all keywords share one, and so do all errors. -/
def name : Kind → String
  | .keyword _ => "keyword"
  | .identifier => "identifier"
  | .string => "string"
  | .lineComment => "line-comment"
  | .blockComment => "block-comment"
  | .docComment => "doc-comment"
  | .leftBrace => "left-brace"
  | .rightBrace => "right-brace"
  | .leftParen => "left-paren"
  | .rightParen => "right-paren"
  | .leftBracket => "left-bracket"
  | .rightBracket => "right-bracket"
  | .comma => "comma"
  | .colon => "colon"
  | .dot => "dot"
  | .assign => "operator-assign"
  | .arrow => "operator-arrow"
  | .or => "operator-or"
  | .and => "operator-and"
  | .equal => "operator-equal"
  | .notEqual => "operator-not-equal"
  | .not => "operator-not"
  | .endOfInput => "end-of-input"
  | .error _ => "error"

/-- Nothing follows the end of input or an error. -/
def isTerminal : Kind → Bool
  | .endOfInput | .error _ => true
  | _ => false

/-- Comments carry no meaning for the schema. -/
def isComment : Kind → Bool
  | .lineComment | .blockComment | .docComment => true
  | _ => false

def fault? : Kind → Option Fault
  | .error fault => some fault
  | _ => none

theorem isTerminal_iff {kind : Kind} :
    kind.isTerminal = true ↔ kind = .endOfInput ∨ ∃ fault, kind = .error fault := by
  cases kind <;> simp [isTerminal]

theorem not_isComment_of_isTerminal {kind : Kind} (h : kind.isTerminal = true) :
    kind.isComment = false := by
  cases kind <;> simp_all [isTerminal, isComment]

end Kind

end PermissionSchema
