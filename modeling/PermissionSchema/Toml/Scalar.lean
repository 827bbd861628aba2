import PermissionSchema.Text.Numeral
import PermissionSchema.Text.Reader
import PermissionSchema.Toml.Value

/-!
# TOML scalars

Strings, numbers, truth values and date-times as TOML 1.0 writes them. A string in three quotes may
span lines; all others end on the line on which they start. A value without quotes is the longest
run of the characters that such values are made of, and the run as a whole decides what it is.
-/

namespace PermissionSchema.Toml

open Reader

/-! ### Blanks, line ends and comments -/

def isSpace (c : Char) : Bool := c == ' ' || c == '\t'

/-- No control character but the tab may stand in a document. -/
def isContent (c : Char) : Bool := c == '\t' || (c.toNat ≥ 0x20 && c.toNat != 0x7f)

def spaces : Reader Unit := discard (run isSpace)

def newline : Reader Unit := literal ['\n'] <|> literal ['\r', '\n']

/-- A comment reaches to the end of its line. -/
def comment : Reader Unit := literal ['#'] *> discard (run isContent)

/-- What may follow a statement on its line, and the end of the line. -/
def lineEnd : Reader Unit := spaces *> discard (Reader.optional comment) *> (newline <|> ending)

/-- Blanks, line ends and comments between the items of an array. -/
def gap : Reader Unit :=
  discard (many (discard (satisfy isSpace) <|> newline <|> (comment *> newline)))

/-! ### Strings -/

/-- A character told by a fixed number of hexadecimal digits. -/
def codePoint (digits : Nat) : Reader Char := fun text => do
  let written := text.take digits
  let n := Numeral.value 16 written
  if written.length = digits && written.all (fun c => (Numeral.digit? c).isSome) &&
      n.isValidChar then
    some (Char.ofNat n, text.drop digits)
  else
    none

def escaped : Reader Char := do
  match ← satisfy (fun _ => true) with
  | 'b' => pure '\x08'
  | 't' => pure '\t'
  | 'n' => pure '\n'
  | 'f' => pure '\x0c'
  | 'r' => pure '\r'
  | '"' => pure '"'
  | '\\' => pure '\\'
  | 'u' => codePoint 4
  | 'U' => codePoint 8
  | _ => failure

def basicString : Reader Text := do
  literal ['"']
  let content ← many (literal ['\\'] *> escaped <|>
    satisfy fun c => isContent c && c != '"' && c != '\\')
  literal ['"']
  pure content

/-- A string in single quotes, which has no escapes. -/
def literalString : Reader Text := do
  literal ['\'']
  let content ← run fun c => isContent c && c != '\''
  literal ['\'']
  pure content

/-- The end of a string in three quotes; up to two more quotes before it belong to the string. -/
def closingQuotes (quote : Char) : Reader Text := do
  let quotes ← run (· == quote)
  if 3 ≤ quotes.length && quotes.length ≤ 5 then pure (quotes.drop 3) else failure

/-- One or two quotes inside a string in three quotes. -/
def innerQuotes (quote : Char) : Reader Text := do
  let quotes ← run (· == quote)
  if quotes.length = 1 || quotes.length = 2 then pure quotes else failure

/-- A backslash at the end of a line leaves out the line end and all blanks up to the next text. -/
def joinedLines : Reader Text := do
  literal ['\\']
  spaces
  newline
  discard (many (discard (satisfy isSpace) <|> newline))
  pure []

def multiLineBasicString : Reader Text := do
  literal ['"', '"', '"']
  discard (Reader.optional newline)
  let parts ← many (joinedLines <|>
    (fun c => [c]) <$> (literal ['\\'] *> escaped) <|>
    (fun c => [c]) <$> satisfy (fun c => isContent c && c != '"' && c != '\\') <|>
    (fun _ => ['\n']) <$> newline <|>
    innerQuotes '"')
  let quotes ← closingQuotes '"'
  pure (parts.flatten ++ quotes)

/-- A string in three single quotes, which has no escapes. -/
def multiLineLiteralString : Reader Text := do
  literal ['\'', '\'', '\'']
  discard (Reader.optional newline)
  let parts ← many (
    (fun c => [c]) <$> satisfy (fun c => isContent c && c != '\'') <|>
    (fun _ => ['\n']) <$> newline <|>
    innerQuotes '\'')
  let quotes ← closingQuotes '\''
  pure (parts.flatten ++ quotes)

/-- A string value. Two quotes that no third follows are an empty string. -/
def string : Reader Text :=
  multiLineBasicString <|> multiLineLiteralString <|> basicString <|> literalString

/-! ### Numbers -/

/-- The digits of a number without the underscores, which stand between two digits only. -/
def ungroup? (isDigit : Char → Bool) : Text → Option Text
  | [] => none
  | [c] => if isDigit c then some [c] else none
  | c :: '_' :: rest => if isDigit c then (c :: ·) <$> ungroup? isDigit rest else none
  | c :: rest => if isDigit c then (c :: ·) <$> ungroup? isDigit rest else none

/-- The digits of a decimal number, of which the first is zero only if it is the only one. -/
def decimalDigits? (literal : Text) : Option Text := do
  let digits ← ungroup? Char.isDigit literal
  if digits.head? = some '0' && digits.length ≠ 1 then none else some digits

/-- Whether a minus sign stands before a number, and what follows the sign. -/
def signed (literal : Text) : Bool × Text :=
  match literal with
  | '+' :: rest => (false, rest)
  | '-' :: rest => (true, rest)
  | _ => (false, literal)

/-- The numbers that integers are kept in. -/
def isInteger64 (n : Int) : Bool := -0x8000000000000000 ≤ n && n ≤ 0x7FFFFFFFFFFFFFFF

/-- An integer: a signed decimal number, or an unsigned one of base 16, 8 or 2. -/
def integer? (literal : Text) : Option Int := do
  let n : Int ← match literal with
    | '0' :: 'x' :: rest => do
      let digits ← ungroup? (fun c => (Numeral.digit? c).isSome) rest
      some (Numeral.value 16 digits)
    | '0' :: 'o' :: rest => do
      let digits ← ungroup? (fun c => '0' ≤ c && c ≤ '7') rest
      some (Numeral.value 8 digits)
    | '0' :: 'b' :: rest => do
      let digits ← ungroup? (fun c => c = '0' || c = '1') rest
      some (Numeral.value 2 digits)
    | _ => do
      let (negative, rest) := signed literal
      let n := Numeral.value 10 (← decimalDigits? rest)
      some (if negative then -(n : Int) else n)
  if isInteger64 n then some n else none

/-- The exponent of a fraction, which follows an `e`. -/
def exponent? (literal : Text) : Option Int := do
  let (negative, rest) := signed literal
  let n := Numeral.value 10 (← ungroup? Char.isDigit rest)
  some (if negative then -(n : Int) else n)

/-- Whether `digits` times a power of ten is too large for a binary fraction of 64 bits. -/
def overflows (digits : Text) (power : Int) : Bool :=
  let significant := digits.dropWhile (· == '0')
  let magnitude := significant.length + power
  if significant.isEmpty || magnitude < 308 then false
  else if magnitude > 310 then true
  else
    let limit := Nat.pow 2 1024 - Nat.pow 2 970
    let n := Numeral.value 10 significant
    if power ≥ 0 then n * Nat.pow 10 power.toNat ≥ limit
    else n ≥ limit * Nat.pow 10 (-power).toNat

/-- What a part of a number says behind the mark that introduces it; the part may be missing. -/
def behindMark? {α : Type} (missing : α) (read? : Text → Option α) : Text → Option α
  | [] => some missing
  | _ :: rest => read? rest

/-- Whether a text is a fraction: a decimal number with decimals, an exponent or both, or one of the
    two special values. A positive fraction must not be too large. -/
def isFloat (literal : Text) : Bool :=
  let (negative, number) := signed literal
  let mantissa := number.takeWhile fun c => c != 'e' && c != 'E'
  let whole := mantissa.takeWhile (· != '.')
  let decimals := mantissa.drop whole.length
  let power := number.drop mantissa.length
  if number = ['i', 'n', 'f'] || number = ['n', 'a', 'n'] then true
  else if decimals.isEmpty && power.isEmpty then false
  else match decimalDigits? whole, behindMark? [] (ungroup? Char.isDigit) decimals,
      behindMark? 0 exponent? power with
    | some whole, some decimals, some power =>
      negative || !overflows (whole ++ decimals) (power - decimals.length)
    | _, _, _ => false

/-! ### Date-times -/

/-- A number of exactly `width` decimal digits, between two bounds. -/
def fixedNumber (width least greatest : Nat) : Reader Nat := fun text =>
  let digits := text.take width
  let n := Numeral.value 10 digits
  if digits.length = width && digits.all Char.isDigit && least ≤ n && n ≤ greatest then
    some (n, text.drop width)
  else
    none

def daysOfMonth (year month : Nat) : Nat :=
  if month = 2 then
    if year % 4 = 0 && (year % 100 ≠ 0 || year % 400 = 0) then 29 else 28
  else if month = 4 || month = 6 || month = 9 || month = 11 then 30
  else 31

def date : Reader Unit := do
  let year ← fixedNumber 4 0 9999
  literal ['-']
  let month ← fixedNumber 2 1 12
  literal ['-']
  discard (fixedNumber 2 1 (daysOfMonth year month))

def time : Reader Unit := do
  discard (fixedNumber 2 0 23)
  literal [':']
  discard (fixedNumber 2 0 59)
  literal [':']
  discard (fixedNumber 2 0 60)
  discard (Reader.optional do
    literal ['.']
    if (← run Char.isDigit).isEmpty then failure)

/-- The distance of a clock from universal time. -/
def zone : Reader Unit :=
  discard (satisfy fun c => c == 'Z' || c == 'z') <|> do
    discard (satisfy fun c => c == '+' || c == '-')
    discard (fixedNumber 2 0 23)
    literal [':']
    discard (fixedNumber 2 0 59)

/-- A date, a time of day, or a date with a time of day and perhaps a zone. -/
def dateTime : Reader Unit :=
  (do
    date
    discard (satisfy fun c => c == 'T' || c == 't' || c == ' ')
    time
    discard (Reader.optional zone)) <|> date <|> time

/-! ### All scalars -/

/-- The characters that values without quotes are made of. -/
def isBare (c : Char) : Bool :=
  c.isAlphanum || c == '+' || c == '-' || c == '_' || c == '.' || c == ':'

/-- A date-time and a value without quotes end where such values end. -/
def bareEnd : Reader Unit := do
  if (← peek?).any isBare then failure

/-- A date-time with the text that it takes. -/
def dateTimeValue : Reader Value := fun text => do
  let (_, rest) ← StateT.run (dateTime <* bareEnd) text
  some (.dateTime (text.take (text.length - rest.length)), rest)

def bareValue : Reader Value := do
  let literal ← run isBare
  if literal = ['t', 'r', 'u', 'e'] then pure (.boolean true)
  else if literal = ['f', 'a', 'l', 's', 'e'] then pure (.boolean false)
  else match integer? literal with
    | some n => pure (.integer n)
    | none => if isFloat literal then pure (.float literal) else failure

/-- A value that holds no others. -/
def scalar : Reader Value := (Value.string <$> string) <|> dateTimeValue <|> bareValue

end PermissionSchema.Toml
