import RowAccess.Sql.Keyword
import RowAccess.Sql.Parser.Basic
/-!
# Reading literals, numbers and fields of dates
-/

namespace RowAccess.Sql.Parser

/-! ## Literals -/

/-- A string literal, if it is next. -/
def stringLiteral? : P (Option String) := do
  match ← peek with
  | some (.literal (.string s)) | some (.literal (.doubleQuoted s)) => do
    skip 1
    return some s
  | _ => return none

/-- The text with the adjacent string literals after it, where the dialect joins them. -/
def joinedStrings (d : Dialect) (text : String) : P String := do
  if d.joinsStrings then return text ++ String.join (← many stringLiteral?) else return text

/-- A parameter whose name comes right after its sign. -/
def namedParameter (sign : String) (gap : List Blank) : P Literal := do
  if !gap.isEmpty then unexpected
  match ← advance with
  | .word i _ => return .parameter (sign ++ i.value)
  | .literal (.number digits false) => return .parameter (sign ++ digits)
  | _ => unexpected

/-- A literal. -/
def literal (d : Dialect) : P Literal := do
  match ← advanceLexeme with
  | ⟨.word _ "TRUE", _⟩ => return .boolean true
  | ⟨.word _ "FALSE", _⟩ => return .boolean false
  | ⟨.word _ "NULL", _⟩ => return .null
  | ⟨.word ⟨value, some '"'⟩ _, _⟩ => return .doubleQuoted value
  | ⟨.literal (.string s), _⟩ => return .string (← joinedStrings d s)
  | ⟨.literal (.doubleQuoted s), _⟩ => return .doubleQuoted (← joinedStrings d s)
  | ⟨.literal value, _⟩ => return value
  | ⟨.symbol ":", gap⟩ => namedParameter ":" gap
  | ⟨.symbol "@", gap⟩ => namedParameter "@" gap
  | _ => unexpected

/-- A literal as it is written. -/
def literalText (d : Dialect) : P String := return (← literal d).render

/-- A text: a string, or a word that is no keyword. -/
def text (d : Dialect) : P String := do
  match ← advance with
  | .word i k => if isKeyword k then unexpected else return i.value
  | .literal (.string s) | .literal (.doubleQuoted s) | .literal (.codePoints s) => return s
  | .literal (.escaped s) => if d == .mysql then unexpected else return s
  | _ => unexpected

/-- A text between single quotes, where a quote is written twice. -/
def quotedText (d : Dialect) : P String := return quoted '\'' (← text d)

/-- A text between single quotes, where a quote stays as it is. -/
def bareQuotedText (d : Dialect) : P String := return "'" ++ (← text d) ++ "'"

/-- A text of a single ASCII character. -/
def character (d : Dialect) : P String := do
  let s ← text d
  if s.utf8ByteSize = 1 then return s else unexpected

/-! ## Numbers -/

/-- The number that decimal digits write, if it is at most `bound`. -/
def numberUpTo? (bound : Nat) (digits : String) : Option Nat :=
  if !digits.isEmpty && digits.toList.all Char.isDigit then
    digits.toNat?.filter fun n => n ≤ bound
  else none

/-- A number of 64 bits without sign or fraction. -/
def naturalNumber : P Nat := do
  match ← advance with
  | .literal (.number digits _) =>
    match numberUpTo? 18446744073709551615 digits with
    | some n => return n
    | none => unexpected
  | _ => unexpected

/-- A number of 64 bits with a sign and without a fraction. -/
def signedInteger : P Int := do
  let negative ← symbol? "-"
  if !negative then
    let _ ← symbol? "+"
  match ← advance with
  | .literal (.number digits _) =>
    match numberUpTo? 9223372036854775807 digits with
    | some n => return if negative then -(n : Int) else n
    | none => unexpected
  | _ => unexpected

/-- A number or a parameter in its place. -/
def numberLiteral (d : Dialect) : P Literal := do
  match ← literal d with
  | .number digits long => return .number digits long
  | .parameter name => return .parameter name
  | _ => unexpected

/-- A number or a parameter in its place, as it is written. -/
def numberText (d : Dialect) : P String := return (← numberLiteral d).render

/-- A number that may have a sign, as it is written. -/
def signedNumber (d : Dialect) : P String := do
  if ← symbol? "+" then return "+" ++ (← numberText d)
  else if ← symbol? "-" then return "-" ++ (← numberText d)
  else numberText d

/-! ## Fields of dates -/

/-- Units of time that may follow the number of an interval. -/
def timeUnits : List String :=
  ["YEAR", "YEARS", "MONTH", "MONTHS", "WEEK", "WEEKS", "DAY", "DAYS", "HOUR", "HOURS", "MINUTE",
    "MINUTES", "SECOND", "SECONDS", "CENTURY", "DECADE", "DOW", "DOY", "EPOCH", "ISODOW",
    "ISOYEAR", "JULIAN", "MICROSECOND", "MICROSECONDS", "MILLENIUM", "MILLENNIUM", "MILLISECOND",
    "MILLISECONDS", "NANOSECOND", "NANOSECONDS", "QUARTER", "TIMEZONE", "TIMEZONE_HOUR",
    "TIMEZONE_MINUTE"]

/-- Fields of dates and times. -/
def dateFields : List String :=
  timeUnits ++ ["DAYOFWEEK", "DAYOFYEAR", "DATE", "DATETIME", "ISOWEEK", "TIME", "TIMEZONE_ABBR",
    "TIMEZONE_REGION"]

/-- A field of a date or time, as it is written. -/
def dateField (d : Dialect) : P String := do
  match ← advance with
  | .word i k =>
    if dateFields.contains k then
      if k == "WEEK" && d == .generic then
        if ← symbol? "(" then
          let day ← ident
          symbol ")"
          return "WEEK(" ++ day.render ++ ")"
      return k
    else if d.customDateFields then return i.render
    else unexpected
  | .literal (.string s) => if d.customDateFields then return quoted '\'' s else unexpected
  | _ => unexpected

end RowAccess.Sql.Parser
