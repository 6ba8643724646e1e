import RowAccess.Text.Letter
import RowAccess.Text.Blank
/-!
# SQL dialects

The three dialects a statement can be written in, and where they differ: which characters make a
name, how literals and comments are read, and which clauses are understood. Every difference is a
named property here, so that the lexer and the parser ask for the property and not for the dialect.
-/

namespace RowAccess.Sql

/-- A dialect in which statements are read and written. -/
inductive Dialect where
  | postgres
  | mysql
  | generic
deriving DecidableEq, Repr, Inhabited

namespace Dialect

/-- The name under which a dialect is configured. -/
def name : Dialect → String
  | postgres => "postgres"
  | mysql => "mysql"
  | generic => "generic"

/-- The dialect configured under a name. -/
def ofName? (s : String) : Option Dialect :=
  [postgres, mysql, generic].find? fun d => d.name == s

/-! ## Characters -/

/-- Whether an unquoted name may start with the character. -/
def startsName : Dialect → Char → Bool
  | postgres, c => c.isAlpha || c == '_' || 0x80 ≤ c.toNat
  | mysql, c => c.isAlpha || c == '_' || c == '$' || c == '@' || 0x80 ≤ c.toNat
  | generic, c => Text.isLetter c || c == '_' || c == '#' || c == '@'

/-- Whether an unquoted name may go on with the character. -/
def continuesName : Dialect → Char → Bool
  | postgres, c => startsName postgres c || c.isDigit || c == '$'
  | mysql, c => startsName mysql c || c.isDigit
  | generic, c => startsName generic c || c.isDigit || c == '$'

/-- Whether the character opens and closes a quoted name. -/
def quotesName : Dialect → Char → Bool
  | postgres, c => c == '"'
  | mysql, c => c == '\x60'
  | generic, c => c == '"' || c == '\x60'

/-- Whether the character can lengthen an operator, so that runs of them form new operators. -/
def continuesOperator : Dialect → Char → Bool
  | postgres, c => "+-*/<>=~!@#%^&|\x60?".toList.contains c
  | _, _ => false

/-! ## Literals and comments -/

/-- A backslash in a quoted string makes the next character literal. -/
def backslashEscapes (d : Dialect) : Bool := d == mysql

/-- `E'..'` is a string with C-style escapes. -/
def escapedStrings (d : Dialect) : Bool := d != mysql

/-- `U&'..'` is a string with code point escapes. -/
def codePointStrings (d : Dialect) : Bool := d != mysql

/-- `R'..'` is a string without escapes. -/
def rawStrings (d : Dialect) : Bool := d == generic

/-- Underscores may separate the digits of a number. -/
def digitSeparators (d : Dialect) : Bool := d == postgres

/-- A name may start with digits. -/
def digitsStartNames (d : Dialect) : Bool := d == mysql

/-- `#` starts a comment. -/
def hashComments (d : Dialect) : Bool := d == mysql

/-- `--` starts a comment only before a blank. -/
def dashCommentsNeedBlank (d : Dialect) : Bool := d == mysql

/-- A block comment may contain block comments. -/
def nestedComments (d : Dialect) : Bool := d != mysql

/-- Adjacent string literals are one string. -/
def joinsStrings (d : Dialect) : Bool := d == mysql

/-- `//` is integer division. -/
def slashDivision (d : Dialect) : Bool := d == generic

/-- `EXTRACT` takes any name or string for a field. -/
def customDateFields (d : Dialect) : Bool := d != mysql

/-- The number of an interval is a whole expression, and a unit must follow it. -/
def intervalsNeedUnit (d : Dialect) : Bool := d == mysql

/-- The name of an argument is an expression, and a colon may follow it. -/
def expressionsNameArguments (d : Dialect) : Bool := d == postgres

/-- `:=` may follow the name of an argument. -/
def assignedArguments (d : Dialect) : Bool := d == generic

/-- `NOTNULL` after an expression asks whether it is not null. -/
def notNullWord (d : Dialect) : Bool := d == postgres

/-- Geometric operators and type names are understood. -/
def geometry (d : Dialect) : Bool := d == postgres

end Dialect

end RowAccess.Sql
