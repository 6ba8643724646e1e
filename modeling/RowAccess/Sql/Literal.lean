/-!
# Literals and quoted text

The literals a statement can hold, and how each is written. Between two quotes, a quote of the text
is written twice (`quoted`); two notations with escapes of their own are `escaped` and `codePoints`.
-/

namespace RowAccess.Sql

/-- A literal, with the notation it was written in. -/
inductive Literal where
  /-- Digits as written; `long` marks a trailing `L`. -/
  | number (digits : String) (long : Bool)
  /-- `'text'` -/
  | string (text : String)
  /-- `"text"` where double quotes delimit strings. -/
  | doubleQuoted (text : String)
  /-- `N'text'` -/
  | national (text : String)
  /-- `X'digits'` -/
  | hex (digits : String)
  /-- `B'text'` -/
  | bytes (text : String)
  /-- `B"text"` -/
  | doubleQuotedBytes (text : String)
  /-- `R'text'` -/
  | raw (text : String)
  /-- `R"text"` -/
  | doubleQuotedRaw (text : String)
  /-- Raw text between two times three quotes. -/
  | tripleQuotedRaw (quote : Char) (text : String)
  /-- `E'text'` -/
  | escaped (text : String)
  /-- `U&'text'` -/
  | codePoints (text : String)
  /-- `$tag$text$tag$` -/
  | dollar (tag : Option String) (text : String)
  | boolean (value : Bool)
  | null
  /-- A parameter such as `?`, `$1` or `:name`. -/
  | parameter (name : String)
deriving DecidableEq, Repr, Inhabited

/-- The text with each quote `q` written twice, except a quote that follows a backslash and a quote
that is one of a pair already. -/
def doubleQuotes (q : Char) (previous : Char) : List Char → List Char
  | [] => []
  | c :: cs =>
    if c ≠ q then c :: doubleQuotes q c cs
    else if previous = '\\' then c :: doubleQuotes q previous cs
    else match cs with
      | [] => [q, q]
      | next :: rest =>
        if next = q then q :: q :: doubleQuotes q q rest
        else q :: q :: doubleQuotes q q (next :: rest)

/-- The text between two quotes `q`. -/
def quoted (q : Char) (text : String) : String :=
  String.ofList (q :: doubleQuotes q '\x00' text.toList ++ [q])

/-- A character inside `E'..'`. -/
def escapedChar : Char → List Char
  | '\'' => ['\\', '\'']
  | '\\' => ['\\', '\\']
  | '\n' => ['\\', 'n']
  | '\t' => ['\\', 't']
  | '\r' => ['\\', 'r']
  | c => [c]

/-- The hexadecimal digits of `n` in upper case, at least `width` of them. -/
def hexDigits (width n : Nat) : List Char :=
  let digits := (Nat.toDigits 16 n).map Char.toUpper
  List.replicate (width - digits.length) '0' ++ digits

/-- A character inside `U&'..'`. -/
def codePointChar (c : Char) : List Char :=
  if c = '\'' then ['\'', '\'']
  else if c = '\\' then ['\\', '\\']
  else if c.toNat < 0x80 then [c]
  else if c.toNat ≤ 0xFFFF then '\\' :: hexDigits 4 c.toNat
  else '\\' :: '+' :: hexDigits 6 c.toNat

/-- A literal as it is written in a statement. -/
def Literal.render : Literal → String
  | number digits long => if long then digits ++ "L" else digits
  | string text => quoted '\'' text
  | doubleQuoted text => quoted '"' text
  | national text => "N'" ++ text ++ "'"
  | hex digits => "X'" ++ digits ++ "'"
  | bytes text => "B'" ++ text ++ "'"
  | doubleQuotedBytes text => "B\"" ++ text ++ "\""
  | raw text => "R'" ++ text ++ "'"
  | doubleQuotedRaw text => "R\"" ++ text ++ "\""
  | tripleQuotedRaw quote text =>
    let quotes := String.ofList [quote, quote, quote]
    "R" ++ quotes ++ text ++ quotes
  | escaped text => "E'" ++ String.ofList (text.toList.flatMap escapedChar) ++ "'"
  | codePoints text => "U&'" ++ String.ofList (text.toList.flatMap codePointChar) ++ "'"
  | dollar none text => "$$" ++ text ++ "$$"
  | dollar (some tag) text => "$" ++ tag ++ "$" ++ text ++ "$" ++ tag ++ "$"
  | boolean true => "true"
  | boolean false => "false"
  | null => "NULL"
  | parameter name => name

end RowAccess.Sql
