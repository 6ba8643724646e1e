import RowAccess.Sql.Literal
/-!
# Tokens

What the lexer cuts a statement into. White space and comments are no tokens: they are the gap after
the token before them. A few phrases depend on the gap, such as a parameter whose name must follow
its sign at once.
-/

namespace RowAccess.Sql

/-- A name in a statement: its value and the quote around it, if any. -/
structure Ident where
  value : String
  quote : Option Char := none
deriving DecidableEq, Repr, Inhabited

/-- A name as it is written: between its quotes, a quote of the value is written twice. -/
def Ident.render (i : Ident) : String :=
  match i.quote with
  | none => i.value
  | some q => quoted q i.value

/-- A token of a statement. -/
inductive Token where
  /-- A name or a keyword. `keyword` is the unquoted word in upper case, and empty for a quoted
  one. -/
  | word (ident : Ident) (keyword : String)
  | literal (value : Literal)
  /-- Punctuation or an operator of the language. -/
  | symbol (text : String)
  /-- An operator known only by its spelling. -/
  | custom (text : String)
deriving DecidableEq, Repr, Inhabited

/-- A character in upper case, for the letters whose upper case is made of ASCII letters. -/
def upperChar (c : Char) : List Char :=
  match c.toNat with
  | 0xDF => ['S', 'S']
  | 0x131 => ['I']
  | 0x17F => ['S']
  | 0xFB00 => ['F', 'F']
  | 0xFB01 => ['F', 'I']
  | 0xFB02 => ['F', 'L']
  | 0xFB03 => ['F', 'F', 'I']
  | 0xFB04 => ['F', 'F', 'L']
  | 0xFB05 => ['S', 'T']
  | 0xFB06 => ['S', 'T']
  | _ => [c.toUpper]

/-- The spelling under which a word is known as a keyword. -/
def keywordOf (word : String) : String := String.ofList (word.toList.flatMap upperChar)

namespace Token

/-- The token of an unquoted word. -/
def ofWord (word : String) : Token := .word ⟨word, none⟩ (keywordOf word)

/-- The token of a quoted name. -/
def ofQuoted (value : String) (quote : Char) : Token := .word ⟨value, some quote⟩ ""

/-- Whether the token is the keyword `k`. -/
def isKeyword (k : String) : Token → Bool
  | .word _ keyword => keyword == k
  | _ => false

/-- Whether the token is an unquoted or quoted word. -/
def isWord : Token → Bool
  | .word .. => true
  | _ => false

/-- A token as its text stands between tokens, where a quote inside a text is not doubled. -/
def render : Token → String
  | .word ⟨value, none⟩ _ => value
  | .word ⟨value, some quote⟩ _ => quote.toString ++ value ++ quote.toString
  | .literal (.string text) => "'" ++ text ++ "'"
  | .literal (.doubleQuoted text) => "\"" ++ text ++ "\""
  | .literal (.escaped text) => "E'" ++ text ++ "'"
  | .literal (.codePoints text) => "U&'" ++ text ++ "'"
  | .literal value => value.render
  | .symbol text => text
  | .custom text => text

end Token

/-! ## Gaps -/

/-- A piece of white space between tokens. -/
inductive Blank where
  | space
  | newline
  | tab
  /-- A comment, with the signs around it. -/
  | comment (text : String)
deriving DecidableEq, Repr, Inhabited

/-- A token with the white space and the comments after it. -/
structure Lexeme where
  token : Token
  gap : List Blank
deriving DecidableEq, Repr, Inhabited

end RowAccess.Sql
