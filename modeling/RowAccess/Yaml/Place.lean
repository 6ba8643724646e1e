/-!
# Places in a YAML text

YAML is laid out in lines and columns: the column at which a line starts says what it belongs to.
A `Cursor` is what is left of a text together with the place where that begins.
-/

namespace RowAccess.Yaml

/-- Whether a character may occur in a text. -/
def isAllowed (c : Char) : Bool :=
  let n := c.toNat
  n == 0x09 || n == 0x0A || n == 0x0D || (0x20 ≤ n && n ≤ 0x7E) || n == 0x85 ||
    (0xA0 ≤ n && n ≤ 0xFFFD) || 0x10000 ≤ n

/-- Whether a character ends a line, in a text with uniform line ends. -/
def isBreak (c : Char) : Bool := c == '\n' || c == '\u2028' || c == '\u2029'

/-- Whether a character is a space or a tab. -/
def isBlank (c : Char) : Bool := c == ' ' || c == '\t'

/-- Whether a character separates words. -/
def isSpacing (c : Char) : Bool := isBlank c || isBreak c

/-- Whether the text that is left begins with a separator or is at its end. -/
def endsWord : List Char → Bool
  | [] => true
  | c :: _ => isSpacing c

/-- Whether a character may stand in the name of an anchor or a tag handle. -/
def isWord (c : Char) : Bool := c.isAlphanum || c == '_' || c == '-'

/-- The text with line feeds for all other ends of lines; the two separators of lines and paragraphs
stay. -/
def uniformBreaks : List Char → List Char
  | '\r' :: '\n' :: cs => '\n' :: uniformBreaks cs
  | c :: cs => (if c == '\r' || c == '\u0085' then '\n' else c) :: uniformBreaks cs
  | [] => []

/-- A line and a column, both counted from zero. -/
structure Place where
  line : Nat
  column : Nat
deriving DecidableEq, Repr, Inhabited

/-- The place after a character. -/
def Place.after (p : Place) (c : Char) : Place :=
  if isBreak c then ⟨p.line + 1, 0⟩ else ⟨p.line, p.column + 1⟩

/-- The place after a number of characters that end no line. -/
def Place.right (p : Place) (n : Nat) : Place := ⟨p.line, p.column + n⟩

/-- What is left of a text, and where it begins. -/
structure Cursor where
  place : Place
  rest : List Char
deriving Repr, Inhabited

namespace Cursor

/-- The cursor after a number of characters that end no line. -/
def right (c : Cursor) (n : Nat) : Cursor := ⟨c.place.right n, c.rest.drop n⟩

/-- The characters in front that satisfy `p`, none of which may end a line, and the cursor after
them. -/
def span (p : Char → Bool) (c : Cursor) : String × Cursor :=
  let front := c.rest.takeWhile p
  (String.ofList front, c.right front.length)

/-- The cursor after the characters in front that satisfy `p`. -/
def skip (p : Char → Bool) (c : Cursor) : Cursor := (c.span p).2

/-- The cursor after a comment, if it is at one. -/
def skipComment (c : Cursor) : Cursor :=
  match c.rest with
  | '#' :: _ => c.skip fun x => !isBreak x
  | _ => c

/-- The cursor after the blanks and the comment that end a line, and after the end of that line;
nothing if something else stands there. -/
def endOfLine? (c : Cursor) : Option Cursor :=
  let c := (c.skip isBlank).skipComment
  match c.rest with
  | [] => some c
  | x :: rest => if isBreak x then some ⟨c.place.after x, rest⟩ else none

end Cursor

/-- Whether the text begins with the sign that starts or ends a document. -/
def marksDocument : List Char → Bool
  | '-' :: '-' :: '-' :: rest => endsWord rest
  | '.' :: '.' :: '.' :: rest => endsWord rest
  | _ => false

end RowAccess.Yaml
