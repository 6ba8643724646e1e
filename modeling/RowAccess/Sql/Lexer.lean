import RowAccess.Sql.Sign
import RowAccess.Sql.Token
import RowAccess.Text.Numeral
/-!
# Reading tokens

`lexemes` cuts the text of a statement into tokens and the gaps after them, by the rules of a dialect.
It fails on a string, a quoted name or a block comment that does not end, and on an escape that names
no character.

Each reader takes the characters that are left and answers what it read and what is left after it.
-/

namespace RowAccess.Sql.Lexer

/-- The longest run of characters that satisfy `p`, and the rest. -/
def run (p : Char → Bool) (cs : List Char) : List Char × List Char := cs.span p

/-! ## Quoted text -/

/-- Text up to the closing quote `q`, which a pair of quotes does not end. With `backslash`, a
backslash makes the next character literal, and with `wildcards` it stays before the wildcards of a
pattern. The opening quote has been read. -/
def untilQuote (q : Char) (backslash wildcards : Bool) :
    List Char → Option (List Char × List Char)
  | [] => none
  | c :: cs =>
    if c = q then
      match cs with
      | next :: rest =>
        if next = q then (untilQuote q backslash wildcards rest).map fun (s, r) => (q :: s, r)
        else some ([], next :: rest)
      | [] => some ([], [])
    else if c = '\\' && backslash then
      match cs with
      | [] => none
      | next :: rest =>
        let value : List Char := match next with
          | '0' => ['\x00']
          | 'a' => ['\x07']
          | 'b' => ['\x08']
          | 'f' => ['\x0c']
          | 'n' => ['\n']
          | 'r' => ['\r']
          | 't' => ['\t']
          | 'Z' => ['\x1a']
          | other => if wildcards && (other = '%' || other = '_') then ['\\', other] else [other]
        (untilQuote q backslash wildcards rest).map fun (s, r) => (value ++ s, r)
    else (untilQuote q backslash wildcards cs).map fun (s, r) => (c :: s, r)

/-- The value of a hexadecimal digit. -/
def hexValue? (c : Char) : Option Nat :=
  if c.isDigit then some (c.toNat - 48)
  else if 'a' ≤ c && c ≤ 'f' then some (c.toNat - 87)
  else if 'A' ≤ c && c ≤ 'F' then some (c.toNat - 55)
  else none

/-- Whether a character is a hexadecimal digit. -/
def isHex (c : Char) : Bool := (hexValue? c).isSome

/-- The number written by hexadecimal digits; none if one of the characters is not a digit. -/
def hexNumber? (cs : List Char) : Option Nat :=
  if cs.isEmpty then none
  else cs.foldl (fun n c => do return (← n) * 16 + (← hexValue? c)) (some 0)

/-- The character with a code point, if there is one. -/
def charOf? (n : Nat) : Option Char := if n.isValidChar then some (Char.ofNat n) else none

/-- The ASCII character with a code in octal or hexadecimal escapes; NUL is not allowed. -/
def asciiOf? (n : Nat) : Option Char :=
  let n := n % 256
  if n = 0 then none else if n ≤ 127 then charOf? n else none

/-- Exactly `count` hexadecimal digits as a character. -/
def charOfHex? (count : Nat) (cs : List Char) : Option (Char × List Char) := do
  let digits := cs.take count
  if digits.length < count then none
  else return (← charOf? (← hexNumber? digits), cs.drop count)

/-- The leading characters that satisfy `p`, at most `limit` of them. -/
def runAtMost (limit : Nat) (p : Char → Bool) (cs : List Char) : List Char :=
  (cs.take limit).takeWhile p

/-- The character after a backslash in `E'..'`. -/
def escapeChar? : List Char → Option (Char × List Char)
  | [] => none
  | c :: cs =>
    match c with
    | 'b' => some ('\x08', cs)
    | 'f' => some ('\x0c', cs)
    | 'n' => some ('\n', cs)
    | 'r' => some ('\r', cs)
    | 't' => some ('\t', cs)
    | 'u' => charOfHex? 4 cs
    | 'U' => charOfHex? 8 cs
    | 'x' =>
      let digits := runAtMost 2 isHex cs
      if digits.isEmpty then some ('x', cs)
      else do return (← asciiOf? (← hexNumber? digits), cs.drop digits.length)
    | _ =>
      let isOctal := fun c : Char => '0' ≤ c && c ≤ '7'
      if isOctal c then
        let digits := c :: runAtMost 2 isOctal cs
        do return (← asciiOf? (digits.foldl (fun n c => n * 8 + (c.toNat - 48)) 0),
            cs.drop (digits.length - 1))
      else some (c, cs)

/-- The text of `E'..'` after its opening quote. -/
def untilEscapedQuote : (fuel : Nat) → List Char → Option (List Char × List Char)
  | 0, _ => none
  | _, [] => none
  | fuel + 1, c :: cs =>
    if c = '\'' then
      match cs with
      | '\'' :: rest => (untilEscapedQuote fuel rest).map fun (s, r) => ('\'' :: s, r)
      | _ => some ([], cs)
    else if c = '\\' then do
      let (value, rest) ← escapeChar? cs
      if value = '\x00' then none
      else (untilEscapedQuote fuel rest).map fun (s, r) => (value :: s, r)
    else (untilEscapedQuote fuel cs).map fun (s, r) => (c :: s, r)

/-- The text of `U&'..'` after its opening quote. -/
def untilCodePointQuote : (fuel : Nat) → List Char → Option (List Char × List Char)
  | 0, _ => none
  | _, [] => none
  | fuel + 1, c :: cs =>
    if c = '\'' then
      match cs with
      | '\'' :: rest => (untilCodePointQuote fuel rest).map fun (s, r) => ('\'' :: s, r)
      | _ => some ([], cs)
    else if c = '\\' then do
      let (value, rest) ← match cs with
        | '\\' :: rest => some ('\\', rest)
        | '+' :: rest => charOfHex? 6 rest
        | _ => charOfHex? 4 cs
      (untilCodePointQuote fuel rest).map fun (s, r) => (value :: s, r)
    else (untilCodePointQuote fuel cs).map fun (s, r) => (c :: s, r)

/-- The text before the first occurrence of `stop`, and what follows that occurrence. -/
def untilText (stop : List Char) : List Char → Option (List Char × List Char)
  | [] => if stop.isEmpty then some ([], []) else none
  | c :: cs =>
    if stop.isPrefixOf (c :: cs) then some ([], (c :: cs).drop stop.length)
    else (untilText stop cs).map fun (s, r) => (c :: s, r)

/-! ## Comments -/

/-- The text of a block comment after its opening, with `depth` comments open around the place. -/
def untilCommentEnd (nested : Bool) : (depth : Nat) → List Char → Option (List Char × List Char)
  | _, [] => none
  | depth, '/' :: '*' :: cs =>
    if nested then (untilCommentEnd nested (depth + 1) cs).map fun (s, r) => ('/' :: '*' :: s, r)
    else (untilCommentEnd nested depth ('*' :: cs)).map fun (s, r) => ('/' :: s, r)
  | depth, '*' :: '/' :: cs =>
    if depth ≤ 1 then some ([], cs)
    else (untilCommentEnd nested (depth - 1) cs).map fun (s, r) => ('*' :: '/' :: s, r)
  | depth, c :: cs => (untilCommentEnd nested depth cs).map fun (s, r) => (c :: s, r)

/-- The text of a comment that ends with its line, with the end of the line, and what follows. -/
def untilLineEnd (d : Dialect) (cs : List Char) : List Char × List Char :=
  let (text, rest) := run (fun c => c != '\n' && !(d == .postgres && c == '\r')) cs
  (text ++ rest.take 1, rest.drop 1)

/-! ## Numbers -/

/-- The digits that satisfy `isDigit`, with the separators that the dialect allows before a digit. -/
def digits (d : Dialect) (isDigit : Char → Bool) : List Char → List Char × List Char
  | [] => ([], [])
  | c :: cs =>
    let separator := d.digitSeparators && c == '_' &&
      match cs with
      | next :: _ => isHex next
      | [] => false
    if isDigit c || separator then
      let (ds, rest) := digits d isDigit cs
      (c :: ds, rest)
    else ([], c :: cs)

/-- The exponent of a number, empty if the characters do not form one. -/
def exponent (cs : List Char) : List Char × List Char :=
  match cs with
  | e :: rest =>
    if e = 'e' || e = 'E' then
      let (sign, rest) := match rest with
        | s :: r => if s = '+' || s = '-' then ([s], r) else ([], rest)
        | [] => ([], [])
      let (ds, after) := run Char.isDigit rest
      if ds.isEmpty then ([], cs) else (e :: sign ++ ds, after)
    else ([], cs)
  | [] => ([], [])

/-- Whether the characters start with the letter of an exponent. -/
def startsExponent : List Char → Bool
  | e :: _ => e == 'e' || e == 'E'
  | [] => false

/-- A token that starts with a digit or a period. `previous` is the token right before it. Where
digits may start a name, the characters after them belong to the name, unless they start like an
exponent. -/
def number (d : Dialect) (previous : Option Token) (cs : List Char) :
    Option (Token × List Char) :=
  let afterWord := match previous with
    | some token => token.isWord
    | none => false
  match cs with
  | '.' :: '_' :: rest => if afterWord then some (.symbol ".", '_' :: rest) else none
  | _ =>
    let (whole, rest) := digits d Char.isDigit cs
    match whole, rest with
    | ['0'], 'x' :: rest =>
      let (hex, rest) := digits d isHex rest
      some (.literal (.hex (String.ofList hex)), rest)
    | _, _ =>
      let (point, rest) := match rest with
        | '.' :: r => (['.'], r)
        | _ => ([], rest)
      let head := whole ++ point
      if head = ['.'] && d.digitsStartNames && afterWord then some (.symbol ".", rest)
      else
        let (fraction, rest) := digits d Char.isDigit rest
        let mantissa := head ++ fraction
        if mantissa = ['.'] then some (.symbol ".", rest)
        else
          let (exp, after) := exponent rest
          let text := mantissa ++ exp
          let (tail, afterTail) := run d.continuesName after
          if d.digitsStartNames && !startsExponent rest && !tail.isEmpty then
            some (.ofWord (String.ofList (text ++ tail)), afterTail)
          else if d.digitsStartNames && startsExponent rest && previous == some (.symbol ".") then
            some (.ofWord (String.ofList text), after)
          else match after with
            | 'L' :: r => some (.literal (.number (String.ofList text) true), r)
            | _ => some (.literal (.number (String.ofList text) false), after)

/-! ## Signs -/

/-- The sign that the characters start with, if there is one. It fails on a sign that is incomplete. -/
def sign? (d : Dialect) (cs : List Char) : Option (Option (Token × List Char)) :=
  match (signs d).find? fun s => s.spelling.toList.isPrefixOf cs with
  | none => some none
  | some s =>
    let rest := cs.drop s.spelling.length
    let (extra, after) := run d.continuesOperator rest
    let lengthened := (Token.custom (String.ofList (s.token.toList ++ extra)), after)
    match s.growth with
    | .fixed => some (some (.symbol s.token, rest))
    | .swallowing => some (some (.symbol s.token, rest.drop 1))
    | .extensible => some (some (if extra.isEmpty then (.symbol s.token, rest) else lengthened))
    | .incomplete => if extra.isEmpty then none else some (some lengthened)

/-! ## Words -/

/-- A word that starts with the given characters. -/
def word (d : Dialect) (first : List Char) (cs : List Char) : Token × List Char :=
  let (more, rest) := run d.continuesName cs
  (.ofWord (String.ofList (first ++ more)), rest)

/-- A word that starts with a sign, if one is next: the character after the sign belongs to it, unless
the two are the start of an operator or of quoted text. -/
def markedWord? (d : Dialect) : List Char → Option (Token × List Char)
  | '#' :: c :: rest =>
    if d.startsName '#' && !(['-', '>', ' '].contains c) then some (word d ['#', c] rest) else none
  | ['@', '@'] => if d.startsName '@' then some (.symbol "@@", []) else none
  | '@' :: '@' :: c :: rest =>
    if !d.startsName '@' then none
    else if c = ' ' then some (.symbol "@@", c :: rest)
    else some (word d ['@', '@', c] rest)
  | '@' :: c :: rest =>
    if d.startsName '@' && !(['>', '?', ' ', '\'', '"', '\x60'].contains c) then
      some (word d ['@', c] rest)
    else none
  | _ => none

/-- Text that one or three quotes `q` open and close, after the first of them; two quotes alone are
an empty text. -/
def rawText (q : Char) (cs : List Char) : Option (Literal × List Char) :=
  let make (text : List Char) : Literal :=
    if q = '"' then .doubleQuotedRaw (String.ofList text) else .raw (String.ofList text)
  match cs with
  | a :: b :: rest =>
    if a = q && b = q then
      (untilText [q, q, q] rest).map fun (s, r) => (.tripleQuotedRaw q (String.ofList s), r)
    else if a = q then some (make [], b :: rest)
    else (untilQuote q false false cs).map fun (s, r) => (make s, r)
  | _ => (untilQuote q false false cs).map fun (s, r) => (make s, r)

/-- A string that a letter introduces, or a word that starts with the letter. -/
def lettered (d : Dialect) (c : Char) (cs : List Char) : Option (Token × List Char) :=
  let plain := some (word d [c] cs)
  let string (q : Char) (backslash : Bool) (make : String → Literal) (cs : List Char) :=
    (untilQuote q backslash d.backslashEscapes cs).map fun (s, r) =>
      (Token.literal (make (String.ofList s)), r)
  match c.toUpper, cs with
  | 'B', '\'' :: rest => string '\'' false .bytes rest
  | 'B', '"' :: rest => string '"' false .doubleQuotedBytes rest
  | 'R', q :: rest =>
    if d.rawStrings && (q = '\'' || q = '"') then
      (rawText q rest).map fun (l, r) => (.literal l, r)
    else plain
  | 'N', '\'' :: rest => string '\'' d.backslashEscapes .national rest
  | 'X', '\'' :: rest => string '\'' true .hex rest
  | 'E', '\'' :: rest =>
    if d.escapedStrings then
      (untilEscapedQuote (rest.length + 1) rest).map fun (s, r) =>
        (.literal (.escaped (String.ofList s)), r)
    else plain
  | 'U', '&' :: '\'' :: rest =>
    if d.codePointStrings then
      (untilCodePointQuote (rest.length + 1) rest).map fun (s, r) =>
        (.literal (.codePoints (String.ofList s)), r)
    else plain
  | _, _ => plain

/-- A token that starts with a dollar sign, which has been read: a string between two equal tags, or
a parameter. -/
def dollar (cs : List Char) : Option (Token × List Char) :=
  match cs with
  | '$' :: rest =>
    (untilText ['$', '$'] rest).map fun (s, r) => (.literal (.dollar none (String.ofList s)), r)
  | _ =>
    let (tag, rest) := run (fun c => Text.isAlphanumeric c || c == '_') cs
    match rest with
    | '$' :: body =>
      (untilText ('$' :: tag ++ ['$']) body).map fun (s, r) =>
        (.literal (.dollar (some (String.ofList tag)) (String.ofList s)), r)
    | _ => some (.literal (.parameter (String.ofList ('$' :: tag))), rest)

/-! ## The stream of tokens -/

/-- What the lexer reads in one step. -/
inductive Scanned where
  | token (t : Token)
  | blank (b : Blank)
deriving DecidableEq, Repr, Inhabited

/-- A comment that the sign `sign` opens and the end of the line closes, after the sign. -/
def lineComment (d : Dialect) (sign : String) (cs : List Char) : Scanned × List Char :=
  let (text, rest) := untilLineEnd d cs
  (.blank (.comment (sign ++ String.ofList text)), rest)

/-- A comment that the characters start with, if there is one. It fails on one that does not end. -/
def comment? (d : Dialect) : List Char → Option (Option (Scanned × List Char))
  | '#' :: rest => some (if d.hashComments then some (lineComment d "#" rest) else none)
  | '-' :: '-' :: rest =>
    some (if !d.dashCommentsNeedBlank || rest.head? = some ' ' then some (lineComment d "--" rest)
      else none)
  | '/' :: '*' :: rest =>
    (untilCommentEnd d.nestedComments 1 rest).map fun (text, rest) =>
      some (.blank (.comment ("/*" ++ String.ofList text ++ "*/")), rest)
  | _ => some none

/-- A parameter that a question mark introduces, if it is one in the dialect. -/
def questionMark? (d : Dialect) : List Char → Option (Token × List Char)
  | '?' :: cs =>
    if d.geometry then none
    else
      let (digits, rest) := run Text.isNumeral cs
      some (.literal (.parameter (String.ofList ('?' :: digits))), rest)
  | _ => none

/-- A token that starts with a character which opens no text. -/
def unquoted (d : Dialect) (c : Char) (cs : List Char) : Option (Scanned × List Char) := do
  match ← comment? d (c :: cs) with
  | some comment => return comment
  | none =>
    match (markedWord? d (c :: cs)).or (questionMark? d (c :: cs)) with
    | some (t, rest) => return (.token t, rest)
    | none =>
      match ← sign? d (c :: cs) with
      | some (t, rest) => return (.token t, rest)
      | none =>
        if d.startsName c then
          let (t, rest) := word d [c] cs
          return (.token t, rest)
        else if c = '$' then
          let (t, rest) ← dollar cs
          return (.token t, rest)
        else if Text.isSpace c then return (.blank .space, cs)
        else return (.token (.symbol (String.ofList [c])), cs)

/-- The next token or blank, of which `c` is the first character. -/
def next (d : Dialect) (previous : Option Token) (c : Char) (cs : List Char) :
    Option (Scanned × List Char) :=
  let token (r : Option (Token × List Char)) := r.map fun (t, rest) => (Scanned.token t, rest)
  match c with
  | ' ' => some (.blank .space, cs)
  | '\t' => some (.blank .tab, cs)
  | '\n' => some (.blank .newline, cs)
  | '\r' => some (.blank .newline, if cs.head? = some '\n' then cs.drop 1 else cs)
  | _ =>
    if c.isAlpha then token (lettered d c cs)
    else if c = '\'' then
      token ((untilQuote '\'' d.backslashEscapes d.backslashEscapes cs).map fun (s, r) =>
        (.literal (.string (String.ofList s)), r))
    else if d.quotesName c then
      token ((untilQuote c false false cs).map fun (s, r) => (.ofQuoted (String.ofList s) c, r))
    else if c = '"' then
      token ((untilQuote '"' d.backslashEscapes d.backslashEscapes cs).map fun (s, r) =>
        (.literal (.doubleQuoted (String.ofList s)), r))
    else if c.isDigit || c = '.' then token (number d previous (c :: cs))
    else unquoted d c cs

/-- The blanks that a text starts with and the lexemes after them. The token `previous` comes right
before the text; `fuel` bounds the number of steps. -/
def stream (d : Dialect) : (fuel : Nat) → (previous : Option Token) → List Char →
    Option (List Blank × List Lexeme)
  | _, _, [] => some ([], [])
  | 0, _, _ => none
  | fuel + 1, previous, c :: cs => do
    let (scanned, rest) ← next d previous c cs
    match scanned with
    | .token t =>
      let (gap, more) ← stream d fuel (some t) rest
      return ([], ⟨t, gap⟩ :: more)
    | .blank b =>
      let (gap, more) ← stream d fuel none rest
      return (b :: gap, more)

/-- The tokens of a statement text with the gaps after them, or none if some part of it is no
token. -/
def lexemes (d : Dialect) (sql : String) : Option (List Lexeme) :=
  let cs := sql.toList
  (stream d (cs.length + 1) none cs).map (·.2)

end RowAccess.Sql.Lexer
