import RowAccess.Sql.Lexer
import RowAccess.Sql.Printer
/-!
# Parsers

A parser takes the tokens that are left, and answers what it read with the tokens after it, or why it
failed. A parser that fails has read nothing, so alternatives are tried by running one parser and
then the next on the same tokens.

Phrases nest: an expression may hold a query and a query holds expressions. A `Grammar` is the bundle
of parsers for the phrases that may stand inside others, and every parser takes the bundle it uses
for the phrases inside its own. Nesting is bounded: the bundle that is used first allows a certain
number of levels, and each level hands the next one down to the phrases inside it.
-/

namespace RowAccess.Sql.Parser

/-- Why a text could not be read. -/
inductive Failure where
  /-- The tokens do not form the phrase. -/
  | unexpected
  /-- Phrases are nested more deeply than the parser follows. -/
  | tooDeep
deriving DecidableEq, Repr, Inhabited

/-- A parser of phrases of type `α`. -/
abbrev P (α : Type) := StateT (List Lexeme) (Except Failure) α

/-- The parser that always fails. -/
def unexpected {α : Type} : P α := throw .unexpected

/-- Where an expression stands, as far as its operators depend on it. -/
inductive Setting where
  | ordinary
  /-- In the definition of a column, where `NOT NULL` and `COLLATE` end an expression. -/
  | column
  /-- In a `CONNECT BY`, where `PRIOR` refers to the row before. -/
  | hierarchy
deriving DecidableEq, Repr, Inhabited

/-- How a type name was recognised. -/
inductive TypeClass where
  | known
  | interval
  | custom
deriving DecidableEq, Repr, Inhabited

/-- A type name as it was read. -/
structure TypeName where
  /-- The name in normal form. -/
  text : String
  kind : TypeClass
  /-- Whether the closing bracket of the type around it was read with its own. -/
  closed : Bool
deriving DecidableEq, Repr, Inhabited

/-- The parsers of the phrases that may stand inside other phrases. -/
structure Grammar where
  dialect : Dialect
  /-- Where the phrases stand. -/
  setting : Setting
  /-- An expression in a setting whose operators bind more tightly than the given strength. -/
  operandIn : Setting → Nat → P Expr
  /-- An expression in a setting without an operator after it. -/
  primaryIn : Setting → P Expr
  query : P Query
  relation : P Relation
  statement : P Statement
  typeName : P TypeName
  /-- The definition of a column. -/
  column : P (List Piece)

namespace Grammar

/-- The grammar in which no phrase can be nested any more. -/
def exhausted (d : Dialect) (setting : Setting) : Grammar where
  dialect := d
  setting := setting
  operandIn _ _ := throw .tooDeep
  primaryIn _ := throw .tooDeep
  query := throw .tooDeep
  relation := throw .tooDeep
  statement := throw .tooDeep
  typeName := throw .tooDeep
  column := throw .tooDeep

/-- An expression whose operators bind more tightly than the given strength. -/
def operand (g : Grammar) (strength : Nat) : P Expr := g.operandIn g.setting strength

/-- An expression. -/
def expr (g : Grammar) : P Expr := g.operand 0

/-- An expression without an operator after it. -/
def primary (g : Grammar) : P Expr := g.primaryIn g.setting

/-- A type name, as it is written in normal form. -/
def type (g : Grammar) : P String := do
  let t ← g.typeName
  if t.closed then unexpected else return t.text

end Grammar

/-! ## Tokens -/

/-- The next `n` tokens, or all if there are fewer, which stay. -/
def ahead (n : Nat) : P (List Token) := fun ts => .ok ((ts.take n).map (·.token), ts)

/-- Leaves out the next `n` tokens. -/
def skip (n : Nat) : P Unit := fun ts => .ok ((), ts.drop n)

/-- The token `n` places ahead. -/
def peekAt (n : Nat) : P (Option Token) := fun ts => .ok (ts[n]?.map (·.token), ts)

/-- The next token, which stays. -/
def peek : P (Option Token) := peekAt 0

/-- Whether no token is left. -/
def atEnd : P Bool := return (← peek).isNone

/-- The next token with the gap after it, whatever it is. -/
def advanceLexeme : P Lexeme
  | [] => .error .unexpected
  | l :: ts => .ok (l, ts)

/-- The next token, whatever it is. -/
def advance : P Token := return (← advanceLexeme).token

/-- The next token if it is the symbol `s`, and whether it was. -/
def symbol? (s : String) : P Bool
  | [] => .ok (false, [])
  | l :: ts => if l.token == .symbol s then .ok (true, ts) else .ok (false, l :: ts)

/-- The symbol `s`. -/
def symbol (s : String) : P Unit := do
  if ← symbol? s then pure () else unexpected

/-- Whether the token `n` places ahead is the symbol `s`. -/
def peekSymbolAt (n : Nat) (s : String) : P Bool := return (← peekAt n) == some (.symbol s)

/-- Whether the next token is the symbol `s`. -/
def peekSymbol (s : String) : P Bool := peekSymbolAt 0 s

/-- Whether the token `n` places ahead is the keyword `k`. -/
def peekKeywordAt (n : Nat) (k : String) : P Bool := do
  match ← peekAt n with
  | some t => return t.isKeyword k
  | none => return false

/-- Whether the next token is the keyword `k`. -/
def peekKeyword (k : String) : P Bool := peekKeywordAt 0 k

/-- The next token if it is the keyword `k`, and whether it was. -/
def keyword? (k : String) : P Bool
  | [] => .ok (false, [])
  | l :: ts => if l.token.isKeyword k then .ok (true, ts) else .ok (false, l :: ts)

/-- The tokens after a sequence of keywords, if the tokens start with them. -/
def afterKeywords : List String → List Lexeme → Option (List Lexeme)
  | [], ts => some ts
  | _ :: _, [] => none
  | k :: ks, l :: ts => if l.token.isKeyword k then afterKeywords ks ts else none

/-- The keywords `ks` in sequence if they are next, and whether they were. -/
def keywords? (ks : List String) : P Bool := fun ts =>
  match afterKeywords ks ts with
  | some rest => .ok (true, rest)
  | none => .ok (false, ts)

/-- Whether the keywords `ks` are next, in sequence. -/
def peekKeywords (ks : List String) : P Bool := fun ts => .ok ((afterKeywords ks ts).isSome, ts)

/-- The keyword `k`. -/
def keyword (k : String) : P Unit := do
  if ← keyword? k then pure () else unexpected

/-- The keywords `ks` in sequence. -/
def keywords (ks : List String) : P Unit := do
  if ← keywords? ks then pure () else unexpected

/-- The keyword that is next, empty if the next token is no unquoted word. -/
def peekWord : P String := do
  match ← peek with
  | some (.word _ k) => return k
  | _ => return ""

/-- The next keyword if it is one of `ks`. -/
def oneOf? (ks : List String) : P (Option String) := do
  let k ← peekWord
  if ks.contains k then
    skip 1
    return some k
  else return none

/-- One of the keywords `ks`. -/
def oneOf (ks : List String) : P String := do
  match ← oneOf? ks with
  | some k => return k
  | none => unexpected

/-- The first of the keyword sequences that comes next, with a space between its words. -/
def phrase? : List (List String) → P (Option String)
  | [] => return none
  | ks :: rest => do if ← keywords? ks then return some (" ".intercalate ks) else phrase? rest

/-- One of the keyword sequences, with a space between its words. -/
def phrase (phrases : List (List String)) : P String := do
  match ← phrase? phrases with
  | some words => return words
  | none => unexpected

/-! ## Combining parsers -/

/-- Whether the condition holds and `p` finds what it looks for. Unless the condition holds, nothing is
read. -/
def onlyIf (condition : Bool) (p : P Bool) : P Bool := if condition then p else return false

/-- What `p` reads, or nothing if it fails for another reason than depth. -/
def attempt {α : Type} (p : P α) : P (Option α) := fun ts =>
  match p ts with
  | .ok (a, rest) => .ok (some a, rest)
  | .error .tooDeep => .error .tooDeep
  | .error .unexpected => .ok (none, ts)

/-- What `p` reads if the condition holds. -/
def optional {α : Type} (condition : P Bool) (p : P α) : P (Option α) := do
  if ← condition then return some (← p) else return none

/-- Runs `step` until it answers nothing, and collects the answers; `fuel` bounds their number. -/
def collect {α : Type} (step : P (Option α)) : (fuel : Nat) → P (List α)
  | 0 => throw .tooDeep
  | fuel + 1 => do
    match ← step with
    | none => return []
    | some a => return a :: (← collect step fuel)

/-- Runs `step` until it answers nothing, and collects the answers. -/
def many {α : Type} (step : P (Option α)) : P (List α) := fun ts =>
  collect step (ts.length + 2) ts

/-- Phrases with commas between them, at least one. -/
def commas {α : Type} (p : P α) : P (List α) := do
  let first ← p
  let more ← many (optional (symbol? ",") p)
  return first :: more

/-- Phrases with commas between them, or none before the symbol `close`. -/
def commasUntil {α : Type} (close : String) (p : P α) : P (List α) := do
  if ← peekSymbol close then return [] else commas p

/-- Applies `step` to a value until it answers nothing; `fuel` bounds the number of steps. -/
def iterate {α : Type} (step : α → P (Option α)) : (fuel : Nat) → α → P α
  | 0, _ => throw .tooDeep
  | fuel + 1, a => do
    match ← step a with
    | none => return a
    | some b => iterate step fuel b

/-- Applies `step` to a value until it answers nothing. -/
def repeated {α : Type} (step : α → P (Option α)) (start : α) : P α := fun ts =>
  iterate step (ts.length + 2) start ts

/-- A phrase in parentheses. -/
def parens {α : Type} (p : P α) : P α := do
  symbol "("
  let a ← p
  symbol ")"
  return a

/-! ## Names -/

/-- A name: a word, or a quoted string in its place. -/
def ident : P Ident := do
  match ← advance with
  | .word i _ => return i
  | .literal (.string s) => return ⟨s, some '\''⟩
  | .literal (.doubleQuoted s) => return ⟨s, some '"'⟩
  | _ => unexpected

/-- A name as it is written. -/
def identText : P String := return (← ident).render

/-- A dotted name. -/
def objectName : P Name := do
  let first ← ident
  let more ← many (optional (symbol? ".") ident)
  return first :: more

/-- A dotted name as it is written. -/
def nameText : P String := return Name.render (← objectName)

/-- Names with commas between them. -/
def renderIdents (names : List Ident) : String := ", ".intercalate (names.map Ident.render)

/-- Names with commas between them, in parentheses. -/
def renderNames (names : List Ident) : String := "(" ++ renderIdents names ++ ")"

/-- Names in parentheses. -/
def identsInParens : P (List Ident) := parens (commas ident)

/-- Names in parentheses, if there are any; nothing may stand between them if `empty` allows it. -/
def optionalColumns (empty : Bool) : P (List Ident) := do
  if ← peekSymbol "(" then
    parens (if empty then commasUntil ")" ident else commas ident)
  else return []

/-- The words of every token up to the end or to an equals sign. -/
def wordsToEnd : P (List Ident) := do
  let next : P (Option (Option Ident)) := do
    match ← peek with
    | none | some (.symbol "=") => return none
    | some (.word i _) => do
      skip 1
      return some (some i)
    | some _ => do
      skip 1
      return some none
  return (← many next).filterMap id

/-! ## Building clauses -/

/-- Words as pieces of a clause, and no piece if there are none. -/
def words (text : String) : List Piece := if text.isEmpty then [] else [.text text]

/-- Pieces with commas between them. -/
def separated (lists : List (List Piece)) : List Piece :=
  match lists with
  | [] => []
  | first :: more => first ++ more.flatMap fun ps => .text ", " :: ps

/-- The clauses that are not empty, with a space between them. -/
def spaced (clauses : List (List Piece)) : List Piece :=
  match clauses.filter (!·.isEmpty) with
  | [] => []
  | first :: more => first ++ more.flatMap fun ps => .text " " :: ps

/-- The clauses that are not empty, with a space before each. -/
def afterSpaces (clauses : List (List Piece)) : List Piece :=
  (clauses.filter (!·.isEmpty)).flatMap fun ps => .text " " :: ps

/-- Expressions with commas between them. -/
def exprPieces (es : List Expr) : List Piece := separated (es.map fun e => [.expr e])

/-- An item as a piece of a clause. -/
def itemPieces : Item → List Piece
  | .mk e aliased options =>
    .expr e :: (match aliased with
      | none => []
      | some name => [.text (" AS " ++ name.render)]) ++ options

/-- Items with commas between them. -/
def itemsPieces (items : List Item) : List Piece := separated (items.map itemPieces)

/-- The words `ks` with a space before each if they are next, and nothing else. -/
def wordsBefore (ks : List String) : P String := do
  return if ← keywords? ks then String.join (ks.map (" " ++ ·)) else ""

/-- The words `ks` with a space after each if they are next, and nothing else. -/
def wordsIf (ks : List String) : P String := do
  return if ← keywords? ks then String.join (ks.map (· ++ " ")) else ""

/-- One of the keywords with a space before it, if one is next. -/
def lastWord (ks : List String) : P String := do
  match ← oneOf? ks with
  | some k => return " " ++ k
  | none => return ""

/-- One of the keyword sequences with a space before it, if one is next. -/
def lastPhrase (phrases : List (List String)) : P String := do
  match ← phrase? phrases with
  | some words => return " " ++ words
  | none => return ""

/-- What `p` reads if the keywords `ks` come first, and no clause otherwise. -/
def clause (ks : List String) (p : P (List Piece)) : P (List Piece) := do
  if ← keywords? ks then p else return []

/-- The words that `p` reads if the keywords `ks` come first, and none otherwise. -/
def wordsAfter (ks : List String) (p : P String) : P String := do
  if ← keywords? ks then p else return ""

/-- A name after the keywords `ks`, with a space before each word, if they are next. -/
def identClause (ks : List String) : P String := wordsAfter ks do
  return String.join (ks.map (" " ++ ·)) ++ " " ++ (← identText)

/-- A dotted name after the keywords `ks`, with a space before each word, if they are next. -/
def nameClause (ks : List String) : P String := wordsAfter ks do
  return String.join (ks.map (" " ++ ·)) ++ " " ++ (← nameText)

/-- That something is only created where it does not exist yet, with a space after the words. -/
def unlessExists : P String := wordsIf ["IF", "NOT", "EXISTS"]

/-- That something need not exist, with a space after the words. -/
def whenExists : P String := wordsIf ["IF", "EXISTS"]

/-- What becomes of what depends on something removed, with a space before the word. -/
def dropBehavior : P String := lastWord ["CASCADE", "RESTRICT"]

/-- An expression after the words `lead`. -/
def Grammar.exprAfter (g : Grammar) (lead : String) : P (List Piece) :=
  return [.text lead, .expr (← g.expr)]

/-- Expressions with commas between them after the words `lead`. -/
def Grammar.exprsAfter (g : Grammar) (lead : String) : P (List Piece) :=
  return .text lead :: exprPieces (← commas g.expr)

/-- An expression after the keywords `ks`, with a space before each word, if they are next. -/
def Grammar.exprClause (g : Grammar) (ks : List String) : P (List Piece) :=
  clause ks (g.exprAfter (String.join (ks.map (" " ++ ·)) ++ " "))

/-- Expressions with commas between them, in parentheses, after the words `lead`. -/
def Grammar.exprsInParens (g : Grammar) (lead : String) : P (List Piece) := do
  return .text (lead ++ "(") :: exprPieces (← parens (commas g.expr)) ++ [Piece.text ")"]

/-! ## Building statements -/

/-- A statement known by its words. -/
def plain (words : String) : Statement := .other .other [.text words]

/-- A statement on the schema. -/
def definition (pieces : List Piece) : Statement := .other .definition pieces

end RowAccess.Sql.Parser
