import RowAccess.Sql.Lexer
import RowAccess.Sql.Parser.Change
import RowAccess.Sql.Parser.Control
import RowAccess.Sql.Parser.Definition
import RowAccess.Sql.Parser.Expr
/-!
# Reading statements

A text is read as statements between semicolons, or as one expression. Phrases may be nested up to a
fixed depth.
-/

namespace RowAccess.Sql.Parser

/-- A statement that starts with a word of its own. -/
def wordedStatement (g : Grammar) : P Statement := do
  match ← advance with
  | .word i k =>
    match k with
    | "REPLACE" => if g.dialect == .postgres then unexpected else insert g "REPLACE"
    | "CREATE" => create g
    | "ALTER" => alter g
    | "DROP" => drop g
    | "TRUNCATE" => truncate g
    | _ => control g i.render k
  | _ => unexpected

/-- A statement. -/
def statement (g : Grammar) : P Statement := do
  if ["SELECT", "WITH", "VALUES", "FROM"].contains (← peekWord) || (← peekSymbol "(") then
    return .query (← g.query)
  match ← change? g with
  | some s => return s
  | none => wordedStatement g

/-! ## Levels of nesting -/

/-- The grammars of one level of nesting, one for each setting. -/
structure Level where
  ordinary : Grammar
  column : Grammar
  hierarchy : Grammar

namespace Level

/-- The grammar for a setting. -/
def grammar (l : Level) : Setting → Grammar
  | .ordinary => l.ordinary
  | .column => l.column
  | .hierarchy => l.hierarchy

/-- The level whose grammars are those that `grammar` answers. -/
def ofGrammars (grammar : Setting → Grammar) : Level :=
  ⟨grammar .ordinary, grammar .column, grammar .hierarchy⟩

/-- The grammar in which nothing but a type can be nested. -/
def innermost (d : Dialect) (setting : Setting) : Grammar :=
  let g := Grammar.exhausted d setting
  { g with typeName := typeName g }

/-- The grammar whose nested phrases are those of the level `inner`. -/
def around (d : Dialect) (inner : Level) (setting : Setting) : Grammar :=
  let g := inner.grammar setting
  { dialect := d
    setting
    operandIn := fun s => operand (inner.grammar s)
    primaryIn := fun s => primary (inner.grammar s)
    query := query g (change? g)
    relation := relation g
    statement := statement g
    typeName := typeName g
    column := columnDefinition g }

/-- The level that allows `depth` levels of nested phrases. -/
def ofDepth (d : Dialect) : (depth : Nat) → Level
  | 0 => ofGrammars (innermost d)
  | depth + 1 => ofGrammars (around d (ofDepth d depth))

end Level

/-- How deeply phrases may be nested. -/
def maxDepth : Nat := 50

/-- The grammar of statements and expressions that are not nested in others. -/
def grammar (d : Dialect) : Grammar := (Level.ofDepth d maxDepth).ordinary

/-- Statements with semicolons between them. What follows `END` after a statement is not read.
`fuel` bounds the number of statements. -/
def statements (g : Grammar) : (fuel : Nat) → P (List Statement)
  | 0 => unexpected
  | fuel + 1 => do
    let _ ← many (optional (symbol? ";") (pure ()))
    if ← atEnd then return []
    let s ← g.statement
    match ← peek with
    | none => return [s]
    | some t =>
      if t == .symbol ";" then return s :: (← statements g fuel)
      else if t.isKeyword "END" then return [s]
      else unexpected

end RowAccess.Sql.Parser

namespace RowAccess.Sql

/-- The statements of a text, or none if the text is malformed. -/
def parse (d : Dialect) (sql : String) : Option (List Statement) := do
  let lexemes ← Lexer.lexemes d sql
  match Parser.statements (Parser.grammar d) (lexemes.length + 1) lexemes with
  | .ok (statements, _) => some statements
  | .error _ => none

/-- The expression that a whole text stands for, or none if the text is malformed. -/
def parseExpr (d : Dialect) (sql : String) : Option Expr := do
  let lexemes ← Lexer.lexemes d sql
  match (Parser.grammar d).expr lexemes with
  | .ok (e, []) => some e
  | _ => none

end RowAccess.Sql
