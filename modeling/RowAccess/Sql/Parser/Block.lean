import RowAccess.Sql.Parser.Basic
/-!
# Reading blocks of statements

A block is a list of statements, each with a semicolon after it, that the word of the phrase around it
ends. It may stand between `BEGIN` and `END`.
-/

namespace RowAccess.Sql.Parser

/-- The next statement of a block, unless one of the words `ends` or the end is next. -/
def blockStatement? (g : Grammar) (ends : List String) : P (Option (List Piece)) := do
  match ← peek with
  | none => return none
  | some t =>
    if ends.any (t.isKeyword ·) then return none
    let s ← g.statement
    symbol ";"
    return some [.statement s]

/-- Statements up to one of the words `ends` or to the end, with a semicolon after each. -/
def statementList (g : Grammar) (ends : List String) : P (List Piece) := do
  match ← many (blockStatement? g ends) with
  | [] => return []
  | first :: more => return first ++ more.flatMap (.text "; " :: ·) ++ [.text ";"]

/-- The keyword `k` as it is written. -/
def writtenKeyword (k : String) : P String := do
  let t ← advance
  if t.isKeyword k then return t.render else unexpected

/-- A block of statements, with the words around it if it has any. -/
structure Block where
  opening : String := ""
  statements : List Piece
  closing : String := ""

/-- A block as it is written. -/
def Block.pieces (b : Block) : List Piece := words b.opening ++ b.statements ++ words b.closing

/-- Statements between `BEGIN` and `END`, or up to one of the words `ends`. -/
def block (g : Grammar) (ends : List String) : P Block := do
  if ← peekKeyword "BEGIN" then
    let opening ← writtenKeyword "BEGIN"
    let statements ← statementList g ends
    let closing ← writtenKeyword "END"
    return { opening := opening ++ " ", statements, closing := " " ++ closing }
  else return { statements := ← statementList g ends }

end RowAccess.Sql.Parser
