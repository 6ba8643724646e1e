import RowAccess.Sql.Parser.Block
import RowAccess.Sql.Parser.Call
/-!
# Reading statements of programs

Branches and loops over statements, messages, calls and prepared statements.
-/

namespace RowAccess.Sql.Parser

/-! ## Branches -/

/-- The block of a branch with a space before it, and nothing if it holds no statement. -/
def branchBody (g : Grammar) (ends : List String) : P (List Piece) := do
  let b ← block g ends
  return if b.statements.isEmpty then [] else .text " " :: b.pieces

/-- A branch with its condition, after the word `word`. -/
def branch (g : Grammar) (word : String) (ends : List String) : P (List Piece) := do
  let condition ← g.exprAfter (word ++ " ")
  keyword "THEN"
  return condition ++ [Piece.text " THEN"] ++ (← branchBody g ends)

/-- The branch without a condition, if one is next. -/
def lastBranch (g : Grammar) : P (List Piece) := do
  if ← peekKeyword "ELSE" then
    let word ← writtenKeyword "ELSE"
    return .text word :: (← branchBody g ["END"])
  else return []

/-- Branches that the word `k` introduces, kept as it is written. -/
def branches (g : Grammar) (k : String) : P (List (List Piece)) :=
  many (optional (peekKeyword k) do branch g (← writtenKeyword k) [k, "ELSE", "END"])

/-- An `IF`, whose word is written as `word`. -/
def ifStatement (g : Grammar) (word : String) : P Statement := do
  let first ← branch g word ["ELSE", "ELSEIF", "END"]
  let others ← branches g "ELSEIF"
  let last ← lastBranch g
  keyword "END"
  let closing ← writtenKeyword "IF"
  return .other .other (spaced ([first] ++ others ++ [last]) ++ [Piece.text (" END " ++ closing)])

/-- A `CASE` between statements, after the word. -/
def caseStatement (g : Grammar) : P Statement := do
  let operand ← if ← peekKeyword "WHEN" then pure [] else g.exprAfter " "
  let list ← branches g "WHEN"
  if list.isEmpty then unexpected
  let last ← lastBranch g
  keyword "END"
  return .other .other (.text "CASE" :: operand ++ afterSpaces (list ++ [last]) ++
    [Piece.text (" END" ++ (← wordsBefore ["CASE"]))])

/-- A `WHILE`, whose word is written as `word`. -/
def whileStatement (g : Grammar) (word : String) : P Statement := do
  let condition ← g.exprAfter (word ++ " ")
  return .other .other (condition ++ (← branchBody g ["END"]))

/-! ## Messages -/

/-- An expression with a space before it, if one is next. -/
def exprIfNext (g : Grammar) : P (List Piece) := do
  match ← attempt g.expr with
  | some e => return [.text " ", .expr e]
  | none => return []

/-- An error to raise, after `RAISE`. -/
def raise (g : Grammar) : P Statement := do
  if ← keywords? ["USING", "MESSAGE"] then
    symbol "="
    return .other .other (← g.exprAfter "RAISE USING MESSAGE = ")
  else return .other .other (.text "RAISE" :: (← exprIfNext g))

/-- An error with its severity and state, after `RAISERROR`. -/
def raiseError (g : Grammar) : P Statement := do
  let values ← parens (commas g.expr)
  if values.length < 3 then unexpected
  let options ← wordsAfter ["WITH"] do
    return " WITH " ++ ", ".intercalate (← commas (oneOf ["LOG", "NOWAIT", "SETERROR"]))
  return .other .other ([Piece.text "RAISERROR("] ++ exprPieces values ++
    [Piece.text (")" ++ options)])

/-- A condition that must hold, after `ASSERT`. -/
def assertion (g : Grammar) : P Statement := do
  let condition ← g.exprAfter "ASSERT "
  return .other .other (condition ++ (← g.exprClause ["AS"]))

/-! ## Calls -/

/-- A call of a procedure, after `CALL`. -/
def callStatement (g : Grammar) : P Statement := do
  let name ← objectName
  if ← peekSymbol "(" then return .other .other [.text "CALL ", .expr (← call g name)]
  else return plain ("CALL " ++ Name.render name)

/-- The arguments of a prepared statement, in parentheses or after a space. -/
def executeArguments (g : Grammar) : P (List Piece) := do
  if ← peekSymbol "(" then
    return [Piece.text "("] ++ exprPieces (← parens (commasUntil ")" g.expr)) ++ [Piece.text ")"]
  let ended := (← atEnd) || (← peekSymbol ";") || ["USING", "OUTPUT", "DEFAULT"].contains (← peekWord)
  if ended then return [] else return .text " " :: exprPieces (← commas g.expr)

/-- A value for a prepared statement, with its name. -/
def executeValue (g : Grammar) : P (List Piece) := do
  let value ← g.expr
  return [.expr value, .text (← identClause ["AS"])]

/-- A prepared statement to execute, after `EXECUTE`. -/
def execute (g : Grammar) : P Statement := do
  let name ← nameText
  let args ← executeArguments g
  let into ← wordsAfter ["INTO"] do return " INTO " ++ renderIdents (← commas ident)
  let values ← clause ["USING"] do return .text " USING " :: separated (← commas (executeValue g))
  let output ← wordsBefore ["OUTPUT"]
  return .other .other (.text ("EXECUTE " ++ name) :: args ++ words into ++ values ++
    words (output ++ (← wordsBefore ["DEFAULT"])))

/-- A statement to prepare, after `PREPARE`. -/
def prepare (g : Grammar) : P Statement := do
  let name ← identText
  let types ← if ← peekSymbol "(" then parens (commas g.type) else pure []
  keyword "AS"
  let list := if types.isEmpty then "" else "(" ++ ", ".intercalate types ++ ") "
  return .other .other [.text ("PREPARE " ++ name ++ " " ++ list ++ "AS "), .statement (← g.statement)]

/-- A statement of a program that is written as `word`, after the word `k`. -/
def procedural (g : Grammar) (word k : String) : P Statement := do
  match k with
  | "IF" => ifStatement g word
  | "CASE" => caseStatement g
  | "WHILE" => whileStatement g word
  | "RAISE" => raise g
  | "RAISERROR" => raiseError g
  | "ASSERT" => assertion g
  | "PRINT" => return .other .other (← g.exprAfter "PRINT ")
  | "RETURN" => return .other .other (.text "RETURN" :: (← exprIfNext g))
  | "CALL" => callStatement g
  | "EXECUTE" | "EXEC" => execute g
  | "PREPARE" => prepare g
  | _ => do
    let lead ← wordsIf ["PREPARE"]
    return plain ("DEALLOCATE " ++ lead ++ (← identText))

end RowAccess.Sql.Parser
