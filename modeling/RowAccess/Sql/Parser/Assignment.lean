import RowAccess.Sql.Parser.Basic
/-!
# Reading assignments
-/

namespace RowAccess.Sql.Parser

/-- An assignment of an expression to a column or to several. -/
def assignment (g : Grammar) : P Assignment := do
  let target ← if ← peekSymbol "(" then do
      pure ("(" ++ ", ".intercalate (← parens (commas nameText)) ++ ")")
    else nameText
  symbol "="
  return .mk target (← g.expr)

/-- Assignments as pieces of a clause. -/
def assignments (g : Grammar) : P (List Piece) := do
  let list ← commas (assignment g)
  return separated (list.map fun | .mk target value => [.text (target ++ " = "), .expr value])

end RowAccess.Sql.Parser
