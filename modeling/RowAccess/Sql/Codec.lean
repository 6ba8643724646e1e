import RowAccess.Sql.Parser
import RowAccess.Sql.Printer
/-!
# Reading and writing SQL

Rewriting reads and writes SQL only through a `Codec`, so that the dialect, or all of the reading, can
be replaced without touching what rewriting does.
-/

namespace RowAccess.Sql

/-- Reads and writes SQL. -/
structure Codec where
  /-- The statements of a text, or none if the text is malformed. -/
  parse : String → Option (List Statement)
  /-- The expression that a whole text stands for, or none if the text is malformed. -/
  parseExpr : String → Option Expr
  /-- The text of statements. -/
  render : List Statement → String

/-- The codec of a dialect. -/
def Codec.ofDialect (d : Dialect) : Codec := ⟨Sql.parse d, Sql.parseExpr d, renderStatements⟩

end RowAccess.Sql
