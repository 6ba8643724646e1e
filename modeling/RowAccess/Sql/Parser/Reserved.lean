import RowAccess.Sql.Dialect
/-!
# Reserved words

A word after an expression or a relation may be its alias, or the start of the next clause. The words
below start clauses, so that they are no alias unless `AS` is written before them.
-/

namespace RowAccess.Sql.Parser

/-- Words that neither a column nor a table takes as its alias. -/
def reservedWords : List String :=
  ["WITH", "EXPLAIN", "ANALYZE", "SELECT", "WHERE", "GROUP", "SORT", "HAVING", "ORDER", "TOP",
    "LATERAL", "VIEW", "LIMIT", "OFFSET", "FETCH", "UNION", "EXCEPT", "INTERSECT", "MINUS",
    "RETURNING", "CLUSTER", "DISTRIBUTE", "END", "FROM"]

/-- Words that a column does not take as its alias. -/
def reservedForColumn : List String := reservedWords ++ ["EXCLUDE", "INTO"]

/-- Words that a table does not take as its alias. -/
def reservedForTable : List String :=
  reservedWords ++
    ["PIVOT", "UNPIVOT", "ON", "JOIN", "INNER", "CROSS", "FULL", "LEFT", "RIGHT", "NATURAL",
      "USING", "GLOBAL", "ANTI", "SEMI", "ASOF", "MATCH_CONDITION", "OUTER", "SET", "QUALIFY",
      "WINDOW", "FOR", "PARTITION", "PREWHERE", "SETTINGS", "FORMAT", "START", "CONNECT",
      "MATCH_RECOGNIZE", "SAMPLE", "TABLESAMPLE", "OPEN"]

/-- Words that a table does not take as its alias where tables may have index hints. -/
def reservedForHints : List String := ["USE", "IGNORE", "FORCE", "STRAIGHT_JOIN"]

/-- Whether the keyword may be the alias of a column without `AS`. -/
def columnAlias (keyword : String) : Bool := !reservedForColumn.contains keyword

/-- Whether the keyword may be the alias of a table without `AS`. -/
def tableAlias (d : Dialect) (keyword : String) : Bool :=
  !reservedForTable.contains keyword && !(d == .mysql && reservedForHints.contains keyword)

/-- Words that introduce an expression and are no names where such an expression cannot be read. -/
def reservedForName (d : Dialect) (keyword : String) : Bool :=
  ["EXISTS", "STRUCT", "TRIM"].contains keyword || (keyword == "INTERVAL" && d != .postgres)

end RowAccess.Sql.Parser
