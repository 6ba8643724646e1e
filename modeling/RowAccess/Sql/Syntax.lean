import RowAccess.Sql.Operator
/-!
# Statements as trees

The tree of a parsed statement. What rewriting looks into has a constructor of its own: conditions,
subqueries, relations and joins. A clause that rewriting leaves as it is, such as `LIMIT`, a window
or a whole schema definition, is a list of `Piece`s: its words, with the expressions and queries
inside it as trees.
-/

namespace RowAccess.Sql

mutual

/-- A part of a clause that rewriting leaves as it is. -/
inductive Piece where
  /-- Words, with the spaces around them. -/
  | text (words : String)
  | expr (e : Expr)
  | query (q : Query)
  | relation (r : Relation)
  | statement (s : Statement)

/-- An expression. -/
inductive Expr where
  /-- A column or another named value, qualified or not. -/
  | name (parts : Name)
  | literal (value : Literal)
  /-- A literal between words that say its type, such as `DATE '2020-01-01'`. -/
  | typed (before : String) (value : Literal) (after : String)
  /-- `*` or `qualifier.*` -/
  | wildcard (qualifier : Name)
  | unary (op : UnaryOp) (operand : Expr)
  | binary (op : BinaryOp) (left right : Expr)
  /-- `left op ANY(right)` -/
  | quantified (op : BinaryOp) (quantifier : Quantifier) (left right : Expr)
  /-- `left IS DISTINCT FROM right` -/
  | distinctness (negated : Bool) (left right : Expr)
  /-- `operand AT TIME ZONE zone` -/
  | atTimeZone (operand zone : Expr)
  /-- `operand LIKE pattern` and its kin. -/
  | matching (how : Matching) (operand pattern : Expr)
  /-- `operand IS NULL` and its kin. -/
  | test (negated : Bool) (property : Property) (operand : Expr)
  /-- An expression in parentheses. -/
  | nested (inner : Expr)
  | cast (form : CastForm) (operand : Expr) (type : String)
  | collate (operand : Expr) (collation : Name)
  /-- `EXTRACT(field FROM operand)`, or with a comma. -/
  | extract (field : String) (comma : Bool) (operand : Expr)
  | inList (negated : Bool) (operand : Expr) (members : List Expr)
  | inQuery (negated : Bool) (operand : Expr) (query : Query)
  | between (negated : Bool) (operand low high : Expr)
  | case (operand : Option Expr) (branches : List Branch) (otherwise : Option Expr)
  | tuple (members : List Expr)
  /-- A function call. `parameters` stand in parentheses of their own before the arguments, `filter`
  is its `FILTER` condition, and `grouping` and `window` are the clauses before and after it. -/
  | call (function : Name) (parameters : Arguments) (arguments : Arguments)
      (grouping : List Piece) (filter : Option Expr) (window : List Piece)
  | exists (negated : Bool) (query : Query)
  | subquery (query : Query)
  /-- Parts selected from a value one after the other, such as `a[1].b`. -/
  | access (root : Expr) (steps : List Piece)
  /-- A form with words of its own between its operands, such as `SUBSTRING(a FROM b)`. -/
  | special (pieces : List Piece)

/-- A branch of a `CASE`. -/
inductive Branch where
  | mk (condition result : Expr)

/-- An argument of a call; `label` is its name with the sign after it. -/
inductive Argument where
  | mk (label : List Piece) (value : Expr)

/-- What follows the name of a function. -/
inductive Arguments where
  /-- Nothing, not even parentheses. -/
  | none
  | query (q : Query)
  /-- A list, after `DISTINCT` or `ALL` if written, and before clauses such as `ORDER BY` with what
  separates them from the list. -/
  | list (distinct : String) (arguments : List Argument) (clauses : List Piece)

/-- An expression of a column list or of `ORDER BY`, with its alias and the words after it. -/
inductive Item where
  | mk (expr : Expr) (aliased : Option Ident) (options : List Piece)

/-- A named query of a `WITH` clause. -/
inductive Cte where
  | mk (name : Ident) (columns : List AliasColumn) (materialized : String) (query : Query)
      (source : Option Ident)

/-- A query: its named queries, its body, its order, and the clauses after them. -/
inductive Query where
  | mk (recursive : Bool) (ctes : List Cte) (body : Body) (order : List Item) (tail : List Piece)

/-- The body of a query. -/
inductive Body where
  | select (s : Select)
  /-- A query in parentheses. -/
  | query (q : Query)
  | combined (op : SetOp) (quantifier : String) (left right : Body)
  /-- Rows written out, each a tuple after `rowWord`. -/
  | values (keyword rowWord : String) (rows : List Expr)
  /-- A statement that changes rows and may answer them. -/
  | statement (s : Statement)
  /-- `TABLE name` -/
  | table (name : List String)

/-- A `SELECT`. -/
structure Select where
  form : SelectForm
  /-- `DISTINCT` and `TOP`. -/
  distinct : List Piece
  projection : List Item
  into : String
  relations : List Joined
  /-- The views that `LATERAL VIEW` adds to the relations. -/
  views : List Piece
  prewhere : Option Expr
  selection : Option Expr
  groupBy : List Expr
  /-- The words after the `GROUP BY` list. -/
  groupOptions : List Piece
  /-- `CLUSTER BY`, `DISTRIBUTE BY` and `SORT BY`. -/
  clustering : List Piece
  having : Option Expr
  /-- Named windows, and whether they stand before `QUALIFY`. -/
  windows : List Piece
  windowsFirst : Bool
  qualify : Option Expr
  /-- `START WITH` and `CONNECT BY`. -/
  hierarchy : List Piece

/-- What pairs the rows of a join. -/
inductive JoinConstraint where
  | on (condition : Expr)
  | columns (names : List Name)
  | natural
  | none

/-- A joined relation. -/
inductive Join where
  | mk (global : Bool) (kind : JoinKind) (relation : Relation) (matchCondition : Option Expr)
      (constraint : JoinConstraint)

/-- A relation with the relations joined to it, from left to right. -/
inductive Joined where
  | mk (relation : Relation) (joins : List Join)

/-- A relation of a `FROM` list. -/
inductive Relation where
  /-- A table, or the result of a function if there are arguments. Only some of its partitions are
  read if any are named, and its rows are numbered with `ordinality`. -/
  | table (name : Name) (partitions : List Ident) (arguments : Arguments) (ordinality : Bool)
      (aliased : Option Alias) (after : List Piece)
  | derived (lateral : Bool) (query : Query) (aliased : Option Alias)
  /-- Joins in parentheses. -/
  | nested (joined : Joined) (aliased : Option Alias)
  /-- A relation turned into another by `PIVOT` and its kin. -/
  | reshaped (relation : Relation) (clause : List Piece) (aliased : Option Alias)
  /-- `TABLE(expression)` -/
  | function (call : Expr) (aliased : Option Alias)
  /-- Any other source of rows, with what follows its alias. -/
  | special (pieces : List Piece) (aliased : Option Alias) (after : List Piece)

/-- An assignment of an `UPDATE`. -/
inductive Assignment where
  | mk (target : String) (value : Expr)

/-- An `UPDATE`. -/
structure Update where
  /-- What to do on a conflict, as words before the table. -/
  conflict : String
  target : Joined
  assignments : List Assignment
  /-- Whether the `FROM` list stands before `SET`. -/
  relationsFirst : Bool
  relations : List Joined
  selection : Option Expr
  tail : List Piece

/-- A `DELETE`. -/
structure Delete where
  tables : List Name
  /-- Whether `FROM` is written. -/
  fromWord : Bool
  relations : List Joined
  others : List Joined
  selection : Option Expr
  tail : List Piece

/-- A statement. -/
inductive Statement where
  | query (q : Query)
  | update (u : Update)
  | delete (d : Delete)
  /-- An `INSERT` into a table, with all its words. -/
  | insert (table : String) (pieces : List Piece)
  | other (kind : OtherKind) (pieces : List Piece)

end

/-- The trivial query, for types that need a default. -/
instance : Inhabited Expr := ⟨.literal .null⟩

namespace Query

/-- A query that consists of a body alone. -/
def ofBody (body : Body) : Query := .mk false [] body [] []

end Query

end RowAccess.Sql
