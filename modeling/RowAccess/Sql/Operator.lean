import RowAccess.Sql.Token
/-!
# Operators, tests and names

The parts of an expression that hold no expression themselves, and how each is written.
-/

namespace RowAccess.Sql

/-- A dotted name, such as `schema.table`. -/
abbrev Name := List Ident

/-- A dotted name as it is written. -/
def Name.render (n : Name) : String := ".".intercalate (n.map Ident.render)

/-- An operator between two operands. -/
inductive BinaryOp where
  | or
  | xor
  | and
  | eq
  | notEq
  | lt
  | ltEq
  | gt
  | gtEq
  /-- Any other operator, known by its spelling. -/
  | other (spelling : String)
deriving DecidableEq, Repr, Inhabited

/-- An operator as it is written. -/
def BinaryOp.render : BinaryOp → String
  | or => "OR"
  | xor => "XOR"
  | and => "AND"
  | eq => "="
  | notEq => "<>"
  | lt => "<"
  | ltEq => "<="
  | gt => ">"
  | gtEq => ">="
  | other spelling => spelling

/-- An operator with one operand. -/
inductive UnaryOp where
  | not
  | minus
  | plus
  /-- The factorial, which is written after its operand. -/
  | factorial
  /-- Any other operator, known by its spelling. -/
  | other (spelling : String)
deriving DecidableEq, Repr, Inhabited

/-- An operator with its operand. -/
def UnaryOp.render (operand : String) : UnaryOp → String
  | not => "NOT " ++ operand
  | minus => "-" ++ operand
  | plus => "+" ++ operand
  | factorial => operand ++ "!"
  | other spelling => spelling ++ operand

/-- How a comparison ranges over the values on its right. -/
inductive Quantifier where
  | any
  | some
  | all
deriving DecidableEq, Repr, Inhabited

/-- A quantifier as it is written. -/
def Quantifier.render : Quantifier → String
  | any => "ANY"
  | some => "SOME"
  | all => "ALL"

/-- What a postfix test asks of its operand. -/
inductive Property where
  | null
  | true
  | false
  | unknown
  /-- Normalized text, in a form such as `NFC` or, without a name, the default one. -/
  | normalized (form : Option String)
deriving DecidableEq, Repr, Inhabited

/-- A property as it is written. -/
def Property.render : Property → String
  | null => "NULL"
  | true => "TRUE"
  | false => "FALSE"
  | unknown => "UNKNOWN"
  | normalized none => "NORMALIZED"
  | normalized (some form) => form ++ " NORMALIZED"

/-- A way to match text against a pattern. -/
inductive PatternKind where
  | like
  | ilike
  | similarTo
  | rlike
  | regexp
deriving DecidableEq, Repr, Inhabited

/-- A pattern match as it is written. -/
def PatternKind.render : PatternKind → String
  | like => "LIKE"
  | ilike => "ILIKE"
  | similarTo => "SIMILAR TO"
  | rlike => "RLIKE"
  | regexp => "REGEXP"

/-- A pattern match with its modifiers. -/
structure Matching where
  kind : PatternKind
  negated : Bool
  /-- The pattern is a list of which any member may match. -/
  any : Bool
  escape : Option Literal
deriving DecidableEq, Repr, Inhabited

/-- A notation for a conversion. -/
inductive CastForm where
  | cast
  | tryCast
  | safeCast
  /-- `operand::type` -/
  | doubleColon
deriving DecidableEq, Repr, Inhabited

/-- A column of a table alias, with its type if one is given. -/
structure AliasColumn where
  name : Ident
  type : Option String
deriving DecidableEq, Repr, Inhabited

/-- A column of a table alias as it is written. -/
def AliasColumn.render (c : AliasColumn) : String :=
  match c.type with
  | none => c.name.render
  | some type => c.name.render ++ " " ++ type

/-- The name a relation is given in a query. -/
structure Alias where
  /-- Whether `AS` is written. -/
  explicit : Bool
  name : Ident
  columns : List AliasColumn
deriving DecidableEq, Repr, Inhabited

/-- Column names in parentheses after a space, or nothing if there are none. -/
def renderColumns (columns : List AliasColumn) : String :=
  if columns.isEmpty then ""
  else " (" ++ ", ".intercalate (columns.map AliasColumn.render) ++ ")"

/-- An alias as it is written after a relation, with the space before it. -/
def Alias.render : Option Alias → String
  | none => ""
  | some a =>
    (if a.explicit then " AS " else " ") ++ a.name.render ++ renderColumns a.columns

/-- The ways to combine the rows of two relations. -/
inductive JoinKind where
  | plain
  | inner
  | left
  | leftOuter
  | right
  | rightOuter
  | full
  | cross
  | semi
  | leftSemi
  | rightSemi
  | anti
  | leftAnti
  | rightAnti
  | straight
  | asOf
  | crossApply
  | outerApply
deriving DecidableEq, Repr, Inhabited

/-- A join as it is written. -/
def JoinKind.render : JoinKind → String
  | plain => "JOIN"
  | inner => "INNER JOIN"
  | left => "LEFT JOIN"
  | leftOuter => "LEFT OUTER JOIN"
  | right => "RIGHT JOIN"
  | rightOuter => "RIGHT OUTER JOIN"
  | full => "FULL JOIN"
  | cross => "CROSS JOIN"
  | semi => "SEMI JOIN"
  | leftSemi => "LEFT SEMI JOIN"
  | rightSemi => "RIGHT SEMI JOIN"
  | anti => "ANTI JOIN"
  | leftAnti => "LEFT ANTI JOIN"
  | rightAnti => "RIGHT ANTI JOIN"
  | straight => "STRAIGHT_JOIN"
  | asOf => "ASOF JOIN"
  | crossApply => "CROSS APPLY"
  | outerApply => "OUTER APPLY"

/-- The order in which a `SELECT` names its parts. -/
inductive SelectForm where
  | standard
  /-- `FROM relations SELECT columns` -/
  | relationsFirst
  /-- `FROM relations` -/
  | relationsOnly
deriving DecidableEq, Repr, Inhabited

/-- A way to combine two queries. -/
inductive SetOp where
  | union
  | except
  | intersect
  | minus
deriving DecidableEq, Repr, Inhabited

/-- A set operation as it is written. -/
def SetOp.render : SetOp → String
  | union => "UNION"
  | except => "EXCEPT"
  | intersect => "INTERSECT"
  | minus => "MINUS"

/-- What a statement that is neither a query nor a change of rows does. -/
inductive OtherKind where
  /-- It defines, alters, empties or drops something in the schema. -/
  | definition
  /-- It writes the rows of a query to files. -/
  | export
  /-- Anything else, a merge included. -/
  | other
deriving DecidableEq, Repr, Inhabited

end RowAccess.Sql
