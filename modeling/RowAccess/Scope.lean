import RowAccess.Concern
import RowAccess.Operation
/-!
# Scopes and their predicates

Rewriting asks for the predicates of one *scope* at a time: the tables whose predicates end up in the
same place, which is the `WHERE` of a query or statement, the condition of an outer join, or the
filter of a table that is replaced by a query.
-/

namespace RowAccess

/-- Where the predicates of a scope are placed. -/
inductive Placement where
  /-- In the `WHERE` of the query or statement. -/
  | filter
  /-- In the condition of an outer join, or in the filter of a wrapped table. -/
  | join
deriving DecidableEq, Repr, Inhabited

/-- The tables whose predicates are placed together. -/
structure Scope where
  operation : Operation
  placement : Placement
  tables : List Table
  /-- How many tables the query or statement reads by name, wherever their predicates are placed. -/
  visible : Nat
deriving DecidableEq, Repr, Inhabited

namespace Scope

/-- Whether columns need no qualifier: only where an update or a delete reads a single table. -/
def bareColumns (s : Scope) : Bool :=
  (s.operation == .update || s.operation == .delete) && s.placement == .filter && s.visible == 1

/-- What the columns of a table are qualified with in this scope, if with anything. -/
def qualifierFor (s : Scope) (t : Table) : Option String :=
  if s.bareColumns && t.aliasName.isNone then none else some t.qualifier

end Scope

/-- A condition that restricts the rows of a scope. -/
structure Predicate where
  concern : Concern
  /-- The table it restricts, if it names one. -/
  table : Option String
  condition : Sql.Expr

end RowAccess
