import RowAccess.Sql.Printer
import RowAccess.Table
/-!
# What statements do

The operation of a statement, and the tables it reads by name.
-/

namespace RowAccess

/-- What a statement does. -/
inductive Operation where
  | select
  | insert
  | update
  | delete
  /-- It changes the schema. -/
  | definition
  | other
deriving DecidableEq, Repr, Inhabited

/-- The word for an operation. -/
def Operation.word : Operation → String
  | select => "select"
  | insert => "insert"
  | update => "update"
  | delete => "delete"
  | definition => "ddl"
  | other => "other"

namespace Sql

/-- What a statement does. -/
def Statement.operation : Statement → Operation
  | .query _ => .select
  | .update _ => .update
  | .delete _ => .delete
  | .insert .. => .insert
  | .other .definition _ => .definition
  | .other .export _ => .other
  | .other .other _ => .other

/-- Whether a statement changes the schema. -/
def Statement.isDefinition (s : Statement) : Bool := s.operation == .definition

/-- The table that a relation names, if it names one. -/
def Relation.table? : Relation → Option Table
  | .table name _ _ _ aliased _ => some ⟨Name.render name, aliased.map (·.name.render)⟩
  | _ => none

mutual

/-- The tables a query reads, without those in its conditions and columns. -/
def Query.tables : Query → List Table
  | .mk _ ctes body _ _ => Cte.tables ctes ++ body.tables

/-- The tables of named queries. -/
def Cte.tables : List Cte → List Table
  | [] => []
  | .mk _ _ _ query _ :: rest => query.tables ++ Cte.tables rest

/-- The tables the body of a query reads. -/
def Body.tables : Body → List Table
  | .select s => s.tables
  | .query q => q.tables
  | .combined _ _ left right => left.tables ++ right.tables
  | .values .. => []
  | .statement _ => []
  | .table _ => []

/-- The tables of a `FROM` list. -/
def Select.tables : Select → List Table
  | ⟨_, _, _, _, relations, _, _, _, _, _, _, _, _, _, _, _⟩ => Joined.tables relations

/-- The tables of relations and of those joined to them. -/
def Joined.tables : List Joined → List Table
  | [] => []
  | .mk relation joins :: rest => relation.tables ++ Join.tables joins ++ Joined.tables rest

/-- The tables of joined relations. -/
def Join.tables : List Join → List Table
  | [] => []
  | .mk _ _ relation _ _ :: rest => relation.tables ++ Join.tables rest

/-- The tables of a relation: itself, or those of a query in its place. -/
def Relation.tables : Relation → List Table
  | .derived _ query _ => query.tables
  | .table name _ _ _ aliased _ => [⟨Name.render name, aliased.map (·.name.render)⟩]
  | _ => []

end

/-- The tables a statement reads or writes. -/
def Statement.tables : Statement → List Table
  | .query q => q.tables
  | .update u => Joined.tables (u.target :: u.relations)
  | .delete d => Joined.tables (d.relations ++ d.others)
  | .insert table _ => [⟨table, none⟩]
  | .other .. => []

end Sql

end RowAccess
