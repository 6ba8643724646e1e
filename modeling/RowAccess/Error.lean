import RowAccess.Operation
/-!
# Why a statement cannot be restricted

A statement that cannot be restricted must not run, so every failure is an error with its cause.
-/

namespace RowAccess

/-- Why a well-formed statement has no place for predicates. -/
inductive Unscopable where
  /-- A query is hidden in an expression that rewriting does not look into. -/
  | hiddenQuery (expression : String)
  /-- The body of a query is a merge or a bare table. -/
  | body (text : String)
  /-- Several statements, among them one that is neither a query nor a change of rows. -/
  | stacked (operation : Operation)
  /-- The query in place of a table cannot be built. -/
  | table (name : String)
deriving DecidableEq, Repr, Inhabited

/-- Why a statement cannot be restricted. -/
inductive Error where
  /-- The text is no statement. -/
  | malformed
  /-- The text of a predicate is no expression. -/
  | invalidPredicate (text : String)
  | unscopable (reason : Unscopable)
  /-- A tenant is required and none is known. -/
  | missingTenant
  /-- The configuration is not valid. -/
  | invalidConfig (reason : String)
  /-- A store or a directory failed. -/
  | internal (reason : String)
deriving DecidableEq, Repr, Inhabited

/-- The title of an operation in messages. -/
def Operation.title : Operation → String
  | .select => "Select"
  | .insert => "Insert"
  | .update => "Update"
  | .delete => "Delete"
  | .definition => "Ddl"
  | .other => "Other"

/-- The message for a statement without a place for predicates. -/
def Unscopable.message : Unscopable → String
  | hiddenQuery expression => "query nested in \x60" ++ expression ++ "\x60"
  | body text => "cannot scope \x60" ++ text ++ "\x60"
  | stacked operation => operation.title ++ " statement stacked with other statements"
  | table name => "cannot wrap table " ++ name

/-- The message for an error. -/
def Error.message : Error → String
  | malformed => "failed to parse SQL"
  | invalidPredicate text => "invalid predicate '" ++ text ++ "'"
  | unscopable reason => "statement cannot be scoped: " ++ reason.message
  | missingTenant => "tenant value required but not provided"
  | invalidConfig reason => "invalid configuration: " ++ reason
  | internal reason => "internal error: " ++ reason

end RowAccess
