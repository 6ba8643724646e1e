import RowAccess.Sql.Parser.Definition.Account
import RowAccess.Sql.Parser.Definition.Alter
import RowAccess.Sql.Parser.Definition.CustomType
import RowAccess.Sql.Parser.Definition.Drop
import RowAccess.Sql.Parser.Definition.Schema
import RowAccess.Sql.Parser.Definition.View
/-!
# Reading definitions

`CREATE` and `ALTER`, by what is created or altered. A definition is kept as its words in normal form,
with the expressions and queries inside it as trees.
-/

namespace RowAccess.Sql.Parser

/-! ## Creation -/

/-- The words between `CREATE` and the kind of what is created, each with a space after it. -/
structure CreationWords where
  replace : String
  alter : String
  scope : String
  transient : String
  temporary : String
  /-- How a view is computed and with whose rights. -/
  security : String

/-- The words between `CREATE` and the kind of what is created. -/
def creationWords (d : Dialect) : P CreationWords := do
  let replace ← wordsIf ["OR", "REPLACE"]
  let alter ← wordsIf ["OR", "ALTER"]
  let here ← wordsIf ["LOCAL"]
  let everywhere ← wordsIf ["GLOBAL"]
  let transient ← wordsIf ["TRANSIENT"]
  let temporary := if (← oneOf? ["TEMP", "TEMPORARY"]).isSome then "TEMPORARY " else ""
  return { replace, alter, scope := if everywhere.isEmpty then here else everywhere, transient
           temporary, security := ← viewSecurity d }

/-- Whether a view is next, with the words before its own. -/
def peekView : P Bool := do
  if ["MATERIALIZED", "VIEW"].contains (← peekWord) then return true
  else return (← peekKeywords ["SECURE", "MATERIALIZED", "VIEW"]) || (← peekKeywords ["SECURE", "VIEW"])

/-- Kinds of things that may be created in place of what exists. -/
def replaceable : List (List String) :=
  [["TABLE"], ["POLICY"], ["EXTERNAL"], ["FUNCTION"], ["DOMAIN"], ["TRIGGER"], ["CONSTRAINT", "TRIGGER"],
    ["MACRO"], ["SECRET"], ["USER"]]

/-- Something of a kind to create that may replace what exists. Words before the kind that do not
belong to it are left out. -/
def createReplaceable (g : Grammar) (w : CreationWords) (kind : String) : P Statement := do
  match kind with
  | "TABLE" => createTable g (w.replace ++ w.scope ++ w.temporary ++ w.transient)
  | "POLICY" => createPolicy g
  | "EXTERNAL" => createExternalTable g w.replace
  | "FUNCTION" => createFunction g (w.replace ++ w.temporary)
  | "DOMAIN" => createDomain g
  | "TRIGGER" => createTrigger g (w.temporary ++ w.alter ++ w.replace)
  | "CONSTRAINT TRIGGER" => createTrigger g (w.temporary ++ w.alter ++ w.replace ++ "CONSTRAINT ")
  | "MACRO" => createMacro g (w.replace ++ w.temporary)
  | "SECRET" => createSecret (w.replace ++ w.temporary)
  | _ => createUser g.dialect w.replace

/-- Kinds of things that are created only where they do not exist. -/
def creatable : List (List String) :=
  [["EXTENSION"], ["INDEX"], ["UNIQUE", "INDEX"], ["VIRTUAL"], ["SCHEMA"], ["DATABASE"], ["ROLE"],
    ["SEQUENCE"], ["TYPE"], ["PROCEDURE"], ["CONNECTOR"], ["OPERATOR", "FAMILY"], ["OPERATOR", "CLASS"],
    ["OPERATOR"], ["SERVER"]]

/-- Something of a kind to create that replaces nothing. Words before the kind that do not belong to
it are left out. -/
def createNew (g : Grammar) (w : CreationWords) (kind : String) : P Statement := do
  match kind with
  | "EXTENSION" => createExtension
  | "INDEX" => createIndex g ""
  | "UNIQUE INDEX" => createIndex g "UNIQUE "
  | "VIRTUAL" => createVirtualTable
  | "SCHEMA" => createSchema g
  | "DATABASE" => createDatabase g.dialect
  | "ROLE" => createRole g.dialect
  | "SEQUENCE" => createSequence g w.temporary
  | "TYPE" => createType g
  | "PROCEDURE" => createProcedure g w.alter
  | "CONNECTOR" => createConnector g
  | "OPERATOR FAMILY" => createOperatorFamily
  | "OPERATOR CLASS" => createOperatorClass g
  | "OPERATOR" => createOperator g
  | _ => createServer

/-- A `CREATE`, after the word. -/
def create (g : Grammar) : P Statement := do
  let w ← creationWords g.dialect
  if ← peekView then createView g (w.alter ++ w.replace) w.security w.temporary
  else match ← phrase? replaceable with
    | some kind => createReplaceable g w kind
    | none =>
      if w.replace.isEmpty then createNew g w (← phrase creatable) else unexpected

/-! ## Alteration -/

/-- An `ALTER`, after the word. -/
def alter (g : Grammar) : P Statement := do
  match ← oneOf ["VIEW", "TYPE", "TABLE", "INDEX", "ROLE", "POLICY", "CONNECTOR", "ICEBERG", "SCHEMA", "USER",
      "OPERATOR"] with
  | "VIEW" => alterView g
  | "TYPE" => alterType
  | "TABLE" => alterTable g "ALTER TABLE "
  | "INDEX" => alterIndex
  | "ROLE" => alterRole g
  | "POLICY" => alterPolicy g
  | "CONNECTOR" => alterConnector g
  | "ICEBERG" => do
    keyword "TABLE"
    alterTable g "ALTER ICEBERG TABLE "
  | "SCHEMA" => alterSchema g
  | "USER" => alterUser g.dialect
  | _ => alterOperator g

end RowAccess.Sql.Parser
