import RowAccess.Text.Blank
import RowAccess.Text.Split
/-!
# Tables as statements name them

A statement names a table with or without a schema, quoted or not, and may give it an alias. Tables
are recognised by their last name, without quotes and without regard to case.
-/

namespace RowAccess

/-- A table that a statement reads. -/
structure Table where
  /-- The name as it is written, with its schema if that is written. -/
  name : String
  aliasName : Option String
deriving DecidableEq, Repr, Inhabited

namespace Table

/-- Whether the character quotes a name. -/
def isQuote (c : Char) : Bool := c == '"' || c == '\x60'

/-- The name without its schema and without quotes. -/
def baseName (t : Table) : String :=
  String.ofList (Text.stripBoth isQuote (Text.afterLast '.' t.name).toList)

/-- What the columns of the table are qualified with. -/
def qualifier (t : Table) : String := t.aliasName.getD t.name

/-- Whether `name` means this table; a schema in it is ignored. -/
def isNamed (t : Table) (name : String) : Bool :=
  Text.sameIgnoringCase t.baseName (Text.afterLast '.' name)

/-- Schemas that hold the catalog of the database. -/
def catalogSchemas : List String := ["pg_catalog.", "information_schema."]

/-- Whether the table belongs to the catalog of the database, which is never restricted. -/
def isCatalog (t : Table) : Bool :=
  (catalogSchemas.any fun schema => (Text.after? schema (Text.asciiLower t.name)).isSome) ||
    (Text.after? "pg_" (Text.asciiLower t.baseName)).isSome

end Table

end RowAccess
