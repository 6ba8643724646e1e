import RowAccess.Sql.Parser.Control.Copy
import RowAccess.Sql.Parser.Control.Cursor
import RowAccess.Sql.Parser.Control.Plan
import RowAccess.Sql.Parser.Control.Procedural
import RowAccess.Sql.Parser.Control.Rights
import RowAccess.Sql.Parser.Control.Setting
import RowAccess.Sql.Parser.Control.Show
import RowAccess.Sql.Parser.Control.Upkeep
/-!
# Reading statements that neither read nor define anything themselves

Statements on transactions, settings, rights, plans, cursors and the like, by their first words.
-/

namespace RowAccess.Sql.Parser

/-- First words of statements on transactions. -/
def transactionWords : List String :=
  ["START", "BEGIN", "COMMIT", "END", "ROLLBACK", "SAVEPOINT", "RELEASE"]

/-- First words of statements on cursors. -/
def cursorWords : List String := ["DECLARE", "FETCH", "OPEN", "CLOSE"]

/-- First words of statements of programs. -/
def proceduralWords : List String :=
  ["IF", "CASE", "WHILE", "RAISE", "RAISERROR", "ASSERT", "PRINT", "RETURN", "CALL", "EXECUTE", "EXEC",
    "PREPARE", "DEALLOCATE"]

/-- First words of statements on the upkeep of a server. -/
def upkeepWords : List String :=
  ["KILL", "FLUSH", "CACHE", "UNCACHE", "DISCARD", "ATTACH", "MSCK", "RENAME", "VACUUM", "DETACH",
    "OPTIMIZE", "INSTALL", "LOAD", "COMMENT", "LOCK", "UNLOCK", "LISTEN", "UNLISTEN", "NOTIFY"]

/-- A statement that is written with `word` first, after the word `k`. -/
def control (g : Grammar) (word k : String) : P Statement := do
  match k with
  | "SET" => set_ g
  | "RESET" => reset
  | "PRAGMA" => pragma g.dialect
  | "USE" => return plain ("USE " ++ (← nameText))
  | "SHOW" => show_ g
  | "GRANT" => grant g
  | "REVOKE" => revoke g
  | "DENY" => deny g
  | "EXPLAIN" | "DESCRIBE" | "DESC" => explain g k
  | "ANALYZE" => analyze g
  | "COPY" => copy g
  | "UNLOAD" => unload g
  | "EXPORT" => export_ g
  | _ =>
    if transactionWords.contains k then transaction g.dialect k
    else if cursorWords.contains k then cursor g k
    else if proceduralWords.contains k then procedural g word k
    else if upkeepWords.contains k then upkeep g k
    else unexpected

end RowAccess.Sql.Parser
