import RowAccess.Sql.Parser.Basic
/-!
# Reading statements on transactions
-/

namespace RowAccess.Sql.Parser

/-- Properties of a transaction. -/
def transactionProperties : List (List String) :=
  [["ISOLATION", "LEVEL", "READ", "UNCOMMITTED"], ["ISOLATION", "LEVEL", "READ", "COMMITTED"],
    ["ISOLATION", "LEVEL", "REPEATABLE", "READ"], ["ISOLATION", "LEVEL", "SERIALIZABLE"],
    ["ISOLATION", "LEVEL", "SNAPSHOT"], ["READ", "ONLY"], ["READ", "WRITE"]]

/-- Properties of a transaction, with or without commas between them; after a comma another one must
follow. `fuel` bounds their number. -/
def transactionModeList : (required : Bool) → (fuel : Nat) → P (List String)
  | _, 0 => throw .tooDeep
  | required, fuel + 1 => do
    match ← phrase? transactionProperties with
    | none => if required then unexpected else return []
    | some words => return words :: (← transactionModeList (← symbol? ",") fuel)

/-- The properties of a transaction, with a space before the words. -/
def transactionModes : P String := do
  let modes ← transactionModeList false ((← get).length + 1)
  return if modes.isEmpty then "" else " " ++ ", ".intercalate modes

/-- Whether a transaction follows at once. -/
def chain : P String := do
  let _ ← oneOf? ["TRANSACTION", "WORK"]
  if ← keyword? "AND" then
    let negated ← keyword? "NO"
    keyword "CHAIN"
    return if negated then "" else " AND CHAIN"
  else return ""

/-- The start of a transaction, after `BEGIN`. -/
def begin_ (d : Dialect) : P Statement := do
  let kind ← if d == .generic then lastWord ["DEFERRED", "IMMEDIATE", "EXCLUSIVE", "TRY", "CATCH"]
    else pure ""
  let word ← lastWord ["TRANSACTION", "WORK", "TRAN"]
  return plain ("BEGIN" ++ kind ++ word ++ (← transactionModes))

/-- The end of a transaction without effect, after `ROLLBACK`. -/
def rollback : P Statement := do
  let next ← chain
  let savepoint ← wordsAfter ["TO"] do
    let _ ← keyword? "SAVEPOINT"
    return " TO SAVEPOINT " ++ (← identText)
  return plain ("ROLLBACK" ++ next ++ savepoint)

/-- A statement on transactions, after the word `k`. -/
def transaction (d : Dialect) (k : String) : P Statement := do
  match k with
  | "START" => do
    keyword "TRANSACTION"
    return plain ("START TRANSACTION" ++ (← transactionModes))
  | "BEGIN" => begin_ d
  | "ROLLBACK" => rollback
  | "SAVEPOINT" => return plain ("SAVEPOINT " ++ (← identText))
  | "RELEASE" => do
    let _ ← keyword? "SAVEPOINT"
    return plain ("RELEASE SAVEPOINT " ++ (← identText))
  | _ => return plain (k ++ (← chain))

end RowAccess.Sql.Parser
