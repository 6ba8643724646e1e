import RowAccess.Sql.Parser.Definition.Operator
import RowAccess.Sql.Parser.Definition.Routine
import RowAccess.Sql.Parser.Definition.Table
/-!
# Reading removals

Statements that drop something or empty a table.
-/

namespace RowAccess.Sql.Parser

/-! ## Tables and their kin -/

/-- Kinds of things that are dropped by a list of names. -/
def droppable : List (List String) :=
  [["TABLE"], ["VIEW"], ["MATERIALIZED", "VIEW"], ["INDEX"], ["ROLE"], ["SCHEMA"], ["DATABASE"],
    ["SEQUENCE"], ["STAGE"], ["TYPE"], ["USER"], ["STREAM"]]

/-- Things of a kind to drop. -/
def dropNamed (temporary kind : String) : P Statement := do
  let present ← whenExists
  let names ← commas nameText
  let cascade ← wordsBefore ["CASCADE"]
  let restrict ← wordsBefore ["RESTRICT"]
  let purge ← wordsBefore ["PURGE"]
  if !cascade.isEmpty && !restrict.isEmpty then unexpected
  let behavior := cascade ++ restrict ++ purge
  if kind == "ROLE" && !behavior.isEmpty then unexpected
  return definition [.text ("DROP " ++ temporary ++ kind ++ " " ++ present ++ ", ".intercalate names ++
    behavior ++ (← nameClause ["ON"]))]

/-! ## Everything else -/

/-- Functions or procedures to drop, after the word `kind`. -/
def dropRoutine (g : Grammar) (kind : String) : P Statement := do
  let present ← whenExists
  let routines ← commas (functionSignature g)
  return .other .other (.text ("DROP " ++ kind ++ " " ++ present) :: separated routines ++
    [Piece.text (← dropBehavior)])

/-- Operators to drop, or families or classes of them. -/
def dropOperator (g : Grammar) : P Statement := do
  match ← oneOf? ["FAMILY", "CLASS"] with
  | some k => do
    let present ← whenExists
    let names ← commas nameText
    keyword "USING"
    let method ← identText
    return plain ("DROP OPERATOR " ++ k ++ " " ++ present ++ ", ".intercalate names ++ " USING " ++ method ++
      (← dropBehavior))
  | none => do
    let present ← whenExists
    let operators ← commas (operatorSignature g)
    return plain ("DROP OPERATOR " ++ present ++ ", ".intercalate operators ++ (← dropBehavior))

/-- Something of a kind that has rules of its own to drop, after the word `kind`. -/
def dropSpecial (g : Grammar) (temporary kind : String) : P Statement := do
  match kind with
  | "FUNCTION" | "PROCEDURE" => dropRoutine g kind
  | "OPERATOR" => dropOperator g
  | _ => do
    let present ← whenExists
    let lead := "DROP " ++ (if kind == "SECRET" then temporary else "") ++ kind ++ " " ++ present
    match kind with
    | "POLICY" => do
      let name ← identText
      keyword "ON"
      let table ← nameText
      return plain (lead ++ name ++ " ON " ++ table ++ (← dropBehavior))
    | "CONNECTOR" => return plain (lead ++ (← identText))
    | "DOMAIN" => do
      let name ← nameText
      return plain (lead ++ name ++ (← dropBehavior))
    | "SECRET" => do
      let name ← identText
      return plain (lead ++ name ++ (← identClause ["FROM"]))
    | "TRIGGER" => do
      let name ← nameText
      let table ← nameClause ["ON"]
      return plain (lead ++ name ++ table ++ (← dropBehavior))
    | _ => do
      let names ← commas ident
      return plain (lead ++ renderIdents names ++ (← dropBehavior))

/-- A `DROP`, after the word. -/
def drop (g : Grammar) : P Statement := do
  let temporary ← if g.dialect == .postgres then pure "" else wordsIf ["TEMPORARY"]
  match ← phrase? droppable with
  | some kind => dropNamed temporary kind
  | none =>
    dropSpecial g temporary (← oneOf ["FUNCTION", "POLICY", "CONNECTOR", "DOMAIN", "PROCEDURE", "SECRET",
      "TRIGGER", "EXTENSION", "OPERATOR"])

/-! ## Emptying -/

/-- A table to empty. -/
def truncated : P String := do
  let only ← wordsIf ["ONLY"]
  let name ← nameText
  return only ++ name ++ if ← symbol? "*" then " *" else ""

/-- A `TRUNCATE`, after the word. -/
def truncate (g : Grammar) : P Statement := do
  let word ← wordsIf ["TABLE"]
  let present ← whenExists
  let names ← commas truncated
  let partition ← clause ["PARTITION"] (g.exprsInParens " PARTITION ")
  let after ← if g.dialect == .mysql then pure "" else do
    let identity ← lastPhrase [["RESTART", "IDENTITY"], ["CONTINUE", "IDENTITY"]]
    pure (identity ++ (← dropBehavior))
  return definition (.text ("TRUNCATE " ++ word ++ present ++ ", ".intercalate names ++ after) :: partition ++
    words (← onCluster))

end RowAccess.Sql.Parser
