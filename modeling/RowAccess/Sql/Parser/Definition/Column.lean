import RowAccess.Sql.Parser.Definition.Option
/-!
# Reading columns of definitions

A column has a name, a type and options. Its options hold expressions that `NOT NULL` and `COLLATE`
end, since both are options themselves; only in parentheses do expressions go on.
-/

namespace RowAccess.Sql.Parser

/-! ## Sequences -/

/-- A bound of a sequence after its word, or that it has none. -/
def sequenceBound (d : Dialect) (word : String) : P String := do
  if ← keyword? word then return s!" {word} " ++ (← signedNumber d)
  else wordsBefore ["NO", word]

/-- A number of a sequence after its word, and after `link` if that is written. -/
def sequenceNumber (d : Dialect) (word link : String) : P String := wordsAfter [word] do
  return s!" {word}" ++ (← wordsBefore [link]) ++ " " ++ (← signedNumber d)

/-- How a sequence goes on, with a space before each word. -/
def sequenceOptions (d : Dialect) : P String := do
  let increment ← sequenceNumber d "INCREMENT" "BY"
  let low ← sequenceBound d "MINVALUE"
  let high ← sequenceBound d "MAXVALUE"
  let start ← sequenceNumber d "START" "WITH"
  let cache ← wordsAfter ["CACHE"] do return " CACHE " ++ (← signedNumber d)
  let cycle ← lastPhrase [["NO", "CYCLE"], ["CYCLE"]]
  return increment ++ low ++ high ++ start ++ cache ++ cycle

/-! ## References and checks -/

/-- What happens to rows that refer to a changed row. -/
def referentialAction : P String :=
  phrase [["RESTRICT"], ["CASCADE"], ["SET", "NULL"], ["NO", "ACTION"], ["SET", "DEFAULT"]]

/-- How a key refers to the rows of another table. -/
structure ReferenceRules where
  matching : Option String := none
  onDelete : Option String := none
  onUpdate : Option String := none

namespace ReferenceRules

/-- Rules as they are written, with a space before each. -/
def render (r : ReferenceRules) : String :=
  String.join ((r.matching.toList.map (" MATCH " ++ ·)) ++ (r.onDelete.toList.map (" ON DELETE " ++ ·)) ++
    (r.onUpdate.toList.map (" ON UPDATE " ++ ·)))

/-- The rules with the one that is next, if it is not set. -/
def next? (r : ReferenceRules) : P (Option ReferenceRules) := do
  if r.matching.isNone && (← peekKeyword "MATCH") then
    skip 1
    return some { r with matching := some (← oneOf ["FULL", "PARTIAL", "SIMPLE"]) }
  else if r.onDelete.isNone && (← peekKeywords ["ON", "DELETE"]) then
    skip 2
    return some { r with onDelete := some (← referentialAction) }
  else if r.onUpdate.isNone && (← peekKeywords ["ON", "UPDATE"]) then
    skip 2
    return some { r with onUpdate := some (← referentialAction) }
  else return none

end ReferenceRules

/-- When a constraint is checked. -/
structure Timing where
  deferrable : Option String := none
  initially : Option String := none
  enforced : Option String := none

namespace Timing

/-- A timing as it is written, with a space before each word. -/
def render (t : Timing) : String :=
  String.join ((t.deferrable.toList ++ t.initially.toList ++ t.enforced.toList).map (" " ++ ·))

/-- The timing with the words that are next, if they are not said yet. -/
def next? (t : Timing) : P (Option Timing) := do
  let deferrable ← if t.deferrable.isSome then pure none
    else phrase? [["NOT", "DEFERRABLE"], ["DEFERRABLE"]]
  if deferrable.isSome then return some { t with deferrable }
  if t.initially.isNone && (← peekKeyword "INITIALLY") then
    skip 1
    return some { t with initially := some ("INITIALLY " ++ (← oneOf ["DEFERRED", "IMMEDIATE"])) }
  let enforced ← if t.enforced.isSome then pure none
    else phrase? [["ENFORCED"], ["NOT", "ENFORCED"]]
  return if enforced.isSome then some { t with enforced } else none

end Timing

/-- When a constraint is checked, with a space before each word. -/
def timing : P String := return (← repeated Timing.next? {}).render

/-- The table and columns that a key refers to, with `space` between them, and the rules for it. -/
def reference (space : String) : P String := do
  let table ← nameText
  let columns ← optionalColumns false
  let rules ← repeated ReferenceRules.next? {}
  return table ++ (if columns.isEmpty then "" else space ++ renderNames columns) ++ rules.render ++
    (← timing)

/-! ## Options -/

/-- The expression of an option: one in parentheses, or one that the next option ends. -/
def optionExpr (g : Grammar) : P Expr := do
  if ← peekSymbol "(" then g.primaryIn .ordinary else g.operandIn .column 0

/-- The expression of an option after the words `lead`. -/
def optionExprAfter (g : Grammar) (lead : String) : P (List Piece) :=
  return [.text lead, .expr (← optionExpr g)]

/-- How the identity of a row is generated, after its words. -/
def identityOptions (d : Dialect) (lead : String) : P (List Piece) := do
  if ← peekSymbol "(" then
    let options ← parens (sequenceOptions d)
    return [.text (lead ++ if options.isEmpty then "" else " (" ++ options ++ " )")]
  else return [.text lead]

/-- How the value of a column is generated, after `GENERATED`. The word alone is no option. -/
def generatedOption (g : Grammar) : P (Option (List Piece)) := do
  if ← keywords? ["ALWAYS", "AS", "IDENTITY"] then
    return some (← identityOptions g.dialect "GENERATED ALWAYS AS IDENTITY")
  else if ← keywords? ["BY", "DEFAULT", "AS", "IDENTITY"] then
    return some (← identityOptions g.dialect "GENERATED BY DEFAULT AS IDENTITY")
  else if (← keywords? ["ALWAYS", "AS"]) && (← peekSymbol "(") then
    let e ← parens (g.operandIn .ordinary 0)
    let kind ← if g.dialect == .postgres then do
        keyword "STORED"
        pure " STORED"
      else lastWord ["STORED", "VIRTUAL"]
    return some [.text "GENERATED ALWAYS AS (", .expr e, .text (")" ++ kind)]
  else return none

/-- How the value of a column is computed, after `AS`. -/
def computedOption (g : Grammar) : P (List Piece) := do
  let e ← parens (g.operandIn .column 0)
  return [.text "AS (", .expr e, .text (")" ++ (← lastWord ["STORED", "VIRTUAL"]))]

/-- How rows are numbered, after `IDENTITY`. -/
def numberingOption (d : Dialect) : P (List Piece) := do
  if ← symbol? "(" then
    let seed ← signedNumber d
    symbol ","
    let increment ← signedNumber d
    symbol ")"
    return [.text ("IDENTITY(" ++ seed ++ ", " ++ increment ++ ")")]
  else return [.text "IDENTITY"]

/-- Options that every dialect has, if one is next. -/
def plainColumnOption? (g : Grammar) : P (Option (List Piece)) := do
  let d := g.dialect
  if ← keywords? ["CHARACTER", "SET"] then return some [.text ("CHARACTER SET " ++ (← nameText))]
  else if ← keyword? "COLLATE" then return some [.text ("COLLATE " ++ (← nameText))]
  else if ← keywords? ["NOT", "NULL"] then return some [.text "NOT NULL"]
  else if ← keyword? "COMMENT" then
    return some [.text ("COMMENT " ++ quoted '\'' (← commentText))]
  else if ← keyword? "NULL" then return some [.text "NULL"]
  else if ← keyword? "DEFAULT" then return some (← optionExprAfter g "DEFAULT ")
  else if ← onlyIf (d == .generic) (keyword? "MATERIALIZED") then
    return some (← optionExprAfter g "MATERIALIZED ")
  else if ← onlyIf (d == .generic) (keyword? "ALIAS") then return some (← optionExprAfter g "ALIAS ")
  else if ← onlyIf (d == .generic) (keyword? "EPHEMERAL") then
    if (← peekSymbol ",") || (← peekSymbol ")") then return some [.text "EPHEMERAL"]
    else return some (← optionExprAfter g "EPHEMERAL ")
  else if ← keywords? ["PRIMARY", "KEY"] then return some [.text ("PRIMARY KEY" ++ (← timing))]
  else if ← keyword? "UNIQUE" then return some [.text ("UNIQUE" ++ (← timing))]
  else if ← keyword? "REFERENCES" then return some [.text ("REFERENCES " ++ (← reference " "))]
  else if ← keyword? "CHECK" then
    return some [.text "CHECK (", .expr (← parens (g.operandIn .ordinary 0)), .text ")"]
  else return none

/-- An option of some dialects, if one is next. Where the dialect does not have it, its word is left
out. -/
def specialColumnOption? (g : Grammar) : P (Option (List Piece)) := do
  let d := g.dialect
  let marked (allowed : Bool) (ks : List String) : P Bool := return (← keywords? ks) && allowed
  if ← marked (d != .postgres) ["AUTO_INCREMENT"] then return some [.text "AUTO_INCREMENT"]
  if ← marked (d == .generic) ["AUTOINCREMENT"] then return some [.text "AUTOINCREMENT"]
  if ← marked (d == .generic) ["ASC"] then return some [.text "ASC"]
  if ← marked (d == .generic) ["DESC"] then return some [.text "DESC"]
  if ← marked (d != .postgres) ["ON", "UPDATE"] then return some (← optionExprAfter g "ON UPDATE ")
  if ← keyword? "GENERATED" then return ← generatedOption g
  if ← onlyIf (d == .generic) (keyword? "OPTIONS") then
    let list ← optionsOf d (g.operandIn .column 0)
    return some (.text "OPTIONS(" :: list ++ [Piece.text ")"])
  if ← marked (d != .postgres) ["AS"] then return some (← computedOption g)
  if ← marked (d != .postgres) ["SRID"] then return some (← optionExprAfter g "SRID ")
  if ← marked (d == .generic) ["IDENTITY"] then return some (← numberingOption d)
  if ← onlyIf (d == .generic) (keywords? ["ON", "CONFLICT"]) then
    let action ← oneOf ["ROLLBACK", "ABORT", "FAIL", "IGNORE", "REPLACE"]
    return some [.text ("ON CONFLICT " ++ action)]
  if ← keyword? "INVISIBLE" then return some [.text "INVISIBLE"]
  return none

/-- An option of a column, if one is next. -/
def columnOption? (g : Grammar) : P (Option (List Piece)) := do
  match ← plainColumnOption? g with
  | some pieces => return some pieces
  | none => specialColumnOption? g

/-- An option of a column with its name, if one is next. -/
def namedColumnOption? (g : Grammar) : P (Option (List Piece)) := do
  if ← keyword? "CONSTRAINT" then
    let name ← identText
    match ← columnOption? g with
    | some pieces => return some (.text ("CONSTRAINT " ++ name ++ " ") :: pieces)
    | none => unexpected
  else columnOption? g

/-- The options of a column with a space before each. -/
def columnOptions (g : Grammar) : P (List Piece) := return afterSpaces (← many (columnOption? g))

/-! ## Columns -/

/-- A column with its type and its options. -/
def columnDefinition (g : Grammar) : P (List Piece) := do
  let name ← identText
  let type ← g.type
  return .text (name ++ " " ++ type) :: afterSpaces (← many (namedColumnOption? g))

/-- The place of a column among the others, with a space before it. -/
def columnPosition (d : Dialect) : P String := do
  if d == .postgres then return ""
  else if ← keyword? "FIRST" then return " FIRST"
  else wordsAfter ["AFTER"] do return " AFTER " ++ (← identText)

end RowAccess.Sql.Parser
