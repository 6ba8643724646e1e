import RowAccess.Sql.Parser.Relation
/-!
# Reading options of definitions

Options are names with values. In parentheses they are separated by commas, and after a table they
stand in the order they are written in.
-/

namespace RowAccess.Sql.Parser

/-! ## Options in parentheses -/

/-- How the rows of a table are clustered. -/
def clusteredOption : P String := do
  if ← keywords? ["CLUSTERED", "COLUMNSTORE", "INDEX", "ORDER"] then
    return "CLUSTERED COLUMNSTORE INDEX ORDER " ++ renderNames (← identsInParens)
  else if ← keywords? ["CLUSTERED", "COLUMNSTORE", "INDEX"] then return "CLUSTERED COLUMNSTORE INDEX"
  else
    keywords ["CLUSTERED", "INDEX"]
    let column : P String := do return (← identText) ++ (← lastWord ["ASC", "DESC"])
    return "CLUSTERED INDEX (" ++ ", ".intercalate (← parens (commas column)) ++ ")"

/-- How the rows of a table are divided by the values of a column, after `PARTITION`. -/
def partitionOption (value : P Expr) : P (List Piece) := parens do
  let column ← identText
  keyword "RANGE"
  let side ← lastWord ["LEFT", "RIGHT"]
  keywords ["FOR", "VALUES"]
  let values ← parens (commas value)
  return [Piece.text ("PARTITION (" ++ column ++ " RANGE" ++ side ++ " FOR VALUES (")] ++
    exprPieces values ++ [Piece.text "))"]

/-- An option whose value is read by `value`. -/
def optionOf (d : Dialect) (value : P Expr) : P (List Piece) := do
  let k ← if d == .generic then peekWord else pure ""
  match k with
  | "HEAP" => return [.text (← identText)]
  | "PARTITION" => do
    skip 1
    partitionOption value
  | "CLUSTERED" => return [.text (← clusteredOption)]
  | _ => do
    let name ← identText
    symbol "="
    return [.text (name ++ " = "), .expr (← value)]

/-- Options in parentheses whose values are read by `value`, without the parentheses. -/
def optionsOf (d : Dialect) (value : P Expr) : P (List Piece) := do
  return separated (← parens (commasUntil ")" (optionOf d value)))

/-- The options in parentheses after the keywords `ks`, without the parentheses. None if the keywords
are not next. -/
def options (g : Grammar) (ks : List String) : P (List Piece) :=
  clause ks (optionsOf g.dialect g.expr)

/-- Options with the words `lead` and an opening parenthesis before them, and nothing if there are
none. -/
def enclosed (lead : String) (options : List Piece) : List Piece :=
  if options.isEmpty then [] else .text (lead ++ "(") :: options ++ [Piece.text ")"]

/-- The options in parentheses after the keyword `k`, without the parentheses, if it is next. -/
def options? (g : Grammar) (k : String) : P (Option (List Piece)) :=
  optional (peekKeyword k) (options g [k])

/-- Options with the words `lead` and an opening parenthesis before them, if they are given. -/
def enclosedIf (lead : String) : Option (List Piece) → List Piece
  | none => []
  | some list => .text (lead ++ "(") :: list ++ [.text ")"]

/-! ## Comments -/

/-- A comment as a definition holds it. -/
def commentText : P String := do
  match ← advance with
  | .literal (.string s) | .literal (.dollar _ s) => return s
  | _ => unexpected

/-! ## Files -/

/-- Formats in which the rows of a table are stored. -/
def fileFormats : List String :=
  ["AVRO", "JSONFILE", "ORC", "PARQUET", "RCFILE", "SEQUENCEFILE", "TEXTFILE"]

/-! ## Options after a table -/

/-- Names of options with a single value. -/
def tableOptionNames : List (List String) :=
  [["DEFAULT", "CHARSET"], ["CHARSET"], ["DEFAULT", "CHARACTER", "SET"], ["CHARACTER", "SET"],
    ["DEFAULT", "COLLATE"], ["COLLATE"], ["DATA", "DIRECTORY"], ["INDEX", "DIRECTORY"],
    ["KEY_BLOCK_SIZE"], ["ROW_FORMAT"], ["PACK_KEYS"], ["STATS_AUTO_RECALC"], ["STATS_PERSISTENT"],
    ["STATS_SAMPLE_PAGES"], ["DELAY_KEY_WRITE"], ["COMPRESSION"], ["ENCRYPTION"], ["MAX_ROWS"],
    ["MIN_ROWS"], ["AUTOEXTEND_SIZE"], ["AVG_ROW_LENGTH"], ["CHECKSUM"], ["CONNECTION"],
    ["ENGINE_ATTRIBUTE"], ["PASSWORD"], ["SECONDARY_ENGINE_ATTRIBUTE"], ["INSERT_METHOD"],
    ["AUTO_INCREMENT"]]

/-- The comment on a table, after its word. -/
def tableComment : P String := do
  let sign := if ← symbol? "=" then " = " else " "
  match ← advance with
  | .literal (.string s) => return "COMMENT" ++ sign ++ "'" ++ s ++ "'"
  | _ => unexpected

/-- The engine of a table, after its word. -/
def engine : P String := do
  let _ ← symbol? "="
  match ← advance with
  | .word i _ => do
    let parameters ← if ← peekSymbol "(" then do pure (renderNames (← identsInParens)) else pure ""
    return "ENGINE = " ++ i.value ++ parameters
  | _ => unexpected

/-- The space in which a table is stored, after its word. -/
def tablespace : P String := do
  let _ ← symbol? "="
  let name ← match ← advance with
    | .word i _ => pure i.value
    | .literal (.string s) => pure s
    | _ => unexpected
  let storage ← wordsAfter ["STORAGE"] do
    let _ ← symbol? "="
    match ← advance with
    | .word i _ =>
      let kind := keywordOf i.value
      if ["DISK", "MEMORY"].contains kind then return " STORAGE " ++ kind else unexpected
    | _ => unexpected
  return "TABLESPACE " ++ name ++ storage

/-- The tables that a table joins, after `UNION`. -/
def tableUnion : P String := do
  let _ ← symbol? "="
  let tables ← parens (commasUntil ")" ident)
  return "UNION = " ++ if tables.isEmpty then "" else renderNames tables

/-- An option of a table, if one is next. -/
def tableOption? (d : Dialect) : P (Option String) := do
  if ← keywords? ["START", "TRANSACTION"] then return some "START TRANSACTION"
  match ← oneOf? ["COMMENT", "ENGINE", "TABLESPACE", "UNION"] with
  | some "COMMENT" => return some (← tableComment)
  | some "ENGINE" => return some (← engine)
  | some "TABLESPACE" => return some (← tablespace)
  | some _ => return some (← tableUnion)
  | none =>
    match ← phrase? tableOptionNames with
    | none => return none
    | some name =>
      let _ ← symbol? "="
      match ← attempt (literalText d) with
      | some value => return some (name ++ " = " ++ value)
      | none => return some (name ++ " = " ++ (← identText))

/-- The options of a table, which commas may separate. -/
def tableOptions (d : Dialect) : P String := do
  let option : P (Option String) := do
    let o ← tableOption? d
    if o.isSome then
      let _ ← symbol? ","
    return o
  return " ".intercalate (← many option)

/-! ## Properties -/

/-- Properties with what separates them. -/
structure Properties where
  list : List String
  /-- Whether a comma separates any of them. -/
  commas : Bool

/-- Properties as they are written. -/
def Properties.render (p : Properties) : String := (if p.commas then ", " else " ").intercalate p.list

/-- Runs `property` until it answers nothing. It answers a property, or the comma between two. -/
def collectProperties (property : P (Option (Option String))) : P Properties := do
  let read ← many property
  return ⟨read.filterMap id, read.any (·.isNone)⟩

/-- The next property or comma. Properties end before one of the words `ends` and at the end; in
parentheses they end with the closing one. The value of a property is read by `value`. -/
def property? (ends : List String) (inParens : Bool) (value : P String) :
    P (Option (Option String)) := do
  match ← peek with
  | some (.symbol ",") => do
    skip 1
    return some none
  | some (.symbol ")") => if inParens then return none else unexpected
  | some (.symbol ";") | none => return none
  | some (.word i k) =>
    if ends.contains k then return none
    else
      skip 1
      symbol "="
      return some (some (i.value ++ "=" ++ (← value)))
  | _ => unexpected

/-- The value of a property: a literal, a word, or several values or properties in parentheses; `fuel`
bounds how deeply properties nest. -/
def propertyValue (d : Dialect) : (fuel : Nat) → P String
  | 0 => throw .tooDeep
  | fuel + 1 => do
    match ← peek with
    | some (.literal (.string _)) | some (.literal (.number _ _)) => literalText d
    | some (.word i k) =>
      if ["TRUE", "FALSE"].contains k then literalText d
      else
        skip 1
        return i.value
    | some (.symbol "(") =>
      match ← attempt (parens (commasUntil ")" (literalText d))) with
      | some values => return "(" ++ ", ".intercalate values ++ ")"
      | none => do
        skip 1
        let inner ← collectProperties (property? [] true (propertyValue d fuel))
        let _ ← symbol? ")"
        return "(" ++ inner.render ++ ")"
    | _ => unexpected

/-- Properties up to one of the words `ends` or to the end. -/
def properties (d : Dialect) (ends : List String) : P Properties := do
  collectProperties (property? ends false (propertyValue d ((← get).length + 1)))

/-- Properties in parentheses, which need not be closed at the end. -/
def propertiesInParens (d : Dialect) : P Properties := do
  symbol "("
  let inner ← collectProperties (property? [] true (propertyValue d ((← get).length + 1)))
  let _ ← symbol? ")"
  return inner

/-! ## Accounts -/

/-- The name of an account, with its host where accounts have one. -/
def accountName (d : Dialect) : P String := do
  let name ← objectName
  if ← onlyIf (d != .postgres && name.length == 1) (symbol? "@") then
    return Name.render name ++ "@" ++ (← identText)
  else return Name.render name

/-- Someone who owns something or whom a rule is for. -/
def owner : P String := do
  match ← oneOf? ["CURRENT_USER", "CURRENT_ROLE", "SESSION_USER"] with
  | some k => return k
  | none => identText

end RowAccess.Sql.Parser
