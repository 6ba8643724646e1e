import RowAccess.Sql.Parser.Literal
/-!
# Reading statements that show something
-/

namespace RowAccess.Sql.Parser

/-! ## What is shown of a list -/

/-- A text in which each quote is written twice, without quotes around it. -/
def doubledText (d : Dialect) : P String := do
  return String.ofList (doubleQuotes '\'' '\x00' (← text d).toList)

/-- For which names or rows something is shown, with the space before it. -/
def showFilter (g : Grammar) : P (List Piece) := do
  match ← oneOf? ["LIKE", "ILIKE", "WHERE"] with
  | some "LIKE" => return [.text (" LIKE " ++ (← quotedText g.dialect))]
  | some "ILIKE" => return [.text (" ILIKE " ++ (← doubledText g.dialect))]
  | some _ => g.exprAfter " WHERE "
  | none =>
    match ← attempt (quotedText g.dialect) with
    | some pattern => return [.text (" " ++ pattern)]
    | none => return []

/-- Kinds of places in which something is shown. -/
def showPlaces : List String := ["ACCOUNT", "DATABASE", "SCHEMA", "TABLE", "VIEW"]

/-- The name of a place after its kind, which may be missing. -/
def placeName (kind : String) : P String := do
  let ended := (← peekKeywords ["STARTS", "WITH"]) || (← peekKeyword "LIMIT")
  if ["DATABASE", "SCHEMA"].contains kind && ended then return ""
  match ← attempt nameText with
  | some name => return " " ++ name
  | none => return ""

/-- A table in which something is shown. Its schema may follow after a word of its own. -/
def placeTable : P String := do
  let name ← objectName
  if (← oneOf? ["FROM", "IN"]).isSome then return " " ++ Name.render ((← ident) :: name)
  else return " " ++ Name.render name

/-- Where something is shown, with the space before it. -/
def showPlace : P String := do
  match ← oneOf? ["FROM", "IN"] with
  | none => return ""
  | some word =>
    match ← oneOf? showPlaces with
    | some kind => return " " ++ word ++ " " ++ kind ++ (← placeName kind)
    | none => return " " ++ word ++ (← placeTable)

/-- Where, for which names and how much of a list is shown. The filter is written last. -/
def showOptions (g : Grammar) : P (List Piece) := do
  let d := g.dialect
  let place ← showPlace
  let filter ← showFilter g
  let start ← wordsAfter ["STARTS", "WITH"] do return " STARTS WITH " ++ (← literalText d)
  let limit ← clause ["LIMIT"] do
    if ← keyword? "ALL" then return [] else g.exprAfter " LIMIT "
  let after ← wordsAfter ["FROM"] do return " FROM " ++ (← literalText d)
  return [Piece.text (place ++ start)] ++ limit ++ [Piece.text after] ++ filter

/-! ## What is shown -/

/-- The words before the kind of what is shown, each with a space after it. -/
structure ShowWords where
  terse : String
  extended : String
  full : String
  session : String
  everywhere : String
  external : String

/-- The words before the kind of what is shown. -/
def showWords : P ShowWords := do
  return {
    terse := ← wordsIf ["TERSE"], extended := ← wordsIf ["EXTENDED"], full := ← wordsIf ["FULL"]
    session := ← wordsIf ["SESSION"], everywhere := ← wordsIf ["GLOBAL"]
    external := ← wordsIf ["EXTERNAL"] }

/-- Tables and their kin that are shown, if they are next. Words that do not belong to the kind are
left out. -/
def showTables? (g : Grammar) (w : ShowWords) : P (Option (List Piece)) := do
  match ← phrase? [["COLUMNS"], ["FIELDS"], ["TABLES"], ["MATERIALIZED", "VIEWS"], ["VIEWS"],
      ["FUNCTIONS"]] with
  | none => return none
  | some "TABLES" => do
    let history ← if w.external.isEmpty then wordsBefore ["HISTORY"] else pure ""
    return some (.text (w.terse ++ w.extended ++ w.full ++ w.external ++ "TABLES" ++ history) ::
      (← showOptions g))
  | some "FUNCTIONS" => return some (.text "FUNCTIONS" :: (← showFilter g))
  | some words =>
    if words.endsWith "VIEWS" then return some (.text (w.terse ++ words) :: (← showOptions g))
    else return some (.text (w.extended ++ w.full ++ "COLUMNS") :: (← showOptions g))

/-- Values of the server that are shown. Where a dialect does not have a kind of them, its word is
left out. -/
def showValues? (g : Grammar) (w : ShowWords) : P (Option (List Piece)) := do
  let lead := w.everywhere ++ w.session
  let known := g.dialect != .postgres
  if (← keyword? "VARIABLES") && known then
    return some (.text (lead ++ "VARIABLES") :: (← showFilter g))
  else if (← keyword? "STATUS") && known then return some (.text (lead ++ "STATUS") :: (← showFilter g))
  else return none

/-- What else is shown: how something was created, a list, or the value of a setting, which goes on to
the end. -/
def showOther (g : Grammar) (w : ShowWords) : P (List Piece) := do
  if ← keyword? "CREATE" then
    let kind ← oneOf ["TABLE", "TRIGGER", "FUNCTION", "PROCEDURE", "EVENT", "VIEW"]
    return [.text ("CREATE " ++ kind ++ " " ++ (← nameText))]
  if ← keyword? "COLLATION" then return .text "COLLATION" :: (← showFilter g)
  match ← showValues? g w with
  | some pieces => return pieces
  | none =>
    match ← phrase? [["DATABASES"], ["SCHEMAS"], ["CHARACTER", "SET"], ["CHARSET"]] with
    | none => return [.text (" ".intercalate ((← wordsToEnd).map Ident.render))]
    | some words =>
      if ["DATABASES", "SCHEMAS"].contains words then
        return .text (w.terse ++ words ++ (← wordsBefore ["HISTORY"])) :: (← showOptions g)
      else return .text words :: (← showFilter g)

/-- A `SHOW`, after the word. -/
def show_ (g : Grammar) : P Statement := do
  let w ← showWords
  match ← showTables? g w with
  | some pieces => return .other .other (.text "SHOW " :: pieces)
  | none =>
    if !w.extended.isEmpty || !w.full.isEmpty then unexpected
    match ← showOther g w with
    | [.text ""] => return plain "SHOW"
    | pieces => return .other .other (.text "SHOW " :: pieces)

end RowAccess.Sql.Parser
