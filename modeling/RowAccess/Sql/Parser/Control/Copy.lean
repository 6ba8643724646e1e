import RowAccess.Sql.Parser.Definition.Option
/-!
# Reading statements that copy rows

Rows are copied between tables and files. Where they follow the statement itself, its tokens are
joined again to the values that tabs and ends of lines separate.
-/

namespace RowAccess.Sql.Parser

/-! ## Options in parentheses -/

/-- An option that is on if no truth value follows it. -/
def switchOption (word : String) : P String := do
  match ← oneOf? ["TRUE", "FALSE"] with
  | some "FALSE" => return word ++ " FALSE"
  | _ => return word

/-- A single character between quotes, after the words `lead`. -/
def characterAfter (d : Dialect) (lead : String) : P String :=
  return lead ++ " '" ++ (← character d) ++ "'"

/-- An option of a copy, in parentheses. -/
def copyOption (d : Dialect) : P String := do
  match ← oneOf ["FORMAT", "FREEZE", "DELIMITER", "NULL", "HEADER", "QUOTE", "ESCAPE", "FORCE_QUOTE",
      "FORCE_NOT_NULL", "FORCE_NULL", "ENCODING"] with
  | "FORMAT" => return "FORMAT " ++ (← identText)
  | "FREEZE" => switchOption "FREEZE"
  | "HEADER" => switchOption "HEADER"
  | "NULL" => return "NULL " ++ (← quotedText d)
  | "ENCODING" => return "ENCODING " ++ (← quotedText d)
  | k =>
    if ["DELIMITER", "QUOTE", "ESCAPE"].contains k then characterAfter d k
    else return k ++ " " ++ renderNames (← identsInParens)

/-! ## Options without parentheses -/

/-- A string between quotes after the words `lead`, or nothing if no string is next. -/
def patternAfter (d : Dialect) (lead : String) : P String := do
  let _ ← keyword? "AS"
  match ← peek with
  | some (.literal (.string _)) => return lead ++ (← quotedText d)
  | _ => return ""

/-- A truth value with a space before it, if one is next. -/
def truth? : P String := do
  match ← oneOf? ["TRUE", "ON", "FALSE", "OFF"] with
  | some "TRUE" | some "ON" => return " TRUE"
  | some _ => return " FALSE"
  | none => return ""

/-- The size of a file. -/
def fileSize (d : Dialect) : P String := do
  let _ ← keyword? "AS"
  let size ← numberText d
  return size ++ (← lastWord ["MB", "GB"])

/-- The role under which files are accessed. -/
def accessRole (d : Dialect) : P String := do
  if ← keyword? "DEFAULT" then return "DEFAULT" else bareQuotedText d

/-- An option of values with commas between them. -/
def commaOption (d : Dialect) : P String := do
  match ← oneOf ["HEADER", "QUOTE", "ESCAPE", "FORCE"] with
  | "HEADER" => return " HEADER"
  | "FORCE" => do
    let words ← phrase [["NOT", "NULL"], ["QUOTE"]]
    return " FORCE " ++ words ++ " " ++ renderIdents (← commas ident)
  | k => do
    let _ ← keyword? "AS"
    characterAfter d (" " ++ k)

/-- Options of a copy that nothing follows. -/
def bareCopyOptions : List String :=
  ["ACCEPTANYDATE", "ADDQUOTES", "ALLOWOVERWRITE", "BINARY", "BLANKSASNULL", "BZIP2", "CLEANPATH",
    "EMPTYASNULL", "ESCAPE", "GZIP", "HEADER", "PARQUET", "REMOVEQUOTES", "TRUNCATECOLUMNS", "ZSTD"]

/-- An option of a copy that has a value, after the word `k`. -/
def valuedCopyOption (d : Dialect) (k : String) : P String := do
  match k with
  | "ACCEPTINVCHARS" | "DATEFORMAT" | "TIMEFORMAT" => return k ++ (← patternAfter d " ")
  | "JSON" => return k ++ (← patternAfter d " AS ")
  | "COMPUPDATE" => do
    let preset ← wordsBefore ["PRESET"]
    let enabled ← truth?
    return k ++ if preset.isEmpty then enabled else preset
  | "CSV" => return k ++ String.join (← many (attempt (commaOption d)))
  | "DELIMITER" => do
    let _ ← keyword? "AS"
    characterAfter d k
  | "ENCRYPTED" => return k ++ (← wordsBefore ["AUTO"])
  | "EXTENSION" | "FIXEDWIDTH" => return k ++ " " ++ (← quotedText d)
  | "IAM_ROLE" => return k ++ " " ++ (← accessRole d)
  | "IGNOREHEADER" => do
    let _ ← keyword? "AS"
    return s!"{k} {← naturalNumber}"
  | "MANIFEST" => return k ++ (← wordsBefore ["VERBOSE"])
  | "MAXFILESIZE" | "ROWGROUPSIZE" => return k ++ " " ++ (← fileSize d)
  | "NULL" | "REGION" => do
    let _ ← keyword? "AS"
    return k ++ " " ++ (← quotedText d)
  | "PARALLEL" | "STATUPDATE" => return k ++ (← truth?)
  | _ => do
    keyword "BY"
    let columns ← identsInParens
    return k ++ " BY " ++ renderNames columns ++ (← wordsBefore ["INCLUDE"])

/-- An option of a copy, without parentheses. -/
def plainCopyOption (d : Dialect) : P String := do
  if ← keyword? "FORMAT" then
    let _ ← keyword? "AS"
  match ← oneOf? bareCopyOptions with
  | some k => return k
  | none =>
    valuedCopyOption d (← oneOf ["ACCEPTINVCHARS", "COMPUPDATE", "CSV", "DATEFORMAT", "DELIMITER",
      "ENCRYPTED", "EXTENSION", "FIXEDWIDTH", "IAM_ROLE", "IGNOREHEADER", "JSON", "MANIFEST",
      "MAXFILESIZE", "NULL", "PARALLEL", "PARTITION", "REGION", "ROWGROUPSIZE", "STATUPDATE",
      "TIMEFORMAT"])

/-- Options of a copy without parentheses, with a space before each. -/
def plainCopyOptions (d : Dialect) : P String := do
  return String.join ((← many (attempt (plainCopyOption d))).map (" " ++ ·))

/-! ## Rows after the statement -/

/-- A piece of the rows after a statement. -/
inductive RowPart where
  | token (t : Token)
  | blank (b : Blank)

/-- A blank as it is written. -/
def blankText : Blank → String
  | .space => " "
  | .newline => "\n"
  | .tab => "\t"
  | .comment text => text

/-- The tokens and blanks of lexemes, in order. -/
def rowParts (lexemes : List Lexeme) : List RowPart :=
  lexemes.flatMap fun l => .token l.token :: l.gap.map .blank

/-- The parts after the blanks that come first. -/
def skipBlanks : List RowPart → List RowPart
  | .blank _ :: rest => skipBlanks rest
  | parts => parts

/-- The values of rows, none where there is no value, and the parts after the sign that ends them.
`value` is what has been read of the next value, which counts only if a tab or the end of a line
follows it; `fuel` bounds the number of parts. -/
def rowValues : (fuel : Nat) → (value : String) → List RowPart → List (Option String) × List RowPart
  | 0, _, parts => ([], parts)
  | _, _, [] => ([], [])
  | fuel + 1, value, part :: rest =>
    match part with
    | .blank .tab | .blank .newline =>
      let (values, after) := rowValues fuel "" rest
      (some value :: values, after)
    | .blank b => rowValues fuel (value ++ blankText b) rest
    | .token (.symbol "\\") =>
      match skipBlanks rest with
      | .token (.symbol ".") :: after => ([], after)
      | .token (.word ⟨"N", _⟩ _) :: after =>
        let (values, after) := rowValues fuel value after
        (none :: values, after)
      | after => rowValues fuel value (after.drop 1)
    | .token t => rowValues fuel (value ++ t.render) rest

/-- The tokens among parts. -/
def tokensOf (parts : List RowPart) : List Lexeme :=
  parts.filterMap fun
    | .token t => some ⟨t, []⟩
    | .blank _ => none

/-- The rows after a statement and its semicolon, as they are written. -/
def followingRows : P String := do
  let separator ← advanceLexeme
  if separator.token != .symbol ";" then unexpected
  let parts := separator.gap.map .blank ++ rowParts (← get)
  let (values, after) := rowValues (parts.length + 1) "" parts
  set (tokensOf after)
  if values.isEmpty then return ""
  else return ";\n" ++ "\t".intercalate (values.map (·.getD "\\N")) ++ "\n\\."

/-! ## Statements -/

/-- What is copied: the rows of a query, or a table with its columns; and whether it is a query. -/
def copySource (g : Grammar) : P (List Piece × Bool) := do
  if ← peekSymbol "(" then return ([.text "(", .query (← parens g.query), .text ")"], true)
  else
    let table ← nameText
    let columns ← optionalColumns false
    return ([.text (table ++ if columns.isEmpty then "" else " " ++ renderNames columns)], false)

/-- What rows are copied from or to. -/
def copyTarget (d : Dialect) : P String := do
  match ← oneOf? ["STDIN", "STDOUT", "PROGRAM"] with
  | some "PROGRAM" => return "PROGRAM " ++ (← quotedText d)
  | some k => return k
  | none => quotedText d

/-- A `COPY`, after the word. -/
def copy (g : Grammar) : P Statement := do
  let d := g.dialect
  let (source, isQuery) ← copySource g
  let way ← oneOf ["FROM", "TO"]
  if isQuery && way == "FROM" then unexpected
  let target ← copyTarget d
  let _ ← keyword? "WITH"
  let options ← if ← peekSymbol "(" then parens (commas (copyOption d)) else pure []
  let list := if options.isEmpty then "" else " (" ++ ", ".intercalate options ++ ")"
  let others ← plainCopyOptions d
  let rows ← if target == "STDIN" then followingRows else pure ""
  return .other .other ([Piece.text "COPY "] ++ source ++
    [Piece.text (" " ++ way ++ " " ++ target ++ list ++ others ++ rows)])

/-- The rows of a query to write to files, after `UNLOAD`. -/
def unload (g : Grammar) : P Statement := do
  let d := g.dialect
  let source : P Piece := do
    match ← peek with
    | some (.literal (.string _)) => return .text (← bareQuotedText d)
    | _ => return .query (← g.query)
  let rows ← parens source
  keyword "TO"
  let target ← identText
  let role ← wordsAfter ["IAM_ROLE"] do return " IAM_ROLE " ++ (← accessRole d)
  let settings ← options g ["WITH"]
  return .other .other ([Piece.text "UNLOAD(", rows, .text (") TO " ++ target ++ role)] ++
    enclosed " WITH " settings ++ words (← plainCopyOptions d))

/-- The rows of a query to export, after `EXPORT`. -/
def export_ (g : Grammar) : P Statement := do
  keyword "DATA"
  let connection ← nameClause ["WITH", "CONNECTION"]
  keyword "OPTIONS"
  let settings ← parens (commas (optionOf g.dialect g.expr))
  keyword "AS"
  return .other .other (.text ("EXPORT DATA" ++ connection ++ " OPTIONS(") :: separated settings ++
    [Piece.text ") AS ", .query (← g.query)])

end RowAccess.Sql.Parser
