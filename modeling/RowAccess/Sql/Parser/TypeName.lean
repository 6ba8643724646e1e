import RowAccess.Sql.Parser.Literal
/-!
# Reading type names

A type is kept as its name in normal form: keywords in upper case, and lengths without blanks. A name
that is no keyword is a custom type and keeps its spelling.

Angle brackets around types may close two at a time, as in `ARRAY<ARRAY<INT>>`. The inner type reads
the double sign and says so (`TypeName.closed`), and the outer one then needs no sign of its own.
-/

namespace RowAccess.Sql.Parser

/-! ## Lengths -/

/-- A length in parentheses, or nothing. -/
def optionalPrecision : P String := do
  if ← symbol? "(" then
    let n ← naturalNumber
    symbol ")"
    return s!"({n})"
  else return ""

/-- A precision and a scale in parentheses, or nothing. -/
def optionalScale : P String := do
  if ← symbol? "(" then
    let precision ← naturalNumber
    let scale ← if ← symbol? "," then do pure s!",{← signedInteger}" else pure ""
    symbol ")"
    return s!"({precision}{scale})"
  else return ""

/-- A length in characters in parentheses, or nothing. -/
def optionalLength : P String := do
  if ← symbol? "(" then
    if ← keyword? "MAX" then
      symbol ")"
      return "(MAX)"
    let n ← naturalNumber
    let unit ← lastWord ["CHARACTERS", "OCTETS"]
    symbol ")"
    return s!"({n}{unit})"
  else return ""

/-- A length in bytes in parentheses, or nothing. -/
def optionalByteLength : P String := do
  if ← symbol? "(" then
    if ← keyword? "MAX" then
      symbol ")"
      return "(MAX)"
    let n ← naturalNumber
    symbol ")"
    return s!"({n})"
  else return ""

/-- The word `UNSIGNED` after a number type, with the space before it, or nothing. -/
def optionalUnsigned : P String := lastWord ["UNSIGNED"]

/-- The word `UNSIGNED` after a number type, with the space before it, or nothing; the word `SIGNED`
is left out. -/
def optionalSign (d : Dialect) : P String := do
  let unsigned ← optionalUnsigned
  if unsigned.isEmpty && d != .postgres then
    let _ ← keyword? "SIGNED"
  return unsigned

/-- The words on time zones after a type of times, with the space before them, or nothing. -/
def optionalZone : P String := do
  match ← oneOf? ["WITH", "WITHOUT"] with
  | some k => do
    keywords ["TIME", "ZONE"]
    return " " ++ k ++ " TIME ZONE"
  | none => return ""

/-! ## Names of types -/

/-- Types that are a keyword and nothing else. -/
def plainTypes : List String :=
  ["BOOLEAN", "BOOL", "FLOAT4", "FLOAT64", "FLOAT8", "INT64", "HUGEINT", "UHUGEINT", "UBIGINT",
    "USMALLINT", "UTINYINT", "UUID", "DATE", "JSON", "JSONB", "REGCLASS", "TEXT", "TINYTEXT",
    "MEDIUMTEXT", "LONGTEXT", "BYTEA", "TINYBLOB", "MEDIUMBLOB", "LONGBLOB", "TRIGGER"]

/-- Types that are a keyword and nothing else, and are written in mixed case. -/
def mixedCaseTypes : List (String × String) :=
  [("INT16", "Int16"), ("INT32", "Int32"), ("INT128", "Int128"), ("INT256", "Int256"),
    ("UINT8", "UInt8"), ("UINT16", "UInt16"), ("UINT32", "UInt32"), ("UINT64", "UInt64"),
    ("UINT128", "UInt128"), ("UINT256", "UInt256"), ("FLOAT32", "Float32"), ("DATE32", "Date32")]

/-- Types of whole numbers that may be called signed. -/
def signedTypes : List String :=
  ["TINYINT", "SMALLINT", "MEDIUMINT", "INT", "INTEGER", "BIGINT"]

/-- Types of whole numbers that are known by their size. -/
def sizedIntegerTypes : List String := ["INT2", "INT4", "INT8"]

/-- Types with a length in bytes or bits. -/
def sizedTypes : List String :=
  ["CLOB", "BINARY", "BLOB", "BYTES", "VARBIT", "DATETIME", "STRING", "TIMETZ", "TIMESTAMPTZ",
    "TIMESTAMP_NTZ"]

/-- The fields of an interval type with a space before each word, or nothing. -/
def intervalFields : P String := do
  match ← oneOf? ["YEAR", "DAY", "HOUR", "MINUTE", "MONTH", "SECOND"] with
  | none => return ""
  | some first =>
    let last := match first with
      | "YEAR" => ["MONTH"]
      | "DAY" => ["HOUR", "MINUTE", "SECOND"]
      | "HOUR" => ["MINUTE", "SECOND"]
      | "MINUTE" => ["SECOND"]
      | _ => []
    if ← onlyIf (!last.isEmpty) (keyword? "TO") then return " " ++ first ++ " TO " ++ (← oneOf last)
    else return " " ++ first

/-- What may stand between the parentheses after a custom type. -/
def modifier : P (Option String) := do
  match ← advance with
  | .word i _ => return some i.render
  | .literal (.number digits _) => return some digits
  | .literal (.string s) => return some s
  | .symbol "," => return some ","
  | .symbol ")" => return none
  | _ => unexpected

/-- A type with a name of its own. -/
def customType : P String := do
  let name ← nameText
  if ← symbol? "(" then
    let modifiers := (← many modifier).filter (· != ",")
    return if modifiers.isEmpty then name else name ++ "(" ++ ", ".intercalate modifiers ++ ")"
  else return name

/-- String literals in parentheses. -/
def quotedMembers : P String := do
  let member : P String := do
    match ← advance with
    | .literal (.string s) => return quoted '\'' s
    | _ => unexpected
  return "(" ++ ", ".intercalate (← parens (commas member)) ++ ")"

/-- The members of an enumeration in parentheses, each with the number it may stand for. -/
def enumMembers (d : Dialect) : P String := do
  let member : P String := do
    let name ← quotedText d
    if ← symbol? "=" then return name ++ " = " ++ (← signedNumber d) else return name
  return "(" ++ ", ".intercalate (← parens (commas member)) ++ ")"

/-! ## Types of other types -/

/-- Reads the closing bracket around a type, unless that was read with its own, and answers whether
a further bracket was read with it. -/
def closingAngle (closed : Bool) : P Bool := do
  if closed then return false
  else if ← symbol? ">" then return false
  else
    symbol ">>"
    return true

/-- A field of a structure, with its name if it has one, and whether the bracket around the structure
was read with it. -/
def structField (g : Grammar) (options : P String) : P (String × Bool) := do
  let named ← match ← ahead 2 with
    | [.word _ _, .word _ _] => pure true
    | [.word _ _, .symbol ":"] => pure true
    | _ => pure false
  let name ← if named then do
      let name ← ident
      let _ ← symbol? ":"
      pure (name.render ++ " ")
    else pure ""
  let t ← g.typeName
  return (name ++ t.text ++ (← options), t.closed)

/-- Further fields of a structure after `fields`, until the bracket around it was read or no comma
follows; `fuel` bounds their number. -/
def structFields (field : P (String × Bool)) : (fuel : Nat) → List String → P (List String × Bool)
  | 0, _ => throw .tooDeep
  | fuel + 1, fields => do
    let (f, closed) ← field
    if ← onlyIf (!closed) (symbol? ",") then structFields field fuel (fields ++ [f])
    else return (fields ++ [f], closed)

/-- The fields of a structure in angle brackets, if there are any, and whether a further bracket was
read with them. -/
def structType (g : Grammar) (options : P String) : P (List String × Bool) := do
  if ← symbol? "<" then
    let (fields, closed) ← structFields (structField g options) ((← get).length + 1) []
    return (fields, ← closingAngle closed)
  else return ([], false)

/-- The name of a structure type with its fields. -/
def renderStruct (fields : List String) : String :=
  if fields.isEmpty then "STRUCT" else "STRUCT<" ++ ", ".intercalate fields ++ ">"

/-- Options of a field in parentheses after `OPTIONS`, with the space before the word, or nothing. -/
def fieldOptions (g : Grammar) : P String := do
  if ← keyword? "OPTIONS" then
    let option : P String := do
      let name ← identText
      symbol "="
      return name ++ " = " ++ (← g.expr).render
    return " OPTIONS(" ++ ", ".intercalate (← parens (commasUntil ")" option)) ++ ")"
  else return ""

/-- Names with their types in parentheses. -/
def namedTypes (g : Grammar) : P String := do
  let field : P String := do return (← identText) ++ " " ++ (← g.type)
  return "(" ++ ", ".intercalate (← parens (commas field)) ++ ")"

/-- A type that holds others, after the keyword `k`, and whether a further bracket was read with it.
Nothing if the keyword introduces none. -/
def compoundType (g : Grammar) (k : String) : P (Option (String × Bool)) := do
  match k with
  | "ARRAY" => do
    symbol "<"
    let t ← g.typeName
    return some ("ARRAY<" ++ t.text ++ ">", ← closingAngle t.closed)
  | "TABLE" =>
    if ← peekSymbol "(" then return some ("TABLE" ++ (← namedTypes g), false)
    else return some ("TABLE", false)
  | _ =>
    if g.dialect != .generic then return none
    match k with
    | "STRUCT" => do
      let (fields, closed) ← structType g (fieldOptions g)
      return some (renderStruct fields, closed)
    | "UNION" => return some ("UNION" ++ (← namedTypes g), false)
    | "NULLABLE" => return some ("Nullable(" ++ (← parens g.type) ++ ")", false)
    | "LOWCARDINALITY" => return some ("LowCardinality(" ++ (← parens g.type) ++ ")", false)
    | "MAP" => do
      symbol "("
      let key ← g.type
      symbol ","
      let value ← g.type
      symbol ")"
      return some ("Map(" ++ key ++ ", " ++ value ++ ")", false)
    | "NESTED" => do
      let columns ← parens (commas g.column)
      return some ("Nested(" ++ Piece.renderAll (separated columns) ++ ")", false)
    | "TUPLE" => do
      let fields ← parens (commas (structField g (fieldOptions g)))
      return some ("Tuple(" ++ ", ".intercalate (fields.map (·.1)) ++ ")", false)
    | _ => return none

/-! ## All types -/

/-- A type of times after its keyword. -/
def momentType (d : Dialect) (k : String) : P (Option String) := do
  match k with
  | "TIME" | "TIMESTAMP" => return some (k ++ (← optionalPrecision) ++ (← optionalZone))
  | "DATETIME64" => do
    symbol "("
    let n ← naturalNumber
    let zone ← if ← symbol? "," then do pure (", " ++ (← bareQuotedText d)) else pure ""
    symbol ")"
    return some s!"DateTime64({n}{zone})"
  | "INTERVAL" =>
    if d == .mysql then return some k
    else return some (k ++ (← intervalFields) ++ (← optionalPrecision))
  | _ => return none

/-- A type of numbers or texts after its keyword. -/
def scalarType (d : Dialect) (k : String) : P (Option String) := do
  match k with
  | "NUMERIC" | "BIGNUMERIC" | "BIGDECIMAL" => return some (k ++ (← optionalScale))
  | "DECIMAL" | "DEC" | "FLOAT" => return some (k ++ (← optionalScale) ++ (← optionalUnsigned))
  | "REAL" => return some (k ++ (← optionalUnsigned))
  | "DOUBLE" =>
    if ← keyword? "PRECISION" then return some ("DOUBLE PRECISION" ++ (← optionalUnsigned))
    else return some (k ++ (← optionalScale) ++ (← optionalUnsigned))
  | "VARCHAR" | "NVARCHAR" => return some (k ++ (← optionalLength))
  | "VARBINARY" => return some (k ++ (← optionalByteLength))
  | "CHARACTER" | "CHAR" =>
    if ← keyword? "VARYING" then return some (k ++ " VARYING" ++ (← optionalLength))
    else if ← keywords? ["LARGE", "OBJECT"] then
      return some (k ++ " LARGE OBJECT" ++ (← optionalPrecision))
    else return some (k ++ (← optionalLength))
  | "FIXEDSTRING" => return some s!"FixedString({← parens naturalNumber})"
  | "BIT" =>
    if ← keyword? "VARYING" then return some ("BIT VARYING" ++ (← optionalPrecision))
    else return some (k ++ (← optionalPrecision))
  | "ENUM" | "ENUM8" | "ENUM16" => return some (k ++ (← enumMembers d))
  | "SET" => return some (k ++ (← quotedMembers))
  | "SIGNED" | "UNSIGNED" => return some (k ++ (← lastWord ["INTEGER"]))
  | "TSVECTOR" | "TSQUERY" => return if d == .mysql then none else some k
  | "ANY" => return if ← keyword? "TYPE" then some "ANY TYPE" else none
  | _ => return none

/-- A type that the keyword `k`, which has been read, introduces, and whether a further bracket was
read with it. Nothing if it introduces none. -/
def keywordType (g : Grammar) (k : String) : P (Option (String × Bool)) := do
  let d := g.dialect
  let simple (type : String) : Option (String × Bool) := some (type, false)
  if plainTypes.contains k then return simple k
  if let some type := mixedCaseTypes.lookup k then return simple type
  if signedTypes.contains k then
    return simple (k ++ (← optionalPrecision) ++ (← optionalSign d))
  if sizedIntegerTypes.contains k then
    return simple (k ++ (← optionalPrecision) ++ (← optionalUnsigned))
  if sizedTypes.contains k then return simple (k ++ (← optionalPrecision))
  match ← momentType d k with
  | some type => return simple type
  | none =>
    match ← scalarType d k with
    | some type => return simple type
    | none => compoundType g k

/-- The brackets after the type of an array's members. -/
def arrayBrackets (type : String) : P (Option String) := do
  if ← symbol? "[" then
    let size ← attempt naturalNumber
    symbol "]"
    return some (type ++ "[" ++ (match size with
      | some n => toString n
      | none => "") ++ "]")
  else return none

/-- A type name. -/
def typeName (g : Grammar) : P TypeName := do
  let start ← get
  let base ← match ← advance with
    | .word _ k =>
      match ← keywordType g k with
      | some (type, closed) =>
        pure (TypeName.mk type (if k == "INTERVAL" then .interval else .known) closed)
      | none => do
        set start
        pure ⟨← customType, .custom, false⟩
    | _ => unexpected
  if g.dialect == .mysql then return base
  let text ← repeated arrayBrackets base.text
  return if text == base.text then base else ⟨text, .known, base.closed⟩

end RowAccess.Sql.Parser
