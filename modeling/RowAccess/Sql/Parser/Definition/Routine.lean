import RowAccess.Sql.Parser.Block
import RowAccess.Sql.Parser.Definition.Column
/-!
# Reading definitions of functions, macros, procedures and triggers
-/

namespace RowAccess.Sql.Parser

/-! ## Parameters -/

/-- The way a parameter is passed, with a space after it. -/
def parameterMode : P String := do
  match ← oneOf? ["IN", "OUT", "INOUT"] with
  | some k => return k ++ " "
  | none => return ""

/-- A type with a name that may stand before it. Where two types follow each other, the last token of
the first is the name. -/
def namedType (g : Grammar) : P String := do
  let start ← get
  let first ← g.type
  let rest ← get
  let last : Option Token := start[start.length - rest.length - 1]?.map (·.token)
  let second ← if ← peekKeyword "DEFAULT" then pure none else attempt g.type
  match second with
  | none => return first
  | some type =>
    match last with
    | some (.word i k) => return (Token.word i k).render ++ " " ++ type
    | _ => unexpected

/-- A parameter of a function. -/
def functionParameter (g : Grammar) : P (List Piece) := do
  let mode ← parameterMode
  let type ← namedType g
  let preset ← if ← keyword? "DEFAULT" then g.exprAfter " = "
    else if ← symbol? "=" then g.exprAfter " = "
    else pure []
  return .text (mode ++ type) :: preset

/-- A function with the parameters that tell it from others of its name. -/
def functionSignature (g : Grammar) : P (List Piece) := do
  let name ← nameText
  if ← peekSymbol "(" then
    let parameters ← parens (commasUntil ")" (functionParameter g))
    return [Piece.text (name ++ "(")] ++ separated parameters ++ [Piece.text ")"]
  else return [.text name]

/-! ## Functions -/

/-- What is said of a function after its parameters. -/
structure FunctionTraits where
  language : Option String := none
  behavior : Option String := none
  onNull : Option String := none
  parallel : Option String := none
  /-- The text or the expression that the function is. -/
  body : Option (List Piece) := none

namespace FunctionTraits

/-- A part of the body of a function: a text, between the signs that it is written with. -/
def bodyText (d : Dialect) : P String := do
  match ← peek with
  | some (.literal (.dollar tag s)) => do
    skip 1
    return (Literal.dollar tag s).render
  | _ => quotedText d

/-- The text of a function, with the symbol that it is linked to. -/
def linkedBody (d : Dialect) : P String := do
  let text ← bodyText d
  if ← symbol? "," then return text ++ ", " ++ (← bodyText d) else return text

/-- The value of a trait, if it is not set yet. -/
def once {α : Type} (set : Option α) (p : P α) : P (Option α) := do
  if set.isSome then unexpected else return some (← p)

/-- The traits with the one that is next, if one is. None may be said twice. -/
def next? (g : Grammar) (t : FunctionTraits) : P (Option FunctionTraits) := do
  if ← keyword? "AS" then
    let body ← once t.body do return [Piece.text (" AS " ++ (← linkedBody g.dialect))]
    return some { t with body }
  if ← keyword? "RETURN" then
    return some { t with body := ← once t.body (g.exprAfter " RETURN ") }
  if ← keyword? "LANGUAGE" then
    return some { t with language := ← once t.language identText }
  if ← keyword? "PARALLEL" then
    return some { t with parallel := ← once t.parallel (oneOf ["UNSAFE", "RESTRICTED", "SAFE"]) }
  match ← oneOf? ["IMMUTABLE", "STABLE", "VOLATILE"] with
  | some k => return some { t with behavior := ← once t.behavior (pure k) }
  | none =>
    let onNull? ← phrase? [["CALLED", "ON", "NULL", "INPUT"], ["RETURNS", "NULL", "ON", "NULL", "INPUT"],
      ["STRICT"]]
    match onNull? with
    | some words => return some { t with onNull := ← once t.onNull (pure words) }
    | none => return none

/-- Traits as they are written, with a space before each. -/
def pieces (t : FunctionTraits) : List Piece :=
  let said (lead : String) (trait : Option String) : String :=
    match trait with
    | some words => lead ++ words
    | none => ""
  words (said " LANGUAGE " t.language ++ said " " t.behavior ++ said " " t.onNull ++
    said " PARALLEL " t.parallel) ++ t.body.getD []

end FunctionTraits

/-- A function to create, after the words `lead`. -/
def createFunction (g : Grammar) (lead : String) : P Statement := do
  if g.dialect == .mysql then unexpected
  let name ← nameText
  let parameters ← parens (commasUntil ")" (functionParameter g))
  let answer ← wordsAfter ["RETURNS"] do return " RETURNS " ++ (← g.type)
  let traits ← repeated (FunctionTraits.next? g) {}
  return .other .other (.text ("CREATE " ++ lead ++ "FUNCTION " ++ name ++ "(") ::
    separated parameters ++ [Piece.text (")" ++ answer)] ++ traits.pieces)

/-! ## Macros -/

/-- A parameter of a macro. -/
def macroParameter (g : Grammar) : P (List Piece) := do
  let name ← identText
  let preset ← if ← symbol? ":=" then g.exprAfter " := "
    else if ← symbol? "=>" then g.exprAfter " := "
    else pure []
  return .text name :: preset

/-- A macro to create, after the words `lead`. -/
def createMacro (g : Grammar) (lead : String) : P Statement := do
  if g.dialect != .generic then unexpected
  let name ← nameText
  let parameters ← parens (commasUntil ")" (macroParameter g))
  keyword "AS"
  let list := if parameters.isEmpty then []
    else [Piece.text "("] ++ separated parameters ++ [Piece.text ")"]
  let body ← if ← keyword? "TABLE" then do pure [Piece.text " AS TABLE ", .query (← g.query)]
    else g.exprAfter " AS "
  return .other .other (.text ("CREATE " ++ lead ++ "MACRO " ++ name) :: list ++ body)

/-! ## Procedures -/

/-- A parameter of a procedure. -/
def procedureParameter (g : Grammar) : P (List Piece) := do
  let mode ← parameterMode
  let name ← identText
  let type ← g.type
  let preset ← if ← symbol? "=" then g.exprAfter " = " else pure []
  return .text (mode ++ name ++ " " ++ type) :: preset

/-- Parameters of a procedure up to the closing parenthesis. A comma may stand in the place of one;
`fuel` bounds their number. -/
def procedureParameterList (g : Grammar) : (fuel : Nat) → P (List (List Piece))
  | 0 => throw .tooDeep
  | fuel + 1 => do
    let first ← match ← peek with
      | some (.word _ _) => do pure [← procedureParameter g]
      | _ => pure []
    let comma ← symbol? ","
    if ← symbol? ")" then return first
    else if comma then return first ++ (← procedureParameterList g fuel)
    else unexpected

/-- The parameters of a procedure in parentheses, if there are any. -/
def procedureParameters (g : Grammar) : P (List (List Piece)) := do
  if ← symbol? "(" then
    if ← symbol? ")" then return []
    else procedureParameterList g ((← get).length + 1)
  else return []

/-- A procedure to create, after the words `lead`. -/
def createProcedure (g : Grammar) (lead : String) : P Statement := do
  let name ← nameText
  let parameters ← procedureParameters g
  let language ← identClause ["LANGUAGE"]
  keyword "AS"
  let body ← block g ["END"]
  let list := if parameters.isEmpty then []
    else [Piece.text " ("] ++ separated parameters ++ [Piece.text ")"]
  return .other .other (.text ("CREATE " ++ lead ++ "PROCEDURE " ++ name) :: list ++
    [Piece.text (language ++ " AS ")] ++ body.pieces)

/-! ## Triggers -/

/-- When a trigger fires relative to the change, with a space after the words. -/
def triggerPeriod : P String := do
  match ← phrase? [["FOR"], ["BEFORE"], ["AFTER"], ["INSTEAD", "OF"]] with
  | some words => return words ++ " "
  | none => return ""

/-- A change that fires a trigger. -/
def triggerEvent : P String := do
  let event ← oneOf ["INSERT", "UPDATE", "DELETE", "TRUNCATE"]
  if event == "UPDATE" then
    return event ++ (← wordsAfter ["OF"] do return " OF " ++ renderIdents (← commas ident))
  else return event

/-- A name for the rows before or after the change, if one is next. A word `OLD` or `NEW` without
`TABLE` is left out. -/
def transition? : P (Option String) := do
  match ← oneOf? ["OLD", "NEW"] with
  | none => return none
  | some side =>
    if ← keyword? "TABLE" then
      let link ← wordsBefore ["AS"]
      return some (" " ++ side ++ " TABLE" ++ link ++ " " ++ (← nameText))
    else return none

/-- For what a trigger is executed. -/
def triggerTarget : P String := wordsAfter ["FOR"] do
  return " FOR " ++ (← wordsIf ["EACH"]) ++ (← oneOf ["ROW", "STATEMENT"])

/-- A trigger to create, after the words `lead`. -/
def createTrigger (g : Grammar) (lead : String) : P Statement := do
  let name ← nameText
  let period ← triggerPeriod
  let events := (← triggerEvent) :: (← many (optional (keyword? "OR") triggerEvent))
  keyword "ON"
  let table ← nameText
  let source ← nameClause ["FROM"]
  let checked ← timing
  let transitions ← if ← keyword? "REFERENCING" then many transition? else pure []
  let names := if transitions.isEmpty then "" else " REFERENCING" ++ String.join transitions
  let target ← triggerTarget
  let condition ← g.exprClause ["WHEN"]
  let body ← if ← keyword? "EXECUTE" then do
      let kind ← oneOf ["FUNCTION", "PROCEDURE"]
      pure (Piece.text (" EXECUTE " ++ kind ++ " ") :: (← functionSignature g))
    else do pure (.text " " :: (← block g ["END"]).pieces)
  return .other .other (.text ("CREATE " ++ lead ++ "TRIGGER " ++ name ++ " " ++ period ++
    " OR ".intercalate events ++ " ON " ++ table ++ source ++ checked ++ names ++ target) ::
    condition ++ body)

end RowAccess.Sql.Parser
