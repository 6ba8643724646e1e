import RowAccess.Sql.Parser.Form
import RowAccess.Sql.Parser.Reserved
/-!
# Reading expressions

An expression is an operand followed by operators, each with what it takes. The loop over operators
stops at the first one that binds no more tightly than the operator before the operand.
-/

namespace RowAccess.Sql.Parser

/-! ## Operands -/

/-- A literal with its type before it. -/
def typedLiteral (g : Grammar) : P Expr := do
  let t ← typeName g
  if t.closed then unexpected
  match t.kind with
  | .interval => interval g
  | .custom => unexpected
  | .known => return .typed (t.text ++ " ") (← literal g.dialect) ""

/-- The literal after the name of its character set, if one is next. -/
def introduced? (name : Ident) : P (Option Expr) := do
  if !name.value.startsWith "_" then return none
  match ← peek with
  | some (.literal l) =>
    match l with
    | .string _ | .doubleQuoted _ | .hex _ => do
      skip 1
      return some (.special [.text (name.render ++ " " ++ l.render)])
    | _ => return none
  | _ => return none

/-- An expression that starts with a name which introduces no form. -/
def named (g : Grammar) (name : Ident) : P Expr := do
  if ← peekSymbol "(" then call g [name]
  else match ← introduced? name with
    | some e => return e
    | none => return .name [name]

/-- An expression that starts with a word. A word that introduces a form is also a name where the
form cannot be read, unless it is reserved. -/
def worded (g : Grammar) (name : Ident) (k : String) : P Expr := fun ts =>
  match form g name k ts with
  | .ok (some e, rest) => .ok (e, rest)
  | .ok (none, rest) => named g name rest
  | .error failure =>
    if reservedForName g.dialect k then .error failure
    else match named g name ts with
      | .ok answer => .ok answer
      | .error _ => .error failure

/-- Whether the next keyword starts a query. -/
def peekQuery : P Bool := return ["SELECT", "WITH"].contains (← peekWord)

/-- An expression after an opening parenthesis. -/
def parenthesized (g : Grammar) : P Expr := do
  if ← peekQuery then
    let q ← g.query
    symbol ")"
    return .subquery q
  let members ← commas g.expr
  symbol ")"
  match members with
  | [e] => return .nested e
  | _ => return .tuple members

/-- The operator that a symbol before an operand stands for, with its group. -/
def prefixOp? (d : Dialect) (symbol : String) : Option (UnaryOp × OperatorGroup) :=
  match symbol with
  | "-" => some (.minus, .product)
  | "+" => some (.plus, .product)
  | "~" => some (.other "~", .sum)
  | s =>
    if !d.geometry then none
    else if ["!!", "|/", "||/", "@"].contains s then some (.other s, .sum)
    else if ["#", "@-@", "@@", "?-", "?|"].contains s then some (.other (s ++ " "), .sum)
    else none

/-- An expression that starts with a symbol. -/
def signed (g : Grammar) (s : String) : P Expr := do
  match prefixOp? g.dialect s with
  | some (op, group) => do
    skip 1
    return .unary op (← g.operand (group.strength g.dialect))
  | none =>
    match s with
    | ":" | "@" => return .literal (← literal g.dialect)
    | "[" => do
      skip 1
      arrayForm g ""
    | "(" => do
      skip 1
      parenthesized g
    | "\x7b" => do
      skip 1
      bracesForm g
    | _ => unexpected

/-- An expression without an operator after it. -/
def primary (g : Grammar) : P Expr := do
  match ← attempt (typedLiteral g) with
  | some e => return e
  | none =>
    match ← peek with
    | some (.word name k) => do
      skip 1
      worded g name k
    | some (.symbol s) => signed g s
    | some (.literal _) => return .literal (← literal g.dialect)
    | _ => unexpected

/-! ## Parts of operands -/

/-- A part of `whole` after a dot. Names join to a longer name, and qualify the function that is
called. -/
def qualify (whole part : Expr) : Expr :=
  match whole, part with
  | .name parts, .name more => .name (parts ++ more)
  | .name parts, .call function parameters args grouping filter window =>
    .call (parts ++ function) parameters args grouping filter window
  | .access root steps, .access inner more => .access root (steps ++ [.text ".", .expr inner] ++ more)
  | .access root steps, part => .access root (steps ++ [.text ".", .expr part])
  | whole, .access inner more => .access whole ([.text ".", .expr inner] ++ more)
  | whole, part => .access whole [.text ".", .expr part]

/-- A part after a dot: a name, a literal or a call, with the parts after it. -/
def partExpr (g : Grammar) : P Expr := do
  let e ← g.operand (dotStrength g.dialect)
  match e with
  | .name _ | .literal _ | .call .. | .access .. => return e
  | _ => unexpected

/-- A part after a dot. A word that introduces another form is a name there. -/
def dottedPart (g : Grammar) : P Expr := do
  match ← peek with
  | some (.literal (.string s)) => do
    skip 1
    return .name [⟨s, some '\''⟩]
  | _ =>
    match ← attempt (partExpr g) with
    | some e => return e
    | none => return .name [← ident]

/-- What is between the brackets after an expression, with the brackets. -/
def subscript (g : Grammar) : P (List Piece) := do
  let low ← if ← peekSymbol ":" then pure [] else do pure [Piece.expr (← g.expr)]
  if ← symbol? "]" then return [Piece.text "["] ++ low ++ [Piece.text "]"]
  symbol ":"
  if ← symbol? "]" then return [Piece.text "["] ++ low ++ [Piece.text ":]"]
  let high ← g.expr
  if ← symbol? "]" then return [Piece.text "["] ++ low ++ [Piece.text ":", .expr high, .text "]"]
  symbol ":"
  if ← symbol? "]" then return [Piece.text "["] ++ low ++ [Piece.text ":", .expr high, .text "]"]
  let stride ← g.expr
  symbol "]"
  return [Piece.text "["] ++ low ++ [Piece.text ":", .expr high, .text ":", .expr stride, .text "]"]

/-- The parts selected from `whole` with a step more. -/
def selectStep (whole : Expr) (pieces : List Piece) : Expr :=
  match whole with
  | .access root steps => .access root (steps ++ pieces)
  | e => .access e pieces

/-- The expression with the part selected next, if one is. -/
def part? (g : Grammar) (e : Expr) : P (Option Expr) := do
  match e, ← ahead 2 with
  | .wildcard _, _ => return none
  | e, .symbol "." :: .symbol "*" :: _ =>
    if g.dialect == .postgres then
      match e with
      | .name parts => do
        skip 2
        return some (.wildcard parts)
      | _ => unexpected
    else return none
  | e, .symbol "." :: _ => do
    skip 1
    return some (qualify e (← dottedPart g))
  | e, .symbol "[" :: _ => do
    skip 1
    return some (selectStep e (← subscript g))
  | _, _ => return none

/-! ## Operators -/

/-- The operator that a symbol stands for. -/
def binaryOp? (d : Dialect) (s : String) : Option BinaryOp :=
  match s with
  | "=" | "==" => some .eq
  | "<>" => some .notEq
  | "<" => some .lt
  | "<=" => some .ltEq
  | ">" => some .gt
  | ">=" => some .gtEq
  | "//" => if d.slashDivision then some (.other s) else none
  | "<<" | ">>" | "&&" | "^@" => if d == .mysql then none else some (.other s)
  | "#" | "@" => if d.geometry then some (.other s) else none
  | "::" | "!" | "[" => none
  | _ => if symbolGroup? d s |>.isSome then some (.other s) else none

/-- Whether the operator may be followed by `ANY` or `ALL`. -/
def BinaryOp.quantifiable (op : BinaryOp) : Bool := comparisonSymbols.contains op.render

/-- The quantifier that comes next, if one does. -/
def quantifier? : P (Option Quantifier) := do
  if ← keyword? "ANY" then return some .any
  if ← keyword? "ALL" then return some .all
  if ← keyword? "SOME" then return some .some
  return none

/-- What an operator takes on its right, after the operator; `strength` is the operator's. -/
def rightOperand (g : Grammar) (strength : Nat) (left : Expr) (op : BinaryOp) : P Expr := do
  match ← quantifier? with
  | none => return .binary op left (← g.operand strength)
  | some quantifier => do
    if !BinaryOp.quantifiable op then unexpected
    let start ← get
    symbol "("
    if ← peekQuery then
      set start
      return .quantified op quantifier left (← g.operand strength)
    let right ← g.operand strength
    symbol ")"
    return .quantified op quantifier left right

/-- An operator named by its schema, after its keyword. -/
def schemaOperator : P String := parens do
  let part : P String := do return (← advance).render
  let first ← part
  let more ← many (optional (symbol? ".") part)
  return "OPERATOR(" ++ ".".intercalate (first :: more) ++ ")"

/-- A test that `IS` introduces. -/
def isTest (g : Grammar) (e : Expr) : P Expr := do
  let negated ← keyword? "NOT"
  match ← oneOf? ["NULL", "TRUE", "FALSE", "UNKNOWN"] with
  | some "NULL" => return .test negated .null e
  | some "TRUE" => return .test negated .true e
  | some "FALSE" => return .test negated .false e
  | some _ => return .test negated .unknown e
  | none =>
    if ← keywords? ["DISTINCT", "FROM"] then return .distinctness negated e (← g.expr)
    let form ← oneOf? ["NFC", "NFD", "NFKC", "NFKD"]
    keyword "NORMALIZED"
    return .test negated (.normalized form) e

/-- The members that `IN` introduces. -/
def inTest (g : Grammar) (negated : Bool) (e : Expr) : P Expr := do
  if ← keyword? "UNNEST" then
    let array ← parens g.expr
    return .special [.expr e, .text (if negated then " NOT IN UNNEST(" else " IN UNNEST("),
      .expr array, .text ")"]
  symbol "("
  let test ← match ← attempt g.query with
    | some q => pure (Expr.inQuery negated e q)
    | none => do pure (.inList negated e (← commas g.expr))
  symbol ")"
  return test

/-- The bounds that `BETWEEN` introduces. -/
def betweenTest (g : Grammar) (negated : Bool) (e : Expr) : P Expr := do
  let strength := OperatorGroup.between.strength g.dialect
  let low ← g.operand strength
  keyword "AND"
  return .between negated e low (← g.operand strength)

/-- A match against a pattern, after the words that introduce it. -/
def matchingTest (g : Grammar) (kind : PatternKind) (negated : Bool) (e : Expr) : P Expr := do
  let any ← match kind with
    | .like | .ilike => keyword? "ANY"
    | _ => pure false
  let pattern ← g.operand (OperatorGroup.like.strength g.dialect)
  let escape ← match kind with
    | .rlike | .regexp => pure none
    | _ => optional (keyword? "ESCAPE") (literal g.dialect)
  return .matching ⟨kind, negated, any, escape⟩ e pattern

/-- A test whose keyword may follow `NOT`. -/
def negatableTest (g : Grammar) (e : Expr) : P Expr := do
  let negated ← keyword? "NOT"
  if ← keyword? "REGEXP" then matchingTest g .regexp negated e
  else if ← keyword? "RLIKE" then matchingTest g .rlike negated e
  else if ← keyword? "NULL" then
    if negated then return .test true .null e else unexpected
  else if ← keyword? "IN" then inTest g negated e
  else if ← keyword? "BETWEEN" then betweenTest g negated e
  else if ← keyword? "LIKE" then matchingTest g .like negated e
  else if ← keyword? "ILIKE" then matchingTest g .ilike negated e
  else if ← keywords? ["SIMILAR", "TO"] then matchingTest g .similarTo negated e
  else unexpected

/-- The expression that the operator after `left` makes of it; `strength` is the operator's. -/
def applyOperator (g : Grammar) (strength : Nat) (left : Expr) : P Expr := do
  let d := g.dialect
  let start ← get
  match ← advance with
  | .custom s => rightOperand g strength left (.other s)
  | .symbol "::" => return .cast .doubleColon left (← g.type)
  | .symbol "!" => if d.geometry then return .unary .factorial left else unexpected
  | .symbol s =>
    match binaryOp? d s with
    | some op => rightOperand g strength left op
    | none => unexpected
  | .word _ k =>
    match k with
    | "AND" => rightOperand g strength left .and
    | "OR" => rightOperand g strength left .or
    | "XOR" => rightOperand g strength left .xor
    | "OVERLAPS" => rightOperand g strength left (.other k)
    | "OPERATOR" =>
      if d == .mysql then unexpected
      else rightOperand g strength left (.other (← schemaOperator))
    | "DIV" => if d == .mysql then return .binary (.other k) left (← g.expr) else unexpected
    | "IS" => isTest g left
    | "AT" => do
      keywords ["TIME", "ZONE"]
      return .atTimeZone left (← g.operand strength)
    | "NOTNULL" => return .test true .null left
    | "MEMBER" => do
      keyword "OF"
      let array ← parens g.expr
      return .special [.expr left, .text " MEMBER OF(", .expr array, .text ")"]
    | _ => do
      set start
      negatableTest g left
  | .literal _ => unexpected

/-- The expression with the next operator applied, if that binds more tightly than `strength`. -/
def operator? (g : Grammar) (strength : Nat) (left : Expr) : P (Option Expr) := do
  let next := nextStrength g.dialect g.setting (← ahead 3)
  if next ≤ strength then return none else return some (← applyOperator g next left)

/-- An expression whose operators bind more tightly than `strength`. -/
def operand (g : Grammar) (strength : Nat) : P Expr := do
  let e ← repeated (part? g) (← primary g)
  let e ← if g.setting != .column && (← peekKeyword "COLLATE") then do
      skip 1
      pure (Expr.collate e (← objectName))
    else pure e
  repeated (operator? g strength) e

end RowAccess.Sql.Parser
