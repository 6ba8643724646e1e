import RowAccess.Sql.Parser.Basic
/-!
# Binding strength of operators

How tightly an operator binds its operands is decided by its group and the dialect. An operator after
an operand is taken up if it binds more tightly than the operator before the operand; strength zero
stands for a token that is no such operator.
-/

namespace RowAccess.Sql.Parser

/-- A group of operators that bind equally tightly. -/
inductive OperatorGroup where
  | or
  | and
  | not
  /-- Access to parts of documents, and operators known only by their spelling. -/
  | document
  | is
  | like
  | between
  | comparison
  | pipe
  | shift
  | ampersand
  | xor
  | sum
  | product
  | zone
  | collation
  | bracket
  | cast
deriving DecidableEq, Repr, Inhabited

/-- How tightly the operators of a group bind. -/
def OperatorGroup.strength (d : Dialect) (g : OperatorGroup) : Nat :=
  match d, g with
  | .postgres, .or => 10
  | .postgres, .and => 20
  | .postgres, .not => 30
  | .postgres, .is => 40
  | .postgres, .comparison => 50
  | .postgres, .like | .postgres, .between => 60
  | .postgres, .document | .postgres, .pipe | .postgres, .ampersand => 70
  | .postgres, .xor => 75
  | .postgres, .sum => 80
  | .postgres, .product => 90
  | .postgres, .shift => 100
  | .postgres, .zone => 110
  | .postgres, .collation => 120
  | .postgres, .bracket => 130
  | .postgres, .cast => 140
  | _, .or => 5
  | _, .and => 10
  | _, .not => 15
  | _, .document => 16
  | _, .is => 17
  | _, .like => 19
  | _, .between | _, .comparison => 20
  | _, .pipe => 21
  | _, .shift => 22
  | _, .ampersand => 23
  | _, .xor => 24
  | _, .sum => 30
  | _, .product => 40
  | _, .zone => 41
  | _, .collation => 42
  | _, .bracket | _, .cast => 50

/-- The strength of the dot between the parts of a name, which is above all others. -/
def dotStrength : Dialect → Nat
  | .postgres => 200
  | _ => 100

/-- Comparisons, and matches against regular expressions. -/
def comparisonSymbols : List String :=
  ["=", "<>", "<", "<=", ">", ">=", "~", "~*", "!~", "!~*", "~~", "~~*", "!~~", "!~~*"]

/-- Bitwise alternatives, and operators on shapes. -/
def shapeSymbols : List String :=
  ["|", "@", "&&", "?-", "##", "&<", "&>", "?-|", "&<|", "|&>", "<->", "<^", ">^", "?#", "?||", "~=",
    "<<|", "|>>"]

/-- Operators on documents. -/
def documentSymbols : List String :=
  ["->", "->>", "#>", "#>>", "@>", "<@", "#-", "@?", "@@", "?", "?&", "?|"]

/-- The group of a symbol between operands. -/
def symbolGroup? (d : Dialect) (s : String) : Option OperatorGroup :=
  if d == .postgres && ["!", "&&", "^@", "||", "#", ">>", "<<"].contains s then some .document
  else if comparisonSymbols.contains s || [":=", "==", "<=>"].contains s then some .comparison
  else if shapeSymbols.contains s then some .pipe
  else if ["^", "#", "<<", ">>"].contains s then some .shift
  else if s == "&" then some .ampersand
  else if ["+", "-"].contains s then some .sum
  else if ["*", "/", "//", "%", "||"].contains s then some .product
  else if ["::", "!", "^@"].contains s then some .cast
  else if s == "[" then some .bracket
  else if documentSymbols.contains s then some .document
  else none

/-- The group of a keyword between operands, by the keywords after it where those matter. In a column
definition a few words end the expression instead. -/
def keywordGroup? (d : Dialect) (setting : Setting) (keyword next afterNext : String) :
    Option OperatorGroup :=
  match keyword with
  | "OR" => some .or
  | "AND" => some .and
  | "XOR" => some .xor
  | "AT" => if next == "TIME" && afterNext == "ZONE" then some .zone else none
  | "NOT" =>
    if ["IN", "BETWEEN"].contains next then some .between
    else if ["LIKE", "ILIKE", "RLIKE", "REGEXP", "MATCH", "SIMILAR", "MEMBER"].contains next then
      some .like
    else if next == "NULL" && setting != .column then some .is
    else none
  | "NOTNULL" => if d.notNullWord then some .is else none
  | "COLLATE" => if d == .postgres && setting != .column then some .collation else none
  | "IS" => some .is
  | "IN" | "BETWEEN" | "OVERLAPS" | "OPERATOR" => some .between
  | "LIKE" | "ILIKE" | "RLIKE" | "REGEXP" | "MATCH" | "SIMILAR" | "MEMBER" => some .like
  | "DIV" => some .product
  | _ => none

/-- The keyword of a token, empty if it is none. -/
def keywordAt (ts : List Token) (n : Nat) : String :=
  match ts[n]? with
  | some (.word _ k) => k
  | _ => ""

/-- How tightly the operator binds that the tokens start with, or zero. -/
def nextStrength (d : Dialect) (setting : Setting) (ts : List Token) : Nat :=
  let group? := match ts with
    | .word _ k :: _ => keywordGroup? d setting k (keywordAt ts 1) (keywordAt ts 2)
    | .symbol s :: _ => symbolGroup? d s
    | .custom _ :: _ => some .document
    | _ => none
  match group? with
  | some g => g.strength d
  | none => 0

end RowAccess.Sql.Parser
