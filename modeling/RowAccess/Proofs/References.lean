import RowAccess.Sql.Syntax
import RowAccess.Table
/-!
# The tables that statements read

A statement reads rows by name in its `FROM` lists, at any depth and in any clause. Each such
`Reference` says what the name stands for, and whether it stands in a clause that rewriting looks into.

Rewriting passes over the clauses that are kept as pieces, such as `LIMIT` and windows, over a few
lists beside them, and over statements that are neither queries nor updates nor deletes; what is read
there is not `reached`.
-/

namespace RowAccess

open Sql

/-- What the name of a relation stands for. -/
inductive Meaning where
  /-- A table of the database. -/
  | stored
  /-- A query that a `WITH` clause names. -/
  | query
  /-- The rows of a function. -/
  | call
deriving DecidableEq, Repr, Inhabited

/-- A name that a statement reads rows from. -/
structure Reference where
  table : Table
  meaning : Meaning
  /-- Whether rewriting looks into the clause that the name stands in. -/
  reached : Bool
deriving DecidableEq, Repr, Inhabited

/-- References in a clause that rewriting passes over. -/
def passedOver (references : List Reference) : List Reference :=
  references.map fun r => { r with reached := false }

/-- An identifier as names are compared: without regard to case unless it is quoted. -/
def Sql.Ident.folded (i : Ident) : String :=
  if i.quote.isNone then Text.asciiLower i.value else i.value

namespace References

/-- The names that a `WITH` clause declares. -/
def declared (ctes : List Cte) : List String :=
  ctes.map fun (.mk name _ _ _ _) => name.folded

/-- What the name of a relation stands for where the queries in `named` are declared. -/
def meaning (named : List String) (name : Name) : Arguments → Meaning
  | .none =>
    match name with
    | [i] => if named.contains i.folded then .query else .stored
    | _ => .stored
  | _ => .call

mutual

/-- What the pieces of a clause read. -/
def pieces (named : List String) : List Piece → List Reference
  | [] => []
  | p :: ps => piece named p ++ pieces named ps

/-- What a piece of a clause reads. -/
def piece (named : List String) : Piece → List Reference
  | .text _ => []
  | .expr e => expr named e
  | .query q => query named q
  | .relation r => relation named r
  | .statement s => statement named s

/-- What an expression reads. -/
def expr (named : List String) : Expr → List Reference
  | .name _ | .literal _ | .typed .. | .wildcard _ => []
  | .unary _ operand => expr named operand
  | .binary _ left right => expr named left ++ expr named right
  | .quantified _ _ left right => expr named left ++ expr named right
  | .distinctness _ left right => expr named left ++ expr named right
  | .atTimeZone operand zone => expr named operand ++ expr named zone
  | .matching _ operand pattern => expr named operand ++ expr named pattern
  | .test _ _ operand => expr named operand
  | .nested inner => expr named inner
  | .cast _ operand _ => expr named operand
  | .collate operand _ => expr named operand
  | .extract _ _ operand => expr named operand
  | .inList _ operand members => expr named operand ++ exprs named members
  | .inQuery _ operand q => expr named operand ++ query named q
  | .between _ operand low high => expr named operand ++ expr named low ++ expr named high
  | .case operand conditions otherwise =>
    expr? named operand ++ branches named conditions ++ expr? named otherwise
  | .tuple members => exprs named members
  | .call _ parameters args grouping filter window =>
    passedOver (arguments named parameters) ++ arguments named args ++
      passedOver (pieces named grouping) ++ expr? named filter ++ passedOver (pieces named window)
  | .exists _ q => query named q
  | .subquery q => query named q
  | .access root steps => passedOver (expr named root ++ pieces named steps)
  | .special parts => passedOver (pieces named parts)

/-- What an expression reads that may be absent. -/
def expr? (named : List String) : Option Expr → List Reference
  | none => []
  | some e => expr named e

/-- What expressions read. -/
def exprs (named : List String) : List Expr → List Reference
  | [] => []
  | e :: es => expr named e ++ exprs named es

/-- What the branches of a `CASE` read. -/
def branches (named : List String) : List Branch → List Reference
  | [] => []
  | .mk condition result :: rest => expr named condition ++ expr named result ++ branches named rest

/-- What the arguments of a call read. -/
def arguments (named : List String) : Arguments → List Reference
  | .none => []
  | .query q => query named q
  | .list _ list clauses => argumentList named list ++ passedOver (pieces named clauses)

/-- What arguments read. -/
def argumentList (named : List String) : List Argument → List Reference
  | [] => []
  | .mk label value :: rest =>
    passedOver (pieces named label) ++ expr named value ++ argumentList named rest

/-- What columns or expressions to order by read. -/
def items (named : List String) : List Item → List Reference
  | [] => []
  | .mk e _ options :: rest => expr named e ++ passedOver (pieces named options) ++ items named rest

/-- What named queries read. Each can read those declared before it. -/
def ctes (named : List String) : List Cte → List Reference
  | [] => []
  | .mk name _ _ q _ :: rest => query named q ++ ctes (name.folded :: named) rest

/-- What a query reads. With `RECURSIVE` its named queries can read each other. -/
def query (named : List String) : Query → List Reference
  | .mk recursive list b order tail =>
    let inner := declared list ++ named
    ctes (if recursive then inner else named) list ++ body inner b ++ items inner order ++
      passedOver (pieces inner tail)

/-- What the body of a query reads. -/
def body (named : List String) : Body → List Reference
  | .select s => select named s
  | .query q => query named q
  | .combined _ _ left right => body named left ++ body named right
  | .values _ _ rows => exprs named rows
  | .statement s =>
    match s with
    | .update u => update named u
    | .delete r => delete named r
    | .query q => passedOver (query named q)
    | .insert _ parts => passedOver (pieces named parts)
    | .other _ parts => passedOver (pieces named parts)
  | .table name =>
    let parts : Name := name.map fun part => ⟨part, none⟩
    [⟨⟨Name.render parts, none⟩, meaning named parts .none, false⟩]

/-- What a `SELECT` reads. -/
def select (named : List String) : Select → List Reference
  | ⟨_, distinct, projection, _, relations, views, prewhere, selection, groupBy, groupOptions,
      clustering, having, windows, _, qualify, hierarchy⟩ =>
    passedOver (pieces named distinct) ++ items named projection ++ joinedList named relations ++
      passedOver (pieces named views) ++ expr? named prewhere ++ expr? named selection ++
      exprs named groupBy ++ passedOver (pieces named groupOptions) ++
      passedOver (pieces named clustering) ++ expr? named having ++
      passedOver (pieces named windows) ++ expr? named qualify ++
      passedOver (pieces named hierarchy)

/-- What an `UPDATE` reads, the table it changes included. -/
def update (named : List String) : Update → List Reference
  | ⟨_, target, assigned, _, relations, selection, tail⟩ =>
    joined named target ++ assignments named assigned ++ joinedList named relations ++
      expr? named selection ++ passedOver (pieces named tail)

/-- What a `DELETE` reads, the tables it deletes from included. -/
def delete (named : List String) : Delete → List Reference
  | ⟨_, _, relations, others, selection, tail⟩ =>
    joinedList named relations ++ joinedList named others ++ expr? named selection ++
      passedOver (pieces named tail)

/-- What the assignments of an `UPDATE` read. -/
def assignments (named : List String) : List Assignment → List Reference
  | [] => []
  | .mk _ value :: rest => expr named value ++ assignments named rest

/-- What the relations of a list read. -/
def joinedList (named : List String) : List Joined → List Reference
  | [] => []
  | j :: js => joined named j ++ joinedList named js

/-- What a relation and its joins read. -/
def joined (named : List String) : Joined → List Reference
  | .mk r js => relation named r ++ joins named js

/-- What joined relations read. -/
def joins (named : List String) : List Join → List Reference
  | [] => []
  | .mk _ _ r matchCondition constraint :: rest =>
    relation named r ++ passedOver (expr? named matchCondition) ++
      joinConstraint named constraint ++ joins named rest

/-- What the constraint of a join reads. -/
def joinConstraint (named : List String) : JoinConstraint → List Reference
  | .on condition => expr named condition
  | _ => []

/-- What a relation reads. -/
def relation (named : List String) : Relation → List Reference
  | .table name _ args _ aliased after =>
    ⟨⟨Name.render name, aliased.map (·.name.render)⟩, meaning named name args, true⟩ ::
      passedOver (arguments named args ++ pieces named after)
  | .derived _ q _ => query named q
  | .nested j _ => joined named j
  | .reshaped r clause _ => relation named r ++ passedOver (pieces named clause)
  | .function call _ => expr named call
  | .special parts _ after => passedOver (pieces named parts ++ pieces named after)

/-- What a statement reads. -/
def statement (named : List String) : Statement → List Reference
  | .query q => query named q
  | .update u => update named u
  | .delete r => delete named r
  | .insert _ parts => passedOver (pieces named parts)
  | .other _ parts => passedOver (pieces named parts)

end

/-- What statements read, one after the other. -/
def statements (list : List Statement) : List Reference := list.flatMap (statement [])

end References

end RowAccess
