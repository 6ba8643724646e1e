import RowAccess.Proofs.References
import RowAccess.Proofs.Semantics.Evaluation
import RowAccess.Rewrite
/-!
# The queries that are evaluated

Queries made of `SELECT` with columns, `WHERE`, `GROUP BY` and `HAVING`, of inner and outer joins nested
to any depth, derived tables, named queries that are not recursive, set operations, and subqueries in any
expression. The qualifiers within one `FROM` list differ, and relations have no column lists.

Which tables they may read, and what holds of the conditions that predicates are added to, are
parameters.
-/

namespace RowAccess.Semantics

open Sql

/-! ## Qualifiers -/

section

variable {V : Type} (I : Interpretation V)

mutual

/-- The qualifiers of the relations of a list. -/
def namesOfList : List Joined → List String
  | [] => []
  | j :: js => namesOf j ++ namesOfList js

/-- The qualifiers of joined relations. -/
def namesOf : Joined → List String
  | .mk r js => namesOfRelation r ++ namesOfJoins js

/-- The qualifiers of the relations joined. -/
def namesOfJoins : List Join → List String
  | [] => []
  | .mk _ _ r _ _ :: rest => namesOfRelation r ++ namesOfJoins rest

/-- The qualifiers of a relation. -/
def namesOfRelation : Relation → List String
  | .table name _ _ _ aliased _ => [I.fold (Ref.shown ⟨name, aliased.map (·.name)⟩)]
  | .derived _ _ aliased => [(aliased.map fun a => I.fold a.name).getD ""]
  | .nested j _ => namesOf j
  | .reshaped .. => []
  | .function .. => []
  | .special .. => []

end

end

/-! ## Queries -/

/-- Which queries are evaluated. -/
structure Fragment (V : Type) where
  interpretation : Interpretation V
  /-- The tables that may be read. -/
  ref : Ref → Prop
  /-- What holds of the conditions that predicates are added to. -/
  condition : Expr → Prop

/-- Whether a clause holds nothing but words and literals. -/
def isQuiet (pieces : List Piece) : Bool :=
  pieces.all fun
    | .text _ => true
    | .expr (.literal _) => true
    | _ => false

/-- Whether relations are joined so. -/
def isEvaluated : JoinKind → Bool
  | .plain | .inner | .cross | .left | .leftOuter | .right | .rightOuter | .full => true
  | _ => false

namespace Fragment

variable {V : Type}

mutual

/-- The queries in an expression are evaluated. What is not looked into reads no table. -/
def expr (F : Fragment V) : Expr → Prop
  | .name _ | .literal _ | .typed .. | .wildcard _ => True
  | .unary _ operand => expr F operand
  | .binary _ left right => expr F left ∧ expr F right
  | .quantified _ _ left right => expr F left ∧ expr F right
  | .distinctness _ left right => expr F left ∧ expr F right
  | .atTimeZone operand zone => expr F operand ∧ expr F zone
  | .matching _ operand pattern => expr F operand ∧ expr F pattern
  | .test _ _ operand => expr F operand
  | .nested inner => expr F inner
  | .cast _ operand _ => expr F operand
  | .collate operand _ => expr F operand
  | .extract _ _ operand => expr F operand
  | .inList _ operand members => expr F operand ∧ exprs F members
  | .inQuery _ operand q => expr F operand ∧ query F q
  | .between _ operand low high => expr F operand ∧ expr F low ∧ expr F high
  | .case operand conditions otherwise =>
    expr? F operand ∧ branches F conditions ∧ expr? F otherwise
  | .tuple members => exprs F members
  | .call _ parameters args grouping filter window =>
    parameters = .none ∧ arguments F args ∧ grouping = [] ∧ expr? F filter ∧ window = []
  | .exists _ q => query F q
  | .subquery q => query F q
  | .access root steps => References.expr [] (.access root steps) = []
  | .special pieces => References.expr [] (.special pieces) = []

/-- The same of an expression that may be absent. -/
def expr? (F : Fragment V) : Option Expr → Prop
  | none => True
  | some e => expr F e

/-- The same of expressions. -/
def exprs (F : Fragment V) : List Expr → Prop
  | [] => True
  | e :: es => expr F e ∧ exprs F es

/-- The same of the branches of a `CASE`. -/
def branches (F : Fragment V) : List Branch → Prop
  | [] => True
  | .mk condition result :: rest => expr F condition ∧ expr F result ∧ branches F rest

/-- The same of the arguments of a call. -/
def arguments (F : Fragment V) : Arguments → Prop
  | .none => True
  | .query q => query F q
  | .list _ list clauses => argumentList F list ∧ clauses = []

/-- The same of arguments. -/
def argumentList (F : Fragment V) : List Argument → Prop
  | [] => True
  | .mk _ value :: rest => expr F value ∧ argumentList F rest

/-- The same of columns, or of expressions to order by. -/
def items (F : Fragment V) : List Item → Prop
  | [] => True
  | .mk e _ options :: rest => expr F e ∧ isQuiet options = true ∧ items F rest

/-- Named queries are evaluated. -/
def ctes (F : Fragment V) : List Cte → Prop
  | [] => True
  | .mk _ _ _ q origin :: rest => query F q ∧ origin = none ∧ ctes F rest

/-- A query is evaluated. -/
def query (F : Fragment V) : Query → Prop
  | .mk recursive named b order tail =>
    recursive = false ∧ ctes F named ∧ body F b ∧ items F order ∧ isQuiet tail = true

/-- The body of a query is evaluated. -/
def body (F : Fragment V) : Body → Prop
  | .select s => select F s
  | .query q => query F q
  | .combined _ _ left right => body F left ∧ body F right
  | .values .. => False
  | .statement _ => False
  | .table _ => False

/-- A `SELECT` is evaluated. -/
def select (F : Fragment V) : Select → Prop
  | ⟨_, distinct, projection, into, relations, views, prewhere, selection, groupBy, groupOptions,
      clustering, having, windows, _, qualify, hierarchy⟩ =>
    isQuiet distinct = true ∧ items F projection ∧ (projection.all fun | .mk _ _ options => options.isEmpty) ∧
      into = "" ∧ joinedList F relations ∧ (namesOfList F.interpretation relations).Nodup ∧
      views = [] ∧ prewhere = none ∧ expr? F selection ∧ (∀ e ∈ selection, F.condition e) ∧
      exprs F groupBy ∧ groupOptions = [] ∧ clustering = [] ∧ expr? F having ∧ windows = [] ∧
      qualify = none ∧ hierarchy = []

/-- The relations of a `FROM` list are evaluated. -/
def joinedList (F : Fragment V) : List Joined → Prop
  | [] => True
  | j :: js => joined F j ∧ joinedList F js

/-- A relation with its joins is evaluated. -/
def joined (F : Fragment V) : Joined → Prop
  | .mk r js => relation F r ∧ joins F js

/-- Joins are evaluated. -/
def joins (F : Fragment V) : List Join → Prop
  | [] => True
  | .mk _ kind r matchCondition constraint :: rest =>
    isEvaluated kind = true ∧ relation F r ∧ matchCondition = none ∧
      joinConstraint F kind constraint ∧ joins F rest

/-- The constraint of a join is evaluated. -/
def joinConstraint (F : Fragment V) (kind : JoinKind) : JoinConstraint → Prop
  | .on e => expr F e ∧ ((Rewrite.nullableSide? kind).isSome = true → F.condition e)
  | .columns _ => True
  | .natural => True
  | .none => True

/-- A relation is evaluated: a table, a query, or joins in parentheses. -/
def relation (F : Fragment V) : Relation → Prop
  | .table name partitions args ordinality aliased after =>
    F.ref ⟨name, aliased.map (·.name)⟩ ∧ partitions = [] ∧ args = .none ∧ ordinality = false ∧
      (∀ a ∈ aliased, a.columns = []) ∧ after = []
  | .derived lateral q aliased => lateral = false ∧ query F q ∧ ∀ a ∈ aliased, a.columns = []
  | .nested j aliased => joined F j ∧ aliased = none
  | .reshaped .. => False
  | .function .. => False
  | .special .. => False

end

end Fragment

end RowAccess.Semantics
