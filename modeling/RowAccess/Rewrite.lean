import RowAccess.Conjunction
import RowAccess.Error
import RowAccess.Sql.Codec
/-!
# Rewriting statements

Every query, update and delete in a statement is restricted: the predicates of its tables are added
to its `WHERE`. Outer joins keep the rows they extend with nulls, so the predicates of the side that
may be missing go into the condition of the join; where a join has no such condition, its tables are
replaced by queries that filter them.

The predicates come from a `Source`, which is asked about one scope at a time and may keep a state.
What rewriting does not look into must not hide a query.
-/

namespace RowAccess

open Sql

/-- Answers the predicates of a scope. Its state outlives a failure. -/
abbrev Source (σ : Type) := Scope → ExceptT Error (StateM σ) (List Predicate)

/-- A step of rewriting, which notes what it adds. -/
abbrev Rewriting (σ : Type) := StateT Added (ExceptT Error (StateM σ))

namespace Rewrite

variable {σ : Type}

/-- A failed step. -/
def fail {α : Type} (e : Error) : Rewriting σ α := throw e

/-! ## Joins -/

/-- Whether a join leaves rows of some side unmatched and has no condition to put predicates in. -/
def Join.needsWrapping : Join → Bool
  | .mk _ kind _ _ constraint =>
    match kind with
    | .full => true
    | .left | .leftOuter | .right | .rightOuter =>
      match constraint with
      | .on _ => false
      | _ => true
    | _ => false

/-- The side of a join whose rows may be missing. -/
inductive NullableSide where
  | joined
  | preceding
deriving DecidableEq, Repr, Inhabited

/-- The side of a join whose rows may be missing, if it is a single one. -/
def nullableSide? : JoinKind → Option NullableSide
  | .left | .leftOuter => some .joined
  | .right | .rightOuter => some .preceding
  | _ => none

/-- The condition of a join. -/
def condition? : JoinConstraint → Option Expr
  | .on e => some e
  | _ => none

mutual

/-- How many tables relations name, those in parentheses included. -/
def countTables : List Joined → Nat
  | [] => 0
  | .mk relation joins :: rest => relationTables relation + joinTables joins + countTables rest

/-- How many tables joined relations name. -/
def joinTables : List Join → Nat
  | [] => 0
  | .mk _ _ relation _ _ :: rest => relationTables relation + joinTables rest

/-- How many tables a relation names. -/
def relationTables : Relation → Nat
  | .table .. => 1
  | .nested (.mk relation joins) _ => relationTables relation + joinTables joins
  | _ => 0

end

/-! ## Predicates -/

/-- Asks the source about a scope and adds its predicates to the condition. -/
def addPredicates (source : Source σ) (scope : Scope) (condition : Option Expr) :
    Rewriting σ (Option Expr) := do
  let predicates ← (source scope : ExceptT Error (StateM σ) _)
  modifyGet (restrict condition predicates)

/-- Adds the predicates of tables to the condition of an outer join. -/
def restrictJoin (source : Source σ) (operation : Operation) (visible : Nat) (tables : List Table)
    (condition : Expr) : Rewriting σ Expr := do
  if tables.isEmpty then return condition
  let scope : Scope := { operation, placement := .join, tables, visible }
  return (← addPredicates source scope (some condition)).getD condition

/-- The text of the query that stands for a filtered table. -/
def wrappedText (t : Table) (filter : Expr) : String :=
  let inner := match t.aliasName with
    | some name => t.name ++ " AS " ++ name
    | none => t.name
  let shown := t.aliasName.getD (Text.afterLast '.' t.name)
  "SELECT * FROM (SELECT * FROM " ++ inner ++ " WHERE " ++ filter.render ++ ") AS " ++ shown

/-- The first relation that a statement reads from. -/
def firstRelation? : Statement → Option Relation
  | .query (.mk _ _ (.select s) _ _) =>
    match s.relations with
    | .mk relation _ :: _ => some relation
    | [] => none
  | _ => none

/-- A table, replaced by a query that filters it if there is something to filter by. -/
def wrap (codec : Codec) (source : Source σ) (operation : Operation) (r : Relation) (t : Table) :
    Rewriting σ Relation := do
  let scope : Scope := { operation, placement := .join, tables := [t], visible := 1 }
  match ← addPredicates source scope none with
  | none => return r
  | some filter =>
    match codec.parse (wrappedText t filter) with
    | none => fail .malformed
    | some statements =>
      match statements.getLast?.bind firstRelation? with
      | some wrapped => return wrapped
      | none => fail (.unscopable (.table t.name))

/-! ## The walk -/

/-- Refuses an expression that is not looked into, if a query is written in it. -/
def refuseHidden (e : Expr) : Rewriting σ Expr := do
  let text := e.render
  if Text.contains "SELECT " text then fail (.unscopable (.hiddenQuery text)) else return e

mutual

/-- An expression with the queries in it restricted. -/
def expr (codec : Codec) (source : Source σ) : Expr → Rewriting σ Expr
  | .name parts => pure (.name parts)
  | .literal value => pure (.literal value)
  | .typed before value after => pure (.typed before value after)
  | .wildcard qualifier => pure (.wildcard qualifier)
  | .unary op operand => do return .unary op (← expr codec source operand)
  | .binary op left right => do
    return .binary op (← expr codec source left) (← expr codec source right)
  | .quantified op quantifier left right => do
    return .quantified op quantifier (← expr codec source left) (← expr codec source right)
  | .distinctness negated left right => do
    return .distinctness negated (← expr codec source left) (← expr codec source right)
  | .atTimeZone operand zone => do
    return .atTimeZone (← expr codec source operand) (← expr codec source zone)
  | .matching how operand pattern => do
    return .matching how (← expr codec source operand) (← expr codec source pattern)
  | .test negated property operand => do
    return .test negated property (← expr codec source operand)
  | .nested inner => do return .nested (← expr codec source inner)
  | .cast form operand type => do return .cast form (← expr codec source operand) type
  | .collate operand collation => do return .collate (← expr codec source operand) collation
  | .extract field comma operand => do return .extract field comma (← expr codec source operand)
  | .inList negated operand members => do
    return .inList negated (← expr codec source operand) (← exprs codec source members)
  | .inQuery negated operand q => do
    return .inQuery negated (← expr codec source operand) (← query codec source q)
  | .between negated operand low high => do
    return .between negated (← expr codec source operand) (← expr codec source low)
      (← expr codec source high)
  | .case operand conditions otherwise => do
    let operand ← expr? codec source operand
    let otherwise ← expr? codec source otherwise
    return .case operand (← branches codec source conditions) otherwise
  | .tuple members => do return .tuple (← exprs codec source members)
  | .call function parameters args grouping filter window => do
    let args ← arguments codec source args
    return .call function parameters args grouping (← expr? codec source filter) window
  | .exists negated q => do return .exists negated (← query codec source q)
  | .subquery q => do return .subquery (← query codec source q)
  | .access root steps => refuseHidden (.access root steps)
  | .special pieces => refuseHidden (.special pieces)

/-- An expression that may be absent. -/
def expr? (codec : Codec) (source : Source σ) : Option Expr → Rewriting σ (Option Expr)
  | none => pure none
  | some e => do return some (← expr codec source e)

/-- Expressions, from left to right. -/
def exprs (codec : Codec) (source : Source σ) : List Expr → Rewriting σ (List Expr)
  | [] => pure []
  | e :: es => do
    let e ← expr codec source e
    return e :: (← exprs codec source es)

/-- The branches of a `CASE`. -/
def branches (codec : Codec) (source : Source σ) : List Branch → Rewriting σ (List Branch)
  | [] => pure []
  | .mk condition result :: rest => do
    let condition ← expr codec source condition
    let result ← expr codec source result
    return .mk condition result :: (← branches codec source rest)

/-- The arguments of a call. -/
def arguments (codec : Codec) (source : Source σ) : Arguments → Rewriting σ Arguments
  | .none => pure .none
  | .query q => do return .query (← query codec source q)
  | .list distinct list clauses => do
    return .list distinct (← argumentList codec source list) clauses

/-- Arguments, from left to right. -/
def argumentList (codec : Codec) (source : Source σ) :
    List Argument → Rewriting σ (List Argument)
  | [] => pure []
  | .mk label value :: rest => do
    let value ← expr codec source value
    return .mk label value :: (← argumentList codec source rest)

/-- Columns, or expressions to order by. -/
def items (codec : Codec) (source : Source σ) : List Item → Rewriting σ (List Item)
  | [] => pure []
  | .mk e aliased options :: rest => do
    let e ← expr codec source e
    return .mk e aliased options :: (← items codec source rest)

/-- Named queries. -/
def ctes (codec : Codec) (source : Source σ) : List Cte → Rewriting σ (List Cte)
  | [] => pure []
  | .mk name columns materialized q origin :: rest => do
    let q ← query codec source q
    return .mk name columns materialized q origin :: (← ctes codec source rest)

/-- A query: its named queries, its body, its order. -/
def query (codec : Codec) (source : Source σ) : Query → Rewriting σ Query
  | .mk recursive named b order tail => do
    let named ← ctes codec source named
    let b ← body codec source b
    return .mk recursive named b (← items codec source order) tail

/-- The body of a query. -/
def body (codec : Codec) (source : Source σ) : Body → Rewriting σ Body
  | .select s => do return .select (← select codec source s)
  | .query q => do return .query (← query codec source q)
  | .combined op quantifier left right => do
    let left ← body codec source left
    return .combined op quantifier left (← body codec source right)
  | .values keyword rowWord rows => do return .values keyword rowWord (← exprs codec source rows)
  | .statement s =>
    match s with
    | .update u => do return .statement (.update (← update codec source u))
    | .delete r => do return .statement (.delete (← delete codec source r))
    | .insert table pieces => pure (.statement (.insert table pieces))
    | .query q => pure (.statement (.query q))
    | .other .export pieces => pure (.statement (.other .export pieces))
    | .other kind pieces =>
      fail (.unscopable (.body (Statement.other kind pieces).render))
  | .table name => fail (.unscopable (.body (Body.table name).render))

/-- A `SELECT`: its columns, its conditions and groups, its relations, and last its `WHERE`. -/
def select (codec : Codec) (source : Source σ) : Select → Rewriting σ Select
  | ⟨form, distinct, projection, into, relations, views, prewhere, selection, groupBy, groupOptions,
      clustering, having, windows, windowsFirst, qualify, hierarchy⟩ => do
    let projection ← items codec source projection
    let prewhere ← expr? codec source prewhere
    let having ← expr? codec source having
    let qualify ← expr? codec source qualify
    let groupBy ← exprs codec source groupBy
    let selection ← expr? codec source selection
    let visible := countTables relations
    let (relations, tables) ← joinedList codec source .select visible relations
    let scope : Scope := { operation := .select, placement := .filter, tables, visible }
    let selection ← addPredicates source scope selection
    return ⟨form, distinct, projection, into, relations, views, prewhere, selection, groupBy,
      groupOptions, clustering, having, windows, windowsFirst, qualify, hierarchy⟩

/-- An `UPDATE`: its assignments, its relations, and last its `WHERE`. -/
def update (codec : Codec) (source : Source σ) : Update → Rewriting σ Update
  | ⟨conflict, target, assigned, relationsFirst, relations, selection, tail⟩ => do
    let assigned ← assignments codec source assigned
    let selection ← expr? codec source selection
    let visible := countTables [target] + countTables relations
    let (target, tables) ← joined codec source .update visible false target
    let (relations, more) ← joinedList codec source .update visible relations
    let scope : Scope := { operation := .update, placement := .filter, tables := tables ++ more,
                           visible }
    let selection ← addPredicates source scope selection
    return ⟨conflict, target, assigned, relationsFirst, relations, selection, tail⟩

/-- A `DELETE`: its relations, and last its `WHERE`. -/
def delete (codec : Codec) (source : Source σ) : Delete → Rewriting σ Delete
  | ⟨named, fromWord, relations, others, selection, tail⟩ => do
    let selection ← expr? codec source selection
    let visible := countTables relations + countTables others
    let (relations, tables) ← joinedList codec source .delete visible relations
    let (others, more) ← joinedList codec source .delete visible others
    let scope : Scope := { operation := .delete, placement := .filter, tables := tables ++ more,
                           visible }
    let selection ← addPredicates source scope selection
    return ⟨named, fromWord, relations, others, selection, tail⟩

/-- The assignments of an `UPDATE`. -/
def assignments (codec : Codec) (source : Source σ) :
    List Assignment → Rewriting σ (List Assignment)
  | [] => pure []
  | .mk target value :: rest => do
    let value ← expr codec source value
    return .mk target value :: (← assignments codec source rest)

/-- The relations of a list, and the tables whose predicates belong in the `WHERE`. -/
def joinedList (codec : Codec) (source : Source σ) (operation : Operation) (visible : Nat) :
    List Joined → Rewriting σ (List Joined × List Table)
  | [] => pure ([], [])
  | j :: js => do
    let (j, tables) ← joined codec source operation visible false j
    let (js, more) ← joinedList codec source operation visible js
    return (j :: js, tables ++ more)

/-- A relation with its joins, and the tables whose predicates belong outside of it. With `wrapped`
every table is replaced by a query that filters it. -/
def joined (codec : Codec) (source : Source σ) (operation : Operation) (visible : Nat)
    (wrapped : Bool) : Joined → Rewriting σ (Joined × List Table)
  | .mk r js => do
    let wrapped := wrapped || js.any Join.needsWrapping
    let (r, outer) ← relation codec source operation visible wrapped r
    let (js, outer) ← joins codec source operation visible wrapped outer js
    return (.mk r js, outer)

/-- Joined relations after tables whose predicates are still to be placed, with the tables whose
predicates are to be placed after them. -/
def joins (codec : Codec) (source : Source σ) (operation : Operation) (visible : Nat)
    (wrapped : Bool) (outer : List Table) : List Join → Rewriting σ (List Join × List Table)
  | [] => pure ([], outer)
  | .mk global kind r matchCondition constraint :: rest => do
    let (r, tables) ← relation codec source operation visible wrapped r
    let (constraint, outer) ←
      joinConstraint codec source operation visible kind outer tables constraint
    let (rest, outer) ← joins codec source operation visible wrapped outer rest
    return (.mk global kind r matchCondition constraint :: rest, outer)

/-- The constraint of a join between the tables `outer` and `tables`, with the tables whose
predicates are to be placed outside of it. -/
def joinConstraint (codec : Codec) (source : Source σ) (operation : Operation) (visible : Nat)
    (kind : JoinKind) (outer tables : List Table) :
    JoinConstraint → Rewriting σ (JoinConstraint × List Table)
  | .on condition => do
    let condition ← expr codec source condition
    match nullableSide? kind with
    | some .joined =>
      return (.on (← restrictJoin source operation visible tables condition), outer)
    | some .preceding =>
      return (.on (← restrictJoin source operation visible outer condition), tables)
    | none => return (.on condition, outer ++ tables)
  | constraint => pure (constraint, outer ++ tables)

/-- A relation, and the tables whose predicates belong outside of it. -/
def relation (codec : Codec) (source : Source σ) (operation : Operation) (visible : Nat)
    (wrapped : Bool) : Relation → Rewriting σ (Relation × List Table)
  | .table name partitions args ordinality aliased after => do
    let t : Table := ⟨Name.render name, aliased.map (·.name.render)⟩
    if wrapped then
      let whole := Relation.table name partitions args ordinality aliased after
      return (← wrap codec source operation whole t, [])
    else return (.table name partitions args ordinality aliased after, [t])
  | .derived lateral q aliased => do
    return (.derived lateral (← query codec source q) aliased, [])
  | .nested j aliased => do
    let (j, tables) ← joined codec source operation visible wrapped j
    return (.nested j aliased, tables)
  | .reshaped r clause aliased => do
    let (r, tables) ← relation codec source operation visible true r
    return (.reshaped r clause aliased, tables)
  | .function call aliased => do return (.function (← expr codec source call) aliased, [])
  | .special pieces aliased after => pure (.special pieces aliased after, [])

end

/-- A statement with its predicates. What is neither a query nor an update nor a delete passes alone,
and is refused among other statements. -/
def statement (codec : Codec) (source : Source σ) (stacked : Bool) (s : Statement) :
    Rewriting σ Statement :=
  match s with
  | .query q => do return .query (← query codec source q)
  | .update u => do return .update (← update codec source u)
  | .delete r => do return .delete (← delete codec source r)
  | other => if stacked then fail (.unscopable (.stacked other.operation)) else return other

/-- Statements, one after the other. -/
def statements (codec : Codec) (source : Source σ) (stacked : Bool) :
    List Statement → Rewriting σ (List Statement)
  | [] => pure []
  | s :: rest => do
    let s ← statement codec source stacked s
    return s :: (← statements codec source stacked rest)

end Rewrite

/-- A rewritten text. -/
structure Rewritten where
  sql : String
  added : Added
deriving DecidableEq, Repr, Inhabited

namespace Rewritten

/-- Whether a predicate was added. -/
def isChanged (r : Rewritten) : Bool := !r.added.isNothing

end Rewritten

/-- The text with the predicates of the source added to its statements. If none is added, the text
stays as it is. -/
def rewriteWith {σ : Type} (codec : Codec) (source : Source σ) (sql : String) :
    ExceptT Error (StateM σ) Rewritten := do
  match codec.parse sql with
  | none => throw .malformed
  | some list =>
    let (list, added) ← (Rewrite.statements codec source (1 < list.length) list).run .nothing
    return ⟨if added.isNothing then sql else codec.render list, added⟩

/-- The text with the predicates of the source added to it, read and written in a dialect. -/
def rewrite {σ : Type} (d : Dialect) (source : Source σ) (sql : String) :
    ExceptT Error (StateM σ) Rewritten :=
  rewriteWith (.ofDialect d) source sql

end RowAccess
