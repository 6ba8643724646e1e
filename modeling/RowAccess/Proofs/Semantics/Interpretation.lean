import Mathlib.Data.Multiset.Dedup
import RowAccess.Proofs.Semantics.Filtering
import RowAccess.Sql.Syntax
/-!
# What queries mean

A query means what it answers in a world of tables. What operators, functions and literals mean is left
to an `Interpretation`, which also says which identifiers name the same; the logic of three truth values,
joins, groups, named queries and subqueries are as in every dialect. Evaluation never fails: a name that
stands for nothing is null.

The meaning of a statement is made of the meanings of its parts, and only the name of a table is looked
up in the world. Sources of rows that rewriting leaves as they are have no rows here, and clauses that it
leaves as they are are given to the interpretation.
-/

namespace RowAccess.Semantics

open Sql

/-! ## Truth values -/

/-- True, false, or neither. -/
abbrev Truth := Option Bool

namespace Truth

/-- `NOT` -/
def neg (a : Truth) : Truth := a.map (!·)

/-- `AND` -/
def and : Truth → Truth → Truth
  | some false, _ => some false
  | _, some false => some false
  | some true, some true => some true
  | _, _ => none

/-- `OR` -/
def or (a b : Truth) : Truth := neg (and (neg a) (neg b))

theorem and_eq_true {a b : Truth} : and a b = some true ↔ a = some true ∧ b = some true := by
  rcases a with _ | _ | _ <;> rcases b with _ | _ | _ <;> simp [and]

end Truth

/-! ## Interpretations -/

/-- What the names, literals, operators and functions of a dialect mean. -/
structure Interpretation (V : Type) extends Nulls V where
  /-- The name that an identifier stands for. -/
  fold : Ident → String
  truth : V → Truth
  ofTruth : Truth → V
  truth_ofTruth : ∀ a, truth (ofTruth a) = a
  literal : Literal → V
  typed : String → Literal → String → V
  /-- An operator with one operand, apart from `NOT`. -/
  unary : UnaryOp → V → V
  /-- An operator with two operands, apart from `AND` and `OR`. -/
  binary : BinaryOp → V → V → V
  equal : V → V → Truth
  distinct : V → V → Bool
  /-- Whether the value has a property such as being null. -/
  has : Property → V → Bool
  matching : Matching → V → V → V
  atTimeZone : V → V → V
  cast : CastForm → String → V → V
  collate : Name → V → V
  extract : String → Bool → V → V
  tuple : List V → V
  /-- A comparison with any or all members of an array. -/
  members : BinaryOp → Quantifier → V → V → V
  /-- A comparison with any or all rows of a query. -/
  rows : BinaryOp → Quantifier → V → Multiset (List V) → V
  /-- Whether a value is a row of a query. -/
  equalRow : V → List V → Truth
  /-- The value of a query in the place of an expression. -/
  scalar : Multiset (List V) → V
  isAggregate : Name → Bool
  /-- What a function answers for the rows of a group, with its `DISTINCT`. -/
  aggregate : Name → String → Multiset (List V) → V
  /-- What a function answers, with its `DISTINCT` and its `FILTER`. -/
  call : Name → String → List V → Option V → V
  /-- The value of an expression that is not looked into, given the values of names. -/
  special : Expr → (Name → V) → V
  /-- The row that stands for a group. -/
  chosen : Multiset (Tuple V) → Tuple V
  /-- What a clause such as `DISTINCT` leaves of rows with the values that order them. -/
  clause : List Piece → Multiset (List V × List V) → Multiset (List V × List V)

/-- What the name of a table stands for, given the named query of that name if there is one. -/
abbrev World (V : Type) := Option (Rel V) → Ref → Rel V

/-- The stored tables, by their names. -/
abbrev Database (V : Type) := List String → Rel V

/-- The world of stored tables, in which a named query stands before the table of its name. -/
def Database.world {V : Type} (D : Database V) (I : Interpretation V) : World V := fun named r =>
  named.getD (D (r.name.map I.fold))

/-! ## Environments -/

/-- A row of the `FROM` list of a query, and the rows of its group. -/
structure Level (V : Type) where
  tuple : Tuple V
  group : Multiset (Tuple V)

/-- Where an expression is evaluated: the named queries, and the rows of the queries around it, the
nearest one first. -/
structure Env (V : Type) where
  named : List (String × Rel V)
  levels : List (Level V)

variable {V : Type}

namespace Env

/-- Inside one more query. -/
def push (env : Env V) (l : Level V) : Env V := { env with levels := l :: env.levels }

/-- At a row of a `FROM` list. -/
def row (env : Env V) (t : Tuple V) : Env V := env.push ⟨t, {t}⟩

/-- With one more named query. -/
def bind (env : Env V) (name : String) (r : Rel V) : Env V :=
  { env with named := (name, r) :: env.named }

/-- At each row of the group of the nearest query. -/
def group (env : Env V) : Multiset (Env V) :=
  match env.levels with
  | [] => 0
  | l :: levels => l.group.map fun t => { env with levels := ⟨t, {t}⟩ :: levels }

/-- The value that a name stands for. A qualifier stands for the row of the nearest query that has
it. -/
def lookup (I : Interpretation V) (env : Env V) (parts : Name) : V :=
  match parts.reverse with
  | [] => I.null
  | [c] => (env.levels.findSome? fun l => l.tuple.shown.lookup (I.fold c)).getD I.null
  | c :: q :: _ =>
    ((env.levels.findSome? fun l => l.tuple.part? (I.fold q)).bind (·.lookup (I.fold c))).getD I.null

/-- A column of a row of the nearest query. -/
theorem lookup_push (I : Interpretation V) (env : Env V) {l : Level V} {q : Ident} {row : Row V}
    (found : l.tuple.part? (I.fold q) = some row) (c : Ident) :
    (env.push l).lookup I [q, c] = (row.lookup (I.fold c)).getD I.null := by
  change (((l :: env.levels).findSome? fun l => l.tuple.part? (I.fold q)).bind
    (·.lookup (I.fold c))).getD I.null = _
  rw [List.findSome?_cons, found]
  rfl

/-- The named query that a name of a table stands for. -/
def query? (I : Interpretation V) (env : Env V) : Name → Option (Rel V)
  | [i] => env.named.lookup (I.fold i)
  | _ => none

end Env

/-! ## Denotations -/

/-- What an expression means. -/
structure Valuation (V : Type) where
  value : Env V → V
  /-- Whether it answers one value for a whole group. -/
  aggregates : Bool := false
  /-- The name of a column that it makes. -/
  label : Option String := none
  /-- The qualifiers of a wildcard. -/
  wildcard : Option (List String) := none
  /-- The rows, if it is a query. -/
  rows : Option (Env V → Multiset (List V)) := none

namespace Valuation

/-- A value made of one value. -/
def lift (f : V → V) (m : Valuation V) : Valuation V where
  value env := f (m.value env)
  aggregates := m.aggregates

/-- A value made of two values. -/
def lift₂ (f : V → V → V) (l r : Valuation V) : Valuation V where
  value env := f (l.value env) (r.value env)
  aggregates := l.aggregates || r.aggregates

/-- A value made of three values. -/
def lift₃ (f : V → V → V → V) (l m r : Valuation V) : Valuation V where
  value env := f (l.value env) (m.value env) (r.value env)
  aggregates := l.aggregates || m.aggregates || r.aggregates

/-- A value made of a list of values. -/
def lifts (f : List V → V) (ms : List (Valuation V)) : Valuation V where
  value env := f (ms.map (·.value env))
  aggregates := ms.any (·.aggregates)

end Valuation

/-- What the arguments of a function mean. -/
structure Given (V : Type) where
  distinct : String
  values : Env V → List V
  aggregates : Bool

/-- What an item of a column list or of `ORDER BY` means. -/
structure Column (V : Type) where
  expr : Valuation V
  aliased : Option String

/-- The names of the columns that items make. -/
def Column.labels (columns : List (Column V)) (f : Frame) : List String :=
  columns.flatMap fun c => match c.expr.wildcard with
    | none => [(c.aliased.or c.expr.label).getD ""]
    | some [] => f.shown
    | some qualifiers => (f.parts.lookup (qualifiers.getLastD "")).getD []

/-- The values that items make of a row. -/
def Column.values (columns : List (Column V)) (env : Env V) (t : Tuple V) : List V :=
  columns.flatMap fun c => match c.expr.wildcard with
    | none => [c.expr.value env]
    | some [] => t.shown.map Prod.snd
    | some qualifiers => ((t.part? (qualifiers.getLastD "")).getD []).map Prod.snd

/-- What a query answers: rows, each with the values that order it. -/
structure Answer (V : Type) where
  columns : List String
  rows : Multiset (List V × List V)

namespace Answer

/-- The rows of an answer. -/
def bag (a : Answer V) : Multiset (List V) := a.rows.map Prod.fst

/-- An answer as a relation. -/
def rel (a : Answer V) : Rel V := ⟨a.columns, a.bag⟩

/-- No rows and no columns. -/
def nothing : Answer V := ⟨[], 0⟩

/-- Rows in a new order, in which their columns are in sight. -/
def ordered (columns : List String) (rows : Multiset (List V)) (env : Env V)
    (order : Env V → List V) : Answer V :=
  ⟨columns, rows.map fun values => (values, order (env.row ⟨[], columns.zip values⟩))⟩

/-- A query in parentheses. -/
def inParens (rows : Env V → Answer V) (env : Env V) (order : Env V → List V) : Answer V :=
  ordered (rows env).columns (rows env).bag env order

/-- Two answers combined, in which a row occurs as often as `ALL` says, or once. -/
def combined [DecidableEq V] (op : SetOp) (quantifier : String)
    (left right : Env V → (Env V → List V) → Answer V) (env : Env V) (order : Env V → List V) :
    Answer V :=
  let all := Text.contains "ALL" quantifier
  let a := left env fun _ => []
  let b := right env fun _ => []
  let l := if all then a.bag else a.bag.dedup
  let r := if all then b.bag else b.bag.dedup
  ordered a.columns (match op with
    | .union => if all then l + r else (l + r).dedup
    | .intersect => l ∩ r
    | .except | .minus => l - r) env order

end Answer

namespace Given

/-- No arguments. -/
def nothing : Given V := ⟨"", fun _ => [], false⟩

/-- A list of arguments. -/
def list (distinct : String) (ms : List (Valuation V)) : Given V :=
  ⟨distinct, fun env => ms.map (·.value env), ms.any (·.aggregates)⟩

/-- A query as the only argument. -/
def query (m : Valuation V) : Given V := ⟨"", fun env => [m.value env], false⟩

end Given

/-- The groups of rows: one for each value of the keys, or all rows if there are no keys. -/
def groups [DecidableEq V] (keys : List (Valuation V)) (rows : Multiset (Tuple V)) (env : Env V) :
    Multiset (Multiset (Tuple V)) :=
  let key (t : Tuple V) : List V := keys.map fun k => k.value (env.row t)
  if keys.isEmpty then {rows}
  else (rows.map key).dedup.map fun k => rows.filter fun t => key t = k

namespace Interpretation

variable (I : Interpretation V)

/-- Whether a value is true, and neither false nor unknown. -/
def isTrue (v : V) : Bool := I.truth v == some true

/-- An operator with one operand. -/
def apply (op : UnaryOp) (v : V) : V :=
  match op with
  | .not => I.ofTruth (I.truth v).neg
  | op => I.unary op v

/-- An operator with two operands. -/
def connect (op : BinaryOp) (v w : V) : V :=
  match op with
  | .and => I.ofTruth ((I.truth v).and (I.truth w))
  | .or => I.ofTruth ((I.truth v).or (I.truth w))
  | op => I.binary op v w

/-- A truth value, negated if asked for. -/
def test (negated : Bool) (a : Truth) : V := I.ofTruth (if negated then a.neg else a)

/-- Whether a value is among the rows of a query: unknown if that depends on a null. -/
def amongRows (v : V) (rows : Multiset (List V)) : Truth :=
  if 0 < rows.countP fun r => I.equalRow v r = some true then some true
  else if 0 < rows.countP fun r => I.equalRow v r = none then none
  else some false

/-- A comparison of a value with any or all rows of a query, or with the members of an array. -/
def quantified (op : BinaryOp) (quantifier : Quantifier) (l r : Valuation V) : Valuation V where
  value env := match r.rows with
    | some rows => I.rows op quantifier (l.value env) (rows env)
    | none => I.members op quantifier (l.value env) (r.value env)
  aggregates := l.aggregates || r.aggregates

/-- Whether a value equals a member of a list. -/
def inList (negated : Bool) (m : Valuation V) (members : List (Valuation V)) : Valuation V where
  value env := I.test negated
    ((members.map fun m' => I.equal (m.value env) (m'.value env)).foldr Truth.or (some false))
  aggregates := m.aggregates || members.any (·.aggregates)

/-- Whether a value is among the rows of a query. -/
def inQuery (negated : Bool) (m : Valuation V) (rows : Env V → Answer V) : Valuation V where
  value env := I.test negated (I.amongRows (m.value env) (rows env).bag)
  aggregates := m.aggregates

/-- Whether a value lies between two others. -/
def between (v low high : V) : Truth :=
  (I.truth (I.binary .gtEq v low)).and (I.truth (I.binary .ltEq v high))

/-- The result of the first branch that is taken. -/
def choice (operand : Option V) (branches : List (V × V)) (otherwise : Option V) : V :=
  let taken (condition : V) : Bool := match operand with
    | none => I.isTrue condition
    | some v => I.equal v condition == some true
  match branches.find? fun b => taken b.1 with
  | some b => b.2
  | none => otherwise.getD I.null

/-- A `CASE`. -/
def case (operand : Option (Valuation V)) (branches : List (Valuation V × Valuation V))
    (otherwise : Option (Valuation V)) : Valuation V where
  value env := I.choice (operand.map (·.value env))
    (branches.map fun b => (b.1.value env, b.2.value env)) (otherwise.map (·.value env))
  aggregates := operand.any (·.aggregates) ||
    branches.any (fun b => b.1.aggregates || b.2.aggregates) || otherwise.any (·.aggregates)

/-- A call of a function, for the rows of a group if it aggregates. -/
def called (function : Name) (given : Given V) (filter : Option (Valuation V)) : Valuation V :=
  if I.isAggregate function then
    { value := fun env => I.aggregate function given.distinct
        ((env.group.filter fun env => filter.all (fun m => I.isTrue (m.value env)) = true).map
          given.values)
      aggregates := true
      label := function.getLast?.map I.fold }
  else
    { value := fun env =>
        I.call function given.distinct (given.values env) (filter.map (·.value env))
      aggregates := given.aggregates || filter.any (·.aggregates)
      label := function.getLast?.map I.fold }

/-- Whether a query answers any row. -/
def anyRow (negated : Bool) (rows : Env V → Answer V) : Valuation V where
  value env := I.test negated (some (0 < (rows env).bag.card))

/-- A query in the place of an expression. -/
def subquery (rows : Env V → Answer V) : Valuation V where
  value env := I.scalar (rows env).bag
  rows := some fun env => (rows env).bag

/-- A condition that may be absent, at a row. -/
def satisfies (condition : Option (Valuation V)) (env : Env V) (t : Tuple V) : Bool :=
  condition.all fun m => I.isTrue (m.value (env.row t))

/-- The rows of a `FROM` list that satisfy the condition of the query. -/
def selected (j : Joint V) (condition : Option (Valuation V)) (env : Env V) : Multiset (Tuple V) :=
  j.rows.filter fun t => I.satisfies condition env t = true

/-- What a query makes of the rows of its `FROM` list that satisfy its condition. An item of `ORDER BY`
is evaluated with the columns of the answer in sight. -/
def answer [DecidableEq V] (columns : List (Column V)) (distinct : List Piece)
    (keys : List (Valuation V)) (having : Option (Valuation V)) (frame : Frame)
    (rows : Multiset (Tuple V)) (env : Env V) (order : Env V → List V) : Answer V :=
  let labels := Column.labels columns frame
  let out (l : Level V) : List V × List V :=
    let values := Column.values columns (env.push l) l.tuple
    (values, order (env.push { l with tuple := { l.tuple with
      shown := labels.zip values ++ l.tuple.shown } }))
  let grouped := !keys.isEmpty || having.isSome || columns.any (·.expr.aggregates)
  let levels : Multiset (Level V) :=
    if grouped then
      ((groups keys rows env).map fun g => (⟨I.chosen g, g⟩ : Level V)).filter fun l =>
        having.all (fun m => I.isTrue (m.value (env.push l))) = true
    else rows.map fun t => ⟨t, {t}⟩
  let rows := levels.map out
  ⟨labels, if distinct.isEmpty then rows else I.clause distinct rows⟩

/-- A `SELECT` from relations. -/
def selection [DecidableEq V] (columns : List (Column V)) (distinct : List Piece)
    (relations : Env V → Joint V) (condition : Option (Valuation V)) (keys : List (Valuation V))
    (having : Option (Valuation V)) (env : Env V) (order : Env V → List V) : Answer V :=
  I.answer columns distinct keys having (relations env).frame
    (I.selected (relations env) condition env) env order

/-- `SELECT *` answers the rows with the columns that are shown. -/
theorem rel_star [DecidableEq V] (relations : Env V → Joint V) (condition : Option (Valuation V))
    (env : Env V) (order : Env V → List V) :
    (I.selection [⟨{ value := fun _ => I.null, wildcard := some [] }, none⟩] [] relations condition
      [] none env order).rel =
      ⟨(relations env).frame.shown,
        (I.selected (relations env) condition env).map fun t => t.shown.map Prod.snd⟩ := by
  simp [selection, answer, Answer.rel, Answer.bag, Column.labels, Column.values]

/-- The environment with a named query in sight of what is named after it. -/
def withNamed (name : Ident) (columns : List AliasColumn) (rows : Env V → Answer V)
    (later : Env V → Env V) (env : Env V) : Env V :=
  let r := (rows env).rel
  later (env.bind (I.fold name)
    ⟨if columns.isEmpty then r.columns else columns.map (I.fold ·.name), r.rows⟩)

/-- A query: its body inside its named queries, in its order, up to the clauses after them. -/
def queried (tail : List Piece) (inside : Env V → Env V)
    (rows : Env V → (Env V → List V) → Answer V) (keys : List (Column V)) (env : Env V) : Answer V :=
  let answer := rows (inside env) fun env => keys.map (·.expr.value env)
  ⟨answer.columns, if tail.isEmpty then answer.rows else I.clause tail answer.rows⟩

/-- The pairing of rows that a condition says belong together. -/
def pairingOn (condition : Valuation V) (env : Env V) : Pairing V where
  shared _ _ := []
  holds _ _ _ t := I.isTrue (condition.value (env.row t))

/-- The pairing of rows that agree on columns. -/
def pairingOf (shared : Frame → Frame → List String) : Pairing V where
  shared := shared
  holds names l r _ := names.all fun c =>
    I.equal ((l.shown.lookup c).getD I.null) ((r.shown.lookup c).getD I.null) == some true

/-- The rows of one list with those of others, all with all. -/
def cross (first others : Env V → Joint V) (env : Env V) : Joint V :=
  .join I.toNulls .cross (I.pairingOf fun _ _ => []) (first env) (others env)

theorem join_unit (j : Joint V) :
    Joint.join I.toNulls .cross (I.pairingOf fun _ _ => []) j .unit = j := by
  have row (a : Tuple V) : I.toNulls.merge [] a ⟨[], []⟩ = a := by simp [Nulls.merge]
  have frame (f : Frame) : f.merge [] ⟨[], []⟩ = f := by simp [Frame.merge]
  have rows : (j.rows.bind fun a => {a}) = j.rows := by
    rw [Multiset.bind_singleton, Multiset.map_id']
  simp [Joint.join, Joint.unit, joinRows, pairingOf, keepsLeft, keepsRight, row, frame, rows]

/-- A table, or the named query of its name, under its qualifier. -/
def table (W : World V) (r : Ref) (env : Env V) : Joint V :=
  .named (I.fold r.shown) (W (env.query? I r.name) r)

end Interpretation

/-- A query under its qualifier. -/
def Joint.derived (qualifier : String) (rows : Env V → Answer V) (env : Env V) : Joint V :=
  .named qualifier (rows env).rel

end RowAccess.Semantics
