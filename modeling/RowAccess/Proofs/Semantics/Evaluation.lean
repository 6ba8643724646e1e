import RowAccess.Proofs.Semantics.Interpretation
/-!
# Evaluating queries

The meanings of expressions, queries and relations in a world, by recursion on how they are written.
-/

namespace RowAccess.Semantics

open Sql

variable {V : Type} [DecidableEq V]

mutual

/-- What an expression means. -/
def expr (I : Interpretation V) (W : World V) : Expr → Valuation V
  | .name parts => { value := fun env => env.lookup I parts, label := parts.getLast?.map I.fold }
  | .literal value => { value := fun _ => I.literal value }
  | .typed before value after => { value := fun _ => I.typed before value after }
  | .wildcard qualifier => { value := fun _ => I.null, wildcard := some (qualifier.map I.fold) }
  | .unary op operand => (expr I W operand).lift (I.apply op)
  | .binary op left right => .lift₂ (I.connect op) (expr I W left) (expr I W right)
  | .quantified op quantifier left right =>
    I.quantified op quantifier (expr I W left) (expr I W right)
  | .distinctness negated left right =>
    .lift₂ (fun v w => I.test negated (some (I.distinct v w))) (expr I W left) (expr I W right)
  | .atTimeZone operand zone => .lift₂ I.atTimeZone (expr I W operand) (expr I W zone)
  | .matching how operand pattern => .lift₂ (I.matching how) (expr I W operand) (expr I W pattern)
  | .test negated property operand =>
    (expr I W operand).lift fun v => I.test negated (some (I.has property v))
  | .nested inner => (expr I W inner).lift fun v => v
  | .cast form operand type => (expr I W operand).lift (I.cast form type)
  | .collate operand collation => (expr I W operand).lift (I.collate collation)
  | .extract field comma operand => (expr I W operand).lift (I.extract field comma)
  | .inList negated operand members => I.inList negated (expr I W operand) (exprs I W members)
  | .inQuery negated operand q => I.inQuery negated (expr I W operand) (query I W q)
  | .between negated operand low high =>
    .lift₃ (fun v w x => I.test negated (I.between v w x)) (expr I W operand) (expr I W low)
      (expr I W high)
  | .case operand conditions otherwise =>
    I.case (expr? I W operand) (branches I W conditions) (expr? I W otherwise)
  | .tuple members => .lifts I.tuple (exprs I W members)
  | .call function _ args _ filter _ => I.called function (arguments I W args) (expr? I W filter)
  | .exists negated q => I.anyRow negated (query I W q)
  | .subquery q => I.subquery (query I W q)
  | .access root steps => { value := fun env => I.special (.access root steps) (env.lookup I) }
  | .special pieces => { value := fun env => I.special (.special pieces) (env.lookup I) }

/-- What an expression that may be absent means. -/
def expr? (I : Interpretation V) (W : World V) : Option Expr → Option (Valuation V)
  | none => none
  | some e => some (expr I W e)

/-- What expressions mean. -/
def exprs (I : Interpretation V) (W : World V) : List Expr → List (Valuation V)
  | [] => []
  | e :: es => expr I W e :: exprs I W es

/-- What the branches of a `CASE` mean: their conditions and results. -/
def branches (I : Interpretation V) (W : World V) : List Branch → List (Valuation V × Valuation V)
  | [] => []
  | .mk condition result :: rest => (expr I W condition, expr I W result) :: branches I W rest

/-- What the arguments of a call mean. A query stands for its value. -/
def arguments (I : Interpretation V) (W : World V) : Arguments → Given V
  | .none => .nothing
  | .query q => .query (I.subquery (query I W q))
  | .list distinct list _ => .list distinct (argumentList I W list)

/-- What arguments mean. -/
def argumentList (I : Interpretation V) (W : World V) : List Argument → List (Valuation V)
  | [] => []
  | .mk _ value :: rest => expr I W value :: argumentList I W rest

/-- What columns, or expressions to order by, mean. -/
def items (I : Interpretation V) (W : World V) : List Item → List (Column V)
  | [] => []
  | .mk e aliased _ :: rest => ⟨expr I W e, aliased.map I.fold⟩ :: items I W rest

/-- The environment with named queries, each in sight of those after it. -/
def ctes (I : Interpretation V) (W : World V) : List Cte → Env V → Env V
  | [] => fun env => env
  | .mk name columns _ q _ :: rest => I.withNamed name columns (query I W q) (ctes I W rest)

/-- What a query answers. -/
def query (I : Interpretation V) (W : World V) : Query → Env V → Answer V
  | .mk _ named b order tail => I.queried tail (ctes I W named) (body I W b) (items I W order)

/-- What the body of a query answers, with the values that order the rows. -/
def body (I : Interpretation V) (W : World V) : Body → Env V → (Env V → List V) → Answer V
  | .select s => select I W s
  | .query q => Answer.inParens (query I W q)
  | .combined op quantifier left right => Answer.combined op quantifier (body I W left) (body I W right)
  | .values .. => fun _ _ => .nothing
  | .statement _ => fun _ _ => .nothing
  | .table _ => fun _ _ => .nothing

/-- What a `SELECT` answers, with the values that order the rows. -/
def select (I : Interpretation V) (W : World V) : Select → Env V → (Env V → List V) → Answer V
  | ⟨_, distinct, projection, _, relations, _, _, selection, groupBy, _, _, having, _, _, _, _⟩ =>
    I.selection (items I W projection) distinct (joinedList I W relations) (expr? I W selection)
      (exprs I W groupBy) (expr? I W having)

/-- The relations of a `FROM` list, joined. -/
def joinedList (I : Interpretation V) (W : World V) : List Joined → Env V → Joint V
  | [] => fun _ => .unit
  | j :: js => I.cross (joined I W j) (joinedList I W js)

/-- A relation with its joins. -/
def joined (I : Interpretation V) (W : World V) : Joined → Env V → Joint V
  | .mk r js => fun env => joins I W js env (relation I W r env)

/-- Joins to relations that are joined already. -/
def joins (I : Interpretation V) (W : World V) : List Join → Env V → Joint V → Joint V
  | [] => fun _ before => before
  | .mk _ kind r _ constraint :: rest => fun env before =>
    joins I W rest env
      (.join I.toNulls kind (joinConstraint I W constraint env) before (relation I W r env))

/-- What pairs the rows of a join. -/
def joinConstraint (I : Interpretation V) (W : World V) : JoinConstraint → Env V → Pairing V
  | .on condition => I.pairingOn (expr I W condition)
  | .columns names => fun _ => I.pairingOf fun _ _ => names.map fun n => I.fold (n.getLastD default)
  | .natural => fun _ => I.pairingOf fun l r => l.shown.filter fun c => r.shown.contains c
  | .none => fun _ => I.pairingOf fun _ _ => []

/-- A relation of a `FROM` list under its qualifier. -/
def relation (I : Interpretation V) (W : World V) : Relation → Env V → Joint V
  | .table name _ _ _ aliased _ => I.table W ⟨name, aliased.map (·.name)⟩
  | .derived _ q aliased =>
    Joint.derived ((aliased.map fun a => I.fold a.name).getD "") (query I W q)
  | .nested j _ => joined I W j
  | .reshaped .. => fun _ => .nothing
  | .function .. => fun _ => .nothing
  | .special .. => fun _ => .nothing

end

end RowAccess.Semantics
