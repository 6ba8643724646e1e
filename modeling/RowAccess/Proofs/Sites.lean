import RowAccess.Proofs.Places
/-!
# The sites of a statement

A statement is rewritten at its sites: the `WHERE` of a query or statement, the conditions of its joins, and the
tables that may be wrapped. `Additions` say what may become of these, and `Adds` says what statements may then
become: the sites are changed as the additions allow, at any depth, and nothing else is. Read from right to left
it says what is left of a statement once the additions are erased.
-/

namespace RowAccess

open Sql Semantics

/-! ## Sites -/

/-- A relation and its joins with one more join. -/
def Sql.Joined.add : Joined → Join → Joined
  | .mk r js, j => .mk r (js ++ [j])

namespace Outer

/-- The tables whose predicates belong outside of a relation with the joins so far, which are part of a longer
chain: it is the whole chain that says whether tables are wrapped. -/
def soFar (wrapped : Bool) : Joined → List Table
  | .mk r js => joins wrapped (relation wrapped r) js

theorem joins_append (wrapped : Bool) (outer : List Table) (js more : List Join) :
    joins wrapped outer (js ++ more) = joins wrapped (joins wrapped outer js) more := by
  induction js generalizing outer with
  | nil => rfl
  | cons j js ih =>
    obtain ⟨global, kind, r, matchCondition, constraint⟩ := j
    exact ih _

theorem soFar_add (wrapped : Bool) (preceding : Joined) (global : Bool) (kind : JoinKind) (r : Relation)
    (matchCondition : Option Expr) (constraint : JoinConstraint) :
    soFar wrapped (preceding.add (.mk global kind r matchCondition constraint)) =
      joinConstraint kind (soFar wrapped preceding) (relation wrapped r) constraint := by
  obtain ⟨first, js⟩ := preceding
  exact joins_append wrapped _ js _

end Outer

/-- A place whose condition predicates may be added to. -/
inductive Site where
  /-- The `WHERE` of a query or statement that reads the relations. -/
  | filter (operation : Operation) (relations : List Joined)
  /-- The condition of a join between a relation and what stands before it in its chain. -/
  | join (operation : Operation) (visible : Nat) (wrapped : Bool) (preceding : Joined) (kind : JoinKind)
      (relation : Relation)

/-- The scope that rewriting asks about at a site, if it asks about one. -/
def Site.scope? : Site → Option Scope
  | .filter operation relations =>
    some ⟨operation, .filter, Outer.joinedList relations, Rewrite.countTables relations⟩
  | .join operation visible wrapped preceding kind r =>
    Outline.joinScope operation visible kind (Outer.soFar wrapped preceding) (Outer.relation wrapped r)

/-! ## Additions -/

/-- What may become of the sites of a statement. -/
structure Additions where
  /-- The condition of a site before and after. -/
  condition : Site → Option Expr → Option Expr → Prop
  /-- A table that may be wrapped, before and after. -/
  table : Operation → Relation → Relation → Prop
  /-- What wrapping a table may fail with. -/
  failure : Error → Prop

namespace Adds

mutual

/-- The expressions that an expression becomes. -/
def expr (A : Additions) : Expr → Expr → Prop
  | .name parts => (· = .name parts)
  | .literal value => (· = .literal value)
  | .typed before value after => (· = .typed before value after)
  | .wildcard qualifier => (· = .wildcard qualifier)
  | .unary op operand => fun e' => ∃ operand', expr A operand operand' ∧ e' = .unary op operand'
  | .binary op left right => fun e' =>
    ∃ left', expr A left left' ∧ ∃ right', expr A right right' ∧ e' = .binary op left' right'
  | .quantified op quantifier left right => fun e' =>
    ∃ left', expr A left left' ∧ ∃ right', expr A right right' ∧ e' = .quantified op quantifier left' right'
  | .distinctness negated left right => fun e' =>
    ∃ left', expr A left left' ∧ ∃ right', expr A right right' ∧ e' = .distinctness negated left' right'
  | .atTimeZone operand zone => fun e' =>
    ∃ operand', expr A operand operand' ∧ ∃ zone', expr A zone zone' ∧ e' = .atTimeZone operand' zone'
  | .matching how operand pattern => fun e' =>
    ∃ operand', expr A operand operand' ∧ ∃ pattern', expr A pattern pattern' ∧
      e' = .matching how operand' pattern'
  | .test negated property operand => fun e' =>
    ∃ operand', expr A operand operand' ∧ e' = .test negated property operand'
  | .nested inner => fun e' => ∃ inner', expr A inner inner' ∧ e' = .nested inner'
  | .cast form operand type => fun e' => ∃ operand', expr A operand operand' ∧ e' = .cast form operand' type
  | .collate operand collation => fun e' => ∃ operand', expr A operand operand' ∧ e' = .collate operand' collation
  | .extract field comma operand => fun e' =>
    ∃ operand', expr A operand operand' ∧ e' = .extract field comma operand'
  | .inList negated operand members => fun e' =>
    ∃ operand', expr A operand operand' ∧ ∃ members', exprs A members members' ∧
      e' = .inList negated operand' members'
  | .inQuery negated operand q => fun e' =>
    ∃ operand', expr A operand operand' ∧ ∃ q', query A q q' ∧ e' = .inQuery negated operand' q'
  | .between negated operand low high => fun e' =>
    ∃ operand', expr A operand operand' ∧ ∃ low', expr A low low' ∧ ∃ high', expr A high high' ∧
      e' = .between negated operand' low' high'
  | .case operand conditions otherwise => fun e' =>
    ∃ operand', expr? A operand operand' ∧ ∃ otherwise', expr? A otherwise otherwise' ∧
      ∃ conditions', branches A conditions conditions' ∧ e' = .case operand' conditions' otherwise'
  | .tuple members => fun e' => ∃ members', exprs A members members' ∧ e' = .tuple members'
  | .call function parameters args grouping filter window => fun e' =>
    ∃ args', arguments A args args' ∧ ∃ filter', expr? A filter filter' ∧
      e' = .call function parameters args' grouping filter' window
  | .exists negated q => fun e' => ∃ q', query A q q' ∧ e' = .exists negated q'
  | .subquery q => fun e' => ∃ q', query A q q' ∧ e' = .subquery q'
  | .access root steps => (· = .access root steps)
  | .special pieces => (· = .special pieces)

/-- What an expression becomes that may be absent. -/
def expr? (A : Additions) : Option Expr → Option Expr → Prop
  | none => (· = none)
  | some e => fun e' => ∃ x, expr A e x ∧ e' = some x

/-- What expressions become. -/
def exprs (A : Additions) : List Expr → List Expr → Prop
  | [] => (· = [])
  | e :: es => fun es' => ∃ x, expr A e x ∧ ∃ xs, exprs A es xs ∧ es' = x :: xs

/-- What the branches of a `CASE` become. -/
def branches (A : Additions) : List Branch → List Branch → Prop
  | [] => (· = [])
  | .mk condition result :: rest => fun bs' =>
    ∃ condition', expr A condition condition' ∧ ∃ result', expr A result result' ∧
      ∃ rest', branches A rest rest' ∧ bs' = .mk condition' result' :: rest'

/-- What the arguments of a call become. -/
def arguments (A : Additions) : Arguments → Arguments → Prop
  | .none => (· = .none)
  | .query q => fun args' => ∃ q', query A q q' ∧ args' = .query q'
  | .list distinct list clauses => fun args' =>
    ∃ list', argumentList A list list' ∧ args' = .list distinct list' clauses

/-- What arguments become. -/
def argumentList (A : Additions) : List Argument → List Argument → Prop
  | [] => (· = [])
  | .mk label value :: rest => fun args' =>
    ∃ value', expr A value value' ∧ ∃ rest', argumentList A rest rest' ∧ args' = .mk label value' :: rest'

/-- What columns, or expressions to order by, become. -/
def items (A : Additions) : List Item → List Item → Prop
  | [] => (· = [])
  | .mk e aliased options :: rest => fun is' =>
    ∃ x, expr A e x ∧ ∃ rest', items A rest rest' ∧ is' = .mk x aliased options :: rest'

/-- What named queries become. -/
def ctes (A : Additions) : List Cte → List Cte → Prop
  | [] => (· = [])
  | .mk name columns materialized q origin :: rest => fun cs' =>
    ∃ q', query A q q' ∧ ∃ rest', ctes A rest rest' ∧ cs' = .mk name columns materialized q' origin :: rest'

/-- What a query becomes. -/
def query (A : Additions) : Query → Query → Prop
  | .mk recursive named b order tail => fun q' =>
    ∃ named', ctes A named named' ∧ ∃ b', body A b b' ∧ ∃ order', items A order order' ∧
      q' = .mk recursive named' b' order' tail

/-- What the body of a query becomes. -/
def body (A : Additions) : Body → Body → Prop
  | .select s => fun b' => ∃ s', select A s s' ∧ b' = .select s'
  | .query q => fun b' => ∃ q', query A q q' ∧ b' = .query q'
  | .combined op quantifier left right => fun b' =>
    ∃ left', body A left left' ∧ ∃ right', body A right right' ∧ b' = .combined op quantifier left' right'
  | .values keyword rowWord rows => fun b' => ∃ rows', exprs A rows rows' ∧ b' = .values keyword rowWord rows'
  | .statement s => fun b' =>
    match s with
    | .update u => ∃ u', update A u u' ∧ b' = .statement (.update u')
    | .delete r => ∃ r', delete A r r' ∧ b' = .statement (.delete r')
    | .insert table pieces => b' = .statement (.insert table pieces)
    | .query q => b' = .statement (.query q)
    | .other kind pieces => b' = .statement (.other kind pieces)
  | .table name => (· = .table name)

/-- What a `SELECT` becomes. -/
def select (A : Additions) : Select → Select → Prop
  | ⟨form, distinct, projection, into, relations, views, prewhere, selection, groupBy, groupOptions,
      clustering, having, windows, windowsFirst, qualify, hierarchy⟩ => fun s' =>
    ∃ projection', items A projection projection' ∧ ∃ prewhere', expr? A prewhere prewhere' ∧
      ∃ having', expr? A having having' ∧ ∃ qualify', expr? A qualify qualify' ∧
      ∃ groupBy', exprs A groupBy groupBy' ∧ ∃ walked, expr? A selection walked ∧
      ∃ relations', joinedList A .select (Rewrite.countTables relations) relations relations' ∧
      ∃ selection', A.condition (.filter .select relations) walked selection' ∧
        s' = ⟨form, distinct, projection', into, relations', views, prewhere', selection', groupBy',
          groupOptions, clustering, having', windows, windowsFirst, qualify', hierarchy⟩

/-- What an `UPDATE` becomes. -/
def update (A : Additions) : Update → Update → Prop
  | ⟨conflict, target, assigned, relationsFirst, relations, selection, tail⟩ => fun u' =>
    let visible := Rewrite.countTables (target :: relations)
    ∃ assigned', assignments A assigned assigned' ∧ ∃ walked, expr? A selection walked ∧
      ∃ target', joined A .update visible false target target' ∧
      ∃ relations', joinedList A .update visible relations relations' ∧
      ∃ selection', A.condition (.filter .update (target :: relations)) walked selection' ∧
        u' = ⟨conflict, target', assigned', relationsFirst, relations', selection', tail⟩

/-- What a `DELETE` becomes. -/
def delete (A : Additions) : Delete → Delete → Prop
  | ⟨named, fromWord, relations, others, selection, tail⟩ => fun r' =>
    let visible := Rewrite.countTables (relations ++ others)
    ∃ walked, expr? A selection walked ∧ ∃ relations', joinedList A .delete visible relations relations' ∧
      ∃ others', joinedList A .delete visible others others' ∧
      ∃ selection', A.condition (.filter .delete (relations ++ others)) walked selection' ∧
        r' = ⟨named, fromWord, relations', others', selection', tail⟩

/-- What the assignments of an `UPDATE` become. -/
def assignments (A : Additions) : List Assignment → List Assignment → Prop
  | [] => (· = [])
  | .mk target value :: rest => fun list' =>
    ∃ value', expr A value value' ∧ ∃ rest', assignments A rest rest' ∧ list' = .mk target value' :: rest'

/-- What the relations of a list become. -/
def joinedList (A : Additions) (operation : Operation) (visible : Nat) : List Joined → List Joined → Prop
  | [] => (· = [])
  | j :: js => fun js' =>
    ∃ j', joined A operation visible false j j' ∧ ∃ rest', joinedList A operation visible js rest' ∧
      js' = j' :: rest'

/-- What a relation with its joins becomes. -/
def joined (A : Additions) (operation : Operation) (visible : Nat) (wrapped : Bool) : Joined → Joined → Prop
  | .mk r js => fun j' =>
    let wrapped := wrapped || js.any Rewrite.Join.needsWrapping
    ∃ r', relation A operation visible wrapped r r' ∧
      ∃ js', joins A operation visible wrapped (.mk r []) js js' ∧ j' = .mk r' js'

/-- What joins become after the relations that precede them. -/
def joins (A : Additions) (operation : Operation) (visible : Nat) (wrapped : Bool) (preceding : Joined) :
    List Join → List Join → Prop
  | [] => (· = [])
  | .mk global kind r matchCondition constraint :: rest => fun js' =>
    ∃ r', relation A operation visible wrapped r r' ∧
      ∃ constraint', joinConstraint A (.join operation visible wrapped preceding kind r) constraint constraint' ∧
      ∃ rest', joins A operation visible wrapped
          (preceding.add (.mk global kind r matchCondition constraint)) rest rest' ∧
        js' = .mk global kind r' matchCondition constraint' :: rest'

/-- What the constraint of a join becomes. -/
def joinConstraint (A : Additions) (site : Site) : JoinConstraint → JoinConstraint → Prop
  | .on e => fun c' => ∃ walked, expr A e walked ∧ ∃ e', A.condition site (some walked) (some e') ∧ c' = .on e'
  | .columns names => (· = .columns names)
  | .natural => (· = .natural)
  | .none => (· = .none)

/-- What a relation becomes. -/
def relation (A : Additions) (operation : Operation) (visible : Nat) (wrapped : Bool) :
    Relation → Relation → Prop
  | .table name partitions args ordinality aliased after =>
    let whole := Relation.table name partitions args ordinality aliased after
    if wrapped then A.table operation whole else (· = whole)
  | .derived lateral q aliased => fun r' => ∃ q', query A q q' ∧ r' = .derived lateral q' aliased
  | .nested j aliased => fun r' => ∃ j', joined A operation visible wrapped j j' ∧ r' = .nested j' aliased
  | .reshaped r clause aliased => fun r' =>
    ∃ inner, relation A operation visible true r inner ∧ r' = .reshaped inner clause aliased
  | .function call aliased => fun r' => ∃ call', expr A call call' ∧ r' = .function call' aliased
  | .special pieces aliased after => (· = .special pieces aliased after)

end

/-- What a statement becomes. -/
def statement (A : Additions) : Statement → Statement → Prop
  | .query q => fun s' => ∃ q', query A q q' ∧ s' = .query q'
  | .update u => fun s' => ∃ u', update A u u' ∧ s' = .update u'
  | .delete r => fun s' => ∃ r', delete A r r' ∧ s' = .delete r'
  | other => (· = other)

/-- What statements become, one after the other. -/
def statements (A : Additions) : List Statement → List Statement → Prop := List.Forall₂ (statement A)

end Adds

end RowAccess
