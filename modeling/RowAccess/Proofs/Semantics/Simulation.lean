import RowAccess.Proofs.Semantics.Placement
/-!
# Rewritten queries keep their meaning

What rewriting makes of a query means in one world what the query means in the world of the rows that are
kept. The induction is over the parts of the query; the relations of a `FROM` list keep their meaning up
to the tables that are left to be filtered, which the `WHERE` does at last.
-/

namespace RowAccess.Semantics.Enforcement.Sound

open Sql Rewrite

/-- An expression that is not looked into stays as it is. -/
theorem answers_refuseHidden {σ : Type} {e e' : Expr}
    (h : Answers (Rewrite.refuseHidden (σ := σ) e) e') : e' = e := by
  rw [Rewrite.refuseHidden] at h
  split at h
  · exact absurd h answers_fail
  · exact answers_pure h

variable {V σ : Type} [DecidableEq V] {E : Enforcement V σ} {A B : World V}

omit [DecidableEq V] in
/-- The condition of a query, as it is rewritten, has no term that is written like a predicate without
being it. -/
theorem genuine_of_fragment {condition condition' : Option Expr}
    (genuine : ∀ e ∈ condition, E.fragment.condition e)
    (h : Answers (Rewrite.expr? E.codec E.source condition) condition') :
    ∀ e ∈ condition', ∀ r, E.ref r → ∀ p ∈ E.predicates r.table, Genuine e p := by
  cases condition with
  | none =>
    obtain rfl := answers_pure h
    exact nofun
  | some e =>
    obtain ⟨e', answered, h⟩ := answers_bind h
    obtain rfl := answers_pure h
    rintro _ ⟨⟩
    exact genuine e rfl e' answered

/-- A table is left to be filtered. -/
theorem table_leaves (S : E.Sound A B) {r : Ref} (known : E.ref r) :
    E.Leaves false [r.table] (E.interpretation.table A r) (E.interpretation.table B r) := by
  refine ⟨[r], rfl, fun x mem => ?_, nofun, fun env => ?_⟩
  · rwa [List.mem_singleton.mp mem]
  · rw [Interpretation.table, Interpretation.table, S.worlds r known]
    exact Filtered.named E.filters r _

mutual

theorem expr_same (S : E.Sound A B) : ∀ (e : Expr), E.fragment.expr e → ∀ {e' : Expr},
    Answers (Rewrite.expr E.codec E.source e) e' →
    Semantics.expr E.interpretation A e' = Semantics.expr E.interpretation B e
  | .name _, _, _, h => by
    obtain rfl := answers_pure h
    rfl
  | .literal _, _, _, h => by
    obtain rfl := answers_pure h
    rfl
  | .typed .., _, _, h => by
    obtain rfl := answers_pure h
    rfl
  | .wildcard _, _, _, h => by
    obtain rfl := answers_pure h
    rfl
  | .unary op operand, supported, _, h => by
    obtain ⟨operand', ho, h⟩ := answers_bind h
    obtain rfl := answers_pure h
    exact congrArg (Valuation.lift _) (S.expr_same operand supported ho)
  | .binary op left right, supported, _, h => by
    obtain ⟨left', hl, h⟩ := answers_bind h
    obtain ⟨right', hr, h⟩ := answers_bind h
    obtain rfl := answers_pure h
    exact congrArg₂ (Valuation.lift₂ _) (S.expr_same left supported.1 hl)
      (S.expr_same right supported.2 hr)
  | .quantified op quantifier left right, supported, _, h => by
    obtain ⟨left', hl, h⟩ := answers_bind h
    obtain ⟨right', hr, h⟩ := answers_bind h
    obtain rfl := answers_pure h
    exact congrArg₂ (E.interpretation.quantified op quantifier) (S.expr_same left supported.1 hl)
      (S.expr_same right supported.2 hr)
  | .distinctness negated left right, supported, _, h => by
    obtain ⟨left', hl, h⟩ := answers_bind h
    obtain ⟨right', hr, h⟩ := answers_bind h
    obtain rfl := answers_pure h
    exact congrArg₂ (Valuation.lift₂ _) (S.expr_same left supported.1 hl)
      (S.expr_same right supported.2 hr)
  | .atTimeZone operand zone, supported, _, h => by
    obtain ⟨operand', ho, h⟩ := answers_bind h
    obtain ⟨zone', hz, h⟩ := answers_bind h
    obtain rfl := answers_pure h
    exact congrArg₂ (Valuation.lift₂ _) (S.expr_same operand supported.1 ho)
      (S.expr_same zone supported.2 hz)
  | .matching how operand pattern, supported, _, h => by
    obtain ⟨operand', ho, h⟩ := answers_bind h
    obtain ⟨pattern', hp, h⟩ := answers_bind h
    obtain rfl := answers_pure h
    exact congrArg₂ (Valuation.lift₂ _) (S.expr_same operand supported.1 ho)
      (S.expr_same pattern supported.2 hp)
  | .test negated property operand, supported, _, h => by
    obtain ⟨operand', ho, h⟩ := answers_bind h
    obtain rfl := answers_pure h
    exact congrArg (Valuation.lift _) (S.expr_same operand supported ho)
  | .nested inner, supported, _, h => by
    obtain ⟨inner', hi, h⟩ := answers_bind h
    obtain rfl := answers_pure h
    exact congrArg (Valuation.lift _) (S.expr_same inner supported hi)
  | .cast form operand type, supported, _, h => by
    obtain ⟨operand', ho, h⟩ := answers_bind h
    obtain rfl := answers_pure h
    exact congrArg (Valuation.lift _) (S.expr_same operand supported ho)
  | .collate operand collation, supported, _, h => by
    obtain ⟨operand', ho, h⟩ := answers_bind h
    obtain rfl := answers_pure h
    exact congrArg (Valuation.lift _) (S.expr_same operand supported ho)
  | .extract field comma operand, supported, _, h => by
    obtain ⟨operand', ho, h⟩ := answers_bind h
    obtain rfl := answers_pure h
    exact congrArg (Valuation.lift _) (S.expr_same operand supported ho)
  | .inList negated operand members, supported, _, h => by
    obtain ⟨operand', ho, h⟩ := answers_bind h
    obtain ⟨members', hm, h⟩ := answers_bind h
    obtain rfl := answers_pure h
    exact congrArg₂ (E.interpretation.inList negated) (S.expr_same operand supported.1 ho)
      (S.exprs_same members supported.2 hm)
  | .inQuery negated operand q, supported, _, h => by
    obtain ⟨operand', ho, h⟩ := answers_bind h
    obtain ⟨q', hq, h⟩ := answers_bind h
    obtain rfl := answers_pure h
    exact congrArg₂ (E.interpretation.inQuery negated) (S.expr_same operand supported.1 ho)
      (S.query_same q supported.2 hq)
  | .between negated operand low high, supported, _, h => by
    obtain ⟨operand', ho, h⟩ := answers_bind h
    obtain ⟨low', hl, h⟩ := answers_bind h
    obtain ⟨high', hh, h⟩ := answers_bind h
    obtain rfl := answers_pure h
    have lower := congrArg₂ (Valuation.lift₃ fun v w x => E.interpretation.test negated
      (E.interpretation.between v w x)) (S.expr_same operand supported.1 ho)
      (S.expr_same low supported.2.1 hl)
    have both := congr lower (S.expr_same high supported.2.2 hh)
    exact both
  | .case operand conditions otherwise, supported, _, h => by
    obtain ⟨operand', ho, h⟩ := answers_bind h
    obtain ⟨otherwise', hw, h⟩ := answers_bind h
    obtain ⟨conditions', hc, h⟩ := answers_bind h
    obtain rfl := answers_pure h
    have taken := congrArg₂ E.interpretation.case (S.expr?_same operand supported.1 ho)
      (S.branches_same conditions supported.2.1 hc)
    have whole := congr taken (S.expr?_same otherwise supported.2.2 hw)
    exact whole
  | .tuple members, supported, _, h => by
    obtain ⟨members', hm, h⟩ := answers_bind h
    obtain rfl := answers_pure h
    exact congrArg (Valuation.lifts _) (S.exprs_same members supported hm)
  | .call function parameters args grouping filter window, supported, _, h => by
    obtain ⟨args', ha, h⟩ := answers_bind h
    obtain ⟨filter', hf, h⟩ := answers_bind h
    obtain rfl := answers_pure h
    exact congrArg₂ (E.interpretation.called function) (S.arguments_same args supported.2.1 ha)
      (S.expr?_same filter supported.2.2.2.1 hf)
  | .exists negated q, supported, _, h => by
    obtain ⟨q', hq, h⟩ := answers_bind h
    obtain rfl := answers_pure h
    exact congrArg (E.interpretation.anyRow negated) (S.query_same q supported hq)
  | .subquery q, supported, _, h => by
    obtain ⟨q', hq, h⟩ := answers_bind h
    obtain rfl := answers_pure h
    exact congrArg E.interpretation.subquery (S.query_same q supported hq)
  | .access root steps, _, _, h => by
    obtain rfl := answers_refuseHidden h
    rfl
  | .special pieces, _, _, h => by
    obtain rfl := answers_refuseHidden h
    rfl
termination_by structural e => e

theorem expr?_same (S : E.Sound A B) : ∀ (e : Option Expr), E.fragment.expr? e → ∀ {e' : Option Expr},
    Answers (Rewrite.expr? E.codec E.source e) e' →
    Semantics.expr? E.interpretation A e' = Semantics.expr? E.interpretation B e
  | none, _, _, h => by
    obtain rfl := answers_pure h
    rfl
  | some e, supported, _, h => by
    obtain ⟨e', he, h⟩ := answers_bind h
    obtain rfl := answers_pure h
    exact congrArg some (S.expr_same e supported he)
termination_by structural e => e

theorem exprs_same (S : E.Sound A B) : ∀ (es : List Expr), E.fragment.exprs es → ∀ {es' : List Expr},
    Answers (Rewrite.exprs E.codec E.source es) es' →
    Semantics.exprs E.interpretation A es' = Semantics.exprs E.interpretation B es
  | [], _, _, h => by
    obtain rfl := answers_pure h
    rfl
  | e :: es, supported, _, h => by
    obtain ⟨e', he, h⟩ := answers_bind h
    obtain ⟨es', hes, h⟩ := answers_bind h
    obtain rfl := answers_pure h
    exact congrArg₂ List.cons (S.expr_same e supported.1 he) (S.exprs_same es supported.2 hes)
termination_by structural es => es

theorem branches_same (S : E.Sound A B) : ∀ (bs : List Branch), E.fragment.branches bs →
    ∀ {bs' : List Branch}, Answers (Rewrite.branches E.codec E.source bs) bs' →
    Semantics.branches E.interpretation A bs' = Semantics.branches E.interpretation B bs
  | [], _, _, h => by
    obtain rfl := answers_pure h
    rfl
  | .mk condition result :: rest, supported, _, h => by
    obtain ⟨condition', hc, h⟩ := answers_bind h
    obtain ⟨result', hr, h⟩ := answers_bind h
    obtain ⟨rest', hs, h⟩ := answers_bind h
    obtain rfl := answers_pure h
    exact congrArg₂ List.cons (congrArg₂ Prod.mk (S.expr_same condition supported.1 hc)
      (S.expr_same result supported.2.1 hr)) (S.branches_same rest supported.2.2 hs)
termination_by structural bs => bs

theorem arguments_same (S : E.Sound A B) : ∀ (args : Arguments), E.fragment.arguments args →
    ∀ {args' : Arguments}, Answers (Rewrite.arguments E.codec E.source args) args' →
    Semantics.arguments E.interpretation A args' = Semantics.arguments E.interpretation B args
  | .none, _, _, h => by
    obtain rfl := answers_pure h
    rfl
  | .query q, supported, _, h => by
    obtain ⟨q', hq, h⟩ := answers_bind h
    obtain rfl := answers_pure h
    exact congrArg (fun rows => Given.query (E.interpretation.subquery rows))
      (S.query_same q supported hq)
  | .list distinct list clauses, supported, _, h => by
    obtain ⟨list', hl, h⟩ := answers_bind h
    obtain rfl := answers_pure h
    exact congrArg (Given.list distinct) (S.argumentList_same list supported.1 hl)
termination_by structural args => args

theorem argumentList_same (S : E.Sound A B) : ∀ (args : List Argument), E.fragment.argumentList args →
    ∀ {args' : List Argument}, Answers (Rewrite.argumentList E.codec E.source args) args' →
    Semantics.argumentList E.interpretation A args' = Semantics.argumentList E.interpretation B args
  | [], _, _, h => by
    obtain rfl := answers_pure h
    rfl
  | .mk label value :: rest, supported, _, h => by
    obtain ⟨value', hv, h⟩ := answers_bind h
    obtain ⟨rest', hs, h⟩ := answers_bind h
    obtain rfl := answers_pure h
    exact congrArg₂ List.cons (S.expr_same value supported.1 hv)
      (S.argumentList_same rest supported.2 hs)
termination_by structural args => args

theorem items_same (S : E.Sound A B) : ∀ (is : List Item), E.fragment.items is → ∀ {is' : List Item},
    Answers (Rewrite.items E.codec E.source is) is' →
    Semantics.items E.interpretation A is' = Semantics.items E.interpretation B is
  | [], _, _, h => by
    obtain rfl := answers_pure h
    rfl
  | .mk e aliased options :: rest, supported, _, h => by
    obtain ⟨e', he, h⟩ := answers_bind h
    obtain ⟨rest', hs, h⟩ := answers_bind h
    obtain rfl := answers_pure h
    exact congrArg₂ List.cons (congrArg (Column.mk · _) (S.expr_same e supported.1 he))
      (S.items_same rest supported.2.2 hs)
termination_by structural is => is

theorem ctes_same (S : E.Sound A B) : ∀ (cs : List Cte), E.fragment.ctes cs → ∀ {cs' : List Cte},
    Answers (Rewrite.ctes E.codec E.source cs) cs' →
    Semantics.ctes E.interpretation A cs' = Semantics.ctes E.interpretation B cs
  | [], _, _, h => by
    obtain rfl := answers_pure h
    rfl
  | .mk name columns materialized q origin :: rest, supported, _, h => by
    obtain ⟨q', hq, h⟩ := answers_bind h
    obtain ⟨rest', hs, h⟩ := answers_bind h
    obtain rfl := answers_pure h
    exact congrArg₂ (E.interpretation.withNamed name columns) (S.query_same q supported.1 hq)
      (S.ctes_same rest supported.2.2 hs)
termination_by structural cs => cs

theorem query_same (S : E.Sound A B) : ∀ (q : Query), E.fragment.query q → ∀ {q' : Query},
    Answers (Rewrite.query E.codec E.source q) q' →
    Semantics.query E.interpretation A q' = Semantics.query E.interpretation B q
  | .mk recursive named b order tail, supported, _, h => by
    obtain ⟨named', hn, h⟩ := answers_bind h
    obtain ⟨b', hb, h⟩ := answers_bind h
    obtain ⟨order', ho, h⟩ := answers_bind h
    obtain rfl := answers_pure h
    have unordered := congrArg₂ (E.interpretation.queried tail) (S.ctes_same named supported.2.1 hn)
      (S.body_same b supported.2.2.1 hb)
    have whole := congr unordered (S.items_same order supported.2.2.2.1 ho)
    exact whole
termination_by structural q => q

theorem body_same (S : E.Sound A B) : ∀ (b : Body), E.fragment.body b → ∀ {b' : Body},
    Answers (Rewrite.body E.codec E.source b) b' →
    Semantics.body E.interpretation A b' = Semantics.body E.interpretation B b
  | .select s, supported, _, h => by
    obtain ⟨s', hs, h⟩ := answers_bind h
    obtain rfl := answers_pure h
    exact S.select_same s supported hs
  | .query q, supported, _, h => by
    obtain ⟨q', hq, h⟩ := answers_bind h
    obtain rfl := answers_pure h
    exact congrArg Answer.inParens (S.query_same q supported hq)
  | .combined op quantifier left right, supported, _, h => by
    obtain ⟨left', hl, h⟩ := answers_bind h
    obtain ⟨right', hr, h⟩ := answers_bind h
    obtain rfl := answers_pure h
    exact congrArg₂ (Answer.combined op quantifier) (S.body_same left supported.1 hl)
      (S.body_same right supported.2 hr)
termination_by structural b => b

theorem select_same (S : E.Sound A B) : ∀ (s : Select), E.fragment.select s → ∀ {s' : Select},
    Answers (Rewrite.select E.codec E.source s) s' →
    Semantics.select E.interpretation A s' = Semantics.select E.interpretation B s
  | ⟨_, distinct, projection, _, relations, _, prewhere, selection, groupBy, _, _, having, _, _, qualify,
      _⟩, supported, _, h => by
    obtain ⟨-, inProjection, -, -, inRelations, apart, -, rfl, inSelection, genuine, inGroups, -, -,
      inHaving, -, rfl, -⟩ := supported
    obtain ⟨projection', hp, h⟩ := answers_bind h
    obtain ⟨_, -, h⟩ := answers_bind h
    obtain ⟨having', hh, h⟩ := answers_bind h
    obtain ⟨_, -, h⟩ := answers_bind h
    obtain ⟨groupBy', hg, h⟩ := answers_bind h
    obtain ⟨condition, hc, h⟩ := answers_bind h
    obtain ⟨⟨relations', tables⟩, hr, h⟩ := answers_bind h
    obtain ⟨selection', hs, h⟩ := answers_bind h
    obtain rfl := answers_pure h
    have left := S.joinedList_leaves relations inRelations apart S.select hr
    funext env order
    have rows := left.selected S ⟨.select, .filter, tables, _⟩ S.select
      (genuine_of_fragment genuine hc) hs env
    rw [S.expr?_same selection inSelection hc] at rows
    change E.interpretation.selection (items E.interpretation A projection') distinct
      (joinedList E.interpretation A relations') (expr? E.interpretation A selection')
      (exprs E.interpretation A groupBy') (expr? E.interpretation A having') env order =
      E.interpretation.selection (items E.interpretation B projection) distinct
      (joinedList E.interpretation B relations) (expr? E.interpretation B selection)
      (exprs E.interpretation B groupBy) (expr? E.interpretation B having) env order
    rw [Interpretation.selection, Interpretation.selection, rows, left.frame env,
      S.items_same projection inProjection hp, S.exprs_same groupBy inGroups hg,
      S.expr?_same having inHaving hh]
termination_by structural s => s

theorem joinedList_leaves (S : E.Sound A B) : ∀ (js : List Joined), E.fragment.joinedList js →
    (namesOfList E.interpretation js).Nodup → ∀ {operation : Operation}, E.operation operation →
    ∀ {visible : Nat} {js' : List Joined} {outer : List Table},
    Answers (Rewrite.joinedList E.codec E.source operation visible js) (js', outer) →
    E.Leaves false outer (Semantics.joinedList E.interpretation A js')
      (Semantics.joinedList E.interpretation B js)
  | [], _, _, _, _, _, _, _, h => by
    cases answers_pure h
    exact leaves_refl (fun _ => rfl) fun _ => ⟨[], Joint.hasNames_unit⟩
  | j :: js, supported, apart, _, op, _, _, _, h => by
    obtain ⟨⟨j', tables⟩, hj, h⟩ := answers_bind h
    obtain ⟨⟨js', more⟩, hs, h⟩ := answers_bind h
    cases answers_pure h
    obtain ⟨first, others, apart⟩ := List.nodup_append.mp apart
    have sides : E.Sides false tables more (Semantics.joined E.interpretation A j')
        (Semantics.joined E.interpretation B j) (Semantics.joinedList E.interpretation A js')
        (Semantics.joinedList E.interpretation B js) := {
      left := S.joined_leaves j supported.1 first op hj
      right := S.joinedList_leaves js supported.2 others op hs
      named := fun env => ⟨_, hasNames_joined _ B j env⟩
      named' := fun env => ⟨_, hasNames_joinedList _ B js env⟩
      apart := fun env q mem mem' => by
        rw [(hasNames_joined _ B j env).1] at mem
        rw [(hasNames_joinedList _ B js env).1] at mem'
        exact apart q mem q mem' rfl }
    exact sides.both (fun _ => rfl) rfl rfl
termination_by structural js => js

theorem joined_leaves (S : E.Sound A B) : ∀ (j : Joined), E.fragment.joined j →
    (namesOf E.interpretation j).Nodup → ∀ {operation : Operation}, E.operation operation →
    ∀ {visible : Nat} {wrapped : Bool} {j' : Joined} {outer : List Table},
    Answers (Rewrite.joined E.codec E.source operation visible wrapped j) (j', outer) →
    E.Leaves wrapped outer (Semantics.joined E.interpretation A j')
      (Semantics.joined E.interpretation B j)
  | .mk r js, supported, apart, _, op, _, wrapped, _, _, h => by
    obtain ⟨⟨r', tables⟩, hr, h⟩ := answers_bind h
    obtain ⟨⟨js', outer⟩, hs, h⟩ := answers_bind h
    cases answers_pure h
    have first := S.relation_leaves r supported.1 (List.nodup_append.mp apart).1 op hr
    have whole := S.joins_leaves js supported.2 apart op (fun needs => by rw [needs, Bool.or_true])
      first (hasNames_relation _ _ r) hs
    exact whole.weaken fun wraps => by rw [wraps, Bool.true_or]
termination_by structural j => j

theorem joins_leaves (S : E.Sound A B) : ∀ (js : List Join), E.fragment.joins js →
    ∀ {names : List String}, (names ++ namesOfJoins E.interpretation js).Nodup →
    ∀ {operation : Operation}, E.operation operation → ∀ {wrapped : Bool},
    (js.any Join.needsWrapping = true → wrapped = true) →
    ∀ {outer : List Table} {before' before : Env V → Joint V},
    E.Leaves wrapped outer before' before → (∀ env, (before env).HasNames names) →
    ∀ {visible : Nat} {js' : List Join} {outer' : List Table},
    Answers (Rewrite.joins E.codec E.source operation visible wrapped outer js) (js', outer') →
    E.Leaves wrapped outer' (fun env => Semantics.joins E.interpretation A js' env (before' env))
      (fun env => Semantics.joins E.interpretation B js env (before env))
  | [], _, _, _, _, _, _, _, _, _, _, left, _, _, _, _, h => by
    cases answers_pure h
    exact left
  | .mk global kind r matchCondition constraint :: rest, supported, _, apart, _, op, wrapped, needs, _, _,
      _, left, names, _, _, _, h => by
    obtain ⟨-, inRelation, -, inConstraint, inRest⟩ := supported
    obtain ⟨⟨r', tables⟩, hr, h⟩ := answers_bind h
    obtain ⟨⟨constraint', outer⟩, hc, h⟩ := answers_bind h
    obtain ⟨⟨rest', outer'⟩, hs, h⟩ := answers_bind h
    cases answers_pure h
    rw [List.any_cons, Bool.or_eq_true] at needs
    rw [namesOfJoins, ← List.append_assoc] at apart
    obtain ⟨first, -, others⟩ := List.nodup_append.mp apart
    obtain ⟨-, single, apart'⟩ := List.nodup_append.mp first
    have right := S.relation_leaves r inRelation single op hr
    have sides : E.Sides wrapped _ tables _ _ _ _ := {
      left := left
      right := right
      named := fun env => ⟨_, names env⟩
      named' := fun env => ⟨_, hasNames_relation _ B r env⟩
      apart := fun env q mem mem' => by
        rw [(names env).1] at mem
        rw [(hasNames_relation _ B r env).1] at mem'
        exact apart' q mem q mem' rfl }
    have joined := S.joinConstraint_leaves constraint inConstraint op sides
      (fun noPlace keeps => needs (.inl (needsWrapping_of_keeps noPlace keeps))) hc
    exact S.joins_leaves rest inRest apart op (fun needed => needs (.inr needed)) joined
      (fun env => Joint.hasNames_join (names env) (hasNames_relation _ _ r env)) hs
termination_by structural js => js

theorem joinConstraint_leaves (S : E.Sound A B) : ∀ (c : JoinConstraint) {kind : JoinKind},
    E.fragment.joinConstraint kind c → ∀ {operation : Operation}, E.operation operation →
    ∀ {wrapped : Bool} {outer tables : List Table} {l' l r' r : Env V → Joint V},
    E.Sides wrapped outer tables l' l r' r →
    (nullableSide? kind = none ∨ condition? c = none → (keepsLeft kind || keepsRight kind) = true →
      wrapped = true) →
    ∀ {visible : Nat} {c' : JoinConstraint} {outer' : List Table},
    Answers (Rewrite.joinConstraint E.codec E.source operation visible kind outer tables c) (c', outer') →
    E.Leaves wrapped outer'
      (fun env => .join E.interpretation.toNulls kind
        (Semantics.joinConstraint E.interpretation A c' env) (l' env) (r' env))
      (fun env => .join E.interpretation.toNulls kind
        (Semantics.joinConstraint E.interpretation B c env) (l env) (r env))
  | .on condition, kind, supported, _, op, _, _, _, _, _, _, _, sides, needs, _, _, _, h => by
    obtain ⟨condition', hc, h⟩ := answers_bind h
    have same := S.expr_same condition supported.1 hc
    have genuine (nullable : (nullableSide? kind).isSome = true) := supported.2 nullable condition' hc
    change E.Leaves _ _ _ fun env => .join E.interpretation.toNulls kind
      (E.interpretation.pairingOn (Semantics.expr E.interpretation B condition) env) _ _
    rw [← same]
    split at h
    · next side =>
      obtain ⟨condition'', answered, h⟩ := answers_bind h
      cases answers_pure h
      exact sides.joined S op (genuine (by rw [side]; rfl)) (keepsRight_of_joined side) answered
    · next side =>
      obtain ⟨condition'', answered, h⟩ := answers_bind h
      cases answers_pure h
      exact sides.preceding S op (genuine (by rw [side]; rfl)) (keepsLeft_of_preceding side) answered
    · next side =>
      cases answers_pure h
      exact sides.unconditional (fun _ => rfl) (needs (.inl side))
  | .columns _, _, _, _, _, _, _, _, _, _, _, _, sides, needs, _, _, _, h => by
    cases answers_pure h
    exact sides.unconditional (fun _ => rfl) (needs (.inr rfl))
  | .natural, _, _, _, _, _, _, _, _, _, _, _, sides, needs, _, _, _, h => by
    cases answers_pure h
    exact sides.unconditional (fun _ => rfl) (needs (.inr rfl))
  | .none, _, _, _, _, _, _, _, _, _, _, _, sides, needs, _, _, _, h => by
    cases answers_pure h
    exact sides.unconditional (fun _ => rfl) (needs (.inr rfl))
termination_by structural c => c

theorem relation_leaves (S : E.Sound A B) : ∀ (r : Relation), E.fragment.relation r →
    (namesOfRelation E.interpretation r).Nodup → ∀ {operation : Operation}, E.operation operation →
    ∀ {visible : Nat} {wrapped : Bool} {r' : Relation} {outer : List Table},
    Answers (Rewrite.relation E.codec E.source operation visible wrapped r) (r', outer) →
    E.Leaves wrapped outer (Semantics.relation E.interpretation A r')
      (Semantics.relation E.interpretation B r)
  | .table name partitions args ordinality aliased after, supported, _, _, op, _, wrapped, _, _, h => by
    have table : (⟨Name.render name, aliased.map (·.name.render)⟩ : Table) =
        Ref.table ⟨name, aliased.map (·.name)⟩ := by
      cases aliased <;> rfl
    cases wrapped with
    | true =>
      obtain ⟨r', wrap, h⟩ := answers_bind h
      cases answers_pure h
      rw [table] at wrap
      exact leaves_refl (S.wrap supported.1 op wrap fun _ => rfl) fun env => ⟨_, Joint.hasNames_named _ _⟩
    | false =>
      cases answers_pure h
      rw [table]
      exact S.table_leaves supported.1
  | .derived lateral q aliased, supported, _, _, _, _, _, _, _, h => by
    obtain ⟨q', hq, h⟩ := answers_bind h
    cases answers_pure h
    refine leaves_refl (fun env => ?_) fun env => ⟨_, Joint.hasNames_named _ _⟩
    exact congrArg (fun rows => Joint.derived _ rows env) (S.query_same q supported.2.1 hq)
  | .nested j aliased, supported, apart, _, op, _, _, _, _, h => by
    obtain ⟨⟨j', tables⟩, hj, h⟩ := answers_bind h
    cases answers_pure h
    exact S.joined_leaves j supported.1 apart op hj
termination_by structural r => r

end

end RowAccess.Semantics.Enforcement.Sound
