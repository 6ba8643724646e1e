import RowAccess.Proofs.Marks
import RowAccess.Proofs.OuterJoins
import RowAccess.Proofs.Sites
/-!
# Runs that change nothing but sites

What the source answers in a run decides what happens at the sites of the statement. So additions that agree
with all that was answered (`Additions.Agrees`) are what a rewritten statement has (`rewriteWith_sites`), and a
run fails only with an error of the source, a refusal, or a failure that the additions know of wrapping.
-/

namespace RowAccess

open Sql Semantics

variable {σ α β : Type}

/-- What is put in the place of a table to filter it; the table itself if there is nothing to filter by. -/
def Rewrite.wrapped (codec : Codec) (r : Relation) (t : Table) : Option Expr → Except Error Relation
  | none => .ok r
  | some filter =>
    match codec.parse (wrappedText t filter) with
    | none => .error .malformed
    | some list =>
      match list.getLast?.bind firstRelation? with
      | some wrapped => .ok wrapped
      | none => .error (.unscopable (.table t.name))

/-- The answers of a transcript that are no errors satisfy `heard`. -/
def Transcript.Satisfies (t : Transcript) (heard : Scope → List Predicate → Prop) : Prop :=
  ∀ scope ps, (scope, .ok ps) ∈ t → heard scope ps

/-- The additions allow what comes of answers that satisfy `heard`. -/
structure Additions.Agrees (A : Additions) (codec : Codec) (heard : Scope → List Predicate → Prop) : Prop where
  /-- A site that is not asked about stays as it is. -/
  unasked : ∀ site, site.scope? = none → ∀ condition, A.condition site condition condition
  asked : ∀ site scope, site.scope? = some scope → ∀ ps, heard scope ps → ∀ condition,
    A.condition site condition (withTerms condition (ps.map (·.condition)))
  table : ∀ operation r t, r.table? = some t → ∀ ps, heard ⟨operation, .join, [t], 1⟩ ps →
    match Rewrite.wrapped codec r t (withTerms none (ps.map (·.condition))) with
    | .ok r' => A.table operation r r'
    | .error e => A.failure e

/-- The statement has no place for predicates, though each of its tables does. -/
def Error.IsRefusal (e : Error) : Prop := ∃ reason, e = .unscopable reason ∧ ∀ name, reason ≠ .table name

namespace Rewrite

/-! ## Steps -/

/-- If what the source has answered by the end satisfies `heard`, then so does what it had answered before, and
the answer of the step satisfies `good`; a failure is then an answer of the source, a refusal, or one that the
additions know of. -/
def Ensures (A : Additions) (heard : Scope → List Predicate → Prop) (m : Rewriting (σ × Transcript) α)
    (good : α → Prop) : Prop :=
  ∀ a s t answer s' t', outcome m a (s, t) = (answer, (s', t')) → t'.Satisfies heard →
    t.Satisfies heard ∧
      match answer with
      | .ok (x, _) => good x
      | .error e => (∃ scope, (scope, .error e) ∈ t') ∨ e.IsRefusal ∨ A.failure e

namespace Ensures

variable {A : Additions} {heard : Scope → List Predicate → Prop} {m : Rewriting (σ × Transcript) α}
  {f : α → Rewriting (σ × Transcript) β} {p : α → Prop} {q : β → Prop}

theorem pure {x : α} (h : p x) : Ensures (σ := σ) A heard (Pure.pure x) p := by
  intro a s t answer s' t' ran all
  rw [outcome_pure] at ran
  cases ran
  exact ⟨all, h⟩

theorem fail {e : Error} (known : e.IsRefusal ∨ A.failure e) :
    Ensures (σ := σ) A heard (Rewrite.fail e) p := by
  intro a s t answer s' t' ran all
  cases ran
  exact ⟨all, .inr known⟩

theorem refuse {reason : Unscopable} (other : ∀ name, reason ≠ .table name) :
    Ensures (σ := σ) A heard (Rewrite.fail (.unscopable reason)) p := fail (.inl ⟨reason, rfl, other⟩)

theorem bind (first : Ensures A heard m p) (next : ∀ x, Ensures A heard (f x) fun y => p x → q y) :
    Ensures A heard (m >>= f) q := by
  intro a s t answer s' t' ran all
  rw [outcome_bind] at ran
  rcases ran₁ : outcome m a (s, t) with ⟨e | ⟨x, a₁⟩, s₁, t₁⟩
  · rw [ran₁] at ran
    cases ran
    exact first a s t _ s' t' ran₁ all
  · rw [ran₁] at ran
    obtain ⟨all₁, known⟩ := next x a₁ s₁ t₁ answer s' t' ran all
    obtain ⟨all₀, px⟩ := first a s t _ s₁ t₁ ran₁ all₁
    refine ⟨all₀, ?_⟩
    rcases answer with e | ⟨y, a'⟩
    · exact known
    · exact known px

theorem map {g : α → β} (h : Ensures A heard m p) (le : ∀ x, p x → q (g x)) :
    Ensures A heard (m >>= fun x => Pure.pure (g x)) q := h.bind fun x => pure (le x)

theorem weaken {p' : α → Prop} (h : Ensures A heard m p) (le : ∀ x, p x → p' x) : Ensures A heard m p' := by
  intro a s t answer s' t' ran all
  obtain ⟨before, known⟩ := h a s t answer s' t' ran all
  rcases answer with e | ⟨x, a'⟩
  · exact ⟨before, known⟩
  · exact ⟨before, le x known⟩

/-- Where the rest asks for nothing, it may count on what was answered before. -/
theorem bind_silent (first : Ensures A heard m p) (next : ∀ x, p x → Ensures A heard (f x) q)
    (silent : ∀ x a s, (outcome (f x) a s).2 = s) : Ensures A heard (m >>= f) q := by
  intro a s t answer s' t' ran all
  rw [outcome_bind] at ran
  rcases ran₁ : outcome m a (s, t) with ⟨e | ⟨x, a₁⟩, s₁, t₁⟩
  · rw [ran₁] at ran
    cases ran
    exact first a s t _ s' t' ran₁ all
  · rw [ran₁] at ran
    obtain rfl : t₁ = t' := congrArg Prod.snd ((silent x a₁ (s₁, t₁)).symm.trans (congrArg Prod.snd ran))
    obtain ⟨all₀, px⟩ := first a s t _ s₁ t₁ ran₁ all
    exact ⟨all₀, (next x px a₁ s₁ t₁ answer s' t₁ ran all).2⟩

/-- Predicates are added as the source answers them. -/
theorem add (source : Source σ) (scope : Scope) (condition : Option Expr) :
    Ensures A heard (addPredicates (transcribing source) scope condition) fun condition' =>
      ∃ ps, heard scope ps ∧ condition' = withTerms condition (ps.map (·.condition)) := by
  intro a s t answer s' t' ran all
  have written : (transcribing source scope).run.run (s, t) =
      (((source scope).run.run s).1, (((source scope).run.run s).2,
        t ++ [(scope, ((source scope).run.run s).1)])) := rfl
  simp only [addPredicates, outcome_bind, outcome_ask, written] at ran
  rcases answered : ((source scope).run.run s).1 with e | ps
  · rw [answered] at ran
    cases ran
    exact ⟨fun scope ps mem => all scope ps (List.mem_append_left _ mem),
      .inl ⟨scope, List.mem_append_right _ (.head _)⟩⟩
  · rw [answered] at ran
    have made : .ok (restrict condition ps a) = answer := congrArg Prod.fst ran
    have grown : t ++ [(scope, .ok ps)] = t' := congrArg (·.2.2) ran
    subst made grown
    exact ⟨fun scope ps mem => all scope ps (List.mem_append_left _ mem),
      ps, all scope ps (List.mem_append_right _ (.head _)), restrict_fst condition ps a⟩

end Ensures

section

variable (A : Additions) (codec : Codec) (heard : Scope → List Predicate → Prop) (source : Source σ)
  (agrees : A.Agrees codec heard)

theorem refuseHidden_ensures (e : Expr) :
    Ensures (σ := σ) A heard (refuseHidden e) (· = e) := by
  rw [refuseHidden]
  split
  · exact .refuse fun _ => Unscopable.noConfusion
  · exact .pure rfl

-- Where only calls of the block itself use the hypothesis, it counts as unused.
set_option linter.unusedSectionVars false

include agrees

theorem wrap_ensures (operation : Operation) {r : Relation} {t : Table} (named : r.table? = some t) :
    Ensures A heard (wrap codec (transcribing source) operation r t) (A.table operation r) := by
  rw [wrap]
  refine (Ensures.add source _ none).bind_silent ?_ ?_
  · rintro condition ⟨ps, known, made⟩
    have allowed := agrees.table operation r t named ps known
    rw [← made] at allowed
    cases condition with
    | none => exact .pure allowed
    | some filter =>
      dsimp only
      simp only [wrapped] at allowed
      cases parsed : codec.parse (wrappedText t filter) with
      | none =>
        rw [parsed] at allowed
        exact .fail (.inr allowed)
      | some list =>
        rw [parsed] at allowed
        dsimp only at allowed ⊢
        cases found : list.getLast?.bind firstRelation? with
        | none =>
          rw [found] at allowed
          exact .fail (.inr allowed)
        | some r' =>
          rw [found] at allowed
          exact .pure allowed
  · intro condition a s
    cases condition with
    | none => rfl
    | some filter =>
      dsimp only
      split
      · rfl
      · split <;> rfl

/-- The condition of an outer join is restricted as its site says. -/
theorem restrictJoin_ensures (operation : Operation) (visible : Nat) (tables : List Table) (site : Site)
    (condition : Expr) :
    Ensures A heard (restrictJoin (transcribing source) operation visible tables condition) fun condition' =>
      site.scope? = (if tables.isEmpty then none else some ⟨operation, .join, tables, visible⟩) →
        A.condition site (some condition) (some condition') := by
  rw [restrictJoin]
  split
  · exact .pure fun asks => agrees.unasked site asks _
  · refine (Ensures.add source _ _).map ?_
    rintro _ ⟨ps, known, rfl⟩ asks
    obtain ⟨e, made⟩ := Enforcement.Sound.withTerms_some condition (ps.map (·.condition))
    have allowed := agrees.asked site _ asks ps known (some condition)
    rw [made] at allowed ⊢
    exact allowed

/-- The `WHERE` of relations is restricted as its site says. -/
theorem filter_ensures (operation : Operation) (visible : Nat) (tables : List Table) (relations : List Joined)
    (condition : Option Expr) :
    Ensures A heard (addPredicates (transcribing source) ⟨operation, .filter, tables, visible⟩ condition)
      fun condition' => tables = Outer.joinedList relations → visible = countTables relations →
        A.condition (.filter operation relations) condition condition' := by
  refine (Ensures.add source _ _).weaken ?_
  rintro _ ⟨ps, known, rfl⟩ rfl rfl
  exact agrees.asked (.filter operation relations) _ rfl ps known condition

/-! ## The walk -/

mutual

theorem expr_ensures : ∀ e : Expr, Ensures A heard (expr codec (transcribing source) e) (Adds.expr A e)
  | .name _ | .literal _ | .typed .. | .wildcard _ => .pure rfl
  | .unary _ operand => (expr_ensures operand).map fun x h => ⟨x, h, rfl⟩
  | .binary _ left right | .quantified _ _ left right | .distinctness _ left right
  | .atTimeZone left right | .matching _ left right =>
    (expr_ensures left).bind fun x => (expr_ensures right).map fun y h hx => ⟨x, hx, y, h, rfl⟩
  | .test _ _ operand | .nested operand | .cast _ operand _ | .collate operand _ | .extract _ _ operand =>
    (expr_ensures operand).map fun x h => ⟨x, h, rfl⟩
  | .inList _ operand members =>
    (expr_ensures operand).bind fun x => (exprs_ensures members).map fun y h hx => ⟨x, hx, y, h, rfl⟩
  | .inQuery _ operand q =>
    (expr_ensures operand).bind fun x => (query_ensures q).map fun y h hx => ⟨x, hx, y, h, rfl⟩
  | .between _ operand low high =>
    (expr_ensures operand).bind fun x => (expr_ensures low).bind fun y =>
      (expr_ensures high).map fun z h hy hx => ⟨x, hx, y, hy, z, h, rfl⟩
  | .case operand conditions otherwise =>
    (expr?_ensures operand).bind fun x => (expr?_ensures otherwise).bind fun y =>
      (branches_ensures conditions).map fun z h hy hx => ⟨x, hx, y, hy, z, h, rfl⟩
  | .tuple members => (exprs_ensures members).map fun x h => ⟨x, h, rfl⟩
  | .call _ _ args _ filter _ =>
    (arguments_ensures args).bind fun x => (expr?_ensures filter).map fun y h hx => ⟨x, hx, y, h, rfl⟩
  | .exists _ q | .subquery q => (query_ensures q).map fun x h => ⟨x, h, rfl⟩
  | .access root steps => refuseHidden_ensures A heard (.access root steps)
  | .special pieces => refuseHidden_ensures A heard (.special pieces)

theorem expr?_ensures : ∀ e : Option Expr,
    Ensures A heard (expr? codec (transcribing source) e) (Adds.expr? A e)
  | none => .pure rfl
  | some e => (expr_ensures e).map fun x h => ⟨x, h, rfl⟩

theorem exprs_ensures : ∀ es : List Expr,
    Ensures A heard (exprs codec (transcribing source) es) (Adds.exprs A es)
  | [] => .pure rfl
  | e :: es => (expr_ensures e).bind fun x => (exprs_ensures es).map fun xs h hx => ⟨x, hx, xs, h, rfl⟩

theorem branches_ensures : ∀ bs : List Branch,
    Ensures A heard (branches codec (transcribing source) bs) (Adds.branches A bs)
  | [] => .pure rfl
  | .mk condition result :: rest =>
    (expr_ensures condition).bind fun x => (expr_ensures result).bind fun y =>
      (branches_ensures rest).map fun z h hy hx => ⟨x, hx, y, hy, z, h, rfl⟩

theorem arguments_ensures : ∀ args : Arguments,
    Ensures A heard (arguments codec (transcribing source) args) (Adds.arguments A args)
  | .none => .pure rfl
  | .query q => (query_ensures q).map fun x h => ⟨x, h, rfl⟩
  | .list _ list _ => (argumentList_ensures list).map fun x h => ⟨x, h, rfl⟩

theorem argumentList_ensures : ∀ args : List Argument,
    Ensures A heard (argumentList codec (transcribing source) args) (Adds.argumentList A args)
  | [] => .pure rfl
  | .mk _ value :: rest =>
    (expr_ensures value).bind fun x => (argumentList_ensures rest).map fun y h hx => ⟨x, hx, y, h, rfl⟩

theorem items_ensures : ∀ is : List Item,
    Ensures A heard (items codec (transcribing source) is) (Adds.items A is)
  | [] => .pure rfl
  | .mk e _ _ :: rest =>
    (expr_ensures e).bind fun x => (items_ensures rest).map fun y h hx => ⟨x, hx, y, h, rfl⟩

theorem ctes_ensures : ∀ cs : List Cte,
    Ensures A heard (ctes codec (transcribing source) cs) (Adds.ctes A cs)
  | [] => .pure rfl
  | .mk _ _ _ q _ :: rest =>
    (query_ensures q).bind fun x => (ctes_ensures rest).map fun y h hx => ⟨x, hx, y, h, rfl⟩

theorem query_ensures : ∀ q : Query,
    Ensures A heard (query codec (transcribing source) q) (Adds.query A q)
  | .mk _ named b order _ =>
    (ctes_ensures named).bind fun x => (body_ensures b).bind fun y =>
      (items_ensures order).map fun z h hy hx => ⟨x, hx, y, hy, z, h, rfl⟩

theorem body_ensures : ∀ b : Body, Ensures A heard (body codec (transcribing source) b) (Adds.body A b)
  | .select s => (select_ensures s).map fun x h => ⟨x, h, rfl⟩
  | .query q => (query_ensures q).map fun x h => ⟨x, h, rfl⟩
  | .combined _ _ left right =>
    (body_ensures left).bind fun x => (body_ensures right).map fun y h hx => ⟨x, hx, y, h, rfl⟩
  | .values _ _ rows => (exprs_ensures rows).map fun x h => ⟨x, h, rfl⟩
  | .statement (.update u) => (update_ensures u).map fun x h => ⟨x, h, rfl⟩
  | .statement (.delete r) => (delete_ensures r).map fun x h => ⟨x, h, rfl⟩
  | .statement (.insert ..) => .pure rfl
  | .statement (.query _) => .pure rfl
  | .statement (.other .export _) => .pure rfl
  | .statement (.other .definition _) | .statement (.other .other _) => .refuse fun _ => Unscopable.noConfusion
  | .table _ => .refuse fun _ => Unscopable.noConfusion

theorem select_ensures : ∀ s : Select,
    Ensures A heard (select codec (transcribing source) s) (Adds.select A s)
  | ⟨_, _, projection, _, relations, _, prewhere, selection, groupBy, _, _, having, _, _, qualify, _⟩ =>
    (items_ensures projection).bind fun p => (expr?_ensures prewhere).bind fun w =>
      (expr?_ensures having).bind fun h => (expr?_ensures qualify).bind fun q =>
      (exprs_ensures groupBy).bind fun g => (expr?_ensures selection).bind fun c =>
      (joinedList_ensures .select _ relations).bind fun j =>
      (filter_ensures A codec heard source agrees .select _ j.2 relations c).map
        fun c' hc' hj hc hg hq hh hw hp =>
          ⟨p, hp, w, hw, h, hh, q, hq, g, hg, c, hc, j.1, hj.1, c', hc' hj.2 rfl, rfl⟩

theorem update_ensures : ∀ u : Update,
    Ensures A heard (update codec (transcribing source) u) (Adds.update A u)
  | ⟨_, target, assigned, _, relations, selection, _⟩ =>
    (assignments_ensures assigned).bind fun a => (expr?_ensures selection).bind fun c =>
      (joined_ensures .update _ false target).bind fun k =>
      (joinedList_ensures .update _ relations).bind fun j =>
      (filter_ensures A codec heard source agrees .update _ (k.2 ++ j.2) (target :: relations) c).map
        fun c' hc' hj hk hc ha =>
          have visible := (countTables_append [target] relations).symm
          ⟨a, ha, c, hc, k.1, visible ▸ hk.1, j.1, visible ▸ hj.1, c',
            hc' (congrArg₂ (· ++ ·) hk.2 hj.2) visible, rfl⟩

theorem delete_ensures : ∀ r : Delete,
    Ensures A heard (delete codec (transcribing source) r) (Adds.delete A r)
  | ⟨_, _, relations, others, selection, _⟩ =>
    (expr?_ensures selection).bind fun c =>
      (joinedList_ensures .delete _ relations).bind fun j =>
      (joinedList_ensures .delete _ others).bind fun k =>
      (filter_ensures A codec heard source agrees .delete _ (j.2 ++ k.2) (relations ++ others) c).map
        fun c' hc' hk hj hc =>
          have visible := (countTables_append relations others).symm
          ⟨c, hc, j.1, visible ▸ hj.1, k.1, visible ▸ hk.1, c',
            hc' ((congrArg₂ (· ++ ·) hj.2 hk.2).trans List.flatMap_append.symm) visible, rfl⟩

theorem assignments_ensures : ∀ list : List Assignment,
    Ensures A heard (assignments codec (transcribing source) list) (Adds.assignments A list)
  | [] => .pure rfl
  | .mk _ value :: rest =>
    (expr_ensures value).bind fun x => (assignments_ensures rest).map fun y h hx => ⟨x, hx, y, h, rfl⟩

theorem joinedList_ensures (operation : Operation) (visible : Nat) : ∀ js : List Joined,
    Ensures A heard (joinedList codec (transcribing source) operation visible js) fun x =>
      Adds.joinedList A operation visible js x.1 ∧ x.2 = Outer.joinedList js
  | [] => .pure ⟨rfl, rfl⟩
  | j :: js =>
    (joined_ensures operation visible false j).bind fun x =>
      (joinedList_ensures operation visible js).map fun y h hx =>
        ⟨⟨x.1, hx.1, y.1, h.1, rfl⟩, congrArg₂ (· ++ ·) hx.2 h.2⟩

theorem joined_ensures (operation : Operation) (visible : Nat) (wrapped : Bool) : ∀ j : Joined,
    Ensures A heard (joined codec (transcribing source) operation visible wrapped j) fun x =>
      Adds.joined A operation visible wrapped j x.1 ∧ x.2 = Outer.joined wrapped j
  | .mk r js =>
    (relation_ensures operation visible _ r).bind fun x =>
      (joins_ensures operation visible _ (.mk r []) x.2 js).map fun y h hx =>
        ⟨⟨x.1, hx.1, y.1, (h hx.2).1, rfl⟩, (h hx.2).2.trans (congrArg (Outer.joins _ · js) hx.2)⟩

/-- The tables handed on so far are those of what precedes the joins. -/
theorem joins_ensures (operation : Operation) (visible : Nat) (wrapped : Bool) (preceding : Joined)
    (outer : List Table) : ∀ js : List Join,
    Ensures A heard (joins codec (transcribing source) operation visible wrapped outer js) fun x =>
      outer = Outer.soFar wrapped preceding →
        Adds.joins A operation visible wrapped preceding js x.1 ∧ x.2 = Outer.joins wrapped outer js
  | [] => .pure fun _ => ⟨rfl, rfl⟩
  | .mk global kind r matchCondition constraint :: rest =>
    (relation_ensures operation visible wrapped r).bind fun x =>
      (joinConstraint_ensures operation visible wrapped kind preceding r outer x.2 constraint).bind fun y =>
      (joins_ensures operation visible wrapped (preceding.add (.mk global kind r matchCondition constraint))
        y.2 rest).map fun z hz hy hx known => by
          obtain ⟨changed, handedOn⟩ := hy known hx.2
          rw [hx.2] at handedOn
          obtain ⟨more, rest⟩ := hz (by rw [handedOn, known, Outer.soFar_add])
          exact ⟨⟨x.1, hx.1, y.1, changed, z.1, more, rfl⟩, by rw [rest, handedOn, Outer.joins]⟩

theorem joinConstraint_ensures (operation : Operation) (visible : Nat) (wrapped : Bool) (kind : JoinKind)
    (preceding : Joined) (r : Relation) (outer tables : List Table) : ∀ c : JoinConstraint,
    Ensures A heard (joinConstraint codec (transcribing source) operation visible kind outer tables c) fun x =>
      outer = Outer.soFar wrapped preceding → tables = Outer.relation wrapped r →
        Adds.joinConstraint A (.join operation visible wrapped preceding kind r) c x.1 ∧
          x.2 = Outer.joinConstraint kind outer tables c
  | .on condition => by
    rw [joinConstraint, Outer.joinConstraint]
    have asks : (Site.join operation visible wrapped preceding kind r).scope? =
        Outline.joinScope operation visible kind (Outer.soFar wrapped preceding) (Outer.relation wrapped r) := rfl
    rw [Outline.joinScope] at asks
    refine (expr_ensures condition).bind fun e => ?_
    rcases side : nullableSide? kind with _ | _ | _
    · rw [side] at asks
      exact .pure fun h _ _ => ⟨⟨e, h, e, agrees.unasked _ asks _, rfl⟩, rfl⟩
    · rw [side] at asks
      refine (restrictJoin_ensures A codec heard source agrees operation visible tables
        (.join operation visible wrapped preceding kind r) e).map fun e' changed => ?_
      rintro h rfl rfl
      exact ⟨⟨e, h, e', changed asks, rfl⟩, rfl⟩
    · rw [side] at asks
      refine (restrictJoin_ensures A codec heard source agrees operation visible outer
        (.join operation visible wrapped preceding kind r) e).map fun e' changed => ?_
      rintro h rfl rfl
      exact ⟨⟨e, h, e', changed asks, rfl⟩, rfl⟩
  | .columns _ | .natural | .none => .pure fun _ _ => ⟨rfl, rfl⟩

theorem relation_ensures (operation : Operation) (visible : Nat) (wrapped : Bool) : ∀ r : Relation,
    Ensures A heard (relation codec (transcribing source) operation visible wrapped r) fun x =>
      Adds.relation A operation visible wrapped r x.1 ∧ x.2 = Outer.relation wrapped r
  | .table name partitions args ordinality aliased after => by
    cases wrapped with
    | true => exact (wrap_ensures A codec heard source agrees operation rfl).map fun x h => ⟨h, rfl⟩
    | false => exact .pure ⟨rfl, rfl⟩
  | .derived _ q _ => (query_ensures q).map fun x h => ⟨⟨x, h, rfl⟩, rfl⟩
  | .nested j _ => (joined_ensures operation visible wrapped j).map fun x h => ⟨⟨x.1, h.1, rfl⟩, h.2⟩
  | .reshaped r _ _ => (relation_ensures operation visible true r).map fun x h => ⟨⟨x.1, h.1, rfl⟩, h.2⟩
  | .function call _ => (expr_ensures call).map fun x h => ⟨⟨x, h, rfl⟩, rfl⟩
  | .special .. => .pure ⟨rfl, rfl⟩

end

theorem statement_ensures (stacked : Bool) (s : Statement) :
    Ensures A heard (statement codec (transcribing source) stacked s) (Adds.statement A s) := by
  cases s with
  | query q => exact (query_ensures A codec heard source agrees q).map fun x h => ⟨x, h, rfl⟩
  | update u => exact (update_ensures A codec heard source agrees u).map fun x h => ⟨x, h, rfl⟩
  | delete r => exact (delete_ensures A codec heard source agrees r).map fun x h => ⟨x, h, rfl⟩
  | _ =>
    simp only [statement]
    split
    · exact .refuse fun _ => Unscopable.noConfusion
    · exact .pure rfl

theorem statements_ensures (stacked : Bool) : ∀ list : List Statement,
    Ensures A heard (statements codec (transcribing source) stacked list) (Adds.statements A list)
  | [] => .pure .nil
  | s :: rest =>
    (statement_ensures A codec heard source agrees stacked s).bind fun _ =>
      (statements_ensures stacked rest).map fun _ h hx => .cons hx h

end

end Rewrite

/-! ## A whole text -/

/-- What the source is asked and answers while a text is rewritten. -/
def Rewrite.transcript (codec : Codec) (source : Source σ) (sql : String) (s : σ) : Transcript :=
  ((rewriteWith codec (transcribing source) sql).run.run (s, [])).2.2

theorem Rewrite.transcript_asked (codec : Codec) (source : Source σ) (sql : String) (s : σ) :
    Asked source s (Rewrite.transcript codec source sql s) ((rewriteWith codec source sql).run.run s).2 := by
  obtain ⟨t, same, chain, -⟩ := rewriteWith_transcribed codec source sql s
  rw [Rewrite.transcript, same]
  exact chain

/-- Where additions agree with the answers of the source, a text is rewritten to one of statements that have such
additions and no others, and a failure is an answer of the source, a refusal, or one that the additions know of. -/
theorem rewriteWith_sites {A : Additions} {codec : Codec} {heard : Scope → List Predicate → Prop}
    (source : Source σ) (agrees : A.Agrees codec heard) {sql : String} {list : List Statement}
    (parsed : codec.parse sql = some list) (s : σ) (all : (Rewrite.transcript codec source sql s).Satisfies heard) :
    match ((rewriteWith codec source sql).run.run s).1 with
    | .ok r => ∃ list', Adds.statements A list list' ∧ r.sql = if r.isChanged then codec.render list' else sql
    | .error e => (∃ scope, (scope, .error e) ∈ Rewrite.transcript codec source sql s) ∨ e.IsRefusal ∨ A.failure e := by
  obtain ⟨t, same, -, -⟩ := rewriteWith_transcribed codec source sql s
  have written : Rewrite.transcript codec source sql s = t := by rw [Rewrite.transcript, same]
  rw [written] at all ⊢
  rw [rewriteWith_run codec _ parsed] at same
  rcases ran : Rewrite.outcome (Rewrite.statements codec (transcribing source) (1 < list.length) list)
    .nothing (s, []) with ⟨answer, s', t'⟩
  rw [ran] at same
  rcases answer with e | ⟨list', added⟩
  · obtain ⟨answered, rest⟩ := Prod.mk.inj same
    obtain rfl : t' = t := congrArg Prod.snd rest
    rw [← answered]
    exact (Rewrite.statements_ensures A codec heard source agrees _ list _ s [] _ s' t' ran all).2
  · obtain ⟨answered, rest⟩ := Prod.mk.inj same
    obtain rfl : t' = t := congrArg Prod.snd rest
    rw [← answered]
    refine ⟨list', (Rewrite.statements_ensures A codec heard source agrees _ list _ s [] _ s' t' ran all).2, ?_⟩
    cases unchanged : added.isNothing <;> simp [Rewritten.isChanged, unchanged]

/-- What an enforcer answers in some state. -/
def Enforcer.CanAnswer (e : Enforcer σ) (ctx : Context) (r : Rule) (scope : Scope) (ps : List Predicate) : Prop :=
  ∃ s s', (e.predicates ctx r scope).run.run s = (.ok ps, s')

/-- Where additions agree with all that an enforcer can answer, what it rewrites has such additions and no others. -/
theorem Enforcer.rewrite_sites {e : Enforcer σ} {ctx : Context} {r : Rule} {A : Additions}
    (agrees : A.Agrees (.ofDialect e.config.dialect) (e.CanAnswer ctx r)) {sql : String} {list : List Statement}
    {result : Rewritten} {s : σ} (parsed : Sql.parse e.config.dialect sql = some list)
    (rewritten : ((rewrite e.config.dialect (e.predicates ctx r) sql).run.run s).1 = .ok result) :
    ∃ list', Adds.statements A list list' ∧
      result.sql = if result.isChanged then renderStatements list' else sql := by
  have all : (Rewrite.transcript (.ofDialect e.config.dialect) (e.predicates ctx r) sql s).Satisfies
      (e.CanAnswer ctx r) := by
    intro scope ps mem
    exact (e.transcript_asked ctx r sql s).1.answered (scope, .ok ps) mem
  have sites := rewriteWith_sites (e.predicates ctx r) agrees parsed s all
  have same : ((rewriteWith (.ofDialect e.config.dialect) (e.predicates ctx r) sql).run.run s).1 = .ok result :=
    rewritten
  rw [same] at sites
  exact sites

end RowAccess
