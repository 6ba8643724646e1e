import RowAccess.Proofs.Runs
/-!
# What a source is asked, and what it answers

Rewriting reaches its source only by asking for the predicates of scopes. So what relates a source to
another, and is kept by the steps of rewriting, relates what is done with the one to what is done with
the other (`Related`). For a source that writes down its scopes with its answers this gives the transcript
of a run: the source was asked one scope after the other, and the first answer that is an error ended the
run with that error.
-/

namespace RowAccess

open Sql

variable {σ τ α β : Type}

/-- Scopes, each with what a source answered for it. -/
abbrev Transcript := List (Scope × Except Error (List Predicate))

/-- The source, writing down what it is asked and what it answers. -/
def transcribing (source : Source σ) : Source (σ × Transcript) := fun scope =>
  ExceptT.mk fun state =>
    let (answer, s) := (source scope).run.run state.1
    (answer, (s, state.2 ++ [(scope, answer)]))

/-- From a state the source is asked these scopes one after the other, and answers so. -/
inductive Asked (source : Source σ) : σ → Transcript → σ → Prop
  | nil (s : σ) : Asked source s [] s
  | cons {scope : Scope} {answer : Except Error (List Predicate)} {rest : Transcript} {s s₁ s' : σ} :
      (source scope).run.run s = (answer, s₁) → Asked source s₁ rest s' →
      Asked source s ((scope, answer) :: rest) s'

theorem Asked.append {source : Source σ} {t u : Transcript} {s s₁ s' : σ} (first : Asked source s t s₁)
    (second : Asked source s₁ u s') : Asked source s (t ++ u) s' := by
  induction first with
  | nil => exact second
  | cons asked _ ih => exact .cons asked (ih second)

namespace Rewrite

/-! ## Related steps -/

/-- The relation holds of steps that ask nothing, of those that ask the one source and the other about the
same scope, and of sequences of related steps. -/
structure Related (source : Source σ) (source' : Source τ)
    (P : ∀ {α : Type}, Rewriting σ α → Rewriting τ α → Prop) : Prop where
  pure {α : Type} (x : α) : P (Pure.pure x) (Pure.pure x)
  fail {α : Type} (e : Error) : P (Rewrite.fail e : Rewriting σ α) (Rewrite.fail e)
  bind {α β : Type} {m : Rewriting σ α} {m' : Rewriting τ α} {f : α → Rewriting σ β}
    {f' : α → Rewriting τ β} : P m m' → (∀ x, P (f x) (f' x)) → P (m >>= f) (m' >>= f')
  add (scope : Scope) (condition : Option Expr) :
    P (addPredicates source scope condition) (addPredicates source' scope condition)

namespace Related

variable {source : Source σ} {source' : Source τ}
  {P : ∀ {α : Type}, Rewriting σ α → Rewriting τ α → Prop} (R : Related source source' P)

include R

theorem map {m : Rewriting σ α} {m' : Rewriting τ α} (h : P m m') (g : α → β) :
    P (m >>= fun x => Pure.pure (g x)) (m' >>= fun x => Pure.pure (g x)) :=
  R.bind h fun _ => R.pure _

theorem restrictJoin (operation : Operation) (visible : Nat) (tables : List Table) (condition : Expr) :
    P (Rewrite.restrictJoin source operation visible tables condition)
      (Rewrite.restrictJoin source' operation visible tables condition) := by
  rw [Rewrite.restrictJoin, Rewrite.restrictJoin]
  split
  · exact R.pure _
  · exact R.map (R.add _ _) _

theorem wrap (codec : Codec) (operation : Operation) (r : Relation) (t : Table) :
    P (Rewrite.wrap codec source operation r t) (Rewrite.wrap codec source' operation r t) := by
  rw [Rewrite.wrap, Rewrite.wrap]
  refine R.bind (R.add _ _) fun filter => ?_
  cases filter with
  | none => exact R.pure _
  | some filter =>
    dsimp only
    split
    · exact R.fail _
    · split
      · exact R.pure _
      · exact R.fail _

theorem refuseHidden (e : Expr) : P (Rewrite.refuseHidden (σ := σ) e) (Rewrite.refuseHidden e) := by
  rw [Rewrite.refuseHidden, Rewrite.refuseHidden]
  split
  · exact R.fail _
  · exact R.pure _

end Related

/-! ## The walk -/

section

variable (codec : Codec) {source : Source σ} {source' : Source τ}
  {P : ∀ {α : Type}, Rewriting σ α → Rewriting τ α → Prop} (R : Related source source' P)

include R

mutual

theorem expr_related : ∀ e : Expr, P (expr codec source e) (expr codec source' e)
  | .name _ | .literal _ | .typed .. | .wildcard _ => R.pure _
  | .unary _ operand => R.map (expr_related operand) _
  | .binary _ left right | .quantified _ _ left right | .distinctness _ left right
  | .atTimeZone left right | .matching _ left right =>
    R.bind (expr_related left) fun _ => R.map (expr_related right) _
  | .test _ _ operand | .nested operand | .cast _ operand _ | .collate operand _ | .extract _ _ operand =>
    R.map (expr_related operand) _
  | .inList _ operand members => R.bind (expr_related operand) fun _ => R.map (exprs_related members) _
  | .inQuery _ operand q => R.bind (expr_related operand) fun _ => R.map (query_related q) _
  | .between _ operand low high =>
    R.bind (expr_related operand) fun _ => R.bind (expr_related low) fun _ => R.map (expr_related high) _
  | .case operand conditions otherwise =>
    R.bind (expr?_related operand) fun _ => R.bind (expr?_related otherwise) fun _ =>
      R.map (branches_related conditions) _
  | .tuple members => R.map (exprs_related members) _
  | .call _ _ args _ filter _ => R.bind (arguments_related args) fun _ => R.map (expr?_related filter) _
  | .exists _ q | .subquery q => R.map (query_related q) _
  | .access root steps => R.refuseHidden (.access root steps)
  | .special pieces => R.refuseHidden (.special pieces)

theorem expr?_related : ∀ e : Option Expr, P (expr? codec source e) (expr? codec source' e)
  | none => R.pure _
  | some e => R.map (expr_related e) _

theorem exprs_related : ∀ es : List Expr, P (exprs codec source es) (exprs codec source' es)
  | [] => R.pure _
  | e :: es => R.bind (expr_related e) fun _ => R.map (exprs_related es) _

theorem branches_related : ∀ bs : List Branch, P (branches codec source bs) (branches codec source' bs)
  | [] => R.pure _
  | .mk condition result :: rest =>
    R.bind (expr_related condition) fun _ => R.bind (expr_related result) fun _ =>
      R.map (branches_related rest) _

theorem arguments_related : ∀ args : Arguments,
    P (arguments codec source args) (arguments codec source' args)
  | .none => R.pure _
  | .query q => R.map (query_related q) _
  | .list _ list _ => R.map (argumentList_related list) _

theorem argumentList_related : ∀ args : List Argument,
    P (argumentList codec source args) (argumentList codec source' args)
  | [] => R.pure _
  | .mk _ value :: rest => R.bind (expr_related value) fun _ => R.map (argumentList_related rest) _

theorem items_related : ∀ is : List Item, P (items codec source is) (items codec source' is)
  | [] => R.pure _
  | .mk e _ _ :: rest => R.bind (expr_related e) fun _ => R.map (items_related rest) _

theorem ctes_related : ∀ cs : List Cte, P (ctes codec source cs) (ctes codec source' cs)
  | [] => R.pure _
  | .mk _ _ _ q _ :: rest => R.bind (query_related q) fun _ => R.map (ctes_related rest) _

theorem query_related : ∀ q : Query, P (query codec source q) (query codec source' q)
  | .mk _ named b order _ =>
    R.bind (ctes_related named) fun _ => R.bind (body_related b) fun _ => R.map (items_related order) _

theorem body_related : ∀ b : Body, P (body codec source b) (body codec source' b)
  | .select s => R.map (select_related s) _
  | .query q => R.map (query_related q) _
  | .combined _ _ left right => R.bind (body_related left) fun _ => R.map (body_related right) _
  | .values _ _ rows => R.map (exprs_related rows) _
  | .statement (.update u) => R.map (update_related u) _
  | .statement (.delete r) => R.map (delete_related r) _
  | .statement (.insert ..) => R.pure _
  | .statement (.query _) => R.pure _
  | .statement (.other .export _) => R.pure _
  | .statement (.other .definition _) | .statement (.other .other _) => R.fail _
  | .table _ => R.fail _

theorem select_related : ∀ s : Select, P (select codec source s) (select codec source' s)
  | ⟨_, _, projection, _, relations, _, prewhere, selection, groupBy, _, _, having, _, _, qualify, _⟩ =>
    R.bind (items_related projection) fun _ => R.bind (expr?_related prewhere) fun _ =>
      R.bind (expr?_related having) fun _ => R.bind (expr?_related qualify) fun _ =>
      R.bind (exprs_related groupBy) fun _ => R.bind (expr?_related selection) fun _ =>
      R.bind (joinedList_related .select _ relations) fun _ => R.map (R.add _ _) _

theorem update_related : ∀ u : Update, P (update codec source u) (update codec source' u)
  | ⟨_, target, assigned, _, relations, selection, _⟩ =>
    R.bind (assignments_related assigned) fun _ => R.bind (expr?_related selection) fun _ =>
      R.bind (joined_related .update _ false target) fun _ =>
      R.bind (joinedList_related .update _ relations) fun _ => R.map (R.add _ _) _

theorem delete_related : ∀ r : Delete, P (delete codec source r) (delete codec source' r)
  | ⟨_, _, relations, others, selection, _⟩ =>
    R.bind (expr?_related selection) fun _ => R.bind (joinedList_related .delete _ relations) fun _ =>
      R.bind (joinedList_related .delete _ others) fun _ => R.map (R.add _ _) _

theorem assignments_related : ∀ list : List Assignment,
    P (assignments codec source list) (assignments codec source' list)
  | [] => R.pure _
  | .mk _ value :: rest => R.bind (expr_related value) fun _ => R.map (assignments_related rest) _

theorem joinedList_related (operation : Operation) (visible : Nat) : ∀ js : List Joined,
    P (joinedList codec source operation visible js) (joinedList codec source' operation visible js)
  | [] => R.pure _
  | j :: js =>
    R.bind (joined_related operation visible false j) fun _ =>
      R.map (joinedList_related operation visible js) _

theorem joined_related (operation : Operation) (visible : Nat) (wrapped : Bool) : ∀ j : Joined,
    P (joined codec source operation visible wrapped j) (joined codec source' operation visible wrapped j)
  | .mk r js =>
    R.bind (relation_related operation visible _ r) fun _ => R.map (joins_related operation visible _ _ js) _

theorem joins_related (operation : Operation) (visible : Nat) (wrapped : Bool) (outer : List Table) :
    ∀ js : List Join, P (joins codec source operation visible wrapped outer js)
      (joins codec source' operation visible wrapped outer js)
  | [] => R.pure _
  | .mk _ kind r _ constraint :: rest =>
    R.bind (relation_related operation visible wrapped r) fun _ =>
      R.bind (joinConstraint_related operation visible kind outer _ constraint) fun _ =>
      R.map (joins_related operation visible wrapped _ rest) _

theorem joinConstraint_related (operation : Operation) (visible : Nat) (kind : JoinKind)
    (outer tables : List Table) : ∀ c : JoinConstraint,
    P (joinConstraint codec source operation visible kind outer tables c)
      (joinConstraint codec source' operation visible kind outer tables c)
  | .on condition => by
    refine R.bind (expr_related condition) fun e => ?_
    split
    · exact R.map (R.restrictJoin _ _ _ e) _
    · exact R.map (R.restrictJoin _ _ _ e) _
    · exact R.pure _
  | .columns _ | .natural | .none => R.pure _

theorem relation_related (operation : Operation) (visible : Nat) (wrapped : Bool) : ∀ r : Relation,
    P (relation codec source operation visible wrapped r)
      (relation codec source' operation visible wrapped r)
  | .table .. => by
    cases wrapped with
    | true => exact R.map (R.wrap codec _ _ _) _
    | false => exact R.pure _
  | .derived _ q _ => R.map (query_related q) _
  | .nested j _ => R.map (joined_related operation visible wrapped j) _
  | .reshaped r _ _ => R.map (relation_related operation visible true r) _
  | .function call _ => R.map (expr_related call) _
  | .special .. => R.pure _

end

theorem statement_related (stacked : Bool) (s : Statement) :
    P (statement codec source stacked s) (statement codec source' stacked s) := by
  cases s with
  | query q => exact R.map (query_related codec R q) _
  | update u => exact R.map (update_related codec R u) _
  | delete r => exact R.map (delete_related codec R r) _
  | _ =>
    simp only [statement]
    split
    · exact R.fail _
    · exact R.pure _

theorem statements_related (stacked : Bool) : ∀ list : List Statement,
    P (statements codec source stacked list) (statements codec source' stacked list)
  | [] => R.pure _
  | s :: rest =>
    R.bind (statement_related codec R stacked s) fun _ => R.map (statements_related stacked rest) _

end

/-! ## Transcripts -/

/-- The step `m'` does what `m` does, and writes down what the source is asked meanwhile. An answer that
is an error is the last one, and the step fails with it. -/
def Transcribed (source : Source σ) (m : Rewriting σ α) (m' : Rewriting (σ × Transcript) α) : Prop :=
  ∀ a s t, ∃ asked, outcome m' a (s, t) = ((outcome m a s).1, ((outcome m a s).2, t ++ asked)) ∧
    Asked source s asked (outcome m a s).2 ∧
    ∀ scope e, (scope, .error e) ∈ asked → (outcome m a s).1 = .error e

theorem Transcribed.add (source : Source σ) (scope : Scope) (condition : Option Expr) :
    Transcribed source (addPredicates source scope condition)
      (addPredicates (transcribing source) scope condition) := by
  intro a s t
  have written : (transcribing source scope).run.run (s, t) =
      (((source scope).run.run s).1, (((source scope).run.run s).2,
        t ++ [(scope, ((source scope).run.run s).1)])) := rfl
  refine ⟨[(scope, ((source scope).run.run s).1)], ?_, ?_, ?_⟩
  all_goals
    simp only [addPredicates, outcome_bind, outcome_ask, written]
    rcases h : (source scope).run.run s with ⟨e | ps, s'⟩
  · rfl
  · rfl
  · exact .cons h (.nil s')
  · exact .cons h (.nil s')
  · intro scope' e' mem
    cases List.mem_singleton.mp mem
    rfl
  · intro scope' e' mem
    cases List.mem_singleton.mp mem

theorem related_transcribed (source : Source σ) :
    Related source (transcribing source) (Transcribed source) where
  pure x := fun _ s t => ⟨[], by rw [List.append_nil]; rfl, .nil s, nofun⟩
  fail e := fun _ s t => ⟨[], by rw [List.append_nil]; rfl, .nil s, nofun⟩
  add := Transcribed.add source
  bind {α β m m' f f'} first next := by
    intro a s t
    obtain ⟨asked, same, chain, faults⟩ := first a s t
    rw [outcome_bind, outcome_bind, same]
    rcases h : outcome m a s with ⟨e | ⟨x, a'⟩, s'⟩
    · rw [h] at chain faults
      exact ⟨asked, rfl, chain, fun scope e' mem => congrArg _ (Except.error.inj (faults scope e' mem))⟩
    · rw [h] at chain faults
      obtain ⟨asked', same', chain', faults'⟩ := next x a' s' (t ++ asked)
      refine ⟨asked ++ asked', ?_, chain.append chain', fun scope e mem => ?_⟩
      · rw [← List.append_assoc]
        exact same'
      · rcases List.mem_append.mp mem with mem | mem
        · exact nomatch faults scope e mem
        · exact faults' scope e mem

end Rewrite

/-- A text is rewritten as before while the source writes down what it is asked. An answer that is an
error is what the rewriting fails with. -/
theorem rewriteWith_transcribed (codec : Codec) (source : Source σ) (sql : String) (s : σ) :
    ∃ t, (rewriteWith codec (transcribing source) sql).run.run (s, []) =
        (((rewriteWith codec source sql).run.run s).1, (((rewriteWith codec source sql).run.run s).2, t)) ∧
      Asked source s t ((rewriteWith codec source sql).run.run s).2 ∧
      ∀ scope e, (scope, .error e) ∈ t → ((rewriteWith codec source sql).run.run s).1 = .error e := by
  cases parsed : codec.parse sql with
  | none =>
    rw [rewriteWith_malformed codec _ parsed, rewriteWith_malformed codec _ parsed]
    exact ⟨[], rfl, .nil s, fun _ _ mem => absurd mem List.not_mem_nil⟩
  | some list =>
    rw [rewriteWith_run codec _ parsed, rewriteWith_run codec _ parsed]
    obtain ⟨asked, same, chain, faults⟩ := Rewrite.statements_related codec
      (Rewrite.related_transcribed source) (1 < list.length) list .nothing s []
    rw [same]
    rcases h : Rewrite.outcome (Rewrite.statements codec source (1 < list.length) list) .nothing s with
      ⟨e | ⟨list', added⟩, s'⟩
    · rw [h] at chain faults
      exact ⟨asked, rfl, chain, fun scope e' mem => congrArg _ (Except.error.inj (faults scope e' mem))⟩
    · rw [h] at chain faults
      exact ⟨asked, rfl, chain, fun scope e mem => by cases faults scope e mem⟩

/-! ## Added predicates -/

/-- Some answer has a predicate that is written so. -/
def Transcript.Mentions (t : Transcript) (text : String) : Prop :=
  ∃ entry ∈ t, ∃ ps, entry.2 = .ok ps ∧ ∃ p ∈ ps, p.condition.render = text

theorem restrict_adds (condition : Option Expr) (ps : List Predicate) (added : Added) :
    ∀ text ∈ (restrict condition ps added).2.predicates,
      text ∈ added.predicates ∨ ∃ p ∈ ps, p.condition.render = text := by
  induction ps generalizing condition added with
  | nil => exact fun text mem => .inl mem
  | cons p ps ih =>
    intro text mem
    rw [restrict] at mem
    split at mem
    · rcases ih _ _ text mem with before | ⟨q, mem', rfl⟩
      · exact .inl before
      · exact .inr ⟨q, .tail _ mem', rfl⟩
    · rcases ih _ _ text mem with before | ⟨q, mem', rfl⟩
      · rcases List.mem_append.mp before with before | new
        · exact .inl before
        · exact .inr ⟨p, .head _, (List.mem_singleton.mp new).symm⟩
      · exact .inr ⟨q, .tail _ mem', rfl⟩

namespace Rewrite

/-- What is written down stays, and all that is added is the predicate of an answer. -/
def AddsAnswers (m : Rewriting (σ × Transcript) α) : Prop :=
  ∀ {a s x a' s'}, outcome m a s = (.ok (x, a'), s') → s.2 ⊆ s'.2 ∧
    ∀ text ∈ a'.predicates, text ∈ a.predicates ∨ s'.2.Mentions text

theorem related_addsAnswers (source : Source σ) :
    Related (transcribing source) (transcribing source) fun m _ => AddsAnswers m where
  pure x := by
    intro a s y a' s' ran
    cases ran
    exact ⟨List.Subset.refl _, fun text mem => .inl mem⟩
  fail fault := by
    intro a s x a' s' ran
    cases ran
  bind {α β m m' f f'} first next := by
    intro a s y a' s' ran
    rw [outcome_bind] at ran
    rcases ran₁ : outcome m a s with ⟨fault | ⟨x, a₁⟩, s₁⟩
    · rw [ran₁] at ran
      cases ran
    · rw [ran₁] at ran
      obtain ⟨kept₁, added₁⟩ := first ran₁
      obtain ⟨kept, added⟩ := next x ran
      refine ⟨List.Subset.trans kept₁ kept, fun text mem => ?_⟩
      rcases added text mem with before | answered
      · rcases added₁ text before with before | ⟨entry, mem, answered⟩
        · exact .inl before
        · exact .inr ⟨entry, kept mem, answered⟩
      · exact .inr answered
  add scope condition := by
    intro a s x a' s' ran
    have written : (transcribing source scope).run.run s =
        (((source scope).run.run s.1).1, (((source scope).run.run s.1).2,
          s.2 ++ [(scope, ((source scope).run.run s.1).1)])) := rfl
    simp only [addPredicates, outcome_bind, outcome_ask, written] at ran
    rcases answered : (source scope).run.run s.1 with ⟨fault | ps, s₁⟩
    · rw [answered] at ran
      cases ran
    · rw [answered] at ran
      have done : ((restrict condition ps a).1, (restrict condition ps a).2) = (x, a') ∧
          (s₁, s.2 ++ [(scope, Except.ok ps)]) = s' := by
        obtain ⟨made, rfl⟩ := Prod.mk.inj ran
        exact ⟨Except.ok.inj made, rfl⟩
      obtain ⟨made, rfl⟩ := done
      obtain ⟨-, rfl⟩ := Prod.mk.inj made
      refine ⟨List.subset_append_left _ _, fun text mem => ?_⟩
      rcases restrict_adds condition ps a text mem with before | ⟨p, answered, rfl⟩
      · exact .inl before
      · exact .inr ⟨_, List.mem_append_right _ (.head _), ps, rfl, p, answered, rfl⟩

end Rewrite

/-- Each predicate that is added to a text is one that the source has answered. -/
theorem rewriteWith_adds (codec : Codec) (source : Source σ) (sql : String) (s : σ) {result : Rewritten}
    (rewritten : ((rewriteWith codec source sql).run.run s).1 = .ok result) :
    ∀ text ∈ result.added.predicates,
      ((rewriteWith codec (transcribing source) sql).run.run (s, [])).2.2.Mentions text := by
  obtain ⟨t, same, -, -⟩ := rewriteWith_transcribed codec source sql s
  cases parsed : codec.parse sql with
  | none =>
    rw [rewriteWith, parsed] at rewritten
    cases rewritten
  | some list =>
    have adds : Rewrite.AddsAnswers (Rewrite.statements codec (transcribing source) (1 < list.length) list) :=
      Rewrite.statements_related codec (Rewrite.related_addsAnswers source) _ list
    rw [rewritten, rewriteWith_run codec _ parsed] at same
    rw [rewriteWith_run codec _ parsed]
    rcases ran : Rewrite.outcome (Rewrite.statements codec (transcribing source) (1 < list.length) list)
      .nothing (s, []) with ⟨fault | ⟨list', added⟩, s'⟩
    · rw [ran] at same
      cases same
    · rw [ran] at same
      obtain ⟨made, -⟩ := Prod.mk.inj same
      cases made
      intro text mem
      rcases (adds ran).2 text mem with before | mentioned
      · cases before
      · exact mentioned

end RowAccess
