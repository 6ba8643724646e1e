import RowAccess.Proofs.Growth
import RowAccess.Proofs.Hooks
import RowAccess.Proofs.Unchanged
/-!
# A statement in two passes

A statement passes the hook of queries twice, the first time while some concerns are suppressed. Each pass adds
the predicates of its own concerns, and the second one has to find the scopes that there were at first. In the
end the conditions have, place by place, the conjuncts that one pass with nothing suppressed gives them
(`Enforcer.passes_compose`), as long as no table is wrapped and no predicate holds a query: the second pass
would go into a query that the first one has added.
-/

namespace RowAccess

open Sql Semantics

variable {σ : Type}

/-! ## Rules in parts -/

/-- The second context is for the same work as the first, with no more suppressed. -/
structure Context.Relaxes (ctx ctx' : Context) : Prop where
  session : ctx'.session = ctx.session
  localTenant : ctx'.localTenant = ctx.localTenant
  suppressed : ∀ c, ctx'.isSuppressed c = true → ctx.isSuppressed c = true

/-- The suppression of one more concern is lifted again. -/
theorem Context.relaxes_enable (ctx : Context) (c : Concern) : (ctx.enable c).Relaxes ctx where
  session := rfl
  localTenant := rfl
  suppressed d before := by
    rcases ctx with ⟨session, ⟨depth, flags⟩, localTenant⟩
    cases flags with
    | none => cases before
    | some f =>
      change (if d = c then true else f.isSet d) = true
      rw [show f.isSet d = true from before, ite_self]

theorem Tenants.effective_relaxed {ctx ctx' : Context} (relaxes : ctx.Relaxes ctx') (t : Tenants σ) :
    t.effective ctx' = t.effective ctx := by
  simp only [Tenants.effective, Tenants.dynamic, relaxes.session, relaxes.localTenant]

/-- What is kept of what is kept of a rule. -/
theorem Rule.filter_filter (keeps more : Concern → Bool) (r : Rule) :
    (r.filter keeps).bind (Rule.filter more) = r.filter fun c => keeps c && more c := by
  have twice : (r.masked keeps).masked more = r.masked fun c => keeps c && more c := by
    cases r with | mk d t data =>
    simp only [masked, Bool.and_assoc, Rule.mk.injEq, true_and]
    cases keeps .dataPermission <;> simp
  cases kept : r.filter keeps with
  | none =>
    rw [Option.bind_none, eq_comm, filter_eq_none_iff]
    intro c mem
    rw [filter_eq_none_iff.mp kept c mem, Bool.false_and]
  | some r' =>
    obtain rfl := filter_some kept
    rw [Option.bind_some, filter_eq, twice, ← filter_eq]

namespace Enforcer

variable {e : Enforcer σ} {ctx ctx' : Context} {s s' : BoundStatement} {r : Rule} {store : σ}
  {shared shared' : Shared σ}

/-- Whether a concern is still to be dealt with for a statement, if the rule for it asks for that. -/
def isDue (e : Enforcer σ) (ctx : Context) (s : BoundStatement) (c : Concern) : Bool :=
  e.isEnabled c && !ctx.isSuppressed c && !s.applied.contains c

theorem isDue_iff {c : Concern} :
    e.isDue ctx s c = true ↔ e.isEnabled c = true ∧ ctx.isSuppressed c = false ∧ c ∉ s.applied := by
  simp [isDue, and_assoc]

theorem isDue_relaxed (relaxes : ctx.Relaxes ctx') {c : Concern} (due : e.isDue ctx s c = true) :
    e.isDue ctx' s c = true := by
  obtain ⟨enabled, active, unmarked⟩ := isDue_iff.mp due
  refine isDue_iff.mpr ⟨enabled, ?_, unmarked⟩
  rw [Bool.eq_false_iff] at active ⊢
  exact fun suppressed => active (relaxes.suppressed c suppressed)

theorem pending_eq : e.pending ctx s =
    (Declarations.find? e.config.operations s.operation).bind (Rule.filter (e.isDue ctx s)) := by
  rw [pending, Option.bind_assoc]
  exact congrArg _ (funext fun r => Rule.filter_filter _ _ r)

/-! ## What the parts ask for -/

/-- A rule asks for the same, whatever is suppressed. -/
theorem predicates_relaxed (relaxes : ctx.Relaxes ctx') (r : Rule) : e.predicates ctx' r = e.predicates ctx r := by
  have required : e.requireTenant ctx' = e.requireTenant ctx := by
    rw [requireTenant, requireTenant, Tenants.effective_relaxed relaxes]
  have data (scope : Scope) (rule : Config.DataRule) :
      e.dataPredicates ctx' rule scope = e.dataPredicates ctx rule scope := by
    simp only [dataPredicates, dataPredicate?, relaxes.session]
  funext scope
  simp only [predicates_eq, tenantPredicates_same required (fun _ => rfl) (fun _ _ => rfl), data]

/-- What is answered from a store for the scopes of a rule. -/
def given (e : Enforcer σ) (ctx : Context) (r : Rule) (store : σ) (scope : Scope) :
    Except Error (List Predicate) := ((e.predicates ctx r scope).run.run store).1

/-- A rule without concerns asks for nothing. -/
theorem given_nothing (tenant : r.tenant = false) (data : r.data = none) (scope : Scope) :
    e.given ctx r store scope = .ok [] := by
  rw [given, predicates_eq, tenant, data]
  rfl

/-- The predicates of a rule are those for the tenant, and those for the data. -/
theorem given_parts {scope : Scope} {ps : List Predicate} (answered : e.given ctx r store scope = .ok ps) :
    ∃ forTenant forData, ps = forTenant ++ forData ∧
      e.given ctx { r with data := none } store scope = .ok forTenant ∧
      e.given ctx { r with tenant := false } store scope = .ok forData := by
  rcases run : (e.predicates ctx r scope).run.run store with ⟨answer, store'⟩
  rw [given, run] at answered
  obtain rfl : answer = .ok ps := answered
  obtain ⟨forTenant, forData, rfl, tenant, data⟩ := e.predicates_ok ctx run
  refine ⟨forTenant, forData, rfl, ?_, ?_⟩
  · rw [given, predicates_eq, run_bind_ok tenant, run_lift_bind]
    exact congrArg Except.ok (List.append_nil _)
  · rw [given, predicates_eq, data]
    rfl

/-- A rule asks for what each of its concerns asks for. -/
theorem mem_given_masked {keeps : Concern → Bool} {scope : Scope} {ps : List Predicate}
    (answered : e.given ctx (r.masked keeps) store scope = .ok ps) (q : Predicate) :
    q ∈ ps ↔ ∃ c, keeps c = true ∧ q ∈ granted (e.given ctx (r.masked (· == c)) store) (some scope) := by
  obtain ⟨forTenant, forData, rfl, tenant, data⟩ := given_parts answered
  have ofTenant (kept : keeps .tenant = true) :
      granted (e.given ctx (r.masked (· == .tenant)) store) (some scope) = forTenant := by
    have part : { r.masked keeps with data := none } = r.masked (· == .tenant) := by simp [Rule.masked, kept]
    rw [granted, Option.elim_some, ← part, tenant]
    rfl
  have ofData (kept : keeps .dataPermission = true) :
      granted (e.given ctx (r.masked (· == .dataPermission)) store) (some scope) = forData := by
    have part : { r.masked keeps with tenant := false } = r.masked (· == .dataPermission) := by
      simp [Rule.masked, kept]
    rw [granted, Option.elim_some, ← part, data]
    rfl
  constructor
  · intro mem
    rcases List.mem_append.mp mem with mem | mem
    · cases kept : keeps .tenant with
      | true => exact ⟨.tenant, kept, ofTenant kept ▸ mem⟩
      | false =>
        rw [given_nothing (by simp [Rule.masked, kept]) rfl] at tenant
        cases tenant
        cases mem
    · cases kept : keeps .dataPermission with
      | true => exact ⟨.dataPermission, kept, ofData kept ▸ mem⟩
      | false =>
        rw [given_nothing rfl (by simp [Rule.masked, kept])] at data
        cases data
        cases mem
  · rintro ⟨c, kept, mem⟩
    cases c with
    | tenant => exact List.mem_append_left _ (ofTenant kept ▸ mem)
    | dataPermission => exact List.mem_append_right _ (ofData kept ▸ mem)
    | _ =>
      rw [granted, Option.elim_some, given_nothing (by simp [Rule.masked]) rfl] at mem
      cases mem

/-- Nothing is answered for a place but what some concern that is kept asks for. -/
theorem granted_masked {keeps : Concern → Bool} {scope : Option Scope} {q : Predicate}
    (mem : q ∈ granted (e.given ctx (r.masked keeps) store) scope) :
    ∃ c, keeps c = true ∧ q ∈ granted (e.given ctx (r.masked (· == c)) store) scope := by
  cases scope with
  | none => cases mem
  | some scope =>
    cases answered : e.given ctx (r.masked keeps) store scope with
    | error fault =>
      rw [granted, Option.elim_some, answered] at mem
      cases mem
    | ok ps =>
      rw [granted, Option.elim_some, answered] at mem
      exact (mem_given_masked answered q).mp mem

/-- What some concern asks for is answered for a place, if anything is. -/
theorem mem_granted_masked {keeps : Concern → Bool} {scope : Option Scope}
    (answered : ∀ sc ∈ scope, ∃ ps, e.given ctx (r.masked keeps) store sc = .ok ps) {q : Predicate} {c : Concern}
    (kept : keeps c = true) (mem : q ∈ granted (e.given ctx (r.masked (· == c)) store) scope) :
    q ∈ granted (e.given ctx (r.masked keeps) store) scope := by
  cases scope with
  | none => cases mem
  | some scope =>
    obtain ⟨ps, answered⟩ := answered scope rfl
    rw [granted, Option.elim_some, answered]
    exact (mem_given_masked answered q).mpr ⟨c, kept, mem⟩

end Enforcer

/-! ## Statements with restrictions -/

/-- The conditions have grown by what is answered for them, and nothing else has changed. -/
structure Restricted (given : Scope → Except Error (List Predicate)) (list list' : List Statement) : Prop where
  answered : ∀ p ∈ (Outline.statements list).places, ∀ scope ∈ p.scope, ∃ ps, given scope = .ok ps
  blank : (Outline.statements list').blank = (Outline.statements list).blank
  faces : (Outline.statements list').places.map Place.face =
    (Outline.statements list).places.map fun p => p.face.granted given

namespace Restricted

variable {given first second : Scope → Except Error (List Predicate)} {list list₁ list₂ list' : List Statement}

/-- Places stay where they are. -/
theorem scopes (h : Restricted given list list') :
    (Outline.statements list').places.map (fun p => (p.scope, p.wraps)) =
      (Outline.statements list).places.map fun p => (p.scope, p.wraps) := by
  have faces := congrArg (List.map fun f : Face => (f.scope, f.wraps)) h.faces
  rwa [List.map_map, List.map_map] at faces

/-- Where nothing is answered, all stays as it is. -/
theorem rest (nothing : ∀ scope, given scope = .ok []) : Restricted given list list := by
  have none (scope : Option Scope) : granted given scope = [] := by
    cases scope with
    | none => rfl
    | some scope =>
      rw [granted, Option.elim_some, nothing]
      rfl
  have grown := Grows.unanswered (x := Outline.statements list) (fun _ _ scope _ => ⟨[], nothing scope⟩)
    (fun p _ => none p.scope) ⟨fun p _ _ => none p.scope, by simp [none]⟩
  exact ⟨grown.answered, rfl, grown.faces (by simp [Apart, none])⟩

/-- Two restrictions come to one by what is answered for either of them. -/
theorem compose (h₁ : Restricted first list list₁) (h₂ : Restricted second list₁ list₂)
    (h : Restricted given list list')
    (either : ∀ p ∈ (Outline.statements list).places, ∀ q,
      q ∈ granted given p.scope ↔ q ∈ granted first p.scope ∨ q ∈ granted second p.scope) :
    Alike list₂ list' where
  blank := by rw [h₂.blank, h₁.blank, h.blank]
  faces := by
    have twice : (Outline.statements list₂).places.map Place.face =
        ((Outline.statements list₁).places.map Place.face).map (Face.granted second) := by
      rw [h₂.faces, List.map_map]
      rfl
    rw [twice, h₁.faces, h.faces, List.map_map]
    refine List.map_congr_left fun p mem => ?_
    have conjuncts : {t | ∃ q ∈ granted given p.scope, t ∈ conjunctsOf q.condition} =
        {t | ∃ q ∈ granted first p.scope, t ∈ conjunctsOf q.condition} ∪
          {t | ∃ q ∈ granted second p.scope, t ∈ conjunctsOf q.condition} := by
      ext t
      simp only [either p mem, or_and_right, exists_or]
      rfl
    exact congrArg (Face.mk p.scope p.wraps)
      ((Set.union_assoc _ _ _).trans (congrArg (p.face.conjuncts ∪ ·) conjuncts.symm))

end Restricted

/-! ## Reading back -/

/-- An expression is read back as it was written, except for the grouping of conjunctions. -/
def Rereads (d : Dialect) (e : Expr) : Prop :=
  ∃ e', Sql.parseExpr d e.render = some e' ∧ (Outline.expr e').blank = (Outline.expr e).blank

theorem Rereads.conjunctsOf {d : Dialect} {e e' : Expr} (h : Rereads d e) (h' : Rereads d e')
    (same : e.render = e'.render) : conjunctsOf e = conjunctsOf e' := by
  obtain ⟨x, read, blank⟩ := h
  obtain ⟨x', read', blank'⟩ := h'
  rw [same] at read
  obtain rfl : x = x' := Option.some.inj (read.symm.trans read')
  rw [RowAccess.conjunctsOf, RowAccess.conjunctsOf, ← blank, ← blank']

/-- Statements are read back as they were written, except for the grouping of conjunctions: the whole text, and
by themselves the terms of their conditions and the predicates for them. -/
structure ReadBack (d : Dialect) (given : Scope → Except Error (List Predicate)) (list : List Statement) :
    Prop where
  text : ∃ list', Sql.parse d (renderStatements list) = some list' ∧ Alike list' list
  terms : ∀ p ∈ (Outline.statements list).places, ∀ e ∈ p.condition, ∀ t ∈ terms (asConjunct e), Rereads d t
  predicates : ∀ p ∈ (Outline.statements list).places, ∀ q ∈ granted given p.scope, Rereads d q.condition

theorem ReadBack.apart {d : Dialect} {given : Scope → Except Error (List Predicate)} {list : List Statement}
    (h : ReadBack d given list) : Apart given (Outline.statements list).places :=
  fun p mem e condition t term q listed same =>
    (h.terms p mem e condition t term).conjunctsOf (h.predicates p mem q listed) same

namespace Enforcer

variable {e : Enforcer σ} {ctx ctx' : Context} {s s' : BoundStatement} {r : Rule} {store : σ}
  {shared shared' : Shared σ}

/-- What becomes of a statement in a context is read back. -/
def ReadsBack (e : Enforcer σ) (ctx : Context) (s : BoundStatement) (store : σ) : Prop :=
  ∀ r list list' added store', e.pending ctx s = some r → Sql.parse e.config.dialect s.sql = some list →
    Rewrite.outcome (Rewrite.statements (.ofDialect e.config.dialect) (e.predicates ctx r)
      (1 < list.length) list) .nothing store = (.ok (list', added), store') →
    ReadBack e.config.dialect (e.given ctx r store) list'

/-! ## A pass -/

/-- A statement that nothing is pending for stays as it is. -/
theorem beforeQuery_rest (sound : shared.lookups.Sound e.config.operations) (nothing : e.pending ctx s = none) :
    (e.beforeQuery ctx s).run.run shared = (.ok s, ⟨((e.due ctx s).run shared.lookups).2, shared.store⟩) := by
  have due := (e.due_answer ctx sound s).1.trans nothing
  rw [e.beforeQuery_run]
  change (((e.plan ctx s).run.run shared).1.map _, ((e.plan ctx s).run.run shared).2) = _
  rw [plan_rest due]
  rfl

theorem beforeQuery_pending (sound : shared.lookups.Sound e.config.operations) (pending : e.pending ctx s = some r) :
    (e.beforeQuery ctx s).run.run shared =
      (((rewrite e.config.dialect (e.predicates ctx r) s.sql).run.run shared.store).1.map fun result =>
          afterPlan s (some ⟨result, r.concerns⟩),
        ⟨((e.due ctx s).run shared.lookups).2,
          ((rewrite e.config.dialect (e.predicates ctx r) s.sql).run.run shared.store).2⟩) := by
  have due := (e.due_answer ctx sound s).1.trans pending
  rw [e.beforeQuery_run]
  change (((e.plan ctx s).run.run shared).1.map _, ((e.plan ctx s).run.run shared).2) = _
  rw [e.plan_run due]
  rcases (rewrite e.config.dialect (e.predicates ctx r) s.sql).run.run shared.store with ⟨_ | _, _⟩ <;> rfl

/-- What becomes of a statement is up to the store, and not to what has been looked up. -/
theorem beforeQuery_same (sound : shared.lookups.Sound e.config.operations)
    (sound' : shared'.lookups.Sound e.config.operations) (same : shared'.store = shared.store) :
    ((e.beforeQuery ctx s).run.run shared').1 = ((e.beforeQuery ctx s).run.run shared).1 := by
  cases pending : e.pending ctx s with
  | none => rw [beforeQuery_rest sound pending, beforeQuery_rest sound' pending]
  | some r => rw [beforeQuery_pending sound pending, beforeQuery_pending sound' pending, same]

/-- A pass that succeeds has read the statement and rewritten it. -/
theorem beforeQuery_rewritten (sound : shared.lookups.Sound e.config.operations)
    (pending : e.pending ctx s = some r) (ran : (e.beforeQuery ctx s).run.run shared = (.ok s', shared')) :
    ∃ list list' added, Sql.parse e.config.dialect s.sql = some list ∧
      Rewrite.outcome (Rewrite.statements (.ofDialect e.config.dialect) (e.predicates ctx r)
        (1 < list.length) list) .nothing shared.store = (.ok (list', added), shared'.store) ∧
      s' = if added.isNothing then s else r.concerns.foldl .mark { s with sql := renderStatements list' } := by
  rw [beforeQuery_pending sound pending] at ran
  cases parsed : Sql.parse e.config.dialect s.sql with
  | none =>
    have malformed : (rewrite e.config.dialect (e.predicates ctx r) s.sql).run.run shared.store =
        (.error .malformed, shared.store) :=
      rewriteWith_malformed (.ofDialect e.config.dialect) (e.predicates ctx r) parsed shared.store
    rw [malformed] at ran
    cases ran
  | some list =>
    have rewritten : (rewrite e.config.dialect (e.predicates ctx r) s.sql).run.run shared.store = _ :=
      rewriteWith_run (.ofDialect e.config.dialect) (e.predicates ctx r) parsed shared.store
    rcases run : Rewrite.outcome (Rewrite.statements (.ofDialect e.config.dialect) (e.predicates ctx r)
      (1 < list.length) list) .nothing shared.store with ⟨fault | ⟨list', added⟩, store'⟩
    · rw [run] at rewritten
      rw [rewritten] at ran
      cases ran
    · rw [run] at rewritten
      rw [rewritten] at ran
      obtain ⟨after, rfl⟩ := Prod.mk.inj ran
      refine ⟨list, list', added, rfl, run, (Except.ok.inj after).symm.trans ?_⟩
      change (if (!added.isNothing) = true then r.concerns.foldl .mark
        { s with sql := if added.isNothing = true then s.sql else renderStatements list' } else s) = _
      cases added.isNothing <;> rfl

/-- A pass restricts a statement under the rule that is pending, and marks the concerns of this rule if it adds
a predicate. -/
theorem beforeQuery_restricts (sound : shared.lookups.Sound e.config.operations)
    (quiet : ((e.tenants.effective ctx).run.run shared.store).2 = shared.store)
    (pending : e.pending ctx s = some r)
    (plain : ∀ list, Sql.parse e.config.dialect s.sql = some list →
      Plain (e.given ctx r shared.store) (Outline.statements list).places)
    (readsBack : e.ReadsBack ctx s shared.store)
    (ran : (e.beforeQuery ctx s).run.run shared = (.ok s', shared')) :
    shared'.store = shared.store ∧
      (s' = s ∨ s'.operation = s.operation ∧ ∀ c, c ∈ s'.applied ↔ c ∈ s.applied ∨ c ∈ r.concerns) ∧
      ∃ list list', Sql.parse e.config.dialect s.sql = some list ∧ Sql.parse e.config.dialect s'.sql = some list' ∧
        Restricted (e.given ctx r shared.store) list list' := by
  obtain ⟨list, list', added, parsed, run, rfl⟩ := beforeQuery_rewritten sound pending ran
  obtain ⟨same, -, grows⟩ := Rewrite.statements_grow (.ofDialect e.config.dialect) (e.predicates ctx r)
    shared.store (fun scope => Prod.ext rfl (predicates_quiet quiet scope)) (1 < list.length) list
    .nothing list' added shared'.store run
  have back := readsBack r list list' added _ pending parsed run
  have grown := grows (plain list parsed)
  have restricted : Restricted (e.given ctx r shared.store) list list' :=
    ⟨grown.answered, grown.blank, grown.faces back.apart⟩
  refine ⟨same, ?_⟩
  cases nothing : added.isNothing with
  | true =>
    obtain rfl := Rewrite.statements_unchanged run nothing
    exact ⟨.inl rfl, list', list', parsed, parsed, restricted⟩
  | false =>
    obtain ⟨list'', read, alike⟩ := back.text
    obtain ⟨sql, operation, -⟩ := BoundStatement.foldl_mark_sql { s with sql := renderStatements list' } r.concerns
    obtain ⟨-, -, applied⟩ := BoundStatement.foldl_mark { s with sql := renderStatements list' } r.concerns
    rw [if_neg Bool.false_ne_true]
    refine ⟨.inr ⟨operation, applied⟩, list, list'', parsed, ?_, ?_⟩
    · rw [sql]
      exact read
    · exact ⟨restricted.answered, alike.blank.trans restricted.blank, alike.faces.trans restricted.faces⟩

theorem beforeQuery_lookups (sound : shared.lookups.Sound e.config.operations) :
    ((e.beforeQuery ctx s).run.run shared).2.lookups.Sound e.config.operations := by
  have sound' := (e.due_answer ctx sound s).2
  cases pending : e.pending ctx s with
  | none => rwa [beforeQuery_rest sound pending]
  | some r => rwa [beforeQuery_pending sound pending]

/-! ## Two passes -/

/-- What is due at first is due in the first pass, or not marked by it. -/
theorem isDue_passes {ctx₁ : Context} {s₁ : BoundStatement} (relaxes : ctx₁.Relaxes ctx)
    (applied : ∀ c, c ∈ s₁.applied ↔ c ∈ s.applied ∨ c ∈ (r.masked (e.isDue ctx₁ s)).concerns) (c : Concern) :
    e.isDue ctx s c = true ↔ e.isDue ctx₁ s c = true ∨ e.isDue ctx s₁ c = true := by
  constructor
  · intro due
    obtain ⟨enabled, active, unmarked⟩ := isDue_iff.mp due
    by_cases dealt : c ∈ (r.masked (e.isDue ctx₁ s)).concerns
    · exact .inl (Rule.mem_concerns_masked.mp dealt).2
    · refine .inr (isDue_iff.mpr ⟨enabled, active, ?_⟩)
      rw [applied]
      exact not_or.mpr ⟨unmarked, dealt⟩
  · rintro (due | due)
    · exact isDue_relaxed relaxes due
    · obtain ⟨enabled, active, unmarked⟩ := isDue_iff.mp due
      rw [applied, not_or] at unmarked
      exact isDue_iff.mpr ⟨enabled, active, unmarked.1⟩

/-- What is answered for concerns is what is answered for some of them and for the others. -/
theorem granted_either {keeps first second : Concern → Bool} {scope : Option Scope}
    (either : ∀ c, keeps c = true ↔ first c = true ∨ second c = true)
    (answered : ∀ sc ∈ scope, ∃ ps, e.given ctx (r.masked keeps) store sc = .ok ps)
    (answered₁ : ∀ sc ∈ scope, ∃ ps, e.given ctx (r.masked first) store sc = .ok ps)
    (answered₂ : ∀ sc ∈ scope, ∃ ps, e.given ctx (r.masked second) store sc = .ok ps) (q : Predicate) :
    q ∈ granted (e.given ctx (r.masked keeps) store) scope ↔
      q ∈ granted (e.given ctx (r.masked first) store) scope ∨
        q ∈ granted (e.given ctx (r.masked second) store) scope := by
  constructor
  · intro mem
    obtain ⟨c, kept, mem⟩ := granted_masked mem
    rcases (either c).mp kept with kept | kept
    · exact .inl (mem_granted_masked answered₁ kept mem)
    · exact .inr (mem_granted_masked answered₂ kept mem)
  · rintro (mem | mem)
    · obtain ⟨c, kept, mem⟩ := granted_masked mem
      exact mem_granted_masked answered ((either c).mpr (.inl kept)) mem
    · obtain ⟨c, kept, mem⟩ := granted_masked mem
      exact mem_granted_masked answered ((either c).mpr (.inr kept)) mem

/-- Places that are plain for a rule are plain for fewer of its concerns, also where they have moved to. -/
theorem plain_masked {keeps fewer : Concern → Bool} {places places' : List Place}
    (plain : Plain (e.given ctx (r.masked keeps) store) places)
    (answered : ∀ p ∈ places, ∀ sc ∈ p.scope, ∃ ps, e.given ctx (r.masked keeps) store sc = .ok ps)
    (le : ∀ c, fewer c = true → keeps c = true)
    (scopes : places'.map (fun p => (p.scope, p.wraps)) = places.map fun p => (p.scope, p.wraps)) :
    Plain (e.given ctx (r.masked fewer) store) places' := by
  have origin {p' : Place} (mem : p' ∈ places') : ∃ p ∈ places, p.scope = p'.scope ∧ p.wraps = p'.wraps := by
    have listed : (p'.scope, p'.wraps) ∈ places.map fun p => (p.scope, p.wraps) :=
      scopes ▸ List.mem_map_of_mem mem
    obtain ⟨p, member, same⟩ := List.mem_map.mp listed
    exact ⟨p, member, Prod.mk.inj same⟩
  have kept {p : Place} (mem : p ∈ places) {q : Predicate}
      (listed : q ∈ granted (e.given ctx (r.masked fewer) store) p.scope) :
      q ∈ granted (e.given ctx (r.masked keeps) store) p.scope := by
    obtain ⟨c, due, asked⟩ := granted_masked listed
    exact mem_granted_masked (answered p mem) (le c due) asked
  constructor
  · intro p' mem wraps
    obtain ⟨p, member, scope, same⟩ := origin mem
    rw [← scope]
    refine List.eq_nil_iff_forall_not_mem.mpr fun q listed => ?_
    have none := kept member listed
    rw [plain.unwrapped p member (same.trans wraps)] at none
    cases none
  · intro p' mem q listed
    obtain ⟨p, member, scope, -⟩ := origin mem
    rw [← scope] at listed
    exact plain.queryless p member q (kept member listed)

/-- Where nothing is pending of a rule, nothing is asked for. -/
theorem given_resting {keeps : Concern → Bool} (nothing : r.filter keeps = none) (scope : Scope) :
    e.given ctx (r.masked keeps) store scope = .ok [] := by
  have resting (c : Concern) : c ∉ (r.masked keeps).concerns := by
    intro mem
    obtain ⟨declared, kept⟩ := Rule.mem_concerns_masked.mp mem
    rw [Rule.filter_eq_none_iff.mp nothing c declared] at kept
    cases kept
  refine given_nothing ?_ ?_ scope
  · rw [← Bool.not_eq_true]
    exact fun tenant => resting .tenant (Rule.mem_concerns.mpr (.inl ⟨rfl, tenant⟩))
  · rw [← Option.not_isSome_iff_eq_none]
    exact fun data => resting .dataPermission (Rule.mem_concerns.mpr (.inr ⟨rfl, data⟩))

/-- What is pending with more suppressed is pending with less. -/
theorem pending_relaxed (relaxes : ctx.Relaxes ctx') (pending : e.pending ctx s = some r) :
    ∃ rule, Declarations.find? e.config.operations s.operation = some rule ∧ r = rule.masked (e.isDue ctx s) ∧
      e.pending ctx' s = some (rule.masked (e.isDue ctx' s)) := by
  obtain ⟨rule, declared, kept⟩ := Option.bind_eq_some_iff.mp (pending_eq.symm.trans pending)
  refine ⟨rule, declared, Rule.filter_some kept, ?_⟩
  rw [pending_eq, declared, Option.bind_some]
  cases kept' : rule.filter (e.isDue ctx' s) with
  | some r' => rw [Rule.filter_some kept']
  | none =>
    have none : rule.filter (e.isDue ctx s) = none := by
      refine Rule.filter_eq_none_iff.mpr fun c mem => ?_
      rw [← Bool.not_eq_true]
      intro due
      have due' := isDue_relaxed relaxes due
      rw [Rule.filter_eq_none_iff.mp kept' c mem] at due'
      cases due'
    rw [none] at kept
    cases kept

/-- A pass restricts a statement that has been read by what is due of its rule, be it nothing. -/
theorem beforeQuery_declared {rule : Rule} {list : List Statement}
    (sound : shared.lookups.Sound e.config.operations)
    (quiet : ((e.tenants.effective ctx).run.run shared.store).2 = shared.store)
    (declared : Declarations.find? e.config.operations s.operation = some rule)
    (parsed : Sql.parse e.config.dialect s.sql = some list)
    (plain : Plain (e.given ctx (rule.masked (e.isDue ctx s)) shared.store) (Outline.statements list).places)
    (readsBack : e.ReadsBack ctx s shared.store)
    (ran : (e.beforeQuery ctx s).run.run shared = (.ok s', shared')) :
    ∃ list', Sql.parse e.config.dialect s'.sql = some list' ∧
      Restricted (e.given ctx (rule.masked (e.isDue ctx s)) shared.store) list list' := by
  cases pending : e.pending ctx s with
  | none =>
    rw [beforeQuery_rest sound pending] at ran
    cases ran
    rw [pending_eq, declared, Option.bind_some] at pending
    exact ⟨list, parsed, .rest (given_resting pending)⟩
  | some r =>
    have kept := pending
    rw [pending_eq, declared, Option.bind_some] at kept
    obtain rfl := Rule.filter_some kept
    obtain ⟨-, -, list₀, list', parsed₀, parsed', restricted⟩ := beforeQuery_restricts sound quiet pending
      (fun list₀ parsed₀ => Option.some.inj (parsed.symm.trans parsed₀) ▸ plain) readsBack ran
    obtain rfl := Option.some.inj (parsed.symm.trans parsed₀)
    exact ⟨list', parsed', restricted⟩

/-- A statement passes the hook of queries in one context, and then again with less suppressed. If the calls
succeed, no table is wrapped and no predicate holds a query, it becomes alike to what it becomes in a single pass
with as little suppressed: the statements are the same but for their conditions, and these have, place by place,
the same conjuncts. What is written must be read back for that. Where no pass reads the statement, its text is
the same. -/
theorem passes_compose (e : Enforcer σ) {ctx₁ ctx : Context} (relaxes : ctx₁.Relaxes ctx)
    {s s₁ s₂ s' : BoundStatement} {shared shared₁ shared₂ shared' : Shared σ}
    (sound : shared.lookups.Sound e.config.operations)
    (quiet : ((e.tenants.effective ctx).run.run shared.store).2 = shared.store)
    (plain : ∀ r list, e.pending ctx s = some r → Sql.parse e.config.dialect s.sql = some list →
      Plain (e.given ctx r shared.store) (Outline.statements list).places)
    (readsBack : e.ReadsBack ctx₁ s shared.store ∧ e.ReadsBack ctx s₁ shared.store ∧ e.ReadsBack ctx s shared.store)
    (first : (e.beforeQuery ctx₁ s).run.run shared = (.ok s₁, shared₁))
    (second : (e.beforeQuery ctx s₁).run.run shared₁ = (.ok s₂, shared₂))
    (once : (e.beforeQuery ctx s).run.run shared = (.ok s', shared')) :
    s₂.sql = s'.sql ∨ ∃ list₂ list', Sql.parse e.config.dialect s₂.sql = some list₂ ∧
      Sql.parse e.config.dialect s'.sql = some list' ∧ Alike list₂ list' := by
  have sound₁ : shared₁.lookups.Sound e.config.operations := by
    have kept : ((e.beforeQuery ctx₁ s).run.run shared).2.lookups.Sound e.config.operations :=
      beforeQuery_lookups sound
    rwa [first] at kept
  -- a first pass that leaves the statement as it is makes no difference
  have unchanged (same : shared₁.store = shared.store) (rests : s₁ = s) : s₂.sql = s'.sql := by
    have again : ((e.beforeQuery ctx s).run.run shared₁).1 = ((e.beforeQuery ctx s).run.run shared).1 :=
      beforeQuery_same sound sound₁ same
    rw [once, ← rests, second] at again
    exact congrArg BoundStatement.sql (Except.ok.inj again)
  cases pending₁ : e.pending ctx₁ s with
  | none =>
    rw [beforeQuery_rest sound pending₁] at first
    obtain ⟨rests, rfl⟩ := Prod.mk.inj first
    exact .inl (unchanged rfl (Except.ok.inj rests).symm)
  | some r₁ =>
    obtain ⟨rule, declared, rfl, pending⟩ := pending_relaxed relaxes pending₁
    obtain ⟨-, -, list, list', parsed, parsed', restricted⟩ :=
      beforeQuery_restricts sound quiet pending (plain _ · pending) readsBack.2.2 once
    have plain := plain _ list pending parsed
    have given₁ : e.given ctx₁ (rule.masked (e.isDue ctx₁ s)) = e.given ctx (rule.masked (e.isDue ctx₁ s)) := by
      funext store scope
      rw [given, given, predicates_relaxed relaxes]
    have quiet₁ : ((e.tenants.effective ctx₁).run.run shared.store).2 = shared.store := by
      rw [← e.tenants.effective_relaxed relaxes]
      exact quiet
    have plain₁ := plain_masked plain restricted.answered (fun _ => isDue_relaxed relaxes) rfl
    rw [← given₁] at plain₁
    obtain ⟨same, marks, list₀, list₁, parsed₀, parsed₁, restricted₁⟩ := beforeQuery_restricts sound quiet₁ pending₁
      (fun list₀ parsed₀ => Option.some.inj (parsed.symm.trans parsed₀) ▸ plain₁) readsBack.1 first
    obtain rfl := Option.some.inj (parsed.symm.trans parsed₀)
    rw [given₁] at restricted₁
    rcases marks with rests | ⟨operation, applied⟩
    · exact .inl (unchanged same rests)
    have either := isDue_passes relaxes applied
    have plain₂ := plain_masked plain restricted.answered (fun c due => (either c).mpr (.inr due)) restricted₁.scopes
    rw [← same] at plain₂ quiet readsBack
    obtain ⟨list₂, parsed₂, restricted₂⟩ := beforeQuery_declared sound₁ quiet (operation ▸ declared) parsed₁ plain₂
      readsBack.2.1 second
    rw [same] at restricted₂
    refine .inr ⟨list₂, list', parsed₂, parsed', restricted₁.compose restricted₂ restricted fun p mem q => ?_⟩
    refine granted_either either (restricted.answered p mem) (restricted₁.answered p mem) ?_ q
    -- the second pass has asked about the same scope
    have listed : (p.scope, p.wraps) ∈ (Outline.statements list₁).places.map fun p => (p.scope, p.wraps) :=
      restricted₁.scopes ▸ List.mem_map_of_mem mem
    obtain ⟨p₁, mem₁, moved⟩ := List.mem_map.mp listed
    exact (Prod.mk.inj moved).1 ▸ restricted₂.answered p₁ mem₁

end Enforcer

/-! ## Orders in two passes -/

namespace TwoPasses

open BoundStatement (start)

/-- Orders are restricted by data permissions, and to a tenant, which is named by some column. -/
def config (column : String) : Config where
  tenancy := { enabled := true, defaultColumn := column }
  operations := [("orders", { tenant := true, data := some {} })]

def enforcer (column : String) : Enforcer Memory where
  config := config column
  tenants := .ofTenancy (config column).tenancy .memory
  directory := Departments.directory ⟨[], []⟩

/-- The enforcer by a column of each table. -/
def rules : Enforcer Memory := enforcer "tenant_id"

/-- Somebody of the tenant without any role. -/
def context : Context := .start (.user ⟨"clerk", some "T1", none, [], false⟩)

def shared : Shared Memory := ⟨.none, .empty⟩

/-- A query of orders, before any pass. -/
def query : BoundStatement := start "orders" .select "SELECT * FROM orders"

/-- All orders that satisfy a condition. -/
def orders (condition : Option Expr) : List Statement :=
  [.query (.mk false [] (.select ⟨.standard, [], [.mk (.wildcard []) none []], "",
    [.mk (.table [⟨"orders", none⟩] [] .none false none []) []], [], none, condition, [], [], [], none, [],
    false, none, []⟩) [] [])]

/-- Whether two expressions of names, literals and operators are the same. -/
def isSame : Expr → Expr → Bool
  | .name parts, .name parts' => parts == parts'
  | .literal value, .literal value' => value == value'
  | .binary op left right, .binary op' left' right' => op == op' && isSame left left' && isSame right right'
  | _, _ => false

theorem eq_of_isSame {e e' : Expr} (same : isSame e e' = true) : e = e' := by
  fun_induction isSame e e' with
  | case1 parts parts' => rw [beq_iff_eq.mp same]
  | case2 value value' => rw [beq_iff_eq.mp same]
  | case3 op left right op' left' right' ihl ihr =>
    obtain ⟨⟨op, left⟩, right⟩ := by simpa only [Bool.and_eq_true] using same
    rw [beq_iff_eq.mp op, ihl left, ihr right]
  | case4 => cases same

/-- Whether statements are all orders that satisfy a condition. -/
def isOrders (condition : Option Expr) : List Statement → Bool
  | [.query (.mk false [] (.select ⟨.standard, [], [.mk (.wildcard []) none []], "",
      [.mk (.table [table] [] .none false none []) []], [], none, found, [], [], [], none, [],
      false, none, []⟩) [] [])] =>
    table == ⟨"orders", none⟩ && match condition, found with
      | none, none => true
      | some e, some e' => isSame e e'
      | _, _ => false
  | _ => false

theorem eq_of_isOrders {condition : Option Expr} {list : List Statement} (same : isOrders condition list = true) :
    list = orders condition := by
  unfold isOrders at same
  split at same
  · obtain ⟨table, conditions⟩ := Bool.and_eq_true_iff.mp same
    rw [beq_iff_eq.mp table]
    split at conditions
    · rfl
    · rw [eq_of_isSame conditions]
      rfl
    · cases conditions
  · cases same

/-- The scope of orders. -/
def scope : Scope := ⟨.select, .filter, [⟨"orders", none⟩], 1⟩

theorem places_orders {condition : Option Expr} (simple : (Outline.expr? condition).places = []) :
    (Outline.statements (orders condition)).places = [⟨some scope, condition, false⟩] := by
  have places : (Outline.statements (orders condition)).places =
      (((Outline.expr? condition).places ++ [⟨some scope, condition, false⟩]) ++ []) ++ [] := rfl
  rw [places, simple]
  rfl

/-- Whether an expression is read back. -/
def rereads (e : Expr) : Bool := (Sql.parseExpr rules.config.dialect e.render).any (isSame e)

theorem rereads_of {e : Expr} (read : rereads e = true) : Rereads rules.config.dialect e := by
  obtain ⟨e', parsed, same⟩ := Option.any_eq_true _ _ |>.mp read
  exact ⟨e', parsed, by rw [eq_of_isSame same]⟩

/-- Whether orders are read back with the terms of their condition and the predicates for them. -/
def readBack (given : Scope → Except Error (List Predicate)) (condition : Expr) : Bool :=
  (Sql.parse rules.config.dialect (renderStatements (orders (some condition)))).any (isOrders (some condition)) &&
    (terms (asConjunct condition)).all rereads && (granted given (some scope)).all (rereads ·.condition)

theorem readBack_of {given : Scope → Except Error (List Predicate)} {condition : Expr}
    (simple : (Outline.expr condition).places = []) (read : readBack given condition = true) :
    ReadBack rules.config.dialect given (orders (some condition)) := by
  have places : (Outline.statements (orders (some condition))).places = [⟨some scope, some condition, false⟩] :=
    places_orders simple
  simp only [readBack, Bool.and_eq_true, List.all_eq_true] at read
  obtain ⟨⟨text, terms⟩, predicates⟩ := read
  obtain ⟨list, parsed, same⟩ := Option.any_eq_true _ _ |>.mp text
  obtain rfl := eq_of_isOrders same
  refine ⟨⟨_, parsed, rfl, rfl⟩, ?_, ?_⟩
  · rw [places]
    intro p mem e known t term
    obtain rfl := List.mem_singleton.mp mem
    obtain rfl := Option.some.inj known
    exact rereads_of (terms t term)
  · rw [places]
    intro p mem q listed
    obtain rfl := List.mem_singleton.mp mem
    exact rereads_of (predicates q listed)

theorem readsBack_of {ctx : Context} {s : BoundStatement} (r : Rule) (condition : Option Expr) (written : Expr)
    (pending : rules.pending ctx s = some r)
    (parsed : (Sql.parse rules.config.dialect s.sql).any (isOrders condition) = true)
    (rewritten : (Rewrite.outcome (Rewrite.statements (.ofDialect rules.config.dialect) (rules.predicates ctx r)
      false (orders condition)) .nothing Memory.empty).1.toOption.any (fun x => isOrders (some written) x.1) = true)
    (simple : (Outline.expr written).places = [])
    (read : readBack (rules.given ctx r .empty) written = true) : rules.ReadsBack ctx s .empty := by
  intro r' list list' added store pending' parsed' run
  obtain rfl := Option.some.inj (pending.symm.trans pending')
  obtain ⟨list₀, parsed₀, same⟩ := Option.any_eq_true _ _ |>.mp parsed
  obtain rfl := Option.some.inj (parsed₀.symm.trans parsed')
  obtain rfl := eq_of_isOrders same
  obtain ⟨⟨list₁, added₁⟩, store₁, run₁, same⟩ := ok_of_any rewritten
  obtain rfl : list₁ = orders (some written) := eq_of_isOrders same
  obtain ⟨made, -⟩ := Prod.mk.inj (run₁.symm.trans run)
  obtain ⟨rfl, -⟩ := Prod.mk.inj (Except.ok.inj made)
  exact readBack_of simple read

/-- No row satisfies it. -/
def never : Expr := .binary .eq (.literal (.number "1" false)) (.literal (.number "0" false))

def ownTenant : Expr := columnIs "orders" "tenant_id" "T1"

/-- The query after a pass with tenants suppressed, -/
def half : BoundStatement := ⟨"SELECT * FROM orders WHERE 1 = 0", "orders", .select, [.dataPermission]⟩

/-- after another one with nothing suppressed, -/
def whole : BoundStatement :=
  ⟨"SELECT * FROM orders WHERE 1 = 0 AND orders.tenant_id = 'T1'", "orders", .select, [.dataPermission, .tenant]⟩

/-- and after a single one with nothing suppressed. -/
def atOnce : BoundStatement :=
  ⟨"SELECT * FROM orders WHERE orders.tenant_id = 'T1' AND 1 = 0", "orders", .select, [.tenant, .dataPermission]⟩

/-- Restricted by data permissions first, orders have the same conditions in the end as in one pass, in another
order. -/
theorem orders_in_passes : ∃ shared₁ shared₂ shared' list₂ list',
    (rules.beforeQuery (context.enable .tenant) query).run.run shared = (.ok half, shared₁) ∧
      (rules.beforeQuery context half).run.run shared₁ = (.ok whole, shared₂) ∧
      (rules.beforeQuery context query).run.run shared = (.ok atOnce, shared') ∧
      Sql.parse rules.config.dialect whole.sql = some list₂ ∧
      Sql.parse rules.config.dialect atOnce.sql = some list' ∧ Alike list₂ list' := by
  have first := Prod.fst_eq_iff.mp (show ((rules.beforeQuery (context.enable .tenant) query).run.run shared).1 =
    .ok half by decide +kernel)
  have second := Prod.fst_eq_iff.mp (show ((rules.beforeQuery context half).run.run
    ((rules.beforeQuery (context.enable .tenant) query).run.run shared).2).1 = .ok whole by decide +kernel)
  have once := Prod.fst_eq_iff.mp (show ((rules.beforeQuery context query).run.run shared).1 = .ok atOnce by
    decide +kernel)
  have parsed : (Sql.parse rules.config.dialect query.sql).any (isOrders none) = true := by decide +kernel
  have pending : rules.pending context query = some ⟨"orders", true, some {}⟩ := by decide +kernel
  have plain : ∀ r list, rules.pending context query = some r → Sql.parse rules.config.dialect query.sql = some list →
      Plain (rules.given context r .empty) (Outline.statements list).places := by
    intro r list pending' parsed'
    obtain rfl := Option.some.inj (pending.symm.trans pending')
    rw [parsed', Option.any_some] at parsed
    rw [eq_of_isOrders parsed, places_orders rfl]
    have simple : (granted (rules.given context ⟨"orders", true, some {}⟩ .empty) (some scope)).all
        (fun q => (Outline.expr q.condition).places.isEmpty) = true := by decide +kernel
    constructor
    · intro p mem wraps
      obtain rfl := List.mem_singleton.mp mem
      cases wraps
    · intro p mem q listed
      obtain rfl := List.mem_singleton.mp mem
      exact List.isEmpty_iff.mp (List.all_eq_true.mp simple q listed)
  have readsBack₁ : rules.ReadsBack (context.enable .tenant) query .empty :=
    readsBack_of ⟨"orders", false, some {}⟩ none never (by decide +kernel) parsed (by decide +kernel) rfl
      (by decide +kernel)
  have readsBack₂ : rules.ReadsBack context half .empty :=
    readsBack_of ⟨"orders", true, none⟩ (some never) (.binary .and never ownTenant) (by decide +kernel)
      (by decide +kernel) (by decide +kernel) rfl (by decide +kernel)
  have readsBack : rules.ReadsBack context query .empty :=
    readsBack_of ⟨"orders", true, some {}⟩ none (.binary .and ownTenant never) pending parsed (by decide +kernel) rfl
      (by decide +kernel)
  have quiet : ((rules.tenants.effective context).run.run shared.store).2 = shared.store := rfl
  have composed := rules.passes_compose (context.relaxes_enable .tenant) (Lookups.sound_none _) quiet plain
    ⟨readsBack₁, readsBack₂, readsBack⟩ first second once
  have apart : whole.sql ≠ atOnce.sql := by decide +kernel
  obtain ⟨list₂, list', parsed₂, parsed', alike⟩ := composed.resolve_left apart
  exact ⟨_, _, _, list₂, list', first, second, once, parsed₂, parsed', alike⟩

/-! ### A column with a query -/

/-- The tenant of each row is that of some user. -/
def byUser : Enforcer Memory := enforcer "(SELECT u.t FROM users u)"

/-- The query after a pass with data permissions suppressed, -/
def byUserHalf : BoundStatement :=
  ⟨"SELECT * FROM orders WHERE (SELECT u.t FROM users u) = 'T1'", "orders", .select, [.tenant]⟩

/-- after another one with nothing suppressed, -/
def byUserWhole : BoundStatement :=
  ⟨"SELECT * FROM orders WHERE (SELECT u.t FROM users u WHERE 1 = 0) = 'T1' AND 1 = 0", "orders", .select,
    [.tenant, .dataPermission]⟩

/-- and after a single one with nothing suppressed. -/
def byUserAtOnce : BoundStatement :=
  ⟨"SELECT * FROM orders WHERE (SELECT u.t FROM users u) = 'T1' AND 1 = 0", "orders", .select,
    [.tenant, .dataPermission]⟩

/-- Where the column of the tenant holds a query, the second pass restricts that query too, though no table is
wrapped and the predicate that denies everything holds no query. -/
theorem query_in_column_restricted : ∃ shared₁ shared₂ shared' deny list list₂ list',
    Enforcer.build byUser.config .memory byUser.directory = .ok byUser ∧
      Sql.parseExpr byUser.config.dialect byUser.config.dataPermission.denyPredicate = some deny ∧
      (Outline.expr deny).places = [] ∧
      Sql.parse byUser.config.dialect query.sql = some list ∧
      (∀ p ∈ (Outline.statements list).places, p.wraps = false) ∧
      (byUser.beforeQuery (context.enable .dataPermission) query).run.run shared = (.ok byUserHalf, shared₁) ∧
      (byUser.beforeQuery context byUserHalf).run.run shared₁ = (.ok byUserWhole, shared₂) ∧
      (byUser.beforeQuery context query).run.run shared = (.ok byUserAtOnce, shared') ∧
      Sql.parse byUser.config.dialect byUserWhole.sql = some list₂ ∧
      Sql.parse byUser.config.dialect byUserAtOnce.sql = some list' ∧ ¬ Alike list₂ list' := by
  have valid : byUser.config.fault? = none := by decide +kernel
  have denies : (Sql.parseExpr byUser.config.dialect byUser.config.dataPermission.denyPredicate).any
      (isSame never) = true := by decide +kernel
  have parsed : (Sql.parse byUser.config.dialect query.sql).any (isOrders none) = true := by decide +kernel
  have first := Prod.fst_eq_iff.mp (show ((byUser.beforeQuery (context.enable .dataPermission) query).run.run
    shared).1 = .ok byUserHalf by decide +kernel)
  have second := Prod.fst_eq_iff.mp (show ((byUser.beforeQuery context byUserHalf).run.run
    ((byUser.beforeQuery (context.enable .dataPermission) query).run.run shared).2).1 = .ok byUserWhole by
      decide +kernel)
  have once := Prod.fst_eq_iff.mp (show ((byUser.beforeQuery context query).run.run shared).1 =
    .ok byUserAtOnce by decide +kernel)
  have restricted : (Sql.parse byUser.config.dialect byUserWhole.sql).any (fun list =>
      (Outline.statements list).places.map (·.condition.isSome) = [true, true]) = true := by decide +kernel
  have unrestricted : (Sql.parse byUser.config.dialect byUserAtOnce.sql).any (fun list =>
      (Outline.statements list).places.map (·.condition.isSome) = [false, true]) = true := by decide +kernel
  obtain ⟨deny, read, same⟩ := Option.any_eq_true _ _ |>.mp denies
  obtain rfl := eq_of_isSame same
  obtain ⟨list, parsed, same⟩ := Option.any_eq_true _ _ |>.mp parsed
  obtain rfl := eq_of_isOrders same
  obtain ⟨list₂, parsed₂, both⟩ := Option.any_eq_true _ _ |>.mp restricted
  obtain ⟨list', parsed', outer⟩ := Option.any_eq_true _ _ |>.mp unrestricted
  have built : Enforcer.build byUser.config .memory byUser.directory = .ok byUser :=
    Enforcer.build_eq_ok.mpr ⟨valid, by rw [read]; rfl, rfl⟩
  refine ⟨_, _, _, never, orders none, list₂, list', built, read, rfl, parsed, ?_, first, second, once, parsed₂,
    parsed', fun alike => ?_⟩
  · rw [places_orders rfl]
    simp
  · have conditions := alike.conditions
    rw [of_decide_eq_true both, of_decide_eq_true outer] at conditions
    cases conditions

end TwoPasses

end RowAccess
