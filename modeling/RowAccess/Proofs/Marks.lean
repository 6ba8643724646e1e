import RowAccess.Proofs.Hooks
import RowAccess.Proofs.OneTenant
import RowAccess.Proofs.Roles
/-!
# What a mark stands for

A hook that adds a predicate to a statement marks all concerns that its rule asks for and that are not
suppressed, whichever of them the predicate is for. So a mark tells that the rule was applied by some call,
and the concern was dealt with by that call only if it restricts some scope for the caller of that very call
(`marked_iff_changed`): none is restricted to a tenant that has but tables that all tenants share, and none
by data permissions for a caller who is not restricted by them. Later calls pass over the concern all the
same, for whomever they are.
-/

namespace RowAccess

variable {σ : Type}

/-! ## Data that is restricted -/

namespace Config.DataRule

/-- Whether a rule is about something that is read in a scope. -/
def concernsScope (rule : DataRule) (scope : Scope) : Bool :=
  match rule.table with
  | some name => scope.tables.any (·.isNamed name)
  | none => scope.placement = .filter && 0 < scope.visible

end Config.DataRule

namespace Enforcer

variable {e : Enforcer σ} {ctx : Context} {r : Rule} {scope : Scope} {ps : List Predicate}

theorem dataPredicate?_isNone {data : Config.DataRule} {qualifier table : Option String}
    {p : Option Predicate} (answered : e.dataPredicate? ctx data qualifier table = .ok p) :
    p.isNone = data.isLifted ctx.session := by
  rw [dataPredicate?] at answered
  split at answered
  · cases answered
  · next found =>
    cases answered
    exact Config.DataRule.text?_isNone found
  · next text found =>
    have restricted := Config.DataRule.text?_isNone found
    rw [← restricted]
    rcases read : e.predicate .dataPermission table text with fault | p
    all_goals
      rw [read] at answered
      cases answered
    rfl

/-- Predicates that are asked for one after the other are none if there are none to ask for, or each has
none. -/
theorem filterMap_mapM_isEmpty {α β : Type} {f : α → Except Error (Option β)} {lifted : Bool}
    (each : ∀ a b, f a = .ok b → b.isNone = lifted) :
    ∀ {as : List α} {bs : List (Option β)}, as.mapM f = .ok bs →
      (bs.filterMap id).isEmpty = (as.isEmpty || lifted)
  | [], _, h => by
    cases h
    rfl
  | a :: as, _, h => by
    obtain ⟨b, bs, first, others, rfl⟩ := mapM_cons_ok h
    have rest := filterMap_mapM_isEmpty each others
    have head := each a b first
    cases b with
    | none =>
      rw [List.filterMap_cons_none rfl, rest, ← head]
      simp
    | some b =>
      rw [← head]
      rfl

/-- A rule for data has predicates for a scope exactly if it is about something there and does not leave the
caller every row. -/
theorem dataPredicates_isEmpty {data : Config.DataRule}
    (answered : e.dataPredicates ctx data scope = .ok ps) :
    ps.isEmpty = !(data.concernsScope scope && !data.isLifted ctx.session) := by
  rw [dataPredicates] at answered
  rw [Config.DataRule.concernsScope]
  cases named : data.table with
  | some name =>
    rw [named] at answered
    dsimp only at answered ⊢
    rcases found : (scope.tables.filter fun t => t.isNamed name).mapM fun t =>
      e.dataPredicate? ctx data (scope.qualifierFor t) (some t.baseName) with fault | answers
    · rw [found] at answered
      cases answered
    · rw [found] at answered
      cases answered
      have named : (scope.tables.filter fun t => t.isNamed name).isEmpty =
          !scope.tables.any fun t => t.isNamed name := by
        rw [Bool.eq_iff_iff]
        simp
      rw [filterMap_mapM_isEmpty (fun _ _ => dataPredicate?_isNone) found, named, Bool.not_and, Bool.not_not]
  | none =>
    rw [named] at answered
    dsimp only at answered ⊢
    by_cases touched : (scope.placement = .filter && 0 < scope.visible) = true
    · rw [if_pos touched] at answered
      rcases found : e.dataPredicate? ctx data none none with fault | p
      · rw [found] at answered
        cases answered
      · rw [found] at answered
        cases answered
        rw [touched, ← dataPredicate?_isNone found]
        cases p <;> rfl
    · rw [if_neg touched] at answered
      cases answered
      rw [Bool.not_eq_true _ |>.mp touched]
      rfl

/-! ## Concerns of predicates -/

/-- Whether a concern of a rule restricts something in a scope for the caller of a context. -/
def restricts (e : Enforcer σ) (ctx : Context) (r : Rule) (scope : Scope) : Concern → Bool
  | .tenant => r.tenant && scope.tables.any fun t => !e.isExempt t
  | .dataPermission => r.data.any fun data => data.concernsScope scope && !data.isLifted ctx.session
  | _ => false

/-- The predicates for the tenant are those of the tables that are not exempt. -/
theorem tenantPredicates_concern {tables : List Table} {s s' : σ}
    (answered : (e.tenantPredicates ctx scope none tables).run.run s = (.ok ps, s')) :
    (∀ p ∈ ps, p.concern = .tenant) ∧ (ps ≠ [] ↔ (tables.any fun t => !e.isExempt t) = true) := by
  have any : (tables.any fun t => !e.isExempt t) = e.restrictsAny tables := by
    simp only [restrictsAny, tenantColumn?_isSome]
  rw [any]
  cases needed : e.restrictsAny tables with
  | false =>
    rw [e.tenantPredicates_shared ctx none s needed] at answered
    cases answered
    exact ⟨fun _ mem => absurd mem List.not_mem_nil, iff_of_false (fun h => h rfl) Bool.false_ne_true⟩
  | true =>
    rcases found : (e.requireTenant ctx).run.run s with ⟨fault | tenant, s₁⟩
    · rw [e.tenantPredicates_fails ctx found needed] at answered
      cases answered
    · have conditions : e.tenantConditions scope tenant tables ≠ [] := by
        rw [ne_eq, e.tenantConditions_eq_nil, needed]
        exact Bool.noConfusion
      rw [e.tenantPredicates_run ctx scope found _ conditions] at answered
      have read := (Prod.mk.inj answered).1
      constructor
      · intro p mem
        obtain ⟨condition, -, made⟩ := mapM_ok_mem read p mem
        exact (e.readTenant_ok made).1
      · refine iff_of_true ?_ rfl
        rintro rfl
        obtain ⟨t, mem, restricted⟩ := e.restrictsAny_iff.mp needed
        have kept : t ∈ tables.filter fun t => !e.isExempt t := List.mem_filter.mpr ⟨mem, by simp [restricted]⟩
        rw [List.forall₂_nil_right_iff.mp (compares_of_read read)] at kept
        cases kept

/-- A predicate of a concern is answered for a scope exactly if the concern restricts something there. -/
theorem predicates_concern_iff {s s' : σ}
    (answered : (e.predicates ctx r scope).run.run s = (.ok ps, s')) (c : Concern) :
    (∃ p ∈ ps, p.concern = c) ↔ e.restricts ctx r scope c = true := by
  obtain ⟨forTenant, forData, rfl, tenant, data⟩ := e.predicates_ok ctx answered
  have tenants : (∀ p ∈ forTenant, p.concern = .tenant) ∧
      (forTenant ≠ [] ↔ e.restricts ctx r scope .tenant = true) := by
    rw [restricts]
    cases asked : r.tenant with
    | false =>
      rw [asked] at tenant
      cases tenant
      exact ⟨fun _ mem => absurd mem List.not_mem_nil, iff_of_false (fun h => h rfl) Bool.false_ne_true⟩
    | true =>
      rw [asked] at tenant
      exact tenantPredicates_concern tenant
  have rows : (∀ p ∈ forData, p.concern = .dataPermission) ∧
      (forData ≠ [] ↔ e.restricts ctx r scope .dataPermission = true) := by
    refine ⟨data_concern data, ?_⟩
    rw [restricts]
    cases asked : r.data with
    | none =>
      rw [asked] at data
      cases data
      exact iff_of_false (fun h => h rfl) Bool.false_ne_true
    | some rule =>
      rw [asked] at data
      have empty := dataPredicates_isEmpty data
      rw [Option.any_some, ne_eq, ← List.isEmpty_iff, empty]
      simp
  have some_of {ps : List Predicate} {own : Concern} (all : ∀ p ∈ ps, p.concern = own) :
      (∃ p ∈ ps, p.concern = c) ↔ c = own ∧ ps ≠ [] := by
    constructor
    · rintro ⟨p, mem, rfl⟩
      exact ⟨all p mem, List.ne_nil_of_mem mem⟩
    · rintro ⟨rfl, nonempty⟩
      obtain ⟨p, mem⟩ := List.exists_mem_of_ne_nil ps nonempty
      exact ⟨p, mem, all p mem⟩
  simp only [List.mem_append, or_and_right, exists_or]
  rw [some_of tenants.1, some_of rows.1, tenants.2, rows.2]
  cases c <;> simp [restricts]

end Enforcer

/-! ## What a call does -/

theorem Asked.answered {source : Source σ} {t : Transcript} {s s' : σ} (chain : Asked source s t s') :
    ∀ entry ∈ t, ∃ s₁ s₂, (source entry.1).run.run s₁ = (entry.2, s₂) := by
  induction chain with
  | nil => exact nofun
  | cons asked _ ih =>
    intro entry mem
    rcases List.mem_cons.mp mem with rfl | mem
    · exact ⟨_, _, asked⟩
    · exact ih entry mem

namespace HookCall

variable {e : Enforcer σ}

/-- What the enforcer is asked in a call that rewrites a statement under a rule, and what it answers. -/
def transcript (call : HookCall e) (s : BoundStatement) (r : Rule) : Transcript :=
  e.transcript call.context r s.sql call.shared.store

/-- The call rewrites a statement under what its context leaves in force of the rule, and adds a predicate. -/
structure Changes (call : HookCall e) (s : BoundStatement) (r : Rule) (result : Rewritten) : Prop where
  restricts : call.hook.restricts s.command = true
  pending : e.pending call.context s = some r
  rewritten : ((rewrite e.config.dialect (e.predicates call.context r) s.sql).run.run call.shared.store).1 =
    .ok result
  changed : result.isChanged = true

/-- A predicate of the concern is answered for some scope of a statement. It is in the condition of the
scope afterwards, whether it was there before or not. -/
def DealsWith (call : HookCall e) (s : BoundStatement) (r : Rule) (c : Concern) : Prop :=
  ∃ entry ∈ call.transcript s r, ∃ ps, entry.2 = .ok ps ∧ ∃ p ∈ ps, p.concern = c

variable {call : HookCall e} {s : BoundStatement} {r : Rule} {result : Rewritten}

/-- The plan by which a call changes a statement is for the concerns of the rule that is pending. -/
theorem change?_eq_some_iff {p : Plan} :
    call.change? s = some p ↔ ∃ r, call.Changes s r p.result ∧ p.concerns = r.concerns := by
  have due := (e.due_answer call.context call.sound s).1
  constructor
  · intro found
    rw [change?] at found
    by_cases restricts : call.hook.restricts s.command = true
    · rw [if_pos restricts] at found
      cases pending : e.pending call.context s with
      | none =>
        rw [Enforcer.plan_rest (due.trans pending)] at found
        cases found
      | some r =>
        rw [e.plan_run (due.trans pending)] at found
        rcases ran : ((rewrite e.config.dialect (e.predicates call.context r) s.sql).run.run
          call.shared.store).1 with fault | result
        · rw [ran] at found
          cases found
        · rw [ran] at found
          obtain ⟨made, changed⟩ := Option.filter_eq_some_iff.mp found
          cases made
          exact ⟨r, ⟨restricts, pending, ran, changed⟩, rfl⟩
    · rw [if_neg restricts] at found
      cases found
  · rintro ⟨r, ⟨restricts, pending, rewritten, changed⟩, concerns⟩
    rw [change?, if_pos restricts, e.plan_run (due.trans pending), rewritten, ← concerns]
    exact Option.filter_eq_some_iff.mpr ⟨rfl, changed⟩

/-- A call that changes a statement succeeds. -/
theorem Changes.succeeds (changes : call.Changes s r result) : (call.held s).2 = none := by
  have due := (e.due_answer call.context call.sound s).1.trans changes.pending
  rw [HookCall.held, Hook.held_run, if_pos changes.restricts, e.plan_run due, changes.rewritten]
  rfl

/-- A call marks the concerns of the rule under which it changes a statement, if it does, and no other. -/
theorem mem_held_applied (call : HookCall e) (s : BoundStatement) (c : Concern) :
    c ∈ (call.held s).1.applied ↔
      c ∈ s.applied ∨ ∃ r result, call.Changes s r result ∧ c ∈ r.concerns := by
  rw [call.held_fst]
  cases found : call.change? s with
  | none =>
    refine ⟨.inl, ?_⟩
    rintro (marked | ⟨r, result, changes, -⟩)
    · exact marked
    · have changed : call.change? s = some ⟨result, r.concerns⟩ := change?_eq_some_iff.mpr ⟨r, changes, rfl⟩
      rw [found] at changed
      cases changed
  | some p =>
    rw [(BoundStatement.foldl_mark { s with sql := p.result.sql } p.concerns).2.2 c]
    obtain ⟨r, changes, concerns⟩ := change?_eq_some_iff.mp found
    refine or_congr_right ⟨fun mem => ⟨r, p.result, changes, concerns ▸ mem⟩, ?_⟩
    rintro ⟨r', result', changes', mem⟩
    obtain rfl := Option.some.inj (changes.pending.symm.trans changes'.pending)
    rwa [concerns]

/-- A call that changes a statement deals with a concern exactly if the concern restricts something in a scope
of the statement for the caller. -/
theorem Changes.dealsWith_iff (changes : call.Changes s r result) (c : Concern) :
    call.DealsWith s r c ↔
      ∃ entry ∈ call.transcript s r, e.restricts call.context r entry.1 c = true := by
  obtain ⟨chain, faults⟩ := e.transcript_asked call.context r s.sql call.shared.store
  constructor
  · rintro ⟨⟨scope, answer⟩, mem, ps, rfl, own⟩
    obtain ⟨s₁, s₂, answered⟩ := chain.answered _ mem
    exact ⟨_, mem, (Enforcer.predicates_concern_iff answered c).mp own⟩
  · rintro ⟨⟨scope, fault | ps⟩, mem, restricted⟩
    · have failed := faults scope fault mem
      rw [changes.rewritten] at failed
      cases failed
    · obtain ⟨s₁, s₂, answered⟩ := chain.answered _ mem
      exact ⟨_, mem, ps, rfl, (Enforcer.predicates_concern_iff answered c).mpr restricted⟩

/-- It deals with some concern of the rule at least. -/
theorem Changes.dealsWith_some (changes : call.Changes s r result) :
    ∃ c ∈ r.concerns, call.DealsWith s r c := by
  obtain ⟨text, mem⟩ : ∃ text, text ∈ result.added.predicates := by
    have changed := changes.changed
    rw [Rewritten.isChanged, Added.isNothing] at changed
    exact List.exists_mem_of_ne_nil _ (by simpa using changed)
  obtain ⟨entry, mem, ps, answer, p, own, -⟩ := rewriteWith_adds (.ofDialect e.config.dialect)
    (e.predicates call.context r) s.sql call.shared.store changes.rewritten text mem
  have dealt : call.DealsWith s r p.concern := ⟨entry, mem, ps, answer, p, own, rfl⟩
  obtain ⟨entry', -, restricted⟩ := (changes.dealsWith_iff p.concern).mp dealt
  refine ⟨p.concern, Rule.mem_concerns.mpr ?_, dealt⟩
  cases concern : p.concern with
  | tenant =>
    rw [concern] at restricted
    exact .inl ⟨rfl, (Bool.and_eq_true_iff.mp restricted).1⟩
  | dataPermission =>
    rw [concern] at restricted
    exact .inr ⟨rfl, Option.isSome_of_any restricted⟩
  | _ =>
    rw [concern] at restricted
    cases restricted

end HookCall

/-! ## Marks -/

open BoundStatement (start)

/-- The marks on a statement are those it had, and those of the calls that changed it. -/
theorem BoundStatement.mem_after_applied {e : Enforcer σ} (s : BoundStatement) (calls : List (HookCall e))
    (c : Concern) :
    c ∈ (s.after calls).applied ↔ c ∈ s.applied ∨
      ∃ before call later r result, calls = before ++ call :: later ∧
        call.Changes (s.after before) r result ∧ c ∈ r.concerns := by
  induction calls generalizing s with
  | nil => simp [after]
  | cons call calls ih =>
    refine (ih (call.held s).1).trans ?_
    rw [HookCall.mem_held_applied, or_assoc]
    refine or_congr_right ⟨?_, ?_⟩
    · rintro (⟨r, result, changes⟩ | ⟨before, call', later, r, result, rfl, changes⟩)
      · exact ⟨[], call, calls, r, result, rfl, changes⟩
      · exact ⟨call :: before, call', later, r, result, rfl, changes⟩
    · rintro ⟨_ | ⟨first, before⟩, call', later, r, result, split, changes⟩
      all_goals obtain ⟨rfl, rfl⟩ := List.cons.inj split
      · exact .inl ⟨r, result, changes⟩
      · exact .inr ⟨before, call', later, r, result, rfl, changes⟩

/-- A concern is marked on a statement exactly if one of the hooks that it passed added a predicate to it under
a rule for this concern. That call succeeded and dealt with one of the concerns of the rule; which ones it
dealt with is up to its caller: those that restrict something for this caller in some scope that it asked
about. -/
theorem marked_iff_changed (e : Enforcer σ) (operation : String) (command : Command) (sql : String)
    (calls : List (HookCall e)) (c : Concern) :
    (c ∈ ((start operation command sql).after calls).applied ↔
      ∃ before call later r result, calls = before ++ call :: later ∧
        call.Changes ((start operation command sql).after before) r result ∧ c ∈ r.concerns) ∧
      ∀ (call : HookCall e) (s : BoundStatement) (r : Rule) (result : Rewritten), call.Changes s r result →
        (call.held s).2 = none ∧ (∃ c ∈ r.concerns, call.DealsWith s r c) ∧
          ∀ c, call.DealsWith s r c ↔
            ∃ entry ∈ call.transcript s r, e.restricts call.context r entry.1 c = true := by
  refine ⟨?_, fun call s r result changes =>
    ⟨changes.succeeds, changes.dealsWith_some, changes.dealsWith_iff⟩⟩
  rw [BoundStatement.mem_after_applied]
  exact or_iff_right List.not_mem_nil

/-! ## A statement that is handed on -/

namespace HandedOn

/-- Orders are restricted to a tenant, and by data permissions. -/
def enforcer : Enforcer Memory where
  config := { tenancy := { enabled := true }, operations := [("orders", { tenant := true, data := some {} })] }
  tenants := .ofTenancy { enabled := true } .memory
  directory := Departments.directory ⟨[], []⟩

def rule : Rule := ⟨"orders", true, some {}⟩

def statement : BoundStatement := start "orders" .select "SELECT * FROM orders"

/-- A query by somebody of the tenant without any role. -/
def query (user : String) (superAdmin : Bool) : HookCall enforcer where
  hook := .query
  context := .start (.user ⟨user, some "T1", none, [], superAdmin⟩)
  shared := ⟨.none, .empty⟩
  sound := Lookups.sound_none _

/-- A query of orders that has passed the hook for a super admin is marked for data permissions, which that
call has not dealt with. Handed on to a clerk it opens every order of the tenant. The clerk's own query opens
none. -/
theorem orders_left_open :
    Concern.dataPermission ∈ (statement.after [query "root" true, query "clerk" false]).applied ∧
      ¬ (query "root" true).DealsWith statement rule .dataPermission ∧
      (statement.after [query "root" true, query "clerk" false]).sql =
        "SELECT * FROM orders WHERE orders.tenant_id = 'T1'" ∧
      ((query "clerk" false).held statement).1.sql =
        "SELECT * FROM orders WHERE orders.tenant_id = 'T1' AND 1 = 0" := by
  obtain ⟨marked, calls⟩ := marked_iff_changed enforcer "orders" .select "SELECT * FROM orders"
    [query "root" true, query "clerk" false] .dataPermission
  have rewritten : ((rewrite enforcer.config.dialect (enforcer.predicates (query "root" true).context rule)
      statement.sql).run.run Memory.empty).1.toOption.any Rewritten.isChanged = true := by decide +kernel
  obtain ⟨result, store, ran, changed⟩ := ok_of_any rewritten
  have changes : (query "root" true).Changes statement rule result :=
    ⟨rfl, by decide +kernel, congrArg Prod.fst ran, changed⟩
  obtain ⟨-, -, dealsWith⟩ := calls _ _ _ _ changes
  refine ⟨marked.mpr ⟨[], _, [query "clerk" false], rule, result, rfl, changes, by decide⟩, ?_,
    by decide +kernel, by decide +kernel⟩
  rw [dealsWith]
  rintro ⟨entry, -, restricted⟩
  -- a super admin is not restricted by data permissions, whatever the scope is
  exact Bool.false_ne_true ((Bool.and_false _).symm.trans restricted)

end HandedOn

end RowAccess
