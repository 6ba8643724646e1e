import RowAccess.CacheKey
import RowAccess.Proofs.Lookups
import RowAccess.Proofs.StoreSteps
import Mathlib.Logic.Function.Basic
/-!
# What is read of the store

A store is looked at through a view, which says what it holds under each key. Whatever a context asks about,
from its tenant to the plan of a statement, reads at most the key of its user, and leaves all of the view as it
is (`Enforcer.reads_rewrite`, `CacheKeys.reads_map`). Only switching a user to a tenant, and back, writes, and
that under the user's key alone.
-/

namespace RowAccess

variable {σ κ ε α β : Type}

/-- Of what is in view, the computation reads no more than what is under a key, and it leaves all of it as
it is. -/
def Reads (view : σ → String → κ) (key : String) (a : ExceptT ε (StateM σ) α) : Prop :=
  ∀ s, view (a.run.run s).2 = view s ∧
    ∀ s', view s key = view s' key → (a.run.run s).1 = (a.run.run s').1

/-- The computation changes at most what is under a key, by what is under it, and nothing if it fails. -/
structure Writes (view : σ → String → κ) (key : String) (a : ExceptT ε (StateM σ) Unit) : Prop where
  elsewhere : ∀ s other, other ≠ key → view (a.run.run s).2 other = view s other
  here : ∀ s s', view s key = view s' key →
    (a.run.run s).1 = (a.run.run s').1 ∧ view (a.run.run s).2 key = view (a.run.run s').2 key
  failing : ∀ s fault, (a.run.run s).1 = .error fault → view (a.run.run s).2 = view s

/-- The calls of a store concern a single key each. They may fail, but then nothing has changed. -/
structure Store.Keyed (store : Store σ) (view : σ → String → κ) : Prop where
  get : ∀ key, Reads view key (store.get key)
  set : ∀ key value, Writes view key (store.set key value)
  delete : ∀ key, Writes view key (store.delete key)

/-- The store keeps a text under each key, and its calls do not fail. -/
structure Store.Keeps (store : Store σ) (view : σ → String → Option String) : Prop where
  get : ∀ key s, ((store.get key).run.run s).1 = .ok (view s key) ∧
    view ((store.get key).run.run s).2 = view s
  set : ∀ key value s, ((store.set key value).run.run s).1 = .ok () ∧
    view ((store.set key value).run.run s).2 = Function.update (view s) key (some value)
  delete : ∀ key s, ((store.delete key).run.run s).1 = .ok () ∧
    view ((store.delete key).run.run s).2 = Function.update (view s) key none

/-- What is kept in memory is kept. -/
theorem Store.memory_keeps : Store.memory.Keeps Memory.get? where
  get key m := ⟨rfl, rfl⟩
  set key value m := by
    refine ⟨rfl, ?_⟩
    funext other
    change (m.insert key value).get? other = _
    rw [Memory.get?_insert, Function.update_apply]
  delete key m := by
    refine ⟨rfl, ?_⟩
    funext other
    change (m.erase key).get? other = _
    rw [Memory.get?_erase, Function.update_apply]

/-- A change of what is under one key, which does not fail. -/
theorem writes_of_update {view : σ → String → Option String} {key : String}
    {a : ExceptT ε (StateM σ) Unit} (value : Option String)
    (updates : ∀ s, (a.run.run s).1 = .ok () ∧
      view (a.run.run s).2 = Function.update (view s) key value) : Writes view key a where
  elsewhere s other ne := by
    rw [(updates s).2, Function.update_of_ne ne]
  here s s' _ := by
    rw [(updates s).1, (updates s').1, (updates s).2, (updates s').2]
    simp
  failing s fault failed := by
    rw [(updates s).1] at failed
    cases failed

theorem Store.Keeps.keyed {store : Store σ} {view : σ → String → Option String}
    (keeps : store.Keeps view) : store.Keyed view where
  get key := by
    intro s
    refine ⟨(keeps.get key s).2, ?_⟩
    intro s' same
    rw [(keeps.get key s).1, (keeps.get key s').1, same]
  set key value := writes_of_update (some value) (keeps.set key value)
  delete key := writes_of_update none (keeps.delete key)

namespace Reads

variable {view : σ → String → κ} {key : String}

/-! ## Steps -/

theorem pure (x : α) : Reads view key (Pure.pure x : ExceptT ε (StateM σ) α) :=
  fun _ => ⟨rfl, fun _ _ => rfl⟩

theorem throw (fault : ε) : Reads view key (throw fault : ExceptT ε (StateM σ) α) :=
  fun _ => ⟨rfl, fun _ _ => rfl⟩

/-- What is read decides what is done next, and nothing has changed by then. -/
theorem bind {a : ExceptT ε (StateM σ) α} {f : α → ExceptT ε (StateM σ) β} (first : Reads view key a)
    (next : ∀ x, Reads view key (f x)) : Reads view key (a >>= f) := by
  have run (s : σ) : (a >>= f).run.run s = (match a.run.run s with
      | (.ok x, s₁) => (f x).run.run s₁
      | (.error fault, s₁) => (.error fault, s₁)) := by
    rw [ExceptT.run_bind, StateT.run_bind]
    rcases a.run.run s with ⟨_ | _, _⟩ <;> rfl
  intro s
  obtain ⟨kept, read⟩ := first s
  rcases ran : a.run.run s with ⟨fault | x, s₁⟩
  · rw [ran] at kept read
    rw [run, ran]
    refine ⟨kept, ?_⟩
    intro s' same
    have alike := read s' same
    rcases ran' : a.run.run s' with ⟨fault' | x', s₁'⟩
    · rw [ran'] at alike
      cases alike
      rw [run, ran']
    · rw [ran'] at alike
      cases alike
  · rw [ran] at kept read
    rw [run, ran]
    obtain ⟨kept', read'⟩ := next x s₁
    refine ⟨kept'.trans kept, ?_⟩
    intro s' same
    have alike := read s' same
    have untouched := (first s').1
    rcases ran' : a.run.run s' with ⟨fault' | x', s₁'⟩
    · rw [ran'] at alike
      cases alike
    · rw [ran'] at alike untouched
      cases alike
      rw [run, ran']
      refine read' s₁' ?_
      rw [show view s₁ = view s from kept, show view s₁' = view s' from untouched, same]

theorem steps (view : σ → String → κ) (key : String) :
    StoreSteps fun {α} (a _ : Stored σ α) => Reads view key a :=
  ⟨pure, throw, bind⟩

/-- The answer to a call of the store reads what the call reads. -/
theorem call {c : StoreCall σ α} (reads : Reads view key c) : Reads view key (Tenants.call c) := by
  have run (s : σ) : (Tenants.call c).run.run s =
      ((c.run.run s).1.mapError .internal, (c.run.run s).2) := rfl
  intro s
  rw [run]
  refine ⟨(reads s).1, ?_⟩
  intro s' same
  rw [run, (reads s).2 s' same]

end Reads

/-! ## Tenants -/

section

variable {view : σ → String → κ} {key : String} {ctx : Context}

/-- If tenancy is enabled and the user known, the key is the user's. Then it is all that is read for the
context. -/
def Tenants.ReadsAt (t : Tenants σ) (view : σ → String → κ) (key : String) (ctx : Context) : Prop :=
  t.enabled = true → ∀ user, ctx.session.userId = some user → Reads view key (t.store.get (t.key user))

theorem Store.Keyed.readsAt {t : Tenants σ} (keyed : t.store.Keyed view)
    (own : ∀ user, ctx.session.userId = some user → t.key user = key) : t.ReadsAt view key ctx := by
  intro _ user known
  rw [own user known]
  exact keyed.get key

theorem Store.Keyed.readable {t : Tenants σ} (keyed : t.store.Keyed view) (ctx : Context) :
    ∃ key, t.ReadsAt view key ctx := by
  cases known : ctx.session.userId with
  | none => exact ⟨"", keyed.readsAt fun user found => by simp [known] at found⟩
  | some name => exact ⟨t.key name, keyed.readsAt fun user found => by simp_all⟩

/-- The tenant is that of the context or, if that is blank, of the user, for which alone the store is read,
or else of the session. -/
theorem Tenants.effective_eq (t : Tenants σ) (ctx : Context) :
    t.effective ctx =
      if t.enabled = false then pure none
      else match Text.nonBlank ctx.localTenant, t.keyOf? ctx.session with
        | some tenant, _ => pure (some tenant)
        | none, none => pure (Text.nonBlank ctx.session.tenantId)
        | none, some key => do
          let found ← call (t.store.get key)
          return (Text.nonBlank found).or (Text.nonBlank ctx.session.tenantId) := by
  rw [effective, dynamic]
  cases t.enabled with
  | false => rfl
  | true =>
    simp only [Bool.not_true, Bool.false_eq_true, if_false]
    cases Text.nonBlank ctx.localTenant with
    | some tenant => rfl
    | none =>
      cases t.keyOf? ctx.session with
      | none => rfl
      | some key =>
        simp only [bind_assoc, pure_bind]
        congr 1
        funext found
        cases Text.nonBlank found <;> rfl

theorem Tenants.reads_dynamic {t : Tenants σ} (at_ : t.ReadsAt view key ctx) :
    Reads view key (t.dynamic ctx) := by
  rw [Tenants.dynamic]
  cases enabled : t.enabled with
  | false => exact .pure none
  | true =>
    simp only [Bool.not_true, Bool.false_eq_true, if_false]
    cases Text.nonBlank ctx.localTenant with
    | some tenant => exact .pure (some tenant)
    | none =>
      simp only [Tenants.keyOf?]
      cases known : ctx.session.userId with
      | none => exact .pure none
      | some user => exact (Reads.call (at_ enabled user known)).bind fun _ => .pure _

theorem Tenants.reads_effective {t : Tenants σ} (at_ : t.ReadsAt view key ctx) :
    Reads view key (t.effective ctx) := by
  rw [Tenants.effective]
  cases t.enabled with
  | false => exact .pure none
  | true =>
    refine (Tenants.reads_dynamic at_).bind ?_
    intro tenant
    cases tenant <;> exact .pure _

/-! ## Cache keys -/

theorem CacheKeys.reads_map (k : CacheKeys) {t : Tenants σ} (at_ : t.ReadsAt view key ctx)
    (cached : String) : Reads view key (k.map t ctx cached) :=
  (Reads.steps view key).map k t (Tenants.reads_effective at_) cached

theorem CacheKeys.reads_unmap (k : CacheKeys) {t : Tenants σ} (at_ : t.ReadsAt view key ctx)
    (stored : String) : Reads view key (k.unmap t ctx stored) :=
  (Reads.steps view key).unmap k t (Tenants.reads_effective at_) stored

/-! ## Predicates and rewriting -/

namespace Enforcer

variable {e : Enforcer σ}

theorem reads_predicates (at_ : e.tenants.ReadsAt view key ctx) (r : Rule) (scope : Scope) :
    Reads view key (e.predicates ctx r scope) :=
  (Reads.steps view key).predicates e.tenants.store (Tenants.reads_effective at_) r scope

end Enforcer

end

/-- Rewriting reads of the store what its source reads. -/
theorem reads_rewriteWith {view : σ → String → κ} {key : String} (codec : Sql.Codec) {source : Source σ}
    (reads : ∀ scope, Reads view key (source scope)) (sql : String) :
    Reads view key (rewriteWith codec source sql) :=
  (Reads.steps view key).rewriteWith source source reads codec sql

/-- Whatever a statement is, rewriting it for a context reads at most the key of its user. -/
theorem Enforcer.reads_rewrite {view : σ → String → κ} {key : String} {e : Enforcer σ} {ctx : Context}
    (at_ : e.tenants.ReadsAt view key ctx) (r : Rule) (sql : String) :
    Reads view key (rewrite e.config.dialect (e.predicates ctx r) sql) :=
  reads_rewriteWith _ (fun scope => e.reads_predicates at_ r scope) sql

end RowAccess
