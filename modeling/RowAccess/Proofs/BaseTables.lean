import Mathlib.Data.List.Perm.Basic
import RowAccess.Proofs.Additions
import RowAccess.Proofs.Coverage
import RowAccess.Proofs.Isolation
import RowAccess.Proofs.Targets
/-!
# Whatever a name stands for

Rewriting lists and restricts the tables of all references that it reaches, and does not ask what their names
stand for. So it restricts stored tables alone exactly if no other reference is restricted: neither to a query
that a `WITH` clause names, nor to the rows of a function (`stored_tables_alone_iff`).
-/

namespace RowAccess

open Sql

variable {σ α β : Type}

/-! ## Scopes of a transcript -/

namespace Rewrite

/-- The one step writes down the scopes that the other writes down with their answers. -/
def SameScopes (m : Rewriting (σ × Transcript) α) (m' : Rewriting (σ × List Scope) α) : Prop :=
  ∀ a s t, ∃ answer s' asked, outcome m a (s, t) = (answer, (s', t ++ asked)) ∧
    ∀ log, outcome m' a (s, log) = (answer, (s', log ++ asked.map Prod.fst))

theorem related_sameScopes (source : Source σ) :
    Related (transcribing source) (recording source) SameScopes where
  pure x := fun a s t => ⟨.ok (x, a), s, [], by rw [List.append_nil]; rfl, fun log => by simp [outcome_pure]⟩
  fail fault := fun a s t => ⟨.error fault, s, [], by rw [List.append_nil]; rfl, fun log => by
    rw [List.map_nil, List.append_nil]
    rfl⟩
  bind {α β m m' f f'} first next := by
    intro a s t
    obtain ⟨answer, s', asked, run, run'⟩ := first a s t
    simp only [outcome_bind, run, run']
    rcases answer with fault | ⟨x, a'⟩
    · exact ⟨.error fault, s', asked, rfl, fun _ => rfl⟩
    · obtain ⟨answer, s'', more, run, run'⟩ := next x a' s' (t ++ asked)
      refine ⟨answer, s'', asked ++ more, run.trans (by rw [List.append_assoc]), fun log => (run' _).trans ?_⟩
      rw [List.map_append, List.append_assoc]
  add scope condition := by
    intro a s t
    have written : (transcribing source scope).run.run (s, t) =
        (((source scope).run.run s).1, (((source scope).run.run s).2,
          t ++ [(scope, ((source scope).run.run s).1)])) := rfl
    have recorded (log : List Scope) : (recording source scope).run.run (s, log) =
        (((source scope).run.run s).1, (((source scope).run.run s).2, log ++ [scope])) := rfl
    simp only [addPredicates, outcome_bind, outcome_ask, written, recorded]
    rcases (source scope).run.run s with ⟨fault | ps, s'⟩
    · exact ⟨.error fault, s', [(scope, .error fault)], rfl, fun _ => rfl⟩
    · exact ⟨.ok (restrict condition ps a), s', [(scope, .ok ps)], rfl, fun _ => rfl⟩

end Rewrite

/-- If rewriting succeeds, the scopes of its transcript list each table of a reached reference once, and no
others. -/
theorem listings_transcript (codec : Codec) (source : Source σ) {sql : String} {list : List Statement}
    {result : Rewritten} {s : σ} (parsed : codec.parse sql = some list)
    (rewritten : ((rewriteWith codec source sql).run.run s).1 = .ok result) :
    (listings ((Rewrite.transcript codec source sql s).map Prod.fst)).Perm
      (reachedTables (References.statements list)) := by
  obtain ⟨answer, s', asked, run, recorded⟩ := Rewrite.statements_related codec
    (Rewrite.related_sameScopes source) (1 < list.length) list .nothing s []
  have scopes : Rewrite.transcript codec source sql s = asked := by
    rw [Rewrite.transcript, rewriteWith_run codec _ parsed, run]
    rcases answer with fault | ⟨list', added⟩ <;> rfl
  rw [scopes, List.perm_iff_count]
  intro t
  obtain ⟨log, same, grown⟩ := Rewrite.statements_lists codec source t (1 < list.length) list .nothing s []
  rw [recorded] at same
  obtain ⟨answered, state⟩ := Prod.mk.inj same
  obtain rfl : [] ++ asked.map Prod.fst = log := (Prod.mk.inj state).2
  rw [rewriteWith_run codec _ parsed] at rewritten
  rcases ran : Rewrite.outcome (Rewrite.statements codec source (1 < list.length) list) .nothing s with
    ⟨fault | ⟨list', added⟩, s''⟩
  · rw [ran] at rewritten
    cases rewritten
  · simpa [listings, mentions] using grown list' added (by rw [ran])

/-! ## Tables that are restricted -/

/-- The tables of the references to stored tables that rewriting reaches. -/
def storedTables (references : List Reference) : List Table :=
  (references.filter fun r => r.reached && r.meaning == .stored).map Reference.table

/-- The predicates of answers that restrict a table by name: for each the concern, and the table. -/
def Transcript.named (t : Transcript) : List (Concern × String) :=
  t.flatMap fun entry => (entry.2.toOption.getD []).filterMap fun p => p.table.map (p.concern, ·)

/-- What is asked for a table by name: one predicate for each concern that restricts it. -/
def Enforcer.demands (e : Enforcer σ) (ctx : Context) (r : Rule) (t : Table) : List (Concern × String) :=
  ([.tenant, .dataPermission].filter (e.restrictsTable ctx r t)).map (·, t.baseName)

/-- Members that are left out make no difference exactly if there is nothing to say about them. -/
theorem flatMap_filter_perm_iff {p q : α → Bool} (f : α → List β) (as : List α) :
    ((as.filter p).flatMap f).Perm ((as.filter fun a => p a && q a).flatMap f) ↔
      ∀ a ∈ as, p a = true → q a = false → f a = [] := by
  have split : ((as.filter p).flatMap f).Perm ((as.filter fun a => p a && q a).flatMap f ++
      (as.filter fun a => p a && !q a).flatMap f) := by
    have parts := (List.filter_append_perm q (as.filter p)).symm
    rw [List.filter_filter, List.filter_filter] at parts
    simp only [Bool.and_comm] at parts ⊢
    rw [← List.flatMap_append]
    exact parts.flatMap_right f
  have rest : (as.filter fun a => p a && !q a).flatMap f = [] ↔
      ∀ a ∈ as, p a = true → q a = false → f a = [] := by
    simp [List.flatMap_eq_nil_iff, List.mem_filter]
  rw [← rest]
  constructor
  · intro same
    have length := split.length_eq.symm.trans same.length_eq
    rw [List.length_append] at length
    exact List.length_eq_zero_iff.mp (by omega)
  · intro none
    rw [none, List.append_nil] at split
    exact split

section

variable {e : Enforcer σ} {ctx : Context} {r : Rule}

/-- The predicates that are built for tables name these tables. -/
theorem filterMap_built {scope : Scope} {c : Concern} {tables : List Table} {ps : List Predicate}
    (built : List.Forall₂ (e.BuiltFor ctx r scope c) tables ps) :
    (ps.filterMap fun p => p.table.map (p.concern, ·)) = tables.map fun t => (c, t.baseName) := by
  induction built with
  | nil => rfl
  | cons first _ ih => rw [List.filterMap_cons, first.table, first.concern, Option.map_some, List.map_cons, ih]

theorem demands_perm (tables : List Table) :
    ((tables.filter (e.restrictsTable ctx r · .tenant)).map (fun t => (Concern.tenant, t.baseName)) ++
      (tables.filter (e.restrictsTable ctx r · .dataPermission)).map fun t =>
        (Concern.dataPermission, t.baseName)).Perm (tables.flatMap (e.demands ctx r)) := by
  induction tables with
  | nil => rfl
  | cons t ts ih =>
    rw [List.filter_cons, List.filter_cons, List.flatMap_cons, Enforcer.demands]
    cases tenant : e.restrictsTable ctx r t .tenant <;> cases data : e.restrictsTable ctx r t .dataPermission
    · simpa [tenant, data] using ih
    · simpa [tenant, data] using List.perm_middle.trans (ih.cons _)
    · simpa [tenant, data] using ih
    · simpa [tenant, data] using List.perm_middle.trans (ih.cons _)

/-- For each table of a scope there is what is asked for it. -/
theorem named_predicates {scope : Scope} {ps : List Predicate} {s s' : σ}
    (answered : (e.predicates ctx r scope).run.run s = (.ok ps, s')) :
    (ps.filterMap fun p => p.table.map (p.concern, ·)).Perm (scope.tables.flatMap (e.demands ctx r)) := by
  obtain ⟨forTenant, forData, whole, rfl, tenant, data, unnamed⟩ := Enforcer.predicates_of_tables answered
  have none : (whole.filterMap fun p => p.table.map (p.concern, ·)) = [] := by
    rw [List.filterMap_eq_nil_iff]
    intro p mem
    rw [unnamed p mem, Option.map_none]
  rw [List.filterMap_append, List.filterMap_append, filterMap_built tenant, filterMap_built data, none,
    List.append_nil]
  exact demands_perm scope.tables

/-- Where no answer is an error, the answers restrict the tables of the scopes as they are listed. -/
theorem named_transcript {t : Transcript} {s s' : σ} (chain : Asked (e.predicates ctx r) s t s')
    (faultless : ∀ scope fault, (scope, .error fault) ∉ t) :
    t.named.Perm ((listings (t.map Prod.fst)).flatMap (e.demands ctx r)) := by
  induction chain with
  | nil => exact .nil
  | @cons scope answer rest s s₁ s' asked _ ih =>
    have rest := ih fun scope fault mem => faultless scope fault (.tail _ mem)
    rcases answer with fault | ps
    · exact absurd (.head _) (faultless scope fault)
    · rw [listings, List.map_cons, List.flatMap_cons, List.flatMap_append]
      exact (named_predicates asked).append rest

end

/-! ## Stored tables -/

/-- Where rewriting succeeds, its scopes list the tables of all references that it reaches, and for each of them
there are the predicates that are asked for a table of this name. These are references to stored tables alone
exactly if none is reached to the query of a `WITH` clause or to the rows of a function, and the predicates are
those of stored tables alone exactly if nothing is asked for the tables of such references. -/
theorem stored_tables_alone_iff (e : Enforcer σ) (ctx : Context) (r : Rule) {sql : String}
    {list : List Statement} {result : Rewritten} {s : σ} (parsed : Sql.parse e.config.dialect sql = some list)
    (rewritten : ((rewrite e.config.dialect (e.predicates ctx r) sql).run.run s).1 = .ok result) :
    let references := References.statements list
    let t := e.transcript ctx r sql s
    (listings (t.map Prod.fst)).Perm (reachedTables references) ∧
      t.named.Perm ((reachedTables references).flatMap (e.demands ctx r)) ∧
      ((listings (t.map Prod.fst)).Perm (storedTables references) ↔
        ∀ ref ∈ references, ref.reached = true → ref.meaning = .stored) ∧
      (t.named.Perm ((storedTables references).flatMap (e.demands ctx r)) ↔
        ∀ ref ∈ references, ref.reached = true → ref.meaning ≠ .stored → e.demands ctx r ref.table = []) := by
  intro references t
  have listed : (listings (t.map Prod.fst)).Perm (reachedTables references) :=
    listings_transcript (.ofDialect e.config.dialect) (e.predicates ctx r) parsed rewritten
  obtain ⟨chain, faults⟩ := e.transcript_asked ctx r sql s
  have faultless (scope : Scope) (fault : Error) : (scope, .error fault) ∉ t := by
    intro mem
    have failed := faults scope fault mem
    rw [rewritten] at failed
    cases failed
  have named := (named_transcript chain faultless).trans (listed.flatMap_right _)
  refine ⟨listed, named, ?_, ?_⟩
  · have only := flatMap_filter_perm_iff (p := Reference.reached) (q := (·.meaning == .stored))
      (fun ref => [ref.table]) references
    rw [← List.map_eq_flatMap, ← List.map_eq_flatMap] at only
    exact (List.Perm.congr_left listed _).trans (only.trans (by simp))
  · have only := flatMap_filter_perm_iff (p := Reference.reached) (q := (·.meaning == .stored))
      (fun ref => e.demands ctx r ref.table) references
    rw [← List.flatMap_map Reference.table, ← List.flatMap_map Reference.table] at only
    exact (List.Perm.congr_left named _).trans (only.trans (by simp))

/-! ## A query of a named query -/

namespace NamedOrders

/-- A query of the orders without their tenant, which it names `x`, and of the numbers that a function answers. -/
def text : String := "WITH x AS (SELECT id FROM orders) SELECT * FROM x, generate_series(1, 3) AS g"

/-- What becomes of it: the named query and the function are restricted as tables of tenants are. -/
def restricted : String :=
  "WITH x AS (SELECT id FROM orders WHERE orders.tenant_id = 'T1') SELECT * FROM x, generate_series(1, 3) AS g " ++
    "WHERE x.tenant_id = 'T1' AND g.tenant_id = 'T1'"

def rule : Rule := ⟨"report", true, none⟩

/-- The named query and the function are listed and restricted, though none of them is a stored table. -/
theorem named_query_restricted : ∃ (list : List Statement) (result : Rewritten),
    Sql.parse tenantRules.config.dialect text = some list ∧
      References.statements list = [⟨⟨"orders", none⟩, .stored, true⟩, ⟨⟨"x", none⟩, .query, true⟩,
        ⟨⟨"generate_series", some "g"⟩, .call, true⟩] ∧
      ((rewrite tenantRules.config.dialect (tenantRules.predicates (contextOf "T1") rule) text).run.run .empty).1 =
        .ok result ∧
      result.sql = restricted ∧
      ¬ (listings ((tenantRules.transcript (contextOf "T1") rule text .empty).map Prod.fst)).Perm
        (storedTables (References.statements list)) ∧
      ¬ (tenantRules.transcript (contextOf "T1") rule text .empty).named.Perm
        ((storedTables (References.statements list)).flatMap (tenantRules.demands (contextOf "T1") rule)) := by
  have read : (Sql.parse tenantRules.config.dialect text).map References.statements =
      some [⟨⟨"orders", none⟩, .stored, true⟩, ⟨⟨"x", none⟩, .query, true⟩,
        ⟨⟨"generate_series", some "g"⟩, .call, true⟩] := by
    decide +kernel
  have answered : ((rewrite tenantRules.config.dialect (tenantRules.predicates (contextOf "T1") rule) text).run.run
      Memory.empty).1.toOption.any (·.sql == restricted) = true := by
    decide +kernel
  obtain ⟨list, parsed, references⟩ := Option.map_eq_some_iff.mp read
  obtain ⟨result, store, ran, same⟩ := ok_of_any answered
  have rewritten := congrArg Prod.fst ran
  obtain ⟨-, -, listed, named⟩ := stored_tables_alone_iff tenantRules (contextOf "T1") rule parsed rewritten
  refine ⟨list, result, parsed, references, rewritten, beq_iff_eq.mp same, ?_, ?_⟩
  · rw [listed, references]
    decide
  · rw [named, references]
    intro none
    have demanded := none ⟨⟨"x", .none⟩, .query, true⟩ (by decide) rfl (by decide)
    revert demanded
    decide

end NamedOrders

end RowAccess
