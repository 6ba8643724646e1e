import RowAccess.Proofs.Additions
import RowAccess.Proofs.Coverage
import RowAccess.Proofs.Cuts
/-!
# What is left of a statement once additions are erased

Rewriting adds predicates with `AND`, and puts queries in the place of tables that have to be filtered
(`additions_alone`). Such a query is read from a text with the name and the alias of the table alone. So it reads
the very table, and is called as the table was, exactly if nothing else is written with the table, and its name
does not end in a part with a dot within quotes.
-/

namespace RowAccess

open Sql Semantics

variable {σ : Type}

/-! ## Names of wrapped tables -/

namespace Ref

/-- Whether what the table is called as is its alias, or has no dot within it. -/
def endsUndotted (r : Ref) : Bool := r.aliased.isSome || (!r.name.isEmpty && !r.shown.render.toList.contains '.')

theorem afterLast_name (name : Name) (i : Ident) :
    Text.afterLast '.' (Name.render (i :: name)) = Text.afterLast '.' ((i :: name).getLastD default).render := by
  induction name generalizing i with
  | nil => rw [Name.render, List.map_singleton, String.intercalate_singleton]; rfl
  | cons j name ih =>
    rw [Name.render, List.map_cons, List.map_cons, String.intercalate_cons_cons, Text.afterLast_dot]
    exact ih j

/-- What a wrapped table is called as. -/
theorem shown_written {r : Ref} (undotted : r.endsUndotted = true) :
    r.table.aliasName.getD (Text.afterLast '.' r.table.name) = r.shown.render := by
  obtain ⟨name, aliased⟩ := r
  cases aliased with
  | some a => rfl
  | none =>
    cases name with
    | nil => cases undotted
    | cons i name =>
      have free : '.' ∉ ((i :: name).getLastD default).render.toList := by
        simpa [endsUndotted, shown] using undotted
      exact (afterLast_name name i).trans (Text.afterLast_free free)

end Ref

/-! ## Texts of wrapped tables -/

/-- A query of all columns of a relation. -/
def selectAll (r : Relation) (selection : Option Expr) : Select where
  form := .standard
  distinct := []
  projection := [.mk (.wildcard []) none []]
  into := ""
  relations := [.mk r []]
  views := []
  prewhere := none
  selection := selection
  groupBy := []
  groupOptions := []
  clustering := []
  having := none
  windows := []
  windowsFirst := false
  qualify := none
  hierarchy := []

theorem render_selectAll (r : Relation) (selection : Option Expr) :
    (selectAll r selection).render = "SELECT * FROM " ++ r.render ++ Expr.renderAfter " WHERE " selection := by
  change "SELECT" ++ "" ++ (" " ++ ("*" ++ "" ++ "") ++ "") ++ "" ++ (" FROM " ++ (r.render ++ "") ++ "") ++ "" ++ "" ++
    Expr.renderAfter " WHERE " selection ++ "" ++ "" ++ "" ++ "" ++ ("" ++ "") ++ "" = _
  simp only [String.append_empty]
  rw [← String.append_assoc]
  rfl

/-- A table with no more than its name and its alias. -/
def Ref.relation (r : Ref) : Relation := .table r.name [] .none false (r.aliased.map fun a => ⟨true, a, []⟩) []

theorem render_relation (r : Ref) :
    r.relation.render = match r.table.aliasName with
      | some name => r.table.name ++ " AS " ++ name
      | none => r.table.name := by
  obtain ⟨name, aliased⟩ := r
  change Name.render name ++ "" ++ "" ++ "" ++ Alias.render (aliased.map fun a => ⟨true, a, []⟩) ++ "" = _
  simp only [String.append_empty]
  cases aliased with
  | none => exact String.append_empty
  | some a =>
    change Name.render name ++ (" AS " ++ a.render ++ "") = Name.render name ++ " AS " ++ a.render
    rw [String.append_empty, String.append_assoc]

/-- The statement that a wrapped table is read from: it reads the query that stands for the table. -/
def wrappedStatement (r : Ref) (filter : Expr) : Statement :=
  .query (.ofBody (.select (selectAll (wrappedRelation r filter) none)))

theorem render_ofSelect (s : Select) : (Query.ofBody (.select s)).render = s.render := by
  change "" ++ "" ++ s.render ++ "" ++ "" = _
  simp only [String.append_empty, String.empty_append]

theorem render_derived (q : Query) (shown : Ident) :
    (Relation.derived false q (some ⟨true, shown, []⟩)).render = "(" ++ q.render ++ ") AS " ++ shown.render := by
  change "(" ++ q.render ++ ")" ++ (" AS " ++ shown.render ++ "") = _
  have closed (t : String) : ")" ++ (" AS " ++ t) = ") AS " ++ t := String.append_assoc.symm
  rw [String.append_empty, String.append_assoc, closed, ← String.append_assoc]

/-- The text of a wrapped table is that of this statement, unless the name of the table ends in a part with a dot. -/
theorem wrappedText_eq {r : Ref} (undotted : r.endsUndotted = true) (filter : Expr) :
    Rewrite.wrappedText r.table filter = renderStatements [wrappedStatement r filter] := by
  have statement (q : Query) : renderStatements [.query q] = q.render := String.intercalate_singleton
  have inner : (wrappedSelect r filter).render =
      "SELECT * FROM " ++ r.relation.render ++ (" WHERE " ++ filter.render) :=
    render_selectAll r.relation (some filter)
  have outer : (selectAll (wrappedRelation r filter) none).render =
      "SELECT * FROM " ++ ("(" ++ (wrappedSelect r filter).render ++ ") AS " ++ r.shown.render) := by
    rw [render_selectAll, wrappedRelation, render_derived, render_ofSelect]
    exact String.append_empty
  have opened (t : String) :
      "SELECT * FROM " ++ ("(" ++ ("SELECT * FROM " ++ t)) = "SELECT * FROM (SELECT * FROM " ++ t := by
    rw [← String.append_assoc, ← String.append_assoc]
    rfl
  have written : Rewrite.wrappedText r.table filter = "SELECT * FROM (SELECT * FROM " ++
      (match r.table.aliasName with
        | some name => r.table.name ++ " AS " ++ name
        | none => r.table.name) ++ " WHERE " ++ filter.render ++ ") AS " ++
      r.table.aliasName.getD (Text.afterLast '.' r.table.name) := rfl
  rw [written, Ref.shown_written undotted, wrappedStatement, statement, render_ofSelect, outer, inner, render_relation]
  simp only [String.append_assoc, opened]

/-! ## Additions -/

/-- How a table is named, if the relation is one. -/
def Sql.Relation.ref? : Relation → Option Ref
  | .table name _ _ _ aliased _ => some ⟨name, aliased.map (·.name)⟩
  | _ => none

/-- Whether a table is written with its name and its alias alone. -/
def Sql.Relation.isBare : Relation → Bool
  | .table _ [] .none false aliased [] => aliased.all (·.columns.isEmpty)
  | _ => false

/-- A query in the place of a table reads the very table, filters it, and is called as the table was. Only `AS` may
be written where it was left out. -/
def Wraps (filter : Expr) : Relation → Relation → Prop
  | .table name partitions args ordinality aliased after => fun r' =>
    let whole := Relation.table name partitions args ordinality (aliased.map ({ · with explicit := true })) after
    let shown : Alias := aliased.getD ⟨true, name.getLastD default, []⟩
    r' = .derived false (.ofBody (.select (selectAll whole (some filter)))) (some { shown with explicit := true })
  | _ => fun _ => False

/-- The condition `after` is `before` with some of the terms added with `AND`, in their order. What is added to is
put in parentheses if there is an `OR` or `XOR` at its top. -/
def Conjoins (terms : List Expr) (before after : Option Expr) : Prop :=
  ∃ added : List Expr, added.Sublist terms ∧ after = added.foldl (fun condition p => some (conjoin condition p)) before

/-- The text of a wrapped table is read as it is written, up to the grouping of `AND`. -/
def ReadsBack (codec : Codec) (r : Ref) (filter filter' : Expr) : Prop :=
  codec.parse (renderStatements [wrappedStatement r filter]) = some [wrappedStatement r filter'] ∧
    Outline.chain filter' = Outline.chain filter

theorem withTerms_conjoins (condition : Option Expr) (terms : List Expr) :
    Conjoins terms condition (withTerms condition terms) := by
  induction terms generalizing condition with
  | nil => exact ⟨[], .slnil, rfl⟩
  | cons p ps ih =>
    rw [withTerms]
    split
    · obtain ⟨added, among, made⟩ := ih condition
      exact ⟨added, among.cons p, made⟩
    · obtain ⟨added, among, made⟩ := ih (some (conjoin condition p))
      exact ⟨p :: added, among.cons_cons p, made⟩

/-- What is put in the place of a table is the very table, filtered, exactly if it is written with its name and its
alias alone. -/
theorem wraps_iff {T : Relation} {r : Ref} (named : T.ref? = some r) (filter : Expr) :
    Wraps filter T (wrappedRelation r filter) ↔ T.isBare = true := by
  cases T with
  | table name partitions args ordinality aliased after =>
    obtain rfl := Option.some.inj named
    have same : wrappedRelation ⟨name, aliased.map (·.name)⟩ filter =
        .derived false (.ofBody (.select (selectAll (Ref.relation ⟨name, aliased.map (·.name)⟩) (some filter))))
          (some ⟨true, (aliased.map (·.name)).getD (name.getLastD default), []⟩) := rfl
    rw [same, Wraps]
    constructor
    · intro made
      simp only [Relation.derived.injEq, Query.ofBody, Query.mk.injEq, Body.select.injEq, selectAll, Select.mk.injEq,
        List.cons.injEq, Joined.mk.injEq, Ref.relation, Relation.table.injEq, true_and, and_true] at made
      obtain ⟨⟨rfl, rfl, rfl, renamed, rfl⟩, -⟩ := made
      cases aliased with
      | none => rfl
      | some a =>
        have columns : [] = a.columns := (Alias.mk.inj (Option.some.inj renamed)).2.2
        rw [Relation.isBare, Option.all_some, ← columns]
        rfl
    · intro bare
      unfold Relation.isBare at bare
      split at bare
      · next written =>
        cases written
        cases aliased with
        | none => rfl
        | some a =>
          obtain ⟨explicit, shown, columns⟩ := a
          obtain rfl := List.isEmpty_iff.mp bare
          rfl
      · cases bare
  | _ => cases named

namespace Erasure

/-- What may become of a condition with this scope, if it has one. -/
def AtSite (t : Transcript) : Option Scope → Option Expr → Option Expr → Prop
  | none => fun before after => after = before
  | some scope => fun before after =>
    ∃ ps, (scope, .ok ps) ∈ t ∧ after = withTerms before (ps.map (·.condition)) ∧
      Conjoins (ps.map (·.condition)) before after

/-- What may become of a table, if a condition filters it. -/
def InPlace (codec : Codec) (r : Ref) (T T' : Relation) : Option Expr → Prop
  | none => T' = T
  | some filter => r.endsUndotted = true → ∀ filter', ReadsBack codec r filter filter' →
      T' = wrappedRelation r filter' ∧ (Wraps filter' T T' ↔ T.isBare = true)

/-- What rewriting may add, where the source answers as in the transcript. -/
def additions (codec : Codec) (t : Transcript) : Additions where
  condition site := AtSite t site.scope?
  table operation T T' := ∃ r ps, T.ref? = some r ∧ (⟨operation, .join, [r.table], 1⟩, .ok ps) ∈ t ∧
    InPlace codec r T T' (withTerms none (ps.map (·.condition)))
  failure _ := ∃ operation table ps filter, (⟨operation, .join, [table], 1⟩, .ok ps) ∈ t ∧
    withTerms none (ps.map (·.condition)) = some filter ∧
    ∀ r : Ref, r.table = table → r.endsUndotted = true → ∀ filter', ¬ ReadsBack codec r filter filter'

theorem wrapped_ok {codec : Codec} {r : Ref} {filter filter' : Expr} {T : Relation} {t : Table} (named : r.table = t)
    (undotted : r.endsUndotted = true) (reads : ReadsBack codec r filter filter') :
    Rewrite.wrapped codec T t (some filter) = .ok (wrappedRelation r filter') := by
  subst named
  simp only [Rewrite.wrapped, wrappedText_eq undotted filter, reads.1]
  rfl

theorem agrees (codec : Codec) (t : Transcript) :
    (additions codec t).Agrees codec fun scope ps => (scope, .ok ps) ∈ t where
  unasked site none condition := by
    change AtSite t site.scope? condition condition
    rw [none]
    rfl
  asked site scope asks ps answered condition := by
    change AtSite t site.scope? condition _
    rw [asks]
    exact ⟨ps, answered, rfl, withTerms_conjoins _ _⟩
  table operation T table named ps answered := by
    obtain ⟨r, known, rfl⟩ : ∃ r, T.ref? = some r ∧ r.table = table := by
      cases T with
      | table name partitions args ordinality aliased after =>
        obtain rfl := Option.some.inj named
        exact ⟨_, rfl, congrArg (Table.mk _) (Option.map_map ..)⟩
      | _ => cases named
    cases made : withTerms none (ps.map (·.condition)) with
    | none => exact ⟨r, ps, known, answered, by rw [made]; rfl⟩
    | some filter =>
      split
      · next T' wrapped =>
        refine ⟨r, ps, known, answered, ?_⟩
        rw [made]
        intro undotted filter' reads
        rw [wrapped_ok rfl undotted reads] at wrapped
        cases wrapped
        exact ⟨rfl, wraps_iff known filter'⟩
      · next fault failed =>
        refine ⟨operation, r.table, ps, filter, answered, made, fun r' same undotted filter' reads => ?_⟩
        rw [wrapped_ok same undotted reads] at failed
        cases failed

end Erasure

/-- Rewriting adds predicates of the source with `AND`, puts queries in the place of tables that have to be filtered,
and changes nothing else. Such a query wraps the very table, where the text of the query is read as it is written,
exactly if the table is written with its name and its alias alone. Besides the errors of the source and refusals,
rewriting fails only if this text is not read as it is written, or if the name of the table ends in a part with a
dot. -/
theorem additions_alone (codec : Codec) (source : Source σ) {sql : String} {list : List Statement}
    (parsed : codec.parse sql = some list) (s : σ) :
    (∀ result, ((rewriteWith codec source sql).run.run s).1 = .ok result →
      ∃ list', Adds.statements (Erasure.additions codec (Rewrite.transcript codec source sql s)) list list' ∧
        result.sql = if result.isChanged then codec.render list' else sql) ∧
    ∀ e, ((rewriteWith codec source sql).run.run s).1 = .error e →
      (∃ scope, (scope, .error e) ∈ Rewrite.transcript codec source sql s) ∨ e.IsRefusal ∨
        (Erasure.additions codec (Rewrite.transcript codec source sql s)).failure e := by
  have sites := rewriteWith_sites source (Erasure.agrees codec _) parsed s fun _ _ mem => mem
  constructor
  · intro result answered
    rw [answered] at sites
    exact sites
  · intro e answered
    rw [answered] at sites
    exact sites

/-! ## A join with the rows of a function -/

namespace FunctionJoin

def text : String := "SELECT * FROM gen(1, 3) FULL JOIN users ON true"

/-- What becomes of it: the rows are read from a table, and no longer from the function. -/
def rewritten : String :=
  "SELECT * FROM (SELECT * FROM gen WHERE gen.tenant_id = 'T1') AS gen " ++
    "FULL JOIN (SELECT * FROM users WHERE users.tenant_id = 'T1') AS users ON true"

/-- A join with a table that has a dot within its name. -/
def dotted : String := "SELECT * FROM \"a.b\" FULL JOIN users ON true"

/-- Whether statements are a query of a function and of a table that it is joined with. -/
def isCallJoin (function : String) : List Statement → Bool
  | [.query (.mk false [] (.select ⟨.standard, [], _, "", [.mk (.table [n] [] (.list _ _ _) false none []) [j]],
      [], _, _, _, [], [], _, [], false, _, []⟩) [] [])] =>
    n == ⟨function, none⟩ && Rewrite.Join.needsWrapping j
  | _ => false

/-- Whether statements are the query that a wrapped table is read from. -/
def isWrappedStatement (table column value : String) : List Statement → Bool
  | [.query (.mk false [] (.select ⟨.standard, [], [.mk (.wildcard []) none []], "", [.mk r []], [], none, none, [], [],
      [], none, [], false, none, []⟩) [] [])] =>
    isWrapped table column value r
  | _ => false

theorem eq_of_isWrappedStatement {table column value : String} {list : List Statement}
    (h : isWrappedStatement table column value list = true) :
    list = [wrappedStatement (plainRef table) (columnIs table column value)] := by
  unfold isWrappedStatement at h
  split at h
  · rw [eq_of_isWrapped h]
    rfl
  · cases h

theorem reads_gen : ReadsBack (.ofDialect .postgres) (plainRef "gen") (columnIs "gen" "tenant_id" "T1")
    (columnIs "gen" "tenant_id" "T1") := by
  have read : (Sql.parse .postgres (renderStatements
      [wrappedStatement (plainRef "gen") (columnIs "gen" "tenant_id" "T1")])).any
        (isWrappedStatement "gen" "tenant_id" "T1") = true := by decide +kernel
  obtain ⟨list, parsed, same⟩ := Option.any_eq_true _ _ |>.mp read
  exact ⟨parsed.trans (congrArg some (eq_of_isWrappedStatement same)), rfl⟩

/-- The rows of the function are read without its arguments, so it is not the function that is wrapped. A join with a
table that has a dot within its name cannot be restricted at all. -/
theorem arguments_lost : ∃ (T T' : Relation) (list list' : List Statement) (result : Rewritten),
    Sql.parse .postgres text = some list ∧ list.getLast?.bind Rewrite.firstRelation? = some T ∧
      ((rewriteWith (.ofDialect .postgres) oneTenant text).run.run ()).1 = .ok result ∧ result.sql = rewritten ∧
      result.sql = (Codec.ofDialect .postgres).render list' ∧ list'.getLast?.bind Rewrite.firstRelation? = some T' ∧
      T' = wrappedRelation (plainRef "gen") (columnIs "gen" "tenant_id" "T1") ∧
      ¬ Wraps (columnIs "gen" "tenant_id" "T1") T T' ∧
      ((rewriteWith (.ofDialect .postgres) oneTenant dotted).run.run ()).1 = .error .malformed := by
  have read : (Sql.parse .postgres text).any (isCallJoin "gen") = true := by decide +kernel
  have answered : ((rewriteWith (.ofDialect .postgres) oneTenant text).run.run ()).1.toOption.any
      (fun result => result.sql == rewritten && result.isChanged) = true := by decide +kernel
  obtain ⟨list, parsed, shape⟩ := Option.any_eq_true _ _ |>.mp read
  obtain ⟨result, store, ran, same⟩ := ok_of_any answered
  obtain ⟨written, changed⟩ := Bool.and_eq_true _ _ |>.mp same
  have answered := congrArg Prod.fst ran
  obtain ⟨list', adds, sql⟩ := (additions_alone (.ofDialect .postgres) oneTenant parsed ()).1 result answered
  rw [changed, if_pos rfl] at sql
  unfold isCallJoin at shape
  split at shape
  · next function distinct arguments clauses j prewhere selection groupBy having qualify =>
    obtain ⟨name, wraps⟩ := Bool.and_eq_true _ _ |>.mp shape
    obtain rfl := beq_iff_eq.mp name
    obtain _ | ⟨⟨q', rest, rfl⟩, ⟨⟩⟩ := adds
    obtain ⟨_, -, _, ⟨s', select, rfl⟩, _, -, rfl⟩ := rest
    obtain ⟨_, -, _, -, _, -, _, -, _, -, _, -, _, ⟨_, ⟨T', wrapped, _, -, rfl⟩, _, -, rfl⟩, _, -, rfl⟩ := select
    have wrapped : (Erasure.additions (.ofDialect .postgres)
        (Rewrite.transcript (.ofDialect .postgres) oneTenant text ())).table .select
        (.table [⟨"gen", none⟩] [] (.list distinct arguments clauses) false none []) T' := by
      simpa [Adds.relation, wraps] using wrapped
    obtain ⟨r, ps, named, mem, inPlace⟩ := wrapped
    obtain rfl : plainRef "gen" = r := Option.some.inj named
    obtain ⟨_, _, run⟩ : ∃ s₁ s₂, (oneTenant ⟨.select, .join, [(plainRef "gen").table], 1⟩).run.run s₁ = (.ok ps, s₂) :=
      (Rewrite.transcript_asked _ oneTenant text ()).answered _ mem
    obtain rfl : _ = ps := Except.ok.inj (congrArg Prod.fst run)
    have qualifier : (plainRef "gen").table.qualifier = "gen" := by decide
    change Erasure.InPlace _ _ _ _ (some (columnIs (plainRef "gen").table.qualifier "tenant_id" "T1")) at inPlace
    rw [qualifier] at inPlace
    obtain ⟨made, wrapsIff⟩ := inPlace (by decide) _ reads_gen
    refine ⟨_, T', _, _, result, parsed, rfl, answered, beq_iff_eq.mp written, sql, rfl, made, ?_, ?_⟩
    · rw [wrapsIff]
      exact Bool.false_ne_true
    · decide +kernel
  · cases shape

end FunctionJoin

end RowAccess
