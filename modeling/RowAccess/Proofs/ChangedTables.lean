import RowAccess.Proofs.Erasure
import RowAccess.Proofs.Rests
/-!
# The tables that statements change

An update or a delete changes the first table that it reads. That table is still there after rewriting, and what was
answered for it stands in the `WHERE` or in the condition of a join, unless a join of its chain has its tables wrapped:
then a query takes its place like that of any other table, since whether tables are wrapped is decided without regard
to what the statement does (`changed_tables`). Nothing can be written to such a query.
-/

namespace RowAccess

open Sql Semantics

variable {σ : Type}

/-- The first relation that an update or a delete reads, with its joins, and the `WHERE`. -/
def Sql.Statement.change? : Statement → Option (Operation × Joined × Option Expr)
  | .update u => some (.update, u.target, u.selection)
  | .delete d => d.relations.head?.map fun first => (.delete, first, d.selection)
  | _ => none

/-- The condition of a join. -/
def Sql.Join.condition? : Join → Option Expr
  | .mk _ _ _ _ constraint => Rewrite.condition? constraint

/-! ## What is answered decides what is added -/

/-- What a run adds, of which `t` is the transcript. -/
def Transcript.additions (codec : Codec) (t : Transcript) : Additions where
  condition site before after :=
    match site.scope? with
    | none => after = before
    | some scope => ∃ ps, (scope, .ok ps) ∈ t ∧ after = withTerms before (ps.map (·.condition))
  table operation r r' := ∃ table ps, r.table? = some table ∧ (⟨operation, .join, [table], 1⟩, .ok ps) ∈ t ∧
    Rewrite.wrapped codec r table (withTerms none (ps.map (·.condition))) = .ok r'
  failure _ := True

theorem Transcript.agrees (codec : Codec) (t : Transcript) :
    (t.additions codec).Agrees codec fun scope ps => (scope, .ok ps) ∈ t where
  unasked site none condition := by
    change match site.scope? with | Option.none => _ | some scope => _
    rw [none]
  asked site scope asks ps answered condition := by
    change match site.scope? with | none => _ | some scope => _
    rw [asks]
    exact ⟨ps, answered, rfl⟩
  table operation r table named ps answered := by
    split
    · next r' wrapped => exact ⟨table, ps, named, answered, wrapped⟩
    · trivial

namespace Changes

variable {codec : Codec} {t : Transcript} {operation : Operation} {visible : Nat} {table : Table}

/-- What was answered for a scope that lists the table has been added to the condition, and its predicates are among
the terms of the condition. -/
def Restricts (t : Transcript) (operation : Operation) (placement : Placement) (table : Table)
    (condition : Option Expr) : Prop :=
  ∃ tables visible ps before, table ∈ tables ∧ (⟨operation, placement, tables, visible⟩, .ok ps) ∈ t ∧
    condition = withTerms before (ps.map (·.condition)) ∧
    ∀ p ∈ ps, isConjunction p.condition = false → condition.any (hasConjunct p.condition.render) = true

theorem restricts_of_answered {placement : Placement} {tables : List Table} {ps : List Predicate}
    (listed : table ∈ tables) (answered : (⟨operation, placement, tables, visible⟩, .ok ps) ∈ t)
    (before : Option Expr) :
    Restricts t operation placement table (withTerms before (ps.map (·.condition))) :=
  ⟨tables, visible, ps, before, listed, answered, rfl, fun _ mem single =>
    Rewrite.any_withTerms_mem before (List.mem_map_of_mem mem) single⟩

/-- A table before a join is handed on by it, or what is answered for it is added to the condition of the join. -/
theorem join_restricts {preceding : Joined} (global : Bool) {kind : JoinKind} {r : Relation}
    (matchCondition : Option Expr) {constraint constraint' : JoinConstraint}
    (changed : Adds.joinConstraint (t.additions codec) (.join operation visible false preceding kind r) constraint
      constraint')
    (handedOn : table ∈ Outer.soFar false preceding) :
    table ∈ Outer.soFar false (preceding.add (.mk global kind r matchCondition constraint)) ∨
      Restricts t operation .join table (Rewrite.condition? constraint') := by
  rw [Outer.soFar_add]
  cases constraint with
  | on e =>
    obtain ⟨walked, -, e', added, rfl⟩ := changed
    have asks : (Site.join operation visible false preceding kind r).scope? = Outline.joinScope operation visible kind
        (Outer.soFar false preceding) (Outer.relation false r) := rfl
    rw [Outer.joinConstraint]
    cases side : Rewrite.nullableSide? kind with
    | none => exact .inl (List.mem_append_left _ handedOn)
    | some nullable =>
      cases nullable with
      | joined => exact .inl handedOn
      | preceding =>
        right
        rw [Outline.joinScope, side] at asks
        rw [if_neg (by simpa [List.isEmpty_iff] using List.ne_nil_of_mem handedOn)] at asks
        change (match (Site.join operation visible false preceding kind r).scope? with | none => _ | some scope => _) at added
        rw [asks] at added
        obtain ⟨ps, answered, made⟩ := added
        rw [Rewrite.condition?, made]
        exact restricts_of_answered handedOn answered _
  | columns | natural | none => exact .inl (List.mem_append_left _ handedOn)

/-- A table that joins come after is handed on by them, or what is answered for it is added to the condition of one. -/
theorem joins_restrict {preceding : Joined} {js js' : List Join}
    (adds : Adds.joins (t.additions codec) operation visible false preceding js js')
    (handedOn : table ∈ Outer.soFar false preceding) :
    table ∈ Outer.joins false (Outer.soFar false preceding) js ∨
      ∃ j ∈ js', Restricts t operation .join table j.condition? := by
  induction js generalizing preceding js' with
  | nil => exact .inl handedOn
  | cons j js ih =>
    obtain ⟨global, kind, r, matchCondition, constraint⟩ := j
    obtain ⟨r', -, constraint', changed, rest, more, rfl⟩ := adds
    rcases join_restricts global matchCondition changed handedOn with after | here
    · rcases ih more after with outside | ⟨j, mem, there⟩
      · rw [Outer.soFar_add] at outside
        exact .inl outside
      · exact .inr ⟨j, .tail _ mem, there⟩
    · exact .inr ⟨_, .head _, here⟩

/-- The first table of a chain stays where it is, and what is answered for it is added to the condition of a join
unless the table is handed on. If tables are wrapped, it is wrapped. -/
theorem chain_changed {r : Relation} {js : List Join} {chain' : Joined}
    (adds : Adds.joined (t.additions codec) operation visible false (.mk r js) chain') (named : r.table? = some table) :
    ∃ r' js', chain' = .mk r' js' ∧
      (js.any Rewrite.Join.needsWrapping = false → r' = r ∧
        (table ∈ Outer.joined false (.mk r js) ∨ ∃ j ∈ js', Restricts t operation .join table j.condition?)) ∧
      (js.any Rewrite.Join.needsWrapping = true → ∃ ps, (⟨operation, .join, [table], 1⟩, .ok ps) ∈ t ∧
        Rewrite.wrapped codec r table (withTerms none (ps.map (·.condition))) = .ok r') := by
  obtain ⟨r', first, js', rest, rfl⟩ := adds
  refine ⟨r', js', rfl, ?_⟩
  rw [Bool.false_or] at first rest
  cases r with
  | table name partitions args ordinality aliased after =>
    rw [Adds.relation] at first
    constructor
    · intro plain
      rw [plain] at first rest
      rw [if_neg Bool.false_ne_true] at first
      refine ⟨first, ?_⟩
      have handedOn : table ∈ Outer.soFar false (.mk (.table name partitions args ordinality aliased after) []) := by
        obtain rfl := Option.some.inj named
        exact .head _
      have outside : Outer.joined false (.mk (.table name partitions args ordinality aliased after) js) =
          Outer.joins false (Outer.soFar false (.mk (.table name partitions args ordinality aliased after) [])) js := by
        rw [Outer.joined, Bool.false_or, plain]
        rfl
      rw [outside]
      exact joins_restrict rest handedOn
    · intro wraps
      rw [wraps, if_pos rfl] at first
      obtain ⟨_, ps, same, answered, made⟩ := first
      obtain rfl := Option.some.inj (named.symm.trans same)
      exact ⟨ps, answered, made⟩
  | _ => cases named

/-- What becomes of the table that an update or a delete changes. It stays, and what is answered for it stands in a
condition, unless tables are wrapped where it stands. Then it stays only if nothing is answered for it. Otherwise what
is read from the text of a query for it takes its place: that query, if the text is read as it is written. -/
def Becomes (codec : Codec) (t : Transcript) (before after : Statement) : Prop :=
  ∀ {operation : Operation} {r : Relation} {js : List Join} {selection : Option Expr} {table : Table},
    before.change? = some (operation, .mk r js, selection) → r.table? = some table →
      ∃ r' js' selection', after.change? = some (operation, .mk r' js', selection') ∧
        (js.any Rewrite.Join.needsWrapping = false → r' = r ∧
          (Restricts t operation .filter table selection' ∨ ∃ j ∈ js', Restricts t operation .join table j.condition?)) ∧
        (js.any Rewrite.Join.needsWrapping = true → ∃ ps, (⟨operation, .join, [table], 1⟩, .ok ps) ∈ t ∧
          (ps = [] → r' = r) ∧
          (ps ≠ [] → ∃ filter, withTerms none (ps.map (·.condition)) = some filter ∧
            Rewrite.wrapped codec r table (some filter) = .ok r' ∧
            ∀ (ref : Ref) (filter' : Expr), r.ref? = some ref → ref.endsUndotted = true →
              ReadsBack codec ref filter filter' → r' = wrappedRelation ref filter' ∧ r' ≠ r))

theorem table_of_ref {r : Relation} {ref : Ref} (known : r.ref? = some ref) (named : r.table? = some table) :
    ref.table = table := by
  cases r with
  | table name partitions args ordinality aliased after =>
    obtain rfl := Option.some.inj known
    obtain rfl := Option.some.inj named
    exact congrArg (Table.mk _) (Option.map_map ..)
  | _ => cases known

theorem becomes_of_chain {before after : Statement} {first first' : Joined} {selection selection' : Option Expr}
    {relations : List Joined} {walked : Option Expr}
    (changes : before.change? = some (operation, first, selection))
    (changed : after.change? = some (operation, first', selection'))
    (chain : Adds.joined (t.additions codec) operation visible false first first')
    (filtered : (t.additions codec).condition (.filter operation (first :: relations)) walked selection') :
    Becomes codec t before after := by
  intro _ r js _ table same named
  obtain ⟨rfl, rfl, rfl⟩ : operation = _ ∧ first = _ ∧ selection = _ := by
    simpa using Option.some.inj (changes.symm.trans same)
  obtain ⟨r', js', rfl, plain, wraps⟩ := chain_changed chain named
  refine ⟨r', js', selection', changed, ?_, ?_⟩
  · intro unwrapped
    obtain ⟨rfl, outside | inside⟩ := plain unwrapped
    · obtain ⟨ps, answered, rfl⟩ := filtered
      exact ⟨rfl, .inl (restricts_of_answered (List.mem_append_left _ outside) answered walked)⟩
    · exact ⟨rfl, .inr inside⟩
  · intro wrapped
    obtain ⟨ps, answered, made⟩ := wraps wrapped
    refine ⟨ps, answered, ?_, ?_⟩
    · rintro rfl
      exact (Except.ok.inj made).symm
    · intro asked
      obtain ⟨p, ps, rfl⟩ := List.exists_cons_of_ne_nil asked
      obtain ⟨filter, conjoined⟩ := Enforcement.Sound.withTerms_some (conjoin none p.condition) (ps.map (·.condition))
      have conjoined : withTerms none ((p :: ps).map (·.condition)) = some filter := conjoined
      rw [conjoined] at made
      refine ⟨filter, conjoined, made, fun ref filter' known undotted reads => ?_⟩
      rw [Erasure.wrapped_ok (table_of_ref known named) undotted reads] at made
      cases made
      refine ⟨rfl, ?_⟩
      rintro rfl
      cases named

/-- One step: what the additions make of a statement. -/
theorem statement_becomes {before after : Statement} (adds : Adds.statement (t.additions codec) before after) :
    Becomes codec t before after := by
  cases before with
  | update u =>
    obtain ⟨u', adds, rfl⟩ := adds
    obtain ⟨conflict, target, assigned, relationsFirst, relations, selection, tail⟩ := u
    obtain ⟨_, -, walked, -, target', chain, _, -, selection', filtered, rfl⟩ := adds
    exact becomes_of_chain rfl rfl chain filtered
  | delete d =>
    obtain ⟨d', adds, rfl⟩ := adds
    obtain ⟨tables, fromWord, relations, others, selection, tail⟩ := d
    cases relations with
    | nil => exact nofun
    | cons first relations =>
      obtain ⟨walked, -, _, ⟨first', chain, _, -, rfl⟩, _, -, selection', filtered, rfl⟩ := adds
      exact becomes_of_chain rfl rfl chain filtered
  | query | insert | other => exact nofun

end Changes

/-- A rewritten text is one of statements that the answers of the source make of those of the text, and at any depth
an update or a delete becomes one whose own table is what `Changes.Becomes` says. -/
theorem changed_tables (codec : Codec) (source : Source σ) {sql : String} {list : List Statement}
    (parsed : codec.parse sql = some list) (s : σ) {result : Rewritten}
    (rewritten : ((rewriteWith codec source sql).run.run s).1 = .ok result) :
    ∃ list', Adds.statements ((Rewrite.transcript codec source sql s).additions codec) list list' ∧
      (result.sql = if result.isChanged then codec.render list' else sql) ∧
      ∀ before after, Adds.statement ((Rewrite.transcript codec source sql s).additions codec) before after →
        Changes.Becomes codec (Rewrite.transcript codec source sql s) before after := by
  have sites := rewriteWith_sites source (Transcript.agrees codec _) parsed s fun _ _ mem => mem
  rw [rewritten] at sites
  obtain ⟨list', adds, written⟩ := sites
  exact ⟨list', adds, written, fun _ _ => Changes.statement_becomes⟩

/-! ## An update of joined orders -/

namespace JoinedUpdate

def text : String := "UPDATE orders FULL JOIN users ON true SET total = 0"

/-- What becomes of it: an update of a query. -/
def rewritten : String :=
  "UPDATE (SELECT * FROM orders WHERE orders.tenant_id = 'T1') AS orders " ++
    "FULL JOIN (SELECT * FROM users WHERE users.tenant_id = 'T1') AS users ON true SET total = 0"

/-- Whether statements are an update of the table, with a join that has tables wrapped. -/
def isJoinedUpdate (table : String) : List Statement → Bool
  | [.update ⟨_, .mk (.table [name] [] .none false none []) [j], _, _, _, _, _⟩] =>
    name == ⟨table, none⟩ && Rewrite.Join.needsWrapping j
  | _ => false

theorem reads_orders : ReadsBack (.ofDialect .postgres) (plainRef "orders") (columnIs "orders" "tenant_id" "T1")
    (columnIs "orders" "tenant_id" "T1") := by
  have read : (Sql.parse .postgres (renderStatements
      [wrappedStatement (plainRef "orders") (columnIs "orders" "tenant_id" "T1")])).any
        (FunctionJoin.isWrappedStatement "orders" "tenant_id" "T1") = true := by decide +kernel
  obtain ⟨list, parsed, same⟩ := Option.any_eq_true _ _ |>.mp read
  exact ⟨parsed.trans (congrArg some (FunctionJoin.eq_of_isWrappedStatement same)), rfl⟩

/-- The orders are no longer what is updated. -/
theorem orders_replaced : ∃ (before after : Statement) (result : Rewritten) (r r' : Relation) (js js' : List Join)
    (selection selection' : Option Expr),
    Sql.parse .postgres text = some [before] ∧ before.change? = some (.update, .mk r js, selection) ∧
      r.table? = some (plainRef "orders").table ∧
      ((rewriteWith (.ofDialect .postgres) oneTenant text).run.run ()).1 = .ok result ∧ result.sql = rewritten ∧
      result.sql = renderStatements [after] ∧ after.change? = some (.update, .mk r' js', selection') ∧
      r' = wrappedRelation (plainRef "orders") (columnIs "orders" "tenant_id" "T1") ∧ r' ≠ r := by
  have read : (Sql.parse .postgres text).any (isJoinedUpdate "orders") = true := by decide +kernel
  have answered : ((rewriteWith (.ofDialect .postgres) oneTenant text).run.run ()).1.toOption.any
      (fun result => result.sql == rewritten && result.isChanged) = true := by decide +kernel
  obtain ⟨list, parsed, shape⟩ := Option.any_eq_true _ _ |>.mp read
  obtain ⟨result, store, ran, same⟩ := ok_of_any answered
  obtain ⟨written, changed⟩ := Bool.and_eq_true _ _ |>.mp same
  have answered := congrArg Prod.fst ran
  obtain ⟨list', adds, sql, becomes⟩ := changed_tables (.ofDialect .postgres) oneTenant parsed () answered
  rw [changed, if_pos rfl] at sql
  unfold isJoinedUpdate at shape
  split at shape
  · next conflict name j assigned relationsFirst relations selection tail =>
    obtain ⟨named, wraps⟩ := Bool.and_eq_true _ _ |>.mp shape
    obtain rfl := beq_iff_eq.mp named
    obtain _ | ⟨adds, ⟨⟩⟩ := adds
    obtain ⟨r', js', selection', change', -, wrapped⟩ := becomes _ _ adds rfl rfl
    obtain ⟨ps, mem, -, asked⟩ := wrapped (by simp [wraps])
    obtain ⟨_, _, run⟩ : ∃ s₁ s₂, (oneTenant ⟨.update, .join, [(plainRef "orders").table], 1⟩).run.run s₁ = (.ok ps, s₂) :=
      (Rewrite.transcript_asked _ oneTenant text ()).answered _ mem
    obtain rfl : _ = ps := Except.ok.inj (congrArg Prod.fst run)
    obtain ⟨filter, made, -, replaced⟩ := asked nofun
    have qualifier : (plainRef "orders").table.qualifier = "orders" := by decide
    obtain rfl : columnIs (plainRef "orders").table.qualifier "tenant_id" "T1" = filter := Option.some.inj made
    obtain ⟨rfl, other⟩ := replaced (plainRef "orders") _ rfl (by decide) (qualifier ▸ reads_orders)
    exact ⟨_, _, result, _, _, _, js', _, selection', parsed, rfl, rfl, answered, beq_iff_eq.mp written, sql, change', rfl,
      other⟩
  · cases shape

end JoinedUpdate

end RowAccess
