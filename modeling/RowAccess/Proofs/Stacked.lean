import Mathlib.Data.List.Forall2
import RowAccess.Proofs.Coverage
import RowAccess.Proofs.Transcript
/-!
# Statements that are stacked

A text may hold several statements. One record of what was added goes through all of them, yet a statement
is rewritten as if it stood alone (`Rewrite.StandsAlone`): a step does the same whatever was added and asked
before it, and its additions come after the earlier ones. So a stack comes to what its statements come to,
one after the other, and fails with the first one that does (`stack_composes`).
-/

namespace RowAccess

open Sql

variable {α β : Type}

/-- The source that answers each scope by itself. -/
def Source.answering (f : Scope → Except Error (List Predicate)) : Source Unit := fun scope => liftM (f scope)

theorem recording_answering (f : Scope → Except Error (List Predicate)) (scope : Scope) (log : List Scope) :
    (recording (.answering f) scope).run.run ((), log) = (f scope, (), log ++ [scope]) := by
  rw [recording, Source.answering]
  cases f scope <;> rfl

/-! ## Additions after others -/

namespace Added

/-- The tables with one more, unless it is among them. -/
def withTable (tables : List String) (t : String) : List String :=
  if tables.contains t then tables else tables ++ [t]

/-- What is added by two steps, one after the other. -/
def followedBy (a b : Added) : Added := ⟨a.predicates ++ b.predicates, b.tables.foldl withTable a.tables⟩

theorem mem_foldl_withTable {t : String} {tables more : List String} :
    t ∈ more.foldl withTable tables ↔ t ∈ tables ∨ t ∈ more := by
  induction more generalizing tables with
  | nil => simp
  | cons u more ih =>
    have first : t ∈ withTable tables u ↔ t ∈ tables ∨ t = u := by
      rw [withTable]
      by_cases there : u ∈ tables
      · simp only [List.contains_eq_mem, there, decide_true, if_true]
        exact ⟨.inl, fun h => h.elim id fun same => same ▸ there⟩
      · simp [there]
    rw [List.foldl_cons, ih, first, List.mem_cons, or_assoc]

theorem foldl_withTable (tables more : List String) (t : String) :
    (withTable more t).foldl withTable tables = withTable (more.foldl withTable tables) t := by
  rw [withTable]
  by_cases there : t ∈ more
  · rw [if_pos (by simpa using there), withTable, if_pos]
    simpa using mem_foldl_withTable.mpr (.inr there)
  · rw [if_neg (by simpa using there), List.foldl_append]
    rfl

theorem foldl_foldl_withTable (tables more others : List String) :
    (others.foldl withTable more).foldl withTable tables =
      others.foldl withTable (more.foldl withTable tables) := by
  induction others generalizing more with
  | nil => rfl
  | cons t others ih => rw [List.foldl_cons, ih, foldl_withTable, List.foldl_cons]

theorem followedBy_assoc (a b c : Added) : (a.followedBy b).followedBy c = a.followedBy (b.followedBy c) :=
  congrArg₂ Added.mk (List.append_assoc _ _ _) (foldl_foldl_withTable _ _ _).symm

theorem followedBy_nothing (a : Added) : a.followedBy .nothing = a :=
  congrArg₂ Added.mk (List.append_nil _) rfl

theorem followedBy_note (a b : Added) (text : String) (table : Option String) :
    (a.followedBy b).note text table = a.followedBy (b.note text table) := by
  have predicates : a.predicates ++ b.predicates ++ [text] = a.predicates ++ (b.predicates ++ [text]) :=
    List.append_assoc _ _ _
  cases table with
  | none => exact congrArg₂ Added.mk predicates rfl
  | some t => exact congrArg₂ Added.mk predicates (foldl_withTable a.tables b.tables t).symm

theorem withTable_eraseDups (tables : List String) (t : String) :
    withTable tables.eraseDups t = (tables ++ [t]).eraseDups := by
  rw [withTable, List.eraseDups_append]
  by_cases there : t ∈ tables
  · simp [List.removeAll, there]
  · simp [List.removeAll, there, List.eraseDups_cons]

/-- Tables are listed once each, as they first occur. -/
theorem foldl_withTable_eraseDups (tables more : List String) :
    more.foldl withTable tables.eraseDups = (tables ++ more).eraseDups := by
  induction more generalizing tables with
  | nil => rw [List.append_nil, List.foldl_nil]
  | cons t more ih =>
    rw [List.foldl_cons, withTable_eraseDups, ih, List.append_assoc]
    rfl

end Added

theorem restrict_followedBy (condition : Option Expr) (ps : List Predicate) (a b : Added) :
    restrict condition ps (a.followedBy b) =
      ((restrict condition ps b).1, a.followedBy (restrict condition ps b).2) := by
  induction ps generalizing condition b with
  | nil => rfl
  | cons p ps ih =>
    rw [restrict, restrict]
    split
    · exact ih _ _
    · rw [Added.followedBy_note]
      exact ih _ _

/-! ## Steps that stand alone -/

namespace Rewrite

/-- What a step comes to after others, given what it comes to at first. -/
def carryOn (a : Added) (log : List Scope) (alone : Except Error (α × Added) × Unit × List Scope) :
    Except Error (α × Added) × Unit × List Scope :=
  (alone.1.map fun (x, own) => (x, a.followedBy own), (), log ++ alone.2.2)

/-- The step does not depend on what was added and asked before it. -/
def StandsAlone (m : Rewriting (Unit × List Scope) α) : Prop :=
  ∀ a log, outcome m a ((), log) = carryOn a log (outcome m .nothing ((), []))

theorem related_standsAlone (f : Scope → Except Error (List Predicate)) :
    Related (recording (.answering f)) (recording (.answering f)) fun m _ => StandsAlone m where
  pure x := fun a log => by
    rw [outcome_pure, outcome_pure, carryOn, List.append_nil]
    exact congrArg (fun added => (Except.ok (x, added), (), log)) a.followedBy_nothing.symm
  fail fault := fun a log =>
    congrArg (fun scopes => (Except.error fault, (), scopes)) (List.append_nil log).symm
  bind {α β m m' g g'} first next := by
    intro a log
    rw [outcome_bind, outcome_bind, first a log]
    rcases outcome m .nothing ((), []) with ⟨fault | ⟨x, own⟩, ⟨⟩, scopes⟩
    · rfl
    · dsimp only [carryOn, Except.map]
      rw [next x (a.followedBy own) (log ++ scopes), next x own scopes]
      rcases outcome (g x) .nothing ((), []) with ⟨fault | ⟨y, own'⟩, ⟨⟩, scopes'⟩
      · simp [carryOn, Except.map]
      · simp [carryOn, Except.map, Added.followedBy_assoc]
  add scope condition := by
    intro a log
    simp only [addPredicates, outcome_bind, outcome_ask, recording_answering]
    cases f scope with
    | error fault => rfl
    | ok ps =>
      change (Except.ok (restrict condition ps a), (), log ++ [scope]) =
        carryOn a log (Except.ok (restrict condition ps .nothing), (), [scope])
      have restricted := restrict_followedBy condition ps a .nothing
      rw [a.followedBy_nothing] at restricted
      rw [restricted]
      rfl

end Rewrite

/-! ## Stacks -/

/-- Whether a statement can be in a stack: it is a query, an update or a delete. -/
def Sql.Statement.isScopable (s : Statement) : Bool :=
  s.operation == .select || s.operation == .update || s.operation == .delete

/-- What injecting a statement comes to. -/
structure Injected where
  statement : Statement
  added : Added
  /-- The scopes that the source is asked about. -/
  scopes : List Scope

namespace Rewrite

theorem statement_stacked {σ : Type} (codec : Codec) (source : Source σ) (s : Statement) :
    statement codec source true s =
      if s.isScopable then statement codec source false s else fail (.unscopable (.stacked s.operation)) := by
  cases s with
  | other kind pieces => cases kind <;> rfl
  | _ => rfl

variable (d : Dialect) (f : Scope → Except Error (List Predicate))

/-- What becomes of a statement that is injected alone, or why that fails. -/
def alone (s : Statement) : Except Error Injected :=
  match outcome (statement (.ofDialect d) (recording (.answering f)) false s) .nothing ((), []) with
  | (.ok (s', added), (), scopes) => .ok ⟨s', added, scopes⟩
  | (.error fault, _) => .error fault

/-- Why a statement cannot be in a stack, if it cannot. -/
def stackFault? (s : Statement) : Option Error :=
  if s.isScopable then
    match alone d f s with
    | .ok _ => none
    | .error fault => some fault
  else some (.unscopable (.stacked s.operation))

theorem stackFault?_eq_some_iff {s : Statement} {fault : Error} :
    stackFault? d f s = some fault ↔
      if s.isScopable then alone d f s = .error fault else fault = .unscopable (.stacked s.operation) := by
  rw [stackFault?]
  by_cases scopable : s.isScopable = true
  · rw [if_pos scopable, if_pos scopable]
    cases alone d f s with
    | ok part => exact iff_of_false nofun nofun
    | error fault' => rw [Option.some.injEq, Except.error.injEq]
  · rw [if_neg scopable, if_neg scopable, Option.some.injEq, eq_comm]

theorem stackFault?_eq_none_iff {s : Statement} :
    stackFault? d f s = none ↔ s.isScopable = true ∧ ∃ part, alone d f s = .ok part := by
  rw [stackFault?]
  by_cases scopable : s.isScopable = true
  · rw [if_pos scopable]
    cases own : alone d f s with
    | ok part => exact iff_of_true rfl ⟨scopable, part, rfl⟩
    | error fault => exact iff_of_false nofun fun h => nomatch h.2
  · rw [if_neg scopable]
    exact iff_of_false nofun fun h => scopable h.1

/-- What statements come to one after the other. -/
def together (parts : List Injected) : Added := parts.foldr (fun part added => part.added.followedBy added) .nothing

variable {d f}

theorem outcome_statement_fault {s : Statement} {fault : Error} (faulty : stackFault? d f s = some fault) :
    (outcome (statement (.ofDialect d) (recording (.answering f)) true s) .nothing ((), [])).1 = .error fault := by
  rw [statement_stacked]
  rw [stackFault?] at faulty
  by_cases scopable : s.isScopable = true
  · rw [if_pos scopable, alone] at faulty
    rw [if_pos scopable]
    rcases ran : outcome (statement (.ofDialect d) (recording (.answering f)) false s) .nothing ((), []) with
      ⟨fault' | ⟨s', added⟩, ⟨⟩, scopes⟩
    all_goals
      rw [ran] at faulty
      cases faulty
    rfl
  · rw [if_neg scopable] at faulty
    cases faulty
    rw [if_neg scopable]
    rfl

theorem outcome_statement_part {s : Statement} (faultless : stackFault? d f s = none) :
    ∃ part, alone d f s = .ok part ∧ s.isScopable = true ∧
      outcome (statement (.ofDialect d) (recording (.answering f)) true s) .nothing ((), []) =
        (.ok (part.statement, part.added), (), part.scopes) := by
  rw [statement_stacked]
  rw [stackFault?] at faultless
  by_cases scopable : s.isScopable = true
  · rw [if_pos scopable, alone] at faultless
    rw [if_pos scopable, alone]
    rcases ran : outcome (statement (.ofDialect d) (recording (.answering f)) false s) .nothing ((), []) with
      ⟨fault' | ⟨s', added⟩, ⟨⟩, scopes⟩
    · rw [ran] at faultless
      cases faultless
    · exact ⟨⟨s', added, scopes⟩, rfl, scopable, rfl⟩
  · rw [if_neg scopable] at faultless
    cases faultless

/-- Statements after a first one go on from what it comes to, as if they were the only ones. -/
theorem outcome_statements_cons (s : Statement) (rest : List Statement) :
    outcome (statements (.ofDialect d) (recording (.answering f)) true (s :: rest)) .nothing ((), []) =
      match outcome (statement (.ofDialect d) (recording (.answering f)) true s) .nothing ((), []) with
      | (.ok (s', own), (), scopes) =>
        carryOn own scopes (match outcome (statements (.ofDialect d) (recording (.answering f)) true rest)
            .nothing ((), []) with
          | (.ok (rest', added), state) => (.ok (s' :: rest', added), state)
          | (.error fault, state) => (.error fault, state))
      | (.error fault, state) => (.error fault, state) := by
  rw [statements, outcome_bind]
  rcases outcome (statement (.ofDialect d) (recording (.answering f)) true s) .nothing ((), []) with
    ⟨fault | ⟨s', own⟩, ⟨⟩, scopes⟩
  · rfl
  · have alone := statements_related (.ofDialect d) (related_standsAlone f) true rest
    dsimp only
    rw [outcome_bind, alone own scopes]
    rcases outcome (statements (.ofDialect d) (recording (.answering f)) true rest) .nothing ((), []) with
      ⟨fault | ⟨rest', added⟩, ⟨⟩, scopes'⟩ <;> rfl

/-- A stack fails with its first statement that cannot be in it. -/
theorem outcome_statements_fault {list : List Statement} {fault : Error}
    (faulty : list.findSome? (stackFault? d f) = some fault) :
    (outcome (statements (.ofDialect d) (recording (.answering f)) true list) .nothing ((), [])).1 =
      .error fault := by
  induction list with
  | nil => cases faulty
  | cons s rest ih =>
    rw [outcome_statements_cons]
    rw [List.findSome?_cons] at faulty
    cases first : stackFault? d f s with
    | some fault' =>
      rw [first] at faulty
      cases faulty
      have failed := outcome_statement_fault first
      rcases ran : outcome (statement (.ofDialect d) (recording (.answering f)) true s) .nothing ((), []) with
        ⟨fault' | ⟨s', own⟩, ⟨⟩, scopes⟩
      all_goals
        rw [ran] at failed
        cases failed
      rfl
    | none =>
      rw [first] at faulty
      obtain ⟨part, -, -, ran⟩ := outcome_statement_part first
      have failed := ih faulty
      rw [ran]
      dsimp only
      rcases ran' : outcome (statements (.ofDialect d) (recording (.answering f)) true rest) .nothing ((), [])
        with ⟨fault' | ⟨rest', added⟩, ⟨⟩, scopes⟩
      all_goals
        rw [ran'] at failed
        cases failed
      rfl

/-- Otherwise it comes to what its statements come to, one after the other. -/
theorem outcome_statements_parts {list : List Statement}
    (faultless : list.findSome? (stackFault? d f) = none) :
    ∃ parts, List.Forall₂ (fun s part => s.isScopable = true ∧ alone d f s = .ok part) list parts ∧
      outcome (statements (.ofDialect d) (recording (.answering f)) true list) .nothing ((), []) =
        (.ok (parts.map (·.statement), together parts), (), parts.flatMap (·.scopes)) := by
  induction list with
  | nil => exact ⟨[], .nil, rfl⟩
  | cons s rest ih =>
    rw [List.findSome?_cons] at faultless
    rw [outcome_statements_cons]
    cases first : stackFault? d f s with
    | some fault =>
      rw [first] at faultless
      cases faultless
    | none =>
      rw [first] at faultless
      obtain ⟨part, own, scopable, ran⟩ := outcome_statement_part first
      obtain ⟨parts, others, ran'⟩ := ih faultless
      refine ⟨part :: parts, .cons ⟨scopable, own⟩ others, ?_⟩
      rw [ran, ran']
      rfl

/-! ## What a stack comes to -/

theorem together_predicates (parts : List Injected) :
    (together parts).predicates = parts.flatMap (·.added.predicates) := by
  induction parts with
  | nil => rfl
  | cons part parts ih =>
    rw [List.flatMap_cons, ← ih]
    rfl

/-- A statement lists its tables once each. -/
theorem alone_tables {s : Statement} {part : Injected} (own : alone d f s = .ok part) :
    part.added.tables.eraseDups = part.added.tables := by
  have steady := statement_related (.ofDialect d) (related_standsAlone f) false s .nothing []
  rw [alone] at own
  rcases ran : outcome (statement (.ofDialect d) (recording (.answering f)) false s) .nothing ((), []) with
    ⟨fault | ⟨s', added⟩, ⟨⟩, scopes⟩
  · rw [ran] at own
    cases own
  · rw [ran] at own steady
    cases own
    have same : added = Added.followedBy .nothing added := by
      have same := congrArg Prod.fst steady
      exact congrArg Prod.snd (Except.ok.inj same)
    have tables := congrArg Added.tables same
    rw [← List.nil_append added.tables, ← Added.foldl_withTable_eraseDups]
    exact tables.symm

theorem together_tables {list : List Statement} {parts : List Injected}
    (own : List.Forall₂ (fun s part => s.isScopable = true ∧ alone d f s = .ok part) list parts) :
    (together parts).tables = (parts.flatMap (·.added.tables)).eraseDups := by
  induction own with
  | nil => rfl
  | @cons s part list parts first others ih =>
    have tables : (together (part :: parts)).tables =
        (together parts).tables.foldl Added.withTable part.added.tables := rfl
    rw [tables, ih, List.flatMap_cons, ← Added.foldl_withTable_eraseDups part.added.tables,
      alone_tables first.2]
    have rest := Added.foldl_withTable_eraseDups [] (parts.flatMap (·.added.tables))
    rw [List.nil_append] at rest
    rw [← rest, Added.foldl_foldl_withTable]
    rfl

end Rewrite

/-- What injecting the predicates of a source into a text comes to, and the scopes that the source is asked
about. -/
def injected (d : Dialect) (f : Scope → Except Error (List Predicate)) (sql : String) :
    Except Error Rewritten × List Scope :=
  let run := (rewrite d (recording (.answering f)) sql).run.run ((), [])
  (run.1, run.2.2)

theorem injected_parsed {d : Dialect} (f : Scope → Except Error (List Predicate)) {sql : String}
    {list : List Statement} (parsed : Sql.parse d sql = some list) :
    injected d f sql =
      match Rewrite.outcome (Rewrite.statements (.ofDialect d) (recording (.answering f)) (1 < list.length) list)
          .nothing ((), []) with
      | (.ok (list', added), state) =>
        (.ok ⟨if added.isNothing then sql else renderStatements list', added⟩, state.2)
      | (.error fault, state) => (.error fault, state.2) := by
  rw [injected, rewrite, rewriteWith_run (.ofDialect d) _ parsed]
  rcases Rewrite.outcome (Rewrite.statements (.ofDialect d) (recording (.answering f)) (1 < list.length) list)
    .nothing ((), []) with ⟨fault | ⟨list', added⟩, state⟩ <;> rfl

/-- Several statements in one text, with a source that answers each scope by itself. They fail with the first of
them that is no query, update or delete or that fails alone. Otherwise they come to what each of them comes to
alone: its predicates and its scopes, one statement after the other, its tables, each once as it first occurs,
and its text, with a semicolon in between; if nothing was added, the text stays as it is. A statement is alone in
a text that holds nothing but it. -/
theorem stack_composes (d : Dialect) (f : Scope → Except Error (List Predicate)) {sql : String}
    {list : List Statement} (parsed : Sql.parse d sql = some list) (stacked : 2 ≤ list.length) :
    (∀ fault, (injected d f sql).1 = .error fault ↔ ∃ before s after, list = before ++ s :: after ∧
        (∀ b ∈ before, b.isScopable = true ∧ ∃ part, Rewrite.alone d f b = .ok part) ∧
        if s.isScopable then Rewrite.alone d f s = .error fault
        else fault = .unscopable (.stacked s.operation)) ∧
      (∀ result, (injected d f sql).1 = .ok result → ∃ parts,
        List.Forall₂ (fun s part => s.isScopable = true ∧ Rewrite.alone d f s = .ok part) list parts ∧
        result.added.predicates = parts.flatMap (·.added.predicates) ∧
        result.added.tables = (parts.flatMap (·.added.tables)).eraseDups ∧
        (injected d f sql).2 = parts.flatMap (·.scopes) ∧
        result.sql = if result.added.isNothing then sql
          else "; ".intercalate (parts.map (·.statement.render))) ∧
      ∀ text s, Sql.parse d text = some [s] →
        match Rewrite.alone d f s with
        | .ok part => injected d f text =
          (.ok ⟨if part.added.isNothing then text else part.statement.render, part.added⟩, part.scopes)
        | .error fault => (injected d f text).1 = .error fault := by
  have several : decide (1 < list.length) = true := decide_eq_true stacked
  have run := injected_parsed f parsed
  rw [several] at run
  have fails {fault : Error} (faults : list.findSome? (Rewrite.stackFault? d f) = some fault) :
      (injected d f sql).1 = .error fault := by
    have failed := Rewrite.outcome_statements_fault faults
    rw [run]
    rcases ran : Rewrite.outcome (Rewrite.statements (.ofDialect d) (recording (.answering f)) true list)
      .nothing ((), []) with ⟨fault | ⟨list', added⟩, state⟩
    all_goals
      rw [ran] at failed
      cases failed
    rfl
  refine ⟨fun fault => ?_, fun result done => ?_, fun text s alone => ?_⟩
  · have first : (∃ before s after, list = before ++ s :: after ∧
        (∀ b ∈ before, b.isScopable = true ∧ ∃ part, Rewrite.alone d f b = .ok part) ∧
        if s.isScopable then Rewrite.alone d f s = .error fault
        else fault = .unscopable (.stacked s.operation)) ↔
        list.findSome? (Rewrite.stackFault? d f) = some fault := by
      simp only [List.findSome?_eq_some_iff, Rewrite.stackFault?_eq_none_iff,
        Rewrite.stackFault?_eq_some_iff, and_comm]
    rw [first]
    cases faults : list.findSome? (Rewrite.stackFault? d f) with
    | some fault' => rw [fails faults, Except.error.injEq, Option.some.injEq]
    | none =>
      obtain ⟨parts, -, ran⟩ := Rewrite.outcome_statements_parts faults
      rw [run, ran]
      exact iff_of_false nofun nofun
  · cases faults : list.findSome? (Rewrite.stackFault? d f) with
    | some fault =>
      rw [fails faults] at done
      cases done
    | none =>
      obtain ⟨parts, own, ran⟩ := Rewrite.outcome_statements_parts faults
      rw [run, ran] at done ⊢
      cases done
      refine ⟨parts, own, Rewrite.together_predicates parts, Rewrite.together_tables own, rfl, ?_⟩
      rw [renderStatements, List.map_map]
      rfl
  · rw [injected_parsed f alone, Rewrite.alone]
    have one : Rewrite.outcome (Rewrite.statements (.ofDialect d) (recording (.answering f)) false [s])
        .nothing ((), []) =
        match Rewrite.outcome (Rewrite.statement (.ofDialect d) (recording (.answering f)) false s)
          .nothing ((), []) with
        | (.ok (s', added), state) => (.ok ([s'], added), state)
        | (.error fault, state) => (.error fault, state) := by
      rw [Rewrite.statements, Rewrite.outcome_bind]
      rcases Rewrite.outcome (Rewrite.statement (.ofDialect d) (recording (.answering f)) false s)
        .nothing ((), []) with ⟨fault | ⟨s', added⟩, state⟩ <;> rfl
    have several : decide (1 < [s].length) = false := rfl
    rw [several, one]
    rcases Rewrite.outcome (Rewrite.statement (.ofDialect d) (recording (.answering f)) false s)
      .nothing ((), []) with ⟨fault | ⟨s', added⟩, ⟨⟩, scopes⟩
    · rfl
    · have single : renderStatements [s'] = s'.render := rfl
      dsimp only
      rw [single]

/-! ## Two queries and a delete -/

namespace Stack

/-- Each table has a tenant of its own. -/
def tenants (scope : Scope) : Except Error (List Predicate) :=
  .ok (scope.tables.map fun t =>
    ⟨.tenant, some t.baseName, .binary .eq (.name [⟨t.qualifier, none⟩, ⟨"tenant", none⟩]) (.literal (.string "t"))⟩)

def text : String := "SELECT * FROM orders; DELETE FROM users; SELECT * FROM orders"

def rewritten : Rewritten where
  sql := "SELECT * FROM orders WHERE orders.tenant = 't'; DELETE FROM users WHERE users.tenant = 't'; " ++
    "SELECT * FROM orders WHERE orders.tenant = 't'"
  added := ⟨["orders.tenant = 't'", "users.tenant = 't'", "orders.tenant = 't'"], ["orders", "users"]⟩

/-- The text with a statement behind it that cannot be in a stack. -/
def inserting : String := text ++ "; INSERT INTO orders VALUES (1)"

/-- Each statement gets its own predicate, and the table that two of them read is listed once. With an insert
behind them none of them is rewritten, and it is the first that cannot be in a stack. -/
theorem orders_listed_once :
    (injected .postgres tenants text).1 = .ok rewritten ∧
      (∃ parts : List Injected, rewritten.added.predicates = parts.flatMap (·.added.predicates) ∧
        rewritten.added.tables = (parts.flatMap (·.added.tables)).eraseDups ∧
        rewritten.sql = "; ".intercalate (parts.map (·.statement.render))) ∧
      (injected .postgres tenants inserting).1 = .error (.unscopable (.stacked .insert)) ∧
      ∃ before s after, Sql.parse .postgres inserting = some (before ++ s :: after) ∧
        ∀ b ∈ before, b.isScopable = true ∧ ∃ part, Rewrite.alone .postgres tenants b = .ok part := by
  have long : ∀ sql ∈ [text, inserting], ∃ list, Sql.parse .postgres sql = some list ∧ 2 ≤ list.length := by
    intro sql mem
    have several : (Sql.parse .postgres sql).any fun list => 2 ≤ list.length := by
      rcases List.mem_pair.mp mem with rfl | rfl <;> decide +kernel
    obtain ⟨list, parsed, several⟩ := Option.any_eq_true _ _ |>.mp several
    exact ⟨list, parsed, of_decide_eq_true several⟩
  have done : (injected .postgres tenants text).1 = .ok rewritten := by decide +kernel
  have failed : (injected .postgres tenants inserting).1 = .error (.unscopable (.stacked .insert)) := by
    decide +kernel
  obtain ⟨list, parsed, several⟩ := long text (.head _)
  obtain ⟨parts, -, predicates, tables, -, written⟩ :=
    (stack_composes .postgres tenants parsed several).2.1 rewritten done
  obtain ⟨list', parsed', several'⟩ := long inserting (.tail _ (.head _))
  obtain ⟨before, s, after, rfl, good, -⟩ :=
    ((stack_composes .postgres tenants parsed' several').1 _).mp failed
  exact ⟨done, ⟨parts, predicates, tables, written⟩, failed, before, s, after, parsed', good⟩

end Stack

end RowAccess
