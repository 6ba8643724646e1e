import RowAccess.Enforcer.Basic
import RowAccess.Proofs.Reading.Blanks
import RowAccess.Proofs.RoleOrder
/-!
# Blank columns

A rule is checked as if a blank column were none, but its condition is made with it: a role whose rows are told by a
blank column is asked all the same. To leave the blank columns out is to leave out the roles that read them
(`DataRule.text?_withoutBlanks`), which changes nothing exactly if no column is blank. A comparison with a blank column
is no condition in any dialect that passes over the blanks, so the statement fails (`blank_columns`).
-/

namespace RowAccess

open Sql Sql.Parser
open Config (DataRule OperationRule)

variable {σ : Type}

/-! ## Rules without their blank columns -/

theorem Text.nonBlank_nonBlank (value : Option String) : Text.nonBlank (Text.nonBlank value) = Text.nonBlank value := by
  simp [Text.nonBlank, Option.filter_filter]

namespace Config

/-- The rule with none in place of blank columns. -/
def DataRule.withoutBlanks (rule : DataRule) : DataRule :=
  { rule with deptColumn := Text.nonBlank rule.deptColumn, userColumn := Text.nonBlank rule.userColumn }

/-- For the check of a rule, blank columns are none. -/
theorem OperationRule.fault?_withoutBlanks (id : String) (tenant : Bool) (rule : DataRule) :
    OperationRule.fault? id ⟨tenant, some rule.withoutBlanks⟩ = OperationRule.fault? id ⟨tenant, some rule⟩ := by
  rw [OperationRule.fault?, OperationRule.fault?]
  dsimp only [DataRule.withoutBlanks]
  rw [Text.nonBlank_nonBlank, Text.nonBlank_nonBlank]

namespace DataRule

variable {rule : DataRule} {directory : Directory} {deny : String} {session : Session} {qualifier : Option String}

/-- The column that the rows of a role are told by. -/
def columnFor? (rule : DataRule) (role : Role) : Option String :=
  match role.dataScope with
  | .all => none
  | .custom | .dept | .deptAndChild => rule.deptColumn
  | .selfOnly => rule.userColumn

/-- Whether the rows of a role are told by a blank column. -/
def readsBlank (rule : DataRule) (role : Role) : Bool := (rule.columnFor? role).any Text.isBlank

theorem nonBlank_eq (column : Option String) :
    Text.nonBlank column = if column.any Text.isBlank then none else column := by
  cases column with
  | none => rfl
  | some c => cases blank : Text.isBlank c <;> simp [Text.nonBlank, blank]

/-- Without the blank columns, the roles that read them have no condition, and the others have the one they had. -/
theorem roleText?_withoutBlanks (role : Role) :
    rule.withoutBlanks.roleText? directory deny session qualifier role =
      if rule.readsBlank role then .ok none else rule.roleText? directory deny session qualifier role := by
  rw [roleText?, roleText?, withoutBlanks, readsBlank, columnFor?]
  dsimp only
  cases role.dataScope with
  | all => rfl
  | custom | dept | deptAndChild =>
    rw [nonBlank_eq]
    cases rule.deptColumn.any Text.isBlank <;> rfl
  | selfOnly =>
    rw [nonBlank_eq rule.userColumn]
    cases rule.userColumn.any Text.isBlank <;> rfl

/-- Roles that have no condition, though they do not open every row, may be left out. -/
theorem roleTexts_filter {rule' : DataRule} {session' : Session} (combine : rule'.combine = rule.combine)
    {keeps : Role → Bool} (opens : ∀ role, role.dataScope = .all → keeps role = true)
    (told : ∀ role, rule'.roleText? directory deny session' qualifier role =
      if keeps role then rule.roleText? directory deny session qualifier role else .ok none)
    (texts : List String) (roles : List Role) :
    rule'.roleTexts directory deny session' qualifier texts roles =
      rule.roleTexts directory deny session qualifier texts (roles.filter keeps) := by
  have same (role : Role) : rule'.lifts role = rule.lifts role := by
    rw [lifts, lifts, combine]
  induction roles generalizing texts with
  | nil => rfl
  | cons role roles ih =>
    cases kept : keeps role with
    | true =>
      rw [List.filter_cons_of_pos kept]
      cases lifting : rule.lifts role with
      | true => rw [roleTexts_lifts lifting, roleTexts_lifts ((same role).trans lifting)]
      | false =>
        rw [roleTexts_cons lifting, roleTexts_cons ((same role).trans lifting), told, if_pos kept]
        exact congrArg _ (funext fun found => ih _)
    | false =>
      have lifting : rule'.lifts role = false := by
        rw [Bool.eq_false_iff]
        intro lifting
        rw [lifts, Bool.and_eq_true, beq_iff_eq, beq_iff_eq] at lifting
        rw [opens role lifting.2] at kept
        cases kept
      rw [List.filter_cons_of_neg (by simp [kept]), roleTexts_cons lifting, told, if_neg (by simp [kept])]
      exact ih texts

theorem readsBlank_of_all {role : Role} (opens : role.dataScope = .all) : rule.readsBlank role = false := by
  rw [readsBlank, columnFor?, opens]
  rfl

/-- To leave the blank columns out is to leave out the roles that read them. -/
theorem text?_withoutBlanks (rule : DataRule) (directory : Directory) (deny : String) (session : Session)
    (qualifier : Option String) :
    rule.withoutBlanks.text? directory deny session qualifier =
      rule.text? directory deny (session.withRoles (session.roles.filter fun role => !rule.readsBlank role))
        qualifier := by
  have roles : (session.withRoles (session.roles.filter fun role => !rule.readsBlank role)).roles =
      session.roles.filter fun role => !rule.readsBlank role := by
    cases session <;> rfl
  have texts : rule.withoutBlanks.roleTexts directory deny session qualifier [] (session.roles.filter rule.counts) =
      rule.roleTexts directory deny (session.withRoles (session.roles.filter fun role => !rule.readsBlank role))
        qualifier [] ((session.roles.filter rule.counts).filter fun role => !rule.readsBlank role) := by
    refine roleTexts_filter ?_ (fun role opens => ?_) (fun role => ?_) [] _
    · rfl
    · rw [readsBlank_of_all opens, Bool.not_false]
    · rw [roleText?_withoutBlanks, roleText?_withRoles]
      cases rule.readsBlank role <;> rfl
  rw [text?, text?, Session.isSuperAdmin_withRoles, roles, List.filter_comm]
  dsimp only
  rw [← texts]
  rfl

/-! ## Blank columns that are read -/

/-- Where all roles that count are told the same condition, that is the condition for the caller. -/
theorem text?_told (restricted : session.isSuperAdmin = false) (held : ∃ role ∈ session.roles, rule.counts role = true)
    {text : String} (told : ∀ role ∈ session.roles, rule.counts role = true →
      rule.roleText? directory deny session qualifier role = .ok (some text)) :
    rule.text? directory deny session qualifier = .ok (some text) := by
  have among (texts : List String) (few : texts = [] ∨ texts = [text]) (roles : List Role)
      (told : ∀ role ∈ roles, rule.roleText? directory deny session qualifier role = .ok (some text)) :
      rule.roleTexts directory deny session qualifier texts roles =
        .ok (some (if roles = [] then texts else [text])) := by
    induction roles generalizing texts with
    | nil => rfl
    | cons role roles ih =>
      have lifting : rule.lifts role = false := by
        rw [Bool.eq_false_iff]
        intro lifting
        rw [lifts, Bool.and_eq_true, beq_iff_eq, beq_iff_eq] at lifting
        have none := told role (.head _)
        rw [roleText?_all lifting.2] at none
        cases none
      have one : (if texts.contains text then texts else texts ++ [text]) = [text] := by
        rcases few with rfl | rfl <;> simp
      rw [roleTexts_cons lifting, told role (.head _), if_neg (List.cons_ne_nil _ _)]
      change rule.roleTexts directory deny session qualifier
        (if texts.contains text then texts else texts ++ [text]) roles = _
      rw [one, ih [text] (.inr rfl) fun role mem => told role (.tail _ mem), ite_self]
  obtain ⟨role, mem, counts⟩ := held
  have some : session.roles.filter rule.counts ≠ [] := List.ne_nil_of_mem (List.mem_filter.mpr ⟨mem, counts⟩)
  rw [text?, if_neg (by simp [restricted])]
  dsimp only
  rw [among [] (.inl rfl) _ fun role mem => told role (List.mem_filter.mp mem).1 (List.mem_filter.mp mem).2, if_neg some]
  rfl

/-- A role whose rows are those of the caller, by the user or by the department, and the value they are told by. -/
def toldBy (rule : DataRule) (session : Session) (column value : String) (role : Role) : Prop :=
  rule.columnFor? role = some column ∧
    ((role.dataScope = .selfOnly ∧ session.userId = some value) ∨ (role.dataScope = .dept ∧ session.deptId = some value))

theorem roleText?_toldBy {column value : String} {role : Role} (told : rule.toldBy session column value role) :
    rule.roleText? directory deny session qualifier role = .ok (some (equalText (qualify qualifier column) value)) := by
  obtain ⟨named, ⟨scope, known⟩ | ⟨scope, known⟩⟩ := told
  · rw [columnFor?, scope] at named
    dsimp only at named
    rw [roleText?, scope, named, known]
    rfl
  · rw [columnFor?, scope] at named
    dsimp only at named
    rw [roleText?, scope, named, known]
    rfl

/-- A caller without roles that count sees nothing. -/
theorem text?_denied (restricted : session.isSuperAdmin = false) (none : session.roles.filter rule.counts = []) :
    rule.text? directory deny session qualifier = .ok (some deny) := by
  rw [text?, if_neg (by simp [restricted]), none]
  rfl

theorem withoutBlanks_eq_self :
    rule.withoutBlanks = rule ↔
      rule.deptColumn.any Text.isBlank = false ∧ rule.userColumn.any Text.isBlank = false := by
  have kept (column : Option String) : Text.nonBlank column = column ↔ column.any Text.isBlank = false := by
    rw [nonBlank_eq]
    cases column with
    | none => simp
    | some c => cases blank : Text.isBlank c <;> simp [blank]
  obtain ⟨table, dept, user, permission, combine⟩ := rule
  rw [← kept, ← kept, withoutBlanks]
  simp

/-- A caller whose only role reads a blank column is told something else once blank columns are left out. -/
theorem text?_withoutBlanks_ne {p : Principal} {role : Role} {column value : String} (only : p.roles = [role])
    (restricted : p.superAdmin = false) (counts : rule.counts role = true) (blank : Text.isBlank column = true)
    (told : rule.toldBy (.user p) column value role) :
    rule.withoutBlanks.text? directory "" (.user p) qualifier ≠ rule.text? directory "" (.user p) qualifier := by
  have held : (Session.user p).roles = [role] := only
  have restricted : (Session.user p).isSuperAdmin = false := restricted
  have reads : rule.readsBlank role = true := by
    rw [readsBlank, told.1, Option.any_some, blank]
  have left : ((Session.user p).roles.filter fun role => !rule.readsBlank role) = [] := by
    rw [held]
    simp [reads]
  have before : rule.text? directory "" (.user p) qualifier =
      .ok (some (equalText (qualify qualifier column) value)) := by
    refine text?_told restricted ⟨role, by simp [held], counts⟩ fun role' mem _ => ?_
    obtain rfl : role' = role := by simpa [held] using mem
    exact roleText?_toldBy told
  have after : rule.withoutBlanks.text? directory "" (.user p) qualifier = .ok (some "") := by
    rw [text?_withoutBlanks, left]
    exact text?_denied restricted rfl
  rw [before, after]
  intro same
  have texts : "" = equalText (qualify qualifier column) value := Option.some.inj (Except.ok.inj same)
  have chars := congrArg String.toList texts
  simp [equalText] at chars

end DataRule

end Config

/-- A rule is accepted or refused as it is without its blank columns, but the condition made with it is another one:
without them, it is the condition for the caller without the roles that read a blank column, so that the two agree for
every directory, every caller and every qualifier exactly if no column is blank. Where every role that counts shows the
caller's own rows by one and the same blank column, of which the dialect reads nothing, no condition can be made, and
every query that the rule applies to fails. -/
theorem blank_columns (rule : DataRule) :
    (∀ id tenant, OperationRule.fault? id ⟨tenant, some rule.withoutBlanks⟩ = OperationRule.fault? id ⟨tenant, some rule⟩) ∧
      (∀ directory deny session qualifier,
        rule.withoutBlanks.text? directory deny session qualifier =
          rule.text? directory deny (session.withRoles (session.roles.filter fun role => !rule.readsBlank role))
            qualifier) ∧
      ((∀ directory deny session qualifier,
          rule.withoutBlanks.text? directory deny session qualifier =
            rule.text? directory deny session qualifier) ↔
        rule.deptColumn.any Text.isBlank = false ∧ rule.userColumn.any Text.isBlank = false) ∧
      ∀ (e : Enforcer σ) (ctx : Context) (qualifier table : Option String) {column value : String},
        column.toList.all e.config.dialect.skips = true → (∀ q ∈ qualifier, isPlainName q = true) →
        ctx.session.isSuperAdmin = false → (∃ role ∈ ctx.session.roles, rule.counts role = true) →
        (∀ role ∈ ctx.session.roles, rule.counts role = true → rule.toldBy ctx.session column value role) →
          e.dataPredicate? ctx rule qualifier table =
            .error (.invalidPredicate (equalText (qualify qualifier column) value)) := by
  refine ⟨fun id tenant => OperationRule.fault?_withoutBlanks id tenant rule, rule.text?_withoutBlanks, ⟨?_, ?_⟩, ?_⟩
  · intro same
    -- a caller whose only role reads the column tells the two apart
    have told (scope : DataScope) {column : String} (blank : Text.isBlank column = true)
        (reads : ∀ p : Principal, p.userId = "" → p.deptId = some "" →
          rule.toldBy (.user p) column "" ⟨"", scope, rule.permission.toList⟩) : False := by
      have counts : rule.counts ⟨"", scope, rule.permission.toList⟩ = true := by
        rw [DataRule.counts]
        cases rule.permission <;> simp
      exact DataRule.text?_withoutBlanks_ne (p := ⟨"", none, some "", [⟨"", scope, rule.permission.toList⟩], false⟩)
        rfl rfl counts blank (reads _ rfl rfl) (same ⟨fun _ => .ok [], fun _ => .ok []⟩ "" _ none)
    constructor
    · rw [Bool.eq_false_iff]
      intro blank
      obtain ⟨column, named, blank⟩ := (Option.any_eq_true _ _).mp blank
      exact told .dept blank fun p _ dept => ⟨named, .inr ⟨rfl, dept⟩⟩
    · rw [Bool.eq_false_iff]
      intro blank
      obtain ⟨column, named, blank⟩ := (Option.any_eq_true _ _).mp blank
      exact told .selfOnly blank fun p user _ => ⟨named, .inl ⟨rfl, congrArg some user⟩⟩
  · intro none directory deny session qualifier
    rw [DataRule.withoutBlanks_eq_self.mpr none]
  · intro e ctx qualifier table column value skipped plain restricted held told
    have text : rule.text? e.directory e.config.dataPermission.denyPredicate ctx.session qualifier =
        .ok (some (equalText (qualify qualifier column) value)) :=
      DataRule.text?_told restricted held fun role mem counts => DataRule.roleText?_toldBy (told role mem counts)
    rw [Enforcer.dataPredicate?, text]
    dsimp only
    rw [Enforcer.predicate, parseExpr_blank value plain skipped]
    rfl

/-! ## A blank department -/

namespace BlankDepartment

/-- The column of the department is blank, that of the user is not. -/
def rule : DataRule := { deptColumn := some " ", userColumn := some "owner" }

def enforcer : Enforcer Memory where
  config := {}
  tenants := .ofTenancy {} .memory
  directory := Departments.directory ⟨[], []⟩

/-- A clerk who sees the rows of their department. -/
def clerk : Context := ⟨.user ⟨"clerk", none, some "103", [⟨"clerks", .dept, []⟩], false⟩, .idle, none⟩

/-- The rule is accepted, and fails for the clerk, who would see nothing without the blank column. -/
theorem clerk_fails :
    OperationRule.fault? "orders.list" ⟨false, some rule⟩ = none ∧
      enforcer.dataPredicate? clerk rule none none = .error (.invalidPredicate "  = '103'") ∧
      rule.withoutBlanks.text? enforcer.directory "1 = 0" clerk.session none = .ok (some "1 = 0") := by
  obtain ⟨checked, -, -, fails⟩ := blank_columns (σ := Memory) rule
  refine ⟨(checked "orders.list" false).symm.trans (by decide), ?_, rfl⟩
  have told : ∀ role ∈ clerk.session.roles, rule.counts role = true → rule.toldBy clerk.session " " "103" role := by
    intro role mem _
    obtain rfl := List.mem_singleton.mp mem
    exact ⟨rfl, .inr ⟨rfl, rfl⟩⟩
  exact fails enforcer clerk none none (by decide) nofun rfl ⟨_, .head _, rfl⟩ told

end BlankDepartment

end RowAccess
