import RowAccess.Proofs.Roles
import RowAccess.Proofs.Semantics.Conditions
import RowAccess.Proofs.Semantics.Texts
/-!
# The rows that roles open

A role opens rows by the department or the user that they show (`opens`), and restricts a caller only if
its condition can be written with the columns of the rule and what is known of the caller (`restricts`). The
condition for a caller is true at the rows that some, or all, of the roles that restrict open
(`text?_rows`). Where one role suffices, these are the rows that some role opens (`rows_of_any_role`). Where
every role is needed, roles that do not restrict are left out, whether they open every row or none, and if
none is left no row is seen (`rows_of_every_role`).
-/

namespace RowAccess

open Sql Sql.Parser Semantics
open Config (Combine DataRule)

/-! ## What a role opens -/

/-- No lookup fails. -/
structure Directory.Answers (directory : Directory) : Prop where
  assigned : ∀ role, ∃ depts, directory.assigned role = .ok depts
  subtree : ∀ dept, ∃ depts, directory.subtree dept = .ok depts

namespace Config.DataRule

variable {d : Dialect} {rule : DataRule} {directory : Directory} {session : Session}
  {qualifier : Option String} {role : Role} {deny : String}

/-- The columns are words that name columns, and all values that conditions may be made of are readable, as
values without backslashes are in every dialect. -/
structure Legible (d : Dialect) (rule : DataRule) (directory : Directory) (session : Session)
    (qualifier : Option String) : Prop where
  qualifier : ∀ name ∈ qualifier, isColumnName name = true
  deptColumn : ∀ name ∈ rule.deptColumn, isColumnName name = true
  userColumn : ∀ name ∈ rule.userColumn, isColumnName name = true
  user : ∀ user ∈ session.userId, d.readable user = true
  dept : ∀ dept ∈ session.deptId, d.readable dept = true
  assigned : ∀ role ∈ session.roles, ∀ depts, directory.assigned role.id = .ok depts →
    ∀ dept ∈ depts, d.readable dept = true
  subtree : ∀ root ∈ session.deptId, ∀ depts, directory.subtree root = .ok depts →
    ∀ dept ∈ depts, d.readable dept = true

/-- Whether a role opens a row, by the values that the row has in its columns. -/
def opens (rule : DataRule) (directory : Directory) (session : Session) (has : String → String → Bool)
    (role : Role) : Bool :=
  match role.dataScope with
  | .all => true
  | .custom => rule.deptColumn.any fun column =>
      (directory.assigned role.id).toOption.any fun depts => depts.any (has column)
  | .dept => rule.deptColumn.any fun column => session.deptId.any (has column)
  | .deptAndChild => rule.deptColumn.any fun column => session.deptId.any fun dept =>
      (directory.subtree dept).toOption.any fun depts => depts.any (has column)
  | .selfOnly => rule.userColumn.any fun column => session.userId.any (has column)

/-- Whether a role restricts a caller: it does not open every row, and which rows it opens can be said with
the columns of the rule and what is known of the caller. -/
def restricts (rule : DataRule) (session : Session) (role : Role) : Bool :=
  match role.dataScope with
  | .all => false
  | .custom => rule.deptColumn.isSome
  | .dept | .deptAndChild => rule.deptColumn.isSome && session.deptId.isSome
  | .selfOnly => rule.userColumn.isSome && session.userId.isSome

/-- A role that does not restrict a caller opens every row or none. -/
theorem opens_of_unrestricted (unrestricted : rule.restricts session role = false)
    (has : String → String → Bool) :
    rule.opens directory session has role = (role.dataScope == .all) := by
  unfold restricts at unrestricted
  unfold opens
  cases scope : role.dataScope with
  | all => rfl
  | custom => cases column : rule.deptColumn <;> simp_all
  | dept => cases column : rule.deptColumn <;> simp_all
  | deptAndChild => cases column : rule.deptColumn <;> simp_all
  | selfOnly => cases column : rule.userColumn <;> simp_all

/-- A role has a condition exactly if it restricts the caller. -/
theorem condition?_answers (rule : DataRule) (session : Session) (qualifier : Option String)
    (answers : directory.Answers) (role : Role) :
    ∃ c, rule.condition? directory session qualifier role = .ok c ∧
      c.isSome = rule.restricts session role := by
  unfold condition? restricts
  cases role.dataScope with
  | all => exact ⟨_, rfl, rfl⟩
  | custom =>
    obtain ⟨depts, found⟩ := answers.assigned role.id
    cases rule.deptColumn with
    | none => exact ⟨_, rfl, rfl⟩
    | some column => rw [found]; exact ⟨_, rfl, rfl⟩
  | dept => cases rule.deptColumn <;> cases session.deptId <;> exact ⟨_, rfl, rfl⟩
  | deptAndChild =>
    cases rule.deptColumn with
    | none => exact ⟨_, rfl, rfl⟩
    | some column =>
      cases session.deptId with
      | none => exact ⟨_, rfl, rfl⟩
      | some dept =>
        obtain ⟨depts, found⟩ := answers.subtree dept
        dsimp only
        rw [found]
        exact ⟨_, rfl, rfl⟩
  | selfOnly => cases rule.userColumn <;> cases session.userId <;> exact ⟨_, rfl, rfl⟩

/-- What the condition of a role is made of. -/
inductive Meant (rule : DataRule) (directory : Directory) (session : Session) (qualifier : Option String)
    (role : Role) : Condition → Prop where
  | assigned {column : String} {depts : List String} : role.dataScope = .custom →
      rule.deptColumn = some column → directory.assigned role.id = .ok depts →
      Meant rule directory session qualifier role (.among qualifier column depts)
  | dept {column dept : String} : role.dataScope = .dept → rule.deptColumn = some column →
      session.deptId = some dept →
      Meant rule directory session qualifier role (.equals qualifier column dept)
  | subtree {column dept : String} {depts : List String} : role.dataScope = .deptAndChild →
      rule.deptColumn = some column → session.deptId = some dept → directory.subtree dept = .ok depts →
      Meant rule directory session qualifier role (.among qualifier column depts)
  | user {column user : String} : role.dataScope = .selfOnly → rule.userColumn = some column →
      session.userId = some user →
      Meant rule directory session qualifier role (.equals qualifier column user)

theorem meant_of_condition? {c : Condition}
    (answered : rule.condition? directory session qualifier role = .ok (some c)) :
    rule.Meant directory session qualifier role c := by
  unfold condition? at answered
  cases scope : role.dataScope
  all_goals simp only [scope] at answered
  case all => cases answered
  case custom =>
    cases dept : rule.deptColumn with
    | none => rw [dept] at answered; cases answered
    | some column =>
      cases found : directory.assigned role.id
      all_goals rw [dept, found] at answered; cases answered
      exact .assigned scope dept found
  case dept =>
    simp only [Except.ok.injEq, Option.bind_eq_bind, Option.bind_eq_some_iff, Option.pure_def,
      Option.some.injEq] at answered
    obtain ⟨column, named, dept, known, rfl⟩ := answered
    exact .dept scope named known
  case deptAndChild =>
    cases dept : rule.deptColumn with
    | none => rw [dept] at answered; cases answered
    | some column =>
      cases known : session.deptId with
      | none => rw [dept, known] at answered; cases answered
      | some id =>
        rw [dept, known] at answered
        dsimp only at answered
        cases found : directory.subtree id
        all_goals rw [found] at answered; cases answered
        exact .subtree scope dept known found
  case selfOnly =>
    simp only [Except.ok.injEq, Option.bind_eq_bind, Option.bind_eq_some_iff, Option.pure_def,
      Option.some.injEq] at answered
    obtain ⟨column, named, user, known, rfl⟩ := answered
    exact .user scope named known

namespace Meant

variable {c : Condition}

/-- The condition of a role is about the rows that the role opens. -/
theorem holds {V : Type} {I : Interpretation V} {env : Env V}
    (h : rule.Meant directory session qualifier role c) :
    c.holds I env = rule.opens directory session (I.shows env qualifier) role := by
  unfold opens
  cases h with
  | assigned scope named found => simp [Condition.holds, scope, named, found, Except.toOption]
  | dept scope named known => simp [Condition.holds, scope, named, known]
  | subtree scope named known found =>
    simp [Condition.holds, scope, named, known, found, Except.toOption]
  | user scope named known => simp [Condition.holds, scope, named, known]

theorem names (h : rule.Meant directory session qualifier role c)
    (legible : rule.Legible d directory session qualifier) : c.names.all isColumnName = true := by
  have qualified {column : String} (name : isColumnName column = true) :
      (qualifier.toList ++ [column]).all isColumnName = true := by
    have before := legible.qualifier
    cases qualifier <;> simp_all
  cases h with
  | assigned _ named _ | dept _ named _ | subtree _ named _ _ =>
    exact qualified (legible.deptColumn _ named)
  | user _ named _ => exact qualified (legible.userColumn _ named)

theorem values (h : rule.Meant directory session qualifier role c)
    (legible : rule.Legible d directory session qualifier) (held : role ∈ session.roles) :
    ∀ v ∈ c.values, d.readable v = true := by
  cases h with
  | assigned _ _ found => exact legible.assigned role held _ found
  | dept _ _ known => exact fun v mem => legible.dept v (List.mem_singleton.mp mem ▸ known)
  | subtree _ _ known found => exact legible.subtree _ known _ found
  | user _ _ known => exact fun v mem => legible.user v (List.mem_singleton.mp mem ▸ known)

end Meant

variable {never : Expr}

/-- A role is answered with a text exactly if it restricts the caller. -/
theorem roleText?_answers (rule : DataRule) (deny : String) (session : Session) (qualifier : Option String)
    (answers : directory.Answers) (role : Role) :
    ∃ answer, rule.roleText? directory deny session qualifier role = .ok answer ∧
      answer.isSome = rule.restricts session role := by
  obtain ⟨c, found, restricts⟩ := rule.condition?_answers session qualifier answers role
  exact ⟨c.map (Condition.text deny), by rw [roleText?_eq, found]; rfl, by simp [restricts]⟩

/-- The text is a term, and its expression is true at the rows that the role opens. -/
theorem roleText?_stands (legible : rule.Legible d directory session qualifier)
    (denies : StandsAs d deny never) (held : role ∈ session.roles) {text : String}
    (answer : rule.roleText? directory deny session qualifier role = .ok (some text)) :
    ∃ e, StandsAs d text e ∧
      ∀ {V : Type} [DecidableEq V] {I : Interpretation V} {W : World V} {env : Env V},
        I.ComparesAlike → isTrueAt I W env never = false →
        isTrueAt I W env e = rule.opens directory session (I.shows env qualifier) role := by
  rw [roleText?_eq] at answer
  rcases found : rule.condition? directory session qualifier role with fault | _ | c
  all_goals rw [found] at answer; cases answer
  have meant := meant_of_condition? found
  obtain ⟨e, stands, isTrue⟩ := Condition.stands denies (meant.names legible) (meant.values legible held)
  exact ⟨e, stands, fun alike off => (isTrue alike off).trans meant.holds⟩

/-! ## What several roles open -/

/-- The roles that count and restrict the caller. -/
def restricting (rule : DataRule) (session : Session) : List Role :=
  (session.roles.filter rule.counts).filter (rule.restricts session)

theorem mem_restricting :
    role ∈ rule.restricting session ↔
      role ∈ session.roles ∧ rule.counts role = true ∧ rule.restricts session role = true := by
  rw [restricting, List.mem_filter, List.mem_filter, and_assoc]

/-- The condition for a caller can be told if no lookup fails. -/
theorem text?_answers (rule : DataRule) (deny : String) (session : Session) (qualifier : Option String)
    (answers : directory.Answers) :
    ∃ condition, rule.text? directory deny session qualifier = .ok condition := by
  have all : (rule.asked session).all (rule.answered directory deny session qualifier) = true := by
    rw [List.all_eq_true]
    intro role _
    obtain ⟨answer, found, -⟩ := rule.roleText?_answers deny session qualifier answers role
    rw [answered, found]
    rfl
  have told : (rule.text? directory deny session qualifier).isOk = true := by
    rw [text?_isOk, all, Bool.or_true]
  cases found : rule.text? directory deny session qualifier with
  | error fault => rw [found] at told; cases told
  | ok condition => exact ⟨condition, rfl⟩

/-- A condition combines the texts of the roles that restrict. -/
theorem text?_restricting (answers : directory.Answers) {text : String}
    (told : rule.text? directory deny session qualifier = .ok (some text)) :
    ∃ texts, text = combined rule.combine deny texts ∧
      (∀ part ∈ texts, ∃ role ∈ rule.restricting session,
        rule.roleText? directory deny session qualifier role = .ok (some part)) ∧
      ∀ role ∈ rule.restricting session, ∃ part ∈ texts,
        rule.roleText? directory deny session qualifier role = .ok (some part) := by
  obtain ⟨texts, rfl, among⟩ := text?_eq_some told
  refine ⟨texts, rfl, fun part mem => ?_, fun role mem => ?_⟩
  · obtain ⟨role, held, counts, answer⟩ := (among part).mp mem
    obtain ⟨answer', found, restricts⟩ := rule.roleText?_answers deny session qualifier answers role
    obtain rfl : some part = answer' := Except.ok.inj (answer.symm.trans found)
    exact ⟨role, mem_restricting.mpr ⟨held, counts, restricts.symm⟩, answer⟩
  · obtain ⟨held, counts, restricts⟩ := mem_restricting.mp mem
    obtain ⟨answer, found, isSome⟩ := rule.roleText?_answers deny session qualifier answers role
    obtain ⟨part, rfl⟩ := Option.isSome_iff_exists.mp (isSome.trans restricts)
    exact ⟨part, (among part).mpr ⟨role, held, counts, found⟩, found⟩

/-- The condition for a caller whose rows are restricted is true at the rows that some, or all, of the roles
that restrict open. -/
theorem text?_rows (answers : directory.Answers) (legible : rule.Legible d directory session qualifier)
    (denies : StandsAs d deny never) (unlifted : rule.isLifted session = false) :
    ∃ text e, rule.text? directory deny session qualifier = .ok (some text) ∧ parseExpr d text = some e ∧
      ∀ {V : Type} [DecidableEq V] {I : Interpretation V} {W : World V} {env : Env V},
        I.ComparesAlike → isTrueAt I W env never = false →
        isTrueAt I W env e = (!(rule.restricting session).isEmpty &&
          rule.combine.holds (rule.opens directory session (I.shows env qualifier))
            (rule.restricting session)) := by
  obtain ⟨condition, told⟩ := rule.text?_answers deny session qualifier answers
  have restricted := text?_isNone told
  rw [unlifted] at restricted
  obtain ⟨text, rfl⟩ := Option.isSome_iff_exists.mp (Option.isNone_eq_false_iff.mp restricted)
  obtain ⟨texts, rfl, forth, back⟩ := text?_restricting answers told
  by_cases nothing : texts = []
  · have empty : rule.restricting session = [] := by
      rw [List.eq_nil_iff_forall_not_mem]
      intro role mem
      obtain ⟨part, found, -⟩ := back role mem
      rw [nothing] at found
      exact absurd found List.not_mem_nil
    refine ⟨_, never, told, ?_, fun _ off => ?_⟩
    · rw [nothing]
      exact denies.parseExpr
    · rw [off, empty]
      rfl
  · have nonempty : (rule.restricting session).isEmpty = false := by
      obtain ⟨part, mem⟩ := List.exists_mem_of_ne_nil _ nothing
      obtain ⟨role, mem', -⟩ := forth part mem
      rw [List.isEmpty_eq_false_iff_exists_mem]
      exact ⟨role, mem'⟩
    obtain ⟨e, read, isTrue⟩ := parseExpr_texts rule.combine deny nothing fun part mem => by
      obtain ⟨role, mem', answer⟩ := forth part mem
      obtain ⟨e, stands, -⟩ := roleText?_stands legible denies (mem_restricting.mp mem').1 answer
      exact ⟨e, stands⟩
    refine ⟨_, e, told, read, fun {V} _ {I W env} alike off => ?_⟩
    have each {part : String} {role : Role} (mem : role ∈ rule.restricting session)
        (answer : rule.roleText? directory deny session qualifier role = .ok (some part)) :
        satisfied I W env d part = rule.opens directory session (I.shows env qualifier) role := by
      obtain ⟨e, stands, value⟩ := roleText?_stands legible denies (mem_restricting.mp mem).1 answer
      rw [satisfied, stands.parseExpr, Option.any_some, value alike off]
    rw [isTrue, nonempty, Bool.not_false, Bool.true_and]
    refine rule.combine.holds_same (fun part mem => ?_) fun role mem => ?_
    · obtain ⟨role, mem', answer⟩ := forth part mem
      exact ⟨role, mem', each mem' answer⟩
    · obtain ⟨part, mem', answer⟩ := back role mem
      exact ⟨part, mem', each mem answer⟩

/-! ## One role or every role -/

/-- Where one role suffices, the rows that a caller sees are those that some role that counts opens. The text
that denies all is a term, as comparisons are (`stands_comparison`), and not true at the row. -/
theorem rows_of_any_role (one : rule.combine = .or) (answers : directory.Answers)
    (legible : rule.Legible d directory session qualifier) (denies : StandsAs d deny never) :
    ∃ condition, rule.text? directory deny session qualifier = .ok condition ∧
      (∀ text ∈ condition, (parseExpr d text).isSome = true) ∧
      ∀ {V : Type} [DecidableEq V] {I : Interpretation V} {W : World V} {env : Env V},
        I.ComparesAlike → isTrueAt I W env never = false →
        (admits I W env d condition = true ↔
          session.isSuperAdmin = true ∨ ∃ role ∈ session.roles, rule.counts role = true ∧
            rule.opens directory session (I.shows env qualifier) role = true) := by
  cases lifted : rule.isLifted session with
  | true =>
    obtain ⟨condition, told⟩ := rule.text?_answers deny session qualifier answers
    have lifts := text?_isNone told
    rw [lifted] at lifts
    obtain rfl := Option.isNone_iff_eq_none.mp lifts
    refine ⟨none, told, by rintro _ ⟨⟩, fun _ _ => iff_of_true rfl ?_⟩
    rw [isLifted, one, Bool.or_eq_true] at lifted
    refine lifted.imp id fun opens => ?_
    obtain ⟨role, mem, all⟩ := List.any_eq_true.mp opens
    obtain ⟨held, counts⟩ := List.mem_filter.mp mem
    exact ⟨role, held, counts, by rw [DataRule.opens, beq_iff_eq.mp all]⟩
  | false =>
    obtain ⟨text, e, told, read, isTrue⟩ := text?_rows answers legible denies lifted
    refine ⟨some text, told, ?_, fun {V} _ {I W env} alike off => ?_⟩
    · rintro _ ⟨⟩
      rw [read]
      rfl
    · rw [isLifted, one, Bool.or_eq_false_iff] at lifted
      obtain ⟨super, others⟩ := lifted
      rw [admits, Option.all_some, satisfied, read, Option.any_some, isTrue alike off, one, super]
      simp only [Bool.false_eq_true, false_or, Bool.and_eq_true, Combine.holds, List.any_eq_true]
      constructor
      · rintro ⟨-, role, mem, opens⟩
        obtain ⟨held, counts, -⟩ := mem_restricting.mp mem
        exact ⟨role, held, counts, opens⟩
      · rintro ⟨role, held, counts, opens⟩
        -- a role that opens a row without restricting opens every row, and none does that here
        have restricts : rule.restricts session role = true := by
          by_contra unrestricted
          rw [opens_of_unrestricted (Bool.eq_false_of_not_eq_true unrestricted)] at opens
          have lifts : (session.roles.filter rule.counts).any (·.dataScope == .all) = true :=
            List.any_eq_true.mpr ⟨role, List.mem_filter.mpr ⟨held, counts⟩, opens⟩
          exact Bool.false_ne_true (others.symm.trans lifts)
        have mem := mem_restricting.mpr ⟨held, counts, restricts⟩
        refine ⟨?_, role, mem, opens⟩
        rw [Bool.not_eq_true', List.isEmpty_eq_false_iff_exists_mem]
        exact ⟨role, mem⟩

end Config.DataRule

namespace Office

/-- Rows by their departments and the users who made them. -/
def rule : DataRule := { userColumn := some "create_by" }

/-- A user of department 103. -/
def clerk (roles : List Role) : Session := .user ⟨"7", none, some "103", roles, false⟩

/-- The roles of a member of the department who also sees what is their own. -/
def member : List Role := [⟨"3", .dept, []⟩, ⟨"5", .selfOnly, []⟩]

/-- A directory of departments with none below them. -/
def directory : Directory := ⟨fun _ => .ok [], fun dept => .ok [dept]⟩

/-- Where a row of a department stands that a user made. -/
def row (dept user : String) : Env (Option String) :=
  ⟨[], [⟨⟨[], [("dept_id", some dept), ("create_by", some user)]⟩, 0⟩]⟩

/-- The world without tables. -/
def world : World (Option String) := fun _ _ => ⟨[], 0⟩

/-- The condition that denies all, as it is read. -/
def never : Expr := .binary .eq (.literal (.number "1" false)) (.literal (.number "0" false))

theorem denies : StandsAs .mysql "1 = 0" never :=
  ⟨_, _, @stands_comparison .mysql (.number "1") (.number "0") .eq (by decide) rfl rfl⟩

theorem never_true (env : Env (Option String)) : isTrueAt texts world env never = false := rfl

theorem answers : directory.Answers := ⟨fun _ => ⟨_, rfl⟩, fun _ => ⟨_, rfl⟩⟩

theorem legible {r : DataRule} (dept : ∀ name ∈ r.deptColumn, name = "dept_id")
    (user : ∀ name ∈ r.userColumn, name = "create_by") (roles : List Role) :
    r.Legible .mysql directory (clerk roles) none where
  qualifier := by rintro _ ⟨⟩
  deptColumn name mem := by rw [dept name mem]; decide +kernel
  userColumn name mem := by rw [user name mem]; decide +kernel
  user := by
    rintro _ ⟨⟩
    exact readable_of_no_backslash _ (by decide : '\\' ∉ "7".toList)
  dept := by
    rintro _ ⟨⟩
    exact readable_of_no_backslash _ (by decide : '\\' ∉ "103".toList)
  assigned := by rintro _ _ _ ⟨⟩ _ ⟨⟩
  subtree := by
    rintro _ ⟨⟩ _ ⟨⟩ dept mem
    rw [List.mem_singleton.mp mem]
    exact readable_of_no_backslash _ (by decide : '\\' ∉ "103".toList)

theorem texts_alike : texts.ComparesAlike := by
  intro v w
  change ((sameText v w).map _).map _ = sameText v w
  rcases sameText v w with _ | _ | _ <;> rfl

/-- The member sees a row of another department that is their own, and no row of it that is not. -/
theorem member_sees_own_row :
    ∃ condition, rule.text? directory "1 = 0" (clerk member) none = .ok condition ∧
      admits texts world (row "104" "7") .mysql condition = true ∧
      ¬ admits texts world (row "104" "8") .mysql condition = true := by
  obtain ⟨condition, told, -, rows⟩ := DataRule.rows_of_any_role (rfl : rule.combine = .or) answers
    (legible (by rintro _ ⟨⟩; rfl) (by rintro _ ⟨⟩; rfl) member) denies
  refine ⟨condition, told, (rows texts_alike (never_true _)).mpr ?_,
    mt (rows texts_alike (never_true _)).mp ?_⟩
  · decide +kernel
  · decide +kernel

end Office

namespace Config.DataRule

variable {d : Dialect} {rule : DataRule} {directory : Directory} {session : Session}
  {qualifier : Option String} {deny : String} {never : Expr}

/-- Whether there are roles that count, and every one of them opens the row. -/
def EveryRoleOpens (rule : DataRule) (directory : Directory) (session : Session)
    (has : String → String → Bool) : Prop :=
  session.roles.filter rule.counts ≠ [] ∧
    ∀ role ∈ session.roles.filter rule.counts, rule.opens directory session has role = true

theorem restricting_eq_nil :
    rule.restricting session = [] ↔
      ∀ role ∈ session.roles.filter rule.counts, rule.restricts session role = false := by
  simp only [restricting, List.filter_eq_nil_iff, Bool.not_eq_true]

/-- All roles that count open every row if none restricts, and none opens no row. -/
theorem all_open_iff :
    (∀ role ∈ session.roles.filter rule.counts, role.dataScope = .all) ↔
      rule.restricting session = [] ∧ ∀ role ∈ session.roles.filter rule.counts,
        rule.restricts session role = false → role.dataScope = .all := by
  rw [restricting_eq_nil]
  constructor
  · intro all
    exact ⟨fun role mem => by rw [restricts, all role mem], fun role mem _ => all role mem⟩
  · rintro ⟨none_restricts, each⟩ role mem
    exact each role mem (none_restricts role mem)

theorem everyRoleOpens_iff {has : String → String → Bool} :
    rule.EveryRoleOpens directory session has ↔ session.roles.filter rule.counts ≠ [] ∧
      (∀ role ∈ rule.restricting session, rule.opens directory session has role = true) ∧
      ∀ role ∈ session.roles.filter rule.counts,
        rule.restricts session role = false → role.dataScope = .all := by
  refine and_congr_right fun _ => ⟨fun each => ⟨fun role mem => ?_, fun role mem unrestricted => ?_⟩, ?_⟩
  · exact each role (List.mem_filter.mp mem).1
  · have opened := each role mem
    rwa [opens_of_unrestricted unrestricted, beq_iff_eq] at opened
  · rintro ⟨each, others⟩ role mem
    cases restricts : rule.restricts session role with
    | true => exact each role (List.mem_filter.mpr ⟨mem, restricts⟩)
    | false => rw [opens_of_unrestricted restricts, others role mem restricts, beq_self_eq_true]

/-- Where every role is needed, the rows that a caller sees are those that every role opens that restricts,
if there is any. They are the rows that every role opens that counts, but in two cases: all roles that count
open every row, and no row is seen; or some role that counts opens no row, for want of a column or of what
is known of the caller, and the rows are seen that the others open. -/
theorem rows_of_every_role (every : rule.combine = .and) (restricted : session.isSuperAdmin = false)
    (answers : directory.Answers) (legible : rule.Legible d directory session qualifier)
    (denies : StandsAs d deny never) :
    ∃ text, rule.text? directory deny session qualifier = .ok (some text) ∧
      (parseExpr d text).isSome = true ∧
      ∀ {V : Type} [DecidableEq V] {I : Interpretation V} {W : World V} {env : Env V},
        I.ComparesAlike → isTrueAt I W env never = false →
        (admits I W env d (some text) = true ↔ rule.restricting session ≠ [] ∧
          ∀ role ∈ rule.restricting session,
            rule.opens directory session (I.shows env qualifier) role = true) ∧
        ((admits I W env d (some text) = true ↔
            rule.EveryRoleOpens directory session (I.shows env qualifier)) ↔
          ¬ ((session.roles.filter rule.counts ≠ [] ∧
              ∀ role ∈ session.roles.filter rule.counts, role.dataScope = .all) ∨
            (admits I W env d (some text) = true ∧ ∃ role ∈ session.roles.filter rule.counts,
              role.dataScope ≠ .all ∧ rule.restricts session role = false))) := by
  have unlifted : rule.isLifted session = false := by
    rw [isLifted, every, restricted]
    rfl
  obtain ⟨text, e, told, read, isTrue⟩ := text?_rows answers legible denies unlifted
  refine ⟨text, told, by rw [read]; rfl, fun {V} _ {I W env} alike off => ?_⟩
  have seen : admits I W env d (some text) = true ↔ rule.restricting session ≠ [] ∧
      ∀ role ∈ rule.restricting session,
        rule.opens directory session (I.shows env qualifier) role = true := by
    rw [admits, Option.all_some, satisfied, read, Option.any_some, isTrue alike off, every]
    simp [Combine.holds]
  refine ⟨seen, ?_⟩
  have counting : rule.restricting session ≠ [] → session.roles.filter rule.counts ≠ [] := by
    rintro restricts empty
    exact restricts (by rw [restricting, empty]; rfl)
  have silent : (∃ role ∈ session.roles.filter rule.counts,
      role.dataScope ≠ .all ∧ rule.restricts session role = false) ↔
      ¬ ∀ role ∈ session.roles.filter rule.counts,
        rule.restricts session role = false → role.dataScope = .all := by
    simp only [not_forall, exists_prop, and_comm]
  rw [seen, everyRoleOpens_iff, all_open_iff, silent]
  by_cases none_restricts : rule.restricting session = []
  · simp only [none_restricts, ne_eq, not_true_eq_false, false_and, false_iff, List.not_mem_nil,
      false_imp_iff, implies_true, true_and, or_false]
  · simp only [ne_eq, none_restricts, not_false_eq_true, true_and, false_and, and_false, false_or,
      counting none_restricts, not_and, not_not, iff_self_and]

end Config.DataRule

namespace Office

/-- Rows by their departments alone, which every role must open. -/
def strict : DataRule := { combine := .and }

/-- The member sees the rows of the department, though the users who made them are not known, so that not
every role opens them. Whoever has but roles that open every row sees none. -/
theorem member_sees_department :
    (∃ text, strict.text? directory "1 = 0" (clerk member) none = .ok (some text) ∧
      admits texts world (row "103" "8") .mysql (some text) = true ∧
      ¬ strict.EveryRoleOpens directory (clerk member) (texts.shows (row "103" "8") none)) ∧
    ∃ text, strict.text? directory "1 = 0" (clerk [⟨"1", .all, []⟩]) none = .ok (some text) ∧
      ¬ admits texts world (row "103" "8") .mysql (some text) = true ∧
      strict.EveryRoleOpens directory (clerk [⟨"1", .all, []⟩]) (texts.shows (row "103" "8") none) := by
  have rows (roles : List Role) := DataRule.rows_of_every_role (rfl : strict.combine = .and) rfl answers
    (legible (by rintro _ ⟨⟩; rfl) (by rintro _ ⟨⟩) roles) denies
  constructor
  · obtain ⟨text, told, -, seen⟩ := rows member
    obtain ⟨shown, same⟩ := seen texts_alike (never_true (row "103" "8"))
    have admitted := shown.mpr (by decide +kernel)
    refine ⟨text, told, admitted, fun law => ?_⟩
    exact same.mp (iff_of_true admitted law) (.inr ⟨admitted, by decide +kernel⟩)
  · obtain ⟨text, told, -, seen⟩ := rows [⟨"1", .all, []⟩]
    obtain ⟨shown, -⟩ := seen texts_alike (never_true (row "103" "8"))
    exact ⟨text, told, mt shown.mp (by decide +kernel), by unfold DataRule.EveryRoleOpens; decide +kernel⟩

end Office

end RowAccess
