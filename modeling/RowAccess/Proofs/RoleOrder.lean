import Mathlib.Data.List.TakeWhile
import RowAccess.Proofs.RowsOfRoles
/-!
# The order of roles

The roles of a caller come in some order. Where the condition can be told for two orders of the same roles,
both leave every row or neither does, and both admit the same rows, as long as what the roles are answered
are terms. But a directory that fails for one role is met only if that role comes before the first
that lifts the restriction: whether the condition can be told depends on the order exactly if there is a role
that lifts the restriction and another for which the directory fails (`order_matters_iff`).
-/

namespace RowAccess

open Sql Sql.Parser Semantics
open Config (DataRule)

/-! ## The roles of a caller in another order -/

namespace Session

variable {session : Session} {roles : List Role}

/-- The caller with roles in place of those it has. -/
def withRoles (session : Session) (roles : List Role) : Session :=
  match session with
  | anonymous => anonymous
  | user p => user { p with roles := roles }

theorem withRoles_roles (session : Session) : session.withRoles session.roles = session := by
  cases session <;> rfl

theorem isSuperAdmin_withRoles : (session.withRoles roles).isSuperAdmin = session.isSuperAdmin := by
  cases session <;> rfl

theorem roles_withRoles (order : roles.Perm session.roles) : (session.withRoles roles).roles = roles := by
  cases session with
  | anonymous => exact (List.perm_nil.mp order).symm
  | user p => rfl

end Session

namespace Config.DataRule

variable {d : Dialect} {rule : DataRule} {directory : Directory} {deny : String} {session : Session}
  {qualifier : Option String} {roles : List Role}

/-- What a role is answered does not depend on the other roles. -/
theorem roleText?_withRoles (role : Role) :
    rule.roleText? directory deny (session.withRoles roles) qualifier role =
      rule.roleText? directory deny session qualifier role := by
  cases session <;> rfl

theorem isLifted_withRoles (order : roles.Perm session.roles) :
    rule.isLifted (session.withRoles roles) = rule.isLifted session := by
  rw [isLifted, isLifted, Session.isSuperAdmin_withRoles, Session.roles_withRoles order,
    (order.filter rule.counts).any_eq]

theorem text?_isOk_withRoles (order : roles.Perm session.roles) :
    (rule.text? directory deny (session.withRoles roles) qualifier).isOk =
      (session.isSuperAdmin || ((roles.filter rule.counts).takeWhile fun role => !rule.lifts role).all
        (rule.answered directory deny session qualifier)) := by
  have same : rule.answered directory deny (session.withRoles roles) qualifier =
      rule.answered directory deny session qualifier := by
    funext role
    rw [answered, answered, roleText?_withRoles]
  rw [text?_isOk, asked, Session.isSuperAdmin_withRoles, Session.roles_withRoles order, same]

/-- A role that lifts the restriction is answered. -/
theorem answered_of_lifts {role : Role} (lifts : rule.lifts role = true) :
    rule.answered directory deny session qualifier role = true := by
  rw [DataRule.lifts, Bool.and_eq_true, beq_iff_eq, beq_iff_eq] at lifts
  rw [answered, roleText?_all lifts.2]
  rfl

/-- With a role first that lifts the restriction, no other role is asked. -/
theorem isOk_of_lifts_first {role : Role} {rest : List Role} (order : (role :: rest).Perm session.roles)
    (counts : rule.counts role = true) (lifts : rule.lifts role = true) :
    (rule.text? directory deny (session.withRoles (role :: rest)) qualifier).isOk = true := by
  rw [text?_isOk_withRoles order, List.filter_cons_of_pos counts,
    List.takeWhile_cons_of_neg (by simp [lifts])]
  exact Bool.or_true _

/-- With a role first for which the directory fails, the whole fails. -/
theorem isOk_of_fails_first {role : Role} {rest : List Role} (order : (role :: rest).Perm session.roles)
    (restricted : session.isSuperAdmin = false) (counts : rule.counts role = true)
    (fails : rule.answered directory deny session qualifier role = false) :
    (rule.text? directory deny (session.withRoles (role :: rest)) qualifier).isOk = false := by
  have lifts : rule.lifts role = false := by
    rw [Bool.eq_false_iff]
    intro lifts
    rw [answered_of_lifts lifts] at fails
    cases fails
  rw [text?_isOk_withRoles order, List.filter_cons_of_pos counts,
    List.takeWhile_cons_of_pos (by simp [lifts]), List.all_cons, fails, restricted]
  rfl

/-- If no role lifts the restriction, all that count are asked, in whatever order. -/
theorem text?_isOk_of_no_lift (order : roles.Perm session.roles)
    (none_lifts : ∀ role ∈ session.roles, rule.counts role = true → rule.lifts role = false) :
    (rule.text? directory deny (session.withRoles roles) qualifier).isOk =
      (session.isSuperAdmin ||
        (session.roles.filter rule.counts).all (rule.answered directory deny session qualifier)) := by
  have whole : ((roles.filter rule.counts).takeWhile fun role => !rule.lifts role) =
      roles.filter rule.counts := by
    rw [List.takeWhile_eq_self_iff]
    intro role mem
    obtain ⟨held, counts⟩ := List.mem_filter.mp mem
    rw [none_lifts role (order.mem_iff.mp held) counts, Bool.not_false]
  rw [text?_isOk_withRoles order, whole, (order.filter rule.counts).all_eq]

/-- If the directory fails for no role, the condition can be told. -/
theorem text?_isOk_of_answered (order : roles.Perm session.roles)
    (each : ∀ role ∈ session.roles, rule.counts role = true →
      rule.answered directory deny session qualifier role = true) :
    (rule.text? directory deny (session.withRoles roles) qualifier).isOk = true := by
  have all : ((roles.filter rule.counts).takeWhile fun role => !rule.lifts role).all
      (rule.answered directory deny session qualifier) = true := by
    rw [List.all_eq_true]
    intro role mem
    obtain ⟨held, counts⟩ := List.mem_filter.mp (List.takeWhile_subset _ mem)
    exact each role (order.mem_iff.mp held) counts
  rw [text?_isOk_withRoles order, all, Bool.or_true]

/-- Conditions for two orders of the same roles are made of the same texts. -/
theorem admits_withRoles (order : roles.Perm session.roles) {text text' : String}
    (stand : ∀ role ∈ session.roles, rule.counts role = true → ∀ part,
      rule.roleText? directory deny session qualifier role = .ok (some part) → ∃ e, StandsAs d part e)
    (told : rule.text? directory deny session qualifier = .ok (some text))
    (told' : rule.text? directory deny (session.withRoles roles) qualifier = .ok (some text'))
    {V : Type} [DecidableEq V] (I : Interpretation V) (W : World V) (env : Env V) :
    admits I W env d (some text') = admits I W env d (some text) := by
  obtain ⟨texts, rfl, among⟩ := text?_eq_some told
  obtain ⟨texts', rfl, among'⟩ := text?_eq_some told'
  have same (part : String) : part ∈ texts' ↔ part ∈ texts := by
    rw [among, among', Session.roles_withRoles order]
    simp only [roleText?_withRoles, order.mem_iff]
  have terms : ∀ part ∈ texts, ∃ e, StandsAs d part e := by
    intro part mem
    obtain ⟨role, held, counts, answer⟩ := (among part).mp mem
    exact stand role held counts part answer
  by_cases nothing : texts = []
  · have nothing' : texts' = [] := by
      rw [List.eq_nil_iff_forall_not_mem]
      intro part mem
      have there := (same part).mp mem
      rw [nothing] at there
      exact absurd there List.not_mem_nil
    rw [nothing, nothing']
  · have more : texts' ≠ [] := by
      obtain ⟨part, mem⟩ := List.exists_mem_of_ne_nil _ nothing
      exact List.ne_nil_of_mem ((same part).mpr mem)
    obtain ⟨e, read, isTrue⟩ := parseExpr_texts rule.combine deny nothing terms
    obtain ⟨e', read', isTrue'⟩ :=
      parseExpr_texts rule.combine deny more fun part mem => terms part ((same part).mp mem)
    simp only [admits, Option.all_some, satisfied, read, read', Option.any_some, isTrue, isTrue']
    exact rule.combine.holds_same (fun part mem => ⟨part, (same part).mp mem, rfl⟩)
      fun part mem => ⟨part, (same part).mpr mem, rfl⟩

/-- Whether the condition for a caller can be told depends on the order of the roles exactly if one that
counts lifts the restriction and the directory fails for another. Where it can be told for two orders, there
is none exactly if the rule leaves every row, and if what the roles are answered are terms, both conditions
admit the same rows. -/
theorem order_matters_iff (rule : DataRule) (directory : Directory) (deny : String) (session : Session)
    (qualifier : Option String) :
    ((∃ roles, roles.Perm session.roles ∧
        (rule.text? directory deny (session.withRoles roles) qualifier).isOk ≠
          (rule.text? directory deny session qualifier).isOk) ↔
      session.isSuperAdmin = false ∧
        (∃ role ∈ session.roles, rule.counts role = true ∧ rule.lifts role = true) ∧
        ∃ role ∈ session.roles, rule.counts role = true ∧
          rule.answered directory deny session qualifier role = false) ∧
    ∀ {roles : List Role} {condition condition' : Option String}, roles.Perm session.roles →
      rule.text? directory deny session qualifier = .ok condition →
      rule.text? directory deny (session.withRoles roles) qualifier = .ok condition' →
      condition.isNone = rule.isLifted session ∧ condition'.isNone = rule.isLifted session ∧
        ∀ {d : Dialect}, (∀ role ∈ session.roles, rule.counts role = true → ∀ part,
          rule.roleText? directory deny session qualifier role = .ok (some part) →
            ∃ e, StandsAs d part e) →
          ∀ {V : Type} [DecidableEq V] (I : Interpretation V) (W : World V) (env : Env V),
            admits I W env d condition' = admits I W env d condition := by
  have here := session.withRoles_roles
  refine ⟨⟨?_, ?_⟩, fun {roles condition condition'} order told told' => ?_⟩
  · rintro ⟨roles, order, differ⟩
    refine ⟨?_, ?_, ?_⟩
    · by_contra super
      rw [Bool.not_eq_false] at super
      rw [text?_isOk_withRoles order, text?_isOk, super] at differ
      exact differ rfl
    · by_contra none_lifts
      have unlifted : ∀ role ∈ session.roles, rule.counts role = true → rule.lifts role = false :=
        fun role mem counts => Bool.eq_false_iff.mpr fun lifts => none_lifts ⟨role, mem, counts, lifts⟩
      have itself : (rule.text? directory deny (session.withRoles session.roles) qualifier).isOk = _ :=
        text?_isOk_of_no_lift (.refl _) unlifted
      rw [here] at itself
      exact differ ((text?_isOk_of_no_lift order unlifted).trans itself.symm)
    · by_contra none_fails
      have each : ∀ role ∈ session.roles, rule.counts role = true →
          rule.answered directory deny session qualifier role = true :=
        fun role mem counts => Bool.eq_true_of_not_eq_false fun fails =>
          none_fails ⟨role, mem, counts, fails⟩
      have itself := text?_isOk_of_answered (.refl _) each
      rw [here] at itself
      exact differ ((text?_isOk_of_answered order each).trans itself.symm)
  · rintro ⟨restricted, ⟨lifter, held, counts, lifts⟩, failer, held', counts', fails⟩
    -- one of the two roles put first, the other answer results
    have first := List.perm_cons_erase held
    have first' := List.perm_cons_erase held'
    cases ok : (rule.text? directory deny session qualifier).isOk with
    | true =>
      refine ⟨_, first'.symm, ?_⟩
      rw [isOk_of_fails_first first'.symm restricted counts' fails]
      exact Bool.false_ne_true
    | false =>
      refine ⟨_, first.symm, ?_⟩
      rw [isOk_of_lifts_first first.symm counts lifts]
      exact Bool.false_ne_true.symm
  · have lifted := text?_isNone told
    have lifted' := text?_isNone told'
    rw [isLifted_withRoles order] at lifted'
    have same := lifted'.trans lifted.symm
    refine ⟨lifted, lifted', fun {d} stand {V} _ I W env => ?_⟩
    cases condition with
    | none =>
      obtain rfl := Option.isNone_iff_eq_none.mp same
      rfl
    | some text =>
      obtain ⟨text', rfl⟩ := Option.isSome_iff_exists.mp (Option.isNone_eq_false_iff.mp same)
      exact admits_withRoles order stand told told' I W env

end Config.DataRule

namespace Office

/-- A directory that does not know the departments of roles. -/
def remote : Directory := ⟨fun role => .error ("no custom depts for " ++ role), fun dept => .ok [dept]⟩

/-- The roles of a user who sees the departments of one role, and every row by the other. -/
def manager : List Role := [⟨"r", .custom, []⟩, ⟨"1", .all, []⟩]

/-- What the manager sees can be told in one of the two orders of the roles. What the member sees is the
same in both. -/
theorem order_of_manager_matters :
    (∃ roles, roles.Perm manager ∧
      (rule.text? remote "1 = 0" ((clerk manager).withRoles roles) none).isOk ≠
        (rule.text? remote "1 = 0" (clerk manager) none).isOk) ∧
    ∃ condition condition', rule.text? directory "1 = 0" (clerk member) none = .ok condition ∧
      rule.text? directory "1 = 0" ((clerk member).withRoles member.reverse) none = .ok condition' ∧
      admits texts world (row "104" "7") .mysql condition' =
        admits texts world (row "104" "7") .mysql condition := by
  constructor
  · exact (DataRule.order_matters_iff rule remote "1 = 0" (clerk manager) none).1.mpr
      ⟨rfl, by decide +kernel, by decide +kernel⟩
  · obtain ⟨condition, told⟩ := rule.text?_answers "1 = 0" (clerk member) none answers
    obtain ⟨condition', told'⟩ :=
      rule.text?_answers "1 = 0" ((clerk member).withRoles member.reverse) none answers
    have known : rule.Legible .mysql directory (clerk member) none :=
      legible (by rintro _ ⟨⟩; rfl) (by rintro _ ⟨⟩; rfl) member
    have same := (DataRule.order_matters_iff rule directory "1 = 0" (clerk member) none).2
      (List.reverse_perm member) told told'
    refine ⟨condition, condition', told, told', same.2.2 (d := .mysql) ?_ texts world (row "104" "7")⟩
    intro role held _ part answer
    obtain ⟨e, stands, -⟩ := DataRule.roleText?_stands known denies held answer
    exact ⟨e, stands⟩

end Office

end RowAccess
