import RowAccess.Fragment
/-!
# Conditions of several roles

The roles of a caller are asked one after the other, up to the first that lifts the restriction, and a
directory that fails for one of them fails the whole. So whether there is a condition depends on the roles
alone (`text?_isNone`), but whether it can be told depends on which of them stand before the one that lifts
(`text?_isOk`). A condition is made of what the roles that count are answered, each text once
(`text?_eq_some`).
-/

namespace RowAccess.Config.DataRule

variable {rule : DataRule} {directory : Directory} {deny : String} {session : Session}
  {qualifier : Option String}

/-- Whether a role lifts the restriction: it opens every row, and one role suffices. -/
def lifts (rule : DataRule) (role : Role) : Bool := rule.combine == .or && role.dataScope == .all

/-- The roles that are asked for a condition: those that count, up to the first that lifts the
restriction. -/
def asked (rule : DataRule) (session : Session) : List Role :=
  (session.roles.filter rule.counts).takeWhile fun role => !rule.lifts role

/-- Whether a role is answered, be it with a condition or not. -/
def answered (rule : DataRule) (directory : Directory) (deny : String) (session : Session)
    (qualifier : Option String) (role : Role) : Bool :=
  (rule.roleText? directory deny session qualifier role).isOk

/-- Whether a rule leaves a caller every row: a super admin, and where one role suffices whoever has a role
that counts and opens every row. -/
def isLifted (rule : DataRule) (session : Session) : Bool :=
  session.isSuperAdmin ||
    (rule.combine == .or && (session.roles.filter rule.counts).any (·.dataScope == .all))

/-! ## One role after the other -/

theorem mem_addText {texts : List String} {text part : String} :
    (part ∈ if texts.contains text then texts else texts ++ [text]) ↔ part ∈ texts ∨ part = text := by
  by_cases known : text ∈ texts
  · rw [if_pos (List.contains_iff_mem.mpr known)]
    constructor
    · exact .inl
    · rintro (there | rfl)
      · exact there
      · exact known
  · simp [known]

/-- A role that opens every row has no condition. -/
theorem roleText?_all {role : Role} (opens : role.dataScope = .all) :
    rule.roleText? directory deny session qualifier role = .ok none := by
  rw [roleText?, opens]

theorem roleTexts_lifts {role : Role} (lifts : rule.lifts role = true) (texts : List String)
    (roles : List Role) :
    rule.roleTexts directory deny session qualifier texts (role :: roles) = .ok none := by
  rw [DataRule.lifts, Bool.and_eq_true, beq_iff_eq, beq_iff_eq] at lifts
  rw [roleTexts, if_pos lifts.2, lifts.1]

/-- A role that does not lift the restriction adds its condition, if it has one. -/
theorem roleTexts_cons {role : Role} (lifts : rule.lifts role = false) (texts : List String)
    (roles : List Role) :
    rule.roleTexts directory deny session qualifier texts (role :: roles) =
      (rule.roleText? directory deny session qualifier role).bind fun found =>
        rule.roleTexts directory deny session qualifier
          (found.elim texts fun text => if texts.contains text then texts else texts ++ [text]) roles := by
  by_cases opens : role.dataScope = .all
  · have combine : rule.combine = .and := by
      rw [DataRule.lifts, opens] at lifts
      cases combine : rule.combine with
      | or => rw [combine] at lifts; cases lifts
      | and => rfl
    rw [roleTexts, if_pos opens, combine, roleText?_all opens]
    rfl
  · rw [roleTexts, if_neg opens]
    rcases rule.roleText? directory deny session qualifier role with fault | _ | text <;> rfl

/-- The roles are answered exactly if those are that stand before the first that lifts the
restriction. -/
theorem roleTexts_isOk (texts : List String) (roles : List Role) :
    (rule.roleTexts directory deny session qualifier texts roles).isOk =
      (roles.takeWhile fun role => !rule.lifts role).all
        (rule.answered directory deny session qualifier) := by
  induction roles generalizing texts with
  | nil => rfl
  | cons role roles ih =>
    cases lifts : rule.lifts role with
    | true =>
      rw [roleTexts_lifts lifts, List.takeWhile_cons_of_neg (by simp [lifts])]
      rfl
    | false =>
      rw [roleTexts_cons lifts, List.takeWhile_cons_of_pos (by simp [lifts]), List.all_cons, answered]
      cases rule.roleText? directory deny session qualifier role with
      | error fault => rfl
      | ok found => exact ih _

theorem roleTexts_isNone {roles : List Role} {texts : List String} {answer : Option (List String)}
    (answered : rule.roleTexts directory deny session qualifier texts roles = .ok answer) :
    answer.isNone = (rule.combine == .or && roles.any (·.dataScope == .all)) := by
  induction roles generalizing texts with
  | nil =>
    cases answered
    rw [List.any_nil, Bool.and_false]
    rfl
  | cons role roles ih =>
    rw [List.any_cons, Bool.and_or_distrib_left]
    change _ = (rule.lifts role || _)
    cases lifts : rule.lifts role with
    | true =>
      rw [roleTexts_lifts lifts] at answered
      cases answered
      rfl
    | false =>
      rw [roleTexts_cons lifts] at answered
      rcases told : rule.roleText? directory deny session qualifier role with fault | found
      all_goals rw [told] at answered
      · cases answered
      · exact ih answered

/-- What is found is what was there before and what the roles are answered. -/
theorem mem_roleTexts {roles : List Role} {texts found : List String}
    (answered : rule.roleTexts directory deny session qualifier texts roles = .ok (some found))
    (text : String) :
    text ∈ found ↔ text ∈ texts ∨
      ∃ role ∈ roles, rule.roleText? directory deny session qualifier role = .ok (some text) := by
  induction roles generalizing texts with
  | nil =>
    cases answered
    simp
  | cons role roles ih =>
    cases lifts : rule.lifts role with
    | true =>
      rw [roleTexts_lifts lifts] at answered
      cases answered
    | false =>
      rw [roleTexts_cons lifts] at answered
      rcases told : rule.roleText? directory deny session qualifier role with fault | _ | first
      all_goals rw [told] at answered
      · cases answered
      · rw [ih answered]
        simp [told]
      · rw [ih answered, Option.elim, mem_addText]
        simp [told, or_assoc, eq_comm]

/-! ## The condition for a caller -/

/-- Where the condition for a caller can be told, there is none exactly if the rule leaves every row. -/
theorem text?_isNone {text : Option String}
    (answered : rule.text? directory deny session qualifier = .ok text) :
    text.isNone = rule.isLifted session := by
  rw [isLifted]
  cases super : session.isSuperAdmin with
  | true =>
    rw [text?, super] at answered
    cases answered
    rfl
  | false =>
    rw [text?, super, if_neg Bool.false_ne_true] at answered
    dsimp only at answered
    rcases found : rule.roleTexts directory deny session qualifier [] (session.roles.filter rule.counts) with
      fault | texts
    · rw [found] at answered
      cases answered
    · rw [found] at answered
      cases answered
      rw [Option.isNone_map, roleTexts_isNone found, Bool.false_or]

/-- The condition for a caller can be told exactly if each role that is asked is answered. -/
theorem text?_isOk :
    (rule.text? directory deny session qualifier).isOk =
      (session.isSuperAdmin ||
        (rule.asked session).all (rule.answered directory deny session qualifier)) := by
  rw [text?, asked, ← roleTexts_isOk []]
  cases session.isSuperAdmin with
  | true => rfl
  | false =>
    rw [if_neg Bool.false_ne_true, Bool.false_or]
    dsimp only
    cases rule.roleTexts directory deny session qualifier [] (session.roles.filter rule.counts) <;> rfl

/-- A condition combines what the roles that count are answered. -/
theorem text?_eq_some {text : String}
    (answered : rule.text? directory deny session qualifier = .ok (some text)) :
    ∃ texts, text = combined rule.combine deny texts ∧ ∀ part, part ∈ texts ↔
      ∃ role ∈ session.roles, rule.counts role = true ∧
        rule.roleText? directory deny session qualifier role = .ok (some part) := by
  rw [text?] at answered
  split at answered
  · cases answered
  · dsimp only at answered
    rcases found : rule.roleTexts directory deny session qualifier [] (session.roles.filter rule.counts) with
      fault | _ | texts
    all_goals rw [found] at answered
    all_goals cases answered
    refine ⟨texts, rfl, fun part => ?_⟩
    rw [mem_roleTexts found]
    simp [and_assoc]

end RowAccess.Config.DataRule
