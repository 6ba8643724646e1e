import RowAccess.Config.Rule
import RowAccess.Departments
import RowAccess.Principal
import RowAccess.Text.Split
/-!
# Data permissions as conditions

The roles of a caller are turned into the text of a condition on the columns that a rule names. A
role that opens every row lifts the restriction where one role suffices; where no role opens any row,
the condition is the one that denies all.
-/

namespace RowAccess

open Config (Combine DataRule)

/-- A value as a string literal: a quote inside is written twice. -/
def literalText (value : String) : String :=
  "'" ++ String.ofList (value.toList.flatMap fun c => if c = '\'' then ['\'', '\''] else [c]) ++ "'"

/-- A column with its qualifier, unless it has one already. -/
def qualify (qualifier : Option String) (column : String) : String :=
  match qualifier with
  | some q => if Text.contains "." column then column else q ++ "." ++ column
  | none => column

/-- The condition that a column has one of the values, or the one that denies all if there are no
values. -/
def memberText (deny column : String) (values : List String) : String :=
  if values.isEmpty then deny
  else column ++ " IN (" ++ ", ".intercalate (values.map literalText) ++ ")"

/-- The condition that a column has a value. -/
def equalText (column value : String) : String := column ++ " = " ++ literalText value

namespace Config.DataRule

/-- Whether a role counts for a rule: it grants the permission that the rule asks for. -/
def counts (rule : DataRule) (role : Role) : Bool :=
  match rule.permission with
  | some permission => role.permissions.contains permission
  | none => true

/-- The condition for the rows that a role opens, if it can be expressed. -/
def roleText? (rule : DataRule) (directory : Directory) (deny : String) (session : Session)
    (qualifier : Option String) (role : Role) : Except String (Option String) :=
  let dept := rule.deptColumn.map (qualify qualifier)
  let user := rule.userColumn.map (qualify qualifier)
  match role.dataScope with
  | .all => .ok none
  | .custom =>
    match dept with
    | some column => do return some (memberText deny column (← directory.assigned role.id))
    | none => .ok none
  | .dept =>
    match dept, session.deptId with
    | some column, some d => .ok (some (equalText column d))
    | _, _ => .ok none
  | .deptAndChild =>
    match dept, session.deptId with
    | some column, some d => do return some (memberText deny column (← directory.subtree d))
    | _, _ => .ok none
  | .selfOnly =>
    match user, session.userId with
    | some column, some u => .ok (some (equalText column u))
    | _, _ => .ok none

/-- The conditions of roles after those in `texts`, each once. Nothing if a role lifts the
restriction. -/
def roleTexts (rule : DataRule) (directory : Directory) (deny : String) (session : Session)
    (qualifier : Option String) (texts : List String) :
    List Role → Except String (Option (List String))
  | [] => .ok (some texts)
  | role :: roles =>
    if role.dataScope = .all then
      match rule.combine with
      | .or => .ok none
      | .and => roleTexts rule directory deny session qualifier texts roles
    else do
      match ← roleText? rule directory deny session qualifier role with
      | some text =>
        let texts := if texts.contains text then texts else texts ++ [text]
        roleTexts rule directory deny session qualifier texts roles
      | none => roleTexts rule directory deny session qualifier texts roles

/-- The word between combined conditions. -/
def connective : Combine → String
  | .or => " OR "
  | .and => " AND "

/-- The combination of conditions; several are put in parentheses. -/
def combined (combine : Combine) (deny : String) : List String → String
  | [] => deny
  | [text] => text
  | texts => "(" ++ (connective combine).intercalate texts ++ ")"

/-- The condition for the rows that a caller may see, or nothing if that is every row. On failure the
text of the directory's failure. -/
def text? (rule : DataRule) (directory : Directory) (deny : String) (session : Session)
    (qualifier : Option String) : Except String (Option String) :=
  if session.isSuperAdmin then .ok none
  else do
    let roles := session.roles.filter (counts rule)
    let texts ← roleTexts rule directory deny session qualifier [] roles
    return texts.map (combined rule.combine deny)

end Config.DataRule

end RowAccess
