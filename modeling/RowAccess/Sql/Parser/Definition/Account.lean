import RowAccess.Sql.Parser.Definition.Option
/-!
# Reading definitions of roles, users, policies and secrets
-/

namespace RowAccess.Sql.Parser

/-! ## Roles -/

/-- Traits that a role has or not, in the order they are written in. -/
def roleTraits : List String :=
  ["SUPERUSER", "CREATEDB", "CREATEROLE", "INHERIT", "LOGIN", "REPLICATION", "BYPASSRLS"]

/-- A trait of a role with whether the role has it, if one is next. -/
def roleTrait? : P (Option (String × Bool)) := do
  match ← oneOf? (roleTraits ++ roleTraits.map ("NO" ++ ·)) with
  | none => return none
  | some k =>
    if roleTraits.contains k then return some (k, true)
    else return some (String.ofList (k.toList.drop 2), false)

/-- A trait of a role as it is written. -/
def renderTrait (trait : String × Bool) : String :=
  (if trait.2 then "" else "NO") ++ trait.1

/-- How a role may connect and for how long, if that is next: the first word of the option, and the
option. -/
def roleLimit? (d : Dialect) : P (Option (String × String)) := do
  match ← oneOf? ["CONNECTION", "PASSWORD", "VALID"] with
  | none => return none
  | some "CONNECTION" => do
    keyword "LIMIT"
    return some ("CONNECTION", " CONNECTION LIMIT " ++ (← numberText d))
  | some "PASSWORD" => return some ("PASSWORD", " PASSWORD " ++ (← literalText d))
  | some k => do
    keyword "UNTIL"
    return some (k, " VALID UNTIL " ++ (← literalText d))

/-- Roles that a role belongs to or that belong to it, if they are next: the words before them, and
their names. -/
def roleMembers? : P (Option (String × String)) := do
  match ← oneOf? ["IN", "ROLE", "USER", "ADMIN"] with
  | none => return none
  | some k =>
    let lead ← if k == "IN" then do pure ("IN " ++ (← oneOf ["ROLE", "GROUP"])) else pure k
    return some (lead, s!" {lead} " ++ renderIdents (← commas ident))

/-- An option of a role, if one is next: what it is on, and its words. -/
def roleOption? (d : Dialect) : P (Option (String × String)) := do
  if d != .postgres then return none
  match ← roleTrait? with
  | some trait => return some (trait.1, " " ++ renderTrait trait)
  | none =>
    match ← roleLimit? d with
    | some option => return some option
    | none => roleMembers?

/-- What the options of a role are on, in the order they are written in. -/
def roleOptionOrder : List String :=
  roleTraits ++ ["CONNECTION", "PASSWORD", "VALID", "IN ROLE", "IN GROUP", "ROLE", "USER", "ADMIN"]

/-- Roles to create, after the word. No option may be given twice. -/
def createRole (d : Dialect) : P Statement := do
  let missing ← unlessExists
  let names ← commas nameText
  let _ ← keyword? "WITH"
  let given ← many (roleOption? d)
  if roleOptionOrder.any fun k => 1 < given.countP fun option => option.1 == k then unexpected
  let written := roleOptionOrder.filterMap fun k => given.lookup k
  return plain ("CREATE ROLE " ++ missing ++ ", ".intercalate names ++ String.join written)

/-- The value that a setting of a role gets, after the name of the setting. -/
def roleSetting (g : Grammar) : P (List Piece) := do
  if ← keywords? ["FROM", "CURRENT"] then return [.text " FROM CURRENT"]
  if !(← symbol? "=") then keyword "TO"
  if ← keyword? "DEFAULT" then return [.text " TO DEFAULT"] else g.exprAfter " TO "

/-- An option of a role to change, if one is next. -/
def changedRoleOption? (d : Dialect) : P (Option String) := do
  match ← roleTrait? with
  | some trait => return some (renderTrait trait)
  | none =>
    match ← attempt (roleLimit? d) with
    | some (some option) => return some (String.ofList (option.2.toList.drop 1))
    | _ => return none

/-- A change of a role, after `ALTER ROLE`. -/
def alterRole (g : Grammar) : P Statement := do
  if g.dialect != .postgres then unexpected
  let lead := "ALTER ROLE " ++ (← identText) ++ " "
  let database ← wordsAfter ["IN", "DATABASE"] do return "IN DATABASE " ++ (← nameText) ++ " "
  match ← oneOf? ["RENAME", "SET", "RESET"] with
  | some "RENAME" => do
    keyword "TO"
    return plain (lead ++ "RENAME TO " ++ (← identText))
  | some "SET" => do
    let name ← nameText
    return .other .other (.text (lead ++ database ++ "SET " ++ name) :: (← roleSetting g))
  | some _ => do
    let name ← if ← keyword? "ALL" then pure "ALL" else nameText
    return plain (lead ++ database ++ "RESET " ++ name)
  | none => do
    let _ ← keyword? "WITH"
    let options ← many (changedRoleOption? g.dialect)
    if options.isEmpty then unexpected
    return plain (lead ++ "WITH " ++ " ".intercalate options)

/-! ## Users -/

/-- A user to create, after the words `lead`. -/
def createUser (d : Dialect) (lead : String) : P Statement := do
  let missing ← unlessExists
  let name ← identText
  let settings ← properties d ["WITH", "TAG"]
  let link ← wordsBefore ["WITH"]
  let tags ← if ← keyword? "TAG" then propertiesInParens d else pure ⟨[], true⟩
  return plain ("CREATE " ++ lead ++ "USER " ++ missing ++ name ++
    String.join (settings.list.map (" " ++ ·)) ++
    if tags.list.isEmpty then "" else link ++ " TAG (" ++ ", ".intercalate tags.list ++ ")")

/-- A way to prove who a user is. -/
def proofMethod : P String := oneOf ["PASSKEY", "TOTP", "DUO"]

/-- A role that others may hand on for a user. -/
def delegation : P String := do
  let added ← wordsAfter ["ADD", "DELEGATED", "AUTHORIZATION", "OF", "ROLE"] do
    let role ← identText
    keywords ["TO", "SECURITY", "INTEGRATION"]
    return " ADD DELEGATED AUTHORIZATION OF ROLE " ++ role ++ " TO SECURITY INTEGRATION " ++
      (← identText)
  let removed ← wordsAfter ["REMOVE", "DELEGATED"] do
    let what ← if ← keywords? ["AUTHORIZATION", "OF", "ROLE"] then do
        pure ("AUTHORIZATION OF ROLE " ++ (← identText))
      else oneOf ["AUTHORIZATIONS"]
    keywords ["FROM", "SECURITY", "INTEGRATION"]
    return " REMOVE DELEGATED " ++ what ++ " FROM SECURITY INTEGRATION " ++ (← identText)
  return added ++ removed

/-- How a user proves who they are. -/
def proofs (d : Dialect) : P String := do
  let enrolled ← wordsBefore ["ENROLL", "MFA"]
  let preferred ← wordsAfter ["SET", "DEFAULT_MFA_METHOD"] do
    return " SET DEFAULT_MFA_METHOD " ++ (← proofMethod)
  let removed ← wordsAfter ["REMOVE", "MFA", "METHOD"] do
    return " REMOVE MFA METHOD " ++ (← proofMethod)
  let modified ← wordsAfter ["MODIFY", "MFA", "METHOD"] do
    let method ← proofMethod
    keywords ["SET", "COMMENT"]
    return " MODIFY MFA METHOD " ++ method ++ " SET COMMENT " ++ (← quotedText d)
  let added ← wordsAfter ["ADD", "MFA", "METHOD", "OTP"] do
    let count ← wordsAfter ["COUNT"] do
      symbol "="
      return " COUNT = " ++ (← literalText d)
    return " ADD MFA METHOD OTP" ++ count
  return enrolled ++ preferred ++ removed ++ modified ++ added

/-- The kinds of policies that users are under. -/
def userPolicies : List String := ["AUTHENTICATION", "PASSWORD", "SESSION"]

/-- The policies that a user is under. -/
def userPolicy : P String := do
  let added ← match ← phrase? (userPolicies.map (["SET", ·, "POLICY"])) with
    | some words => do pure (" " ++ words ++ " " ++ (← identText))
    | none => pure ""
  return added ++ (← lastPhrase (userPolicies.map (["UNSET", ·, "POLICY"])))

/-- Properties of a user that are set or unset, after the words `ks`. -/
def changedProperties (d : Dialect) (ks : List String) : P String := do
  let lead := String.join (ks.map (" " ++ ·)) ++ " "
  let added ← wordsAfter ("SET" :: ks) do
    let list ← properties d []
    return if list.list.isEmpty then "" else " SET" ++ lead ++ list.render
  let removed ← wordsAfter ("UNSET" :: ks) do
    return " UNSET" ++ lead ++ renderIdents (← commas ident)
  return added ++ removed

/-- A change of a user, after `ALTER USER`. -/
def alterUser (d : Dialect) : P Statement := do
  let present ← whenExists
  let name ← identText
  let renamed ← identClause ["RENAME", "TO"]
  let reset ← wordsBefore ["RESET", "PASSWORD"]
  let aborted ← wordsBefore ["ABORT", "ALL", "QUERIES"]
  let delegated ← delegation
  let proved ← proofs d
  let policy ← userPolicy
  let tags ← changedProperties d ["TAG"]
  return plain ("ALTER USER " ++ present ++ name ++ renamed ++ reset ++ aborted ++ delegated ++ proved ++
    policy ++ tags ++ (← changedProperties d []))

/-! ## Policies -/

/-- For whom and which rows a policy holds, with a space before each clause. -/
def policyClauses (g : Grammar) : P (List Piece) := do
  let whom ← wordsAfter ["TO"] do return " TO " ++ ", ".intercalate (← commas owner)
  let old ← clause ["USING"] do
    return [.text " USING (", .expr (← parens g.expr), .text ")"]
  let new ← clause ["WITH", "CHECK"] do
    return [.text " WITH CHECK (", .expr (← parens g.expr), .text ")"]
  return words whom ++ old ++ new

/-- The name of a policy and its table. -/
def policyName : P String := do
  let name ← identText
  keyword "ON"
  return name ++ " ON " ++ (← nameText)

/-- A policy to create. -/
def createPolicy (g : Grammar) : P Statement := do
  let name ← policyName
  let kind ← wordsAfter ["AS"] do return " AS " ++ (← oneOf ["PERMISSIVE", "RESTRICTIVE"])
  let command ← wordsAfter ["FOR"] do
    return " FOR " ++ (← oneOf ["ALL", "SELECT", "INSERT", "UPDATE", "DELETE"])
  return .other .other (.text ("CREATE POLICY " ++ name ++ kind ++ command) :: (← policyClauses g))

/-- A change of a policy, after `ALTER POLICY`. -/
def alterPolicy (g : Grammar) : P Statement := do
  let lead := "ALTER POLICY " ++ (← policyName)
  if ← keyword? "RENAME" then
    keyword "TO"
    return plain (lead ++ " RENAME TO " ++ (← identText))
  else return .other .other (.text lead :: (← policyClauses g))

/-! ## Secrets -/

/-- The next token if it is a name. One that is no name is left out. -/
def lenientIdent : P String := do
  match ← attempt identText with
  | some name => return name
  | none => do
    skip 1
    return ""

/-- The name of a secret and the storage it is in, with a space after each. -/
def secretPlace : P String := do
  if ← peekSymbol "(" then return ""
  let name ← if ← peekKeyword "IN" then pure "" else lenientIdent
  let storage ← if ← keyword? "IN" then lenientIdent else pure ""
  return (if name.isEmpty then "" else name ++ " ") ++
    if storage.isEmpty then "" else "IN " ++ storage ++ " "

/-- A secret to create, after the words `lead`. -/
def createSecret (lead : String) : P Statement := do
  let missing ← unlessExists
  let place ← secretPlace
  symbol "("
  keyword "TYPE"
  let kind ← identText
  let option : P String := do return (← identText) ++ " " ++ (← identText)
  let options ← if ← symbol? "," then commas option else pure []
  symbol ")"
  return plain ("CREATE " ++ lead ++ "SECRET " ++ missing ++ place ++ "( TYPE " ++
    ", ".intercalate (kind :: options) ++ " )")

end RowAccess.Sql.Parser
