import RowAccess.Sql.Parser.Reserved
import RowAccess.Sql.Parser.TypeName
/-!
# Reading aliases

The name after a column or a relation. A word serves without `AS` if it does not start the next
clause.
-/

namespace RowAccess.Sql.Parser

/-- An alias, for which `accepts` admits a word by its keyword and by whether `AS` was written, and
whether `AS` was written. A string is an alias as well. -/
def aliasWhere? (accepts : (explicit : Bool) → (keyword : String) → Bool) :
    P (Option (Bool × Ident)) := do
  let explicit ← keyword? "AS"
  match ← peek with
  | some (.word i k) =>
    if accepts explicit k then
      skip 1
      return some (explicit, i)
    else if explicit then unexpected
    else return none
  | some (.literal (.string s)) => do
    skip 1
    return some (explicit, ⟨s, some '\''⟩)
  | some (.literal (.doubleQuoted s)) => do
    skip 1
    return some (explicit, ⟨s, some '"'⟩)
  | _ => if explicit then unexpected else return none

/-- An alias, for which a word serves without `AS` if `allowed` admits its keyword, and whether `AS`
was written. -/
def aliasName? (allowed : String → Bool) : P (Option (Bool × Ident)) :=
  aliasWhere? fun explicit k => explicit || allowed k

/-- The alias of a column. -/
def columnAlias? : P (Option Ident) := return (← aliasName? columnAlias).map (·.2)

/-- The words of an alias that was read. -/
def aliasWords : Option Ident → String
  | none => ""
  | some i => " AS " ++ i.render

/-- A column of an alias, with its type if one is given. -/
def aliasColumn (g : Grammar) : P AliasColumn := do
  let name ← ident
  return ⟨name, ← attempt g.type⟩

/-- The columns of an alias in parentheses, if there are any. -/
def aliasColumns (g : Grammar) : P (List AliasColumn) := do
  if ← peekSymbol "(" then parens (commas (aliasColumn g)) else return []

/-- The alias of a relation. -/
def alias? (g : Grammar) : P (Option Alias) := do
  match ← aliasName? (tableAlias g.dialect) with
  | some (explicit, name) => return some ⟨explicit, name, ← aliasColumns g⟩
  | none => return none

end RowAccess.Sql.Parser
