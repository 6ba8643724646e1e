import RowAccess.Scope
/-!
# Conjunctions

A condition is taken as the `AND` of its terms. A predicate is added as a further term unless a term
is written the same way already, and a condition with `OR` or `XOR` at its top is put in parentheses
first, so that the text groups as the tree does.
-/

namespace RowAccess

open Sql (Expr)

/-- Whether the top of the condition is an `AND`. -/
def isConjunction : Expr → Bool
  | .binary .and _ _ => true
  | _ => false

/-- Whether a term of the condition is written as `text`. -/
def hasConjunct (text : String) : Expr → Bool
  | .binary .and left right => hasConjunct text left || hasConjunct text right
  | .nested inner =>
    (Expr.nested inner).render == text || inner.render == text ||
      (isConjunction inner && hasConjunct text inner)
  | e => e.render == text

/-- The condition as a term of a conjunction: in parentheses if `AND` would take part of it. -/
def asConjunct : Expr → Expr
  | .binary .or left right => .nested (.binary .or left right)
  | .binary .xor left right => .nested (.binary .xor left right)
  | e => e

/-- The condition, if there is one, with a further term. -/
def conjoin (condition : Option Expr) (term : Expr) : Expr :=
  match condition with
  | none => term
  | some e => .binary .and (asConjunct e) (asConjunct term)

/-- What rewriting has added so far. -/
structure Added where
  /-- The predicates as they are written, in order. -/
  predicates : List String
  /-- The tables they restrict, each once. -/
  tables : List String
deriving DecidableEq, Repr, Inhabited

namespace Added

/-- Nothing added. -/
def nothing : Added := ⟨[], []⟩

/-- Whether no predicate was added. -/
def isNothing (a : Added) : Bool := a.predicates.isEmpty

/-- Notes a predicate and the table it restricts. -/
def note (a : Added) (text : String) (table : Option String) : Added where
  predicates := a.predicates ++ [text]
  tables := match table with
    | none => a.tables
    | some t => if a.tables.contains t then a.tables else a.tables ++ [t]

end Added

/-- The condition with the predicates added that it does not have yet. -/
def restrict (condition : Option Expr) (predicates : List Predicate) (added : Added) :
    Option Expr × Added :=
  match predicates with
  | [] => (condition, added)
  | p :: ps =>
    let text := p.condition.render
    if condition.any (hasConjunct text) then restrict condition ps added
    else restrict (some (conjoin condition p.condition)) ps (added.note text p.table)

end RowAccess
