import RowAccess.Proofs.Semantics.Interpretation
/-!
# Values that are texts

An interpretation to evaluate examples in: a value is a text or null, and texts are compared for
equality. Everything else that a dialect offers answers null.
-/

namespace RowAccess.Semantics

open Sql

/-- Whether two texts are the same; unknown if one of them is null. -/
def sameText (v w : Option String) : Truth := do return (← v) == (← w)

/-- Values that are texts or null. -/
def texts : Interpretation (Option String) where
  null := none
  isNull := Option.isNone
  fold i := i.value
  truth v := v.map (· == "true")
  ofTruth a := a.map fun b => if b then "true" else "false"
  truth_ofTruth a := by rcases a with _ | _ | _ <;> rfl
  literal
    | .string s => some s
    | _ => none
  typed _ _ _ := none
  unary _ _ := none
  binary
    | .eq => fun v w => (sameText v w).map fun b => if b then "true" else "false"
    | _ => fun _ _ => none
  equal := sameText
  distinct v w := v != w
  has _ v := v.isNone
  matching _ _ _ := none
  atTimeZone v _ := v
  cast _ _ v := v
  collate _ v := v
  extract _ _ _ := none
  tuple _ := none
  members _ _ _ _ := none
  rows _ _ _ _ := none
  equalRow v row := row.head?.elim none (sameText v)
  scalar _ := none
  isAggregate _ := false
  aggregate _ _ _ := none
  call _ _ _ _ := none
  special _ _ := none
  chosen _ := ⟨[], []⟩
  clause _ rows := rows

end RowAccess.Semantics
