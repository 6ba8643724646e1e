import RowAccess.Concern
import RowAccess.Config.Rule
/-!
# Finding the rule of an operation

The id of an operation is a path of names with dots between them. The rule of an operation is the one
declared under its id or, failing that, under the nearest of its namespaces: for `a.b.c` these are `a.b`
and `a`. Lookups are remembered.
-/

namespace RowAccess

/-- What an operation is restricted by. -/
structure Rule where
  /-- The id or the namespace that the rule is declared under. -/
  declaredAs : String
  tenant : Bool
  data : Option Config.DataRule
deriving DecidableEq, Repr, Inhabited

namespace Rule

/-- The concerns that a rule adds predicates for. -/
def concerns (r : Rule) : List Concern :=
  (if r.tenant then [.tenant] else []) ++ (if r.data.isSome then [.dataPermission] else [])

/-- The rule with those of its concerns that satisfy `keeps`; nothing if it has none of them. -/
def filter (keeps : Concern → Bool) (r : Rule) : Option Rule :=
  let kept : Rule :=
    { r with
      tenant := r.tenant && keeps .tenant
      data := if keeps .dataPermission then r.data else none }
  if kept.concerns.isEmpty then none else some kept

end Rule

/-- The beginnings of a path that a dot follows, the shortest one first. -/
def beforeDots : List Char → List (List Char)
  | [] => []
  | c :: cs => (if c = '.' then [[]] else []) ++ (beforeDots cs).map (c :: ·)

/-- The namespaces of an operation, the nearest one first. -/
def namespacesOf (id : String) : List String := (beforeDots id.toList).reverse.map String.ofList

/-- Rules as they are declared, by ids of operations and namespaces. -/
abbrev Declarations := List (String × Config.OperationRule)

/-- The rule that is declared under an id. -/
def Declarations.at? (d : Declarations) (id : String) : Option Rule :=
  (d.lookup id).map fun r => ⟨id, r.tenant, r.data⟩

/-- The rule of an operation: the one declared under its id or its nearest namespace. -/
def Declarations.find? (d : Declarations) (id : String) : Option Rule :=
  (id :: namespacesOf id).findSome? d.at?

/-- Answers of earlier lookups. -/
structure Lookups where
  known : List (String × Option Rule)
deriving Repr, Inhabited

namespace Lookups

/-- No lookups yet. -/
def none : Lookups := ⟨[]⟩

/-- The rule of an operation, as it was found before or else by a search, which is remembered. -/
def find (d : Declarations) (id : String) : StateM Lookups (Option Rule) := fun l =>
  match l.known.lookup id with
  | some found => (found, l)
  | .none =>
    let found := d.find? id
    (found, ⟨(id, found) :: l.known⟩)

end Lookups

end RowAccess
