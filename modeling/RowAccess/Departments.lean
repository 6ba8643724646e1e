/-!
# Departments

Departments form a hierarchy by their parents, and roles may be assigned departments. A directory
answers both; its lookups may fail. `Departments` is a directory kept in memory, and its hierarchy may
be any graph.
-/

namespace RowAccess

/-- Answers lookups of departments, or the text of a failure. -/
structure Directory where
  /-- The departments assigned to a role. -/
  assigned : String → Except String (List String)
  /-- A department and all departments below it. -/
  subtree : String → Except String (List String)

/-- Departments kept in memory. -/
structure Departments where
  /-- The departments of roles; of two entries for a role the last one counts. -/
  assignments : List (String × List String)
  /-- Departments, each with a parent, in the order in which they were added. -/
  edges : List (String × String)
deriving DecidableEq, Repr, Inhabited

namespace Departments

/-- No departments. -/
def empty : Departments := ⟨[], []⟩

/-- Assigns departments to a role, in place of those it had. -/
def assign (d : Departments) (role : String) (depts : List String) : Departments :=
  { d with assignments := d.assignments.filter (·.1 != role) ++ [(role, depts)] }

/-- Adds a department below a parent. -/
def add (d : Departments) (dept parent : String) : Departments :=
  { d with edges := d.edges ++ [(dept, parent)] }

/-- The departments assigned to a role. -/
def assigned (d : Departments) (role : String) : List String := (d.assignments.lookup role).getD []

/-- The departments right below one. -/
def children (edges : List (String × String)) (dept : String) : List String :=
  (edges.filter fun e => e.2 == dept).map (·.1)

/-- The edges that do not start at a department. -/
def edgesElsewhere (edges : List (String × String)) (dept : String) : List (String × String) :=
  edges.filter fun e => !(e.2 == dept)

theorem length_children_add (edges : List (String × String)) (dept : String) :
    (children edges dept).length + (edgesElsewhere edges dept).length = edges.length := by
  induction edges with
  | nil => rfl
  | cons e es ih =>
    unfold children edgesElsewhere at *
    by_cases h : e.2 == dept <;> simp_all <;> omega

/-- What is found from the departments in `queue`, after those `found` before: each department once,
in the order of the queue, its children after the queue. -/
def reach (edges : List (String × String)) (found queue : List String) : List String :=
  match queue with
  | [] => found
  | dept :: rest =>
    if found.contains dept then reach edges found rest
    else reach (edgesElsewhere edges dept) (found ++ [dept]) (rest ++ children edges dept)
termination_by edges.length + queue.length
decreasing_by
  · simp
  · have := length_children_add edges dept
    simp only [List.length_append, List.length_cons]
    omega

/-- A department and all departments below it, nearer ones first. -/
def subtree (d : Departments) (root : String) : List String := reach d.edges [] [root]

/-- The directory of departments kept in memory, whose lookups do not fail. -/
def directory (d : Departments) : Directory where
  assigned role := .ok (d.assigned role)
  subtree dept := .ok (d.subtree dept)

end Departments

end RowAccess
