import Mathlib.Order.Lattice.Nat
import RowAccess.Departments
/-!
# Departments below a department

Edges between departments may form any graph: a department may have several parents, be its own parent, or be
listed twice below one. `reach` drops the edges that it has followed. It finds what a search finds that looks
them all up in every round and passes over what it has found before (`reach_ends`), so that search comes to an
end. What a search has found and what is in its queue are tied to distances by `Frontier`, which every round
keeps. At the end there is no queue left, and all that is below the root is found (`subtree_exact`).
-/

namespace RowAccess.Departments

/-- A way down of a length from the root to a department: each step leads to a child. -/
inductive WayDown (edges : List (String × String)) (root : String) : Nat → String → Prop
  | here : WayDown edges root 0 root
  | step {n : Nat} {parent child : String} (way : WayDown edges root n parent)
      (edge : (child, parent) ∈ edges) : WayDown edges root (n + 1) child

/-- The length of the shortest way down. -/
noncomputable def distance (edges : List (String × String)) (root dept : String) : Nat :=
  sInf {n | WayDown edges root n dept}

/-- A search: the departments found, and those that are still to be looked at. -/
structure Search where
  found : List String
  queue : List String

/-- A round of a search. The first department of the queue is passed over if it was found before, and else it is
found, and its children are to be looked at after the queue. -/
inductive Round (edges : List (String × String)) : Search → Search → Prop
  | again {found rest : List String} {dept : String} (known : dept ∈ found) :
      Round edges ⟨found, dept :: rest⟩ ⟨found, rest⟩
  | new {found rest : List String} {dept : String} (unknown : dept ∉ found) :
      Round edges ⟨found, dept :: rest⟩ ⟨found ++ [dept], rest ++ children edges dept⟩

/-- A search comes to an end after a number of rounds, with what it has found by then. -/
inductive Ends (edges : List (String × String)) : Nat → Search → List String → Prop
  | done (found : List String) : Ends edges 0 ⟨found, []⟩ found
  | round {n : Nat} {s s' : Search} {result : List String} (first : Round edges s s')
      (rest : Ends edges n s' result) : Ends edges (n + 1) s result

variable {edges : List (String × String)} {root dept : String} {n : Nat}

/-! ## Edges -/

theorem mem_children {child : String} : child ∈ children edges dept ↔ (child, dept) ∈ edges := by
  simp [children]

/-- Other departments keep their children when the edges of one are dropped. -/
theorem children_edgesElsewhere {other : String} (apart : other ≠ dept) :
    children (edgesElsewhere edges dept) other = children edges other := by
  rw [children, edgesElsewhere, List.filter_filter, children]
  congr 1
  refine List.filter_congr fun e _ => ?_
  by_cases below : e.2 = other
  · simp [below, apart]
  · simp [below]

/-! ## The search comes to an end -/

/-- What is found after dropping edges is what a search finds that follows all of them, if those of the
departments that are not found yet are still there. Each round takes a department from the queue, and the edges
are as many as are ever added to it. -/
theorem reach_ends (left : List (String × String)) (found queue : List String)
    (same : ∀ dept, dept ∉ found → children left dept = children edges dept) :
    ∃ n ≤ left.length + queue.length, Ends edges n ⟨found, queue⟩ (reach left found queue) := by
  fun_induction reach left found queue with
  | case1 left found => exact ⟨0, Nat.zero_le _, .done found⟩
  | case2 left found dept rest known ih =>
    obtain ⟨n, le, ends⟩ := ih same
    refine ⟨n + 1, ?_, .round (.again (List.contains_iff_mem.mp known)) ends⟩
    rw [List.length_cons]
    omega
  | case3 left found dept rest unknown ih =>
    have unknown : dept ∉ found := fun mem => unknown (List.contains_iff_mem.mpr mem)
    obtain ⟨n, le, ends⟩ := ih fun other apart => by
      simp only [List.mem_append, List.mem_singleton, not_or] at apart
      rw [children_edgesElsewhere apart.2, same other apart.1]
    have follows : Round edges ⟨found, dept :: rest⟩ ⟨found ++ [dept], rest ++ children left dept⟩ :=
      same dept unknown ▸ .new unknown
    refine ⟨n + 1, ?_, .round follows ends⟩
    have split := length_children_add left dept
    simp only [List.length_append, List.length_cons] at le ⊢
    omega

/-- What is found stays where it is. -/
theorem Ends.extends {s : Search} {result : List String} (ends : Ends edges n s result) :
    s.found <+: result := by
  induction ends with
  | done found => exact List.prefix_rfl
  | round first rest ih =>
    cases first with
    | again known => exact ih
    | new unknown => exact (List.prefix_append _ _).trans ih

/-! ## What every round keeps -/

theorem distance_le (way : WayDown edges root n dept) : distance edges root dept ≤ n := Nat.sInf_le way

theorem le_distance {m : Nat} (way : WayDown edges root m dept)
    (least : ∀ k, WayDown edges root k dept → n ≤ k) : n ≤ distance edges root dept :=
  least _ (Nat.sInf_mem (s := {k | WayDown edges root k dept}) ⟨m, way⟩)

/-- Where a search stands that has come to the distance `n`: `now` is the part of the queue at this distance, and
`next` are the children of departments at this distance. A department may be there more than once, and may have
been found before. -/
structure Frontier (edges : List (String × String)) (root : String) (n : Nat)
    (found now next : List String) : Prop where
  nodup : found.Nodup
  sorted : found.Pairwise fun a b => distance edges root a ≤ distance edges root b
  near : ∀ dept ∈ found, ∃ m ≤ n, WayDown edges root m dept
  level : ∀ dept ∈ now, WayDown edges root n dept
  nextLevel : ∀ dept ∈ next, WayDown edges root (n + 1) dept
  /-- All that is nearer is found. -/
  passed : ∀ m < n, ∀ dept, WayDown edges root m dept → dept ∈ found
  /-- What is as near is found or is now in the queue. -/
  reached : ∀ dept, WayDown edges root n dept → dept ∈ found ∨ dept ∈ now
  /-- What is below those that are found is found or is in the queue. -/
  closed : ∀ dept ∈ found, ∀ child ∈ children edges dept, child ∈ found ∨ child ∈ now ++ next

namespace Frontier

variable {found now next : List String}

theorem start (edges : List (String × String)) (root : String) : Frontier edges root 0 [] [root] [] where
  nodup := .nil
  sorted := .nil
  near := nofun
  level := by
    intro dept mem
    cases List.mem_singleton.mp mem
    exact .here
  nextLevel := nofun
  passed := nofun
  reached := by
    rintro dept ⟨⟩
    exact .inr (List.mem_singleton_self root)
  closed := nofun

/-- With nothing left at one distance, the search comes to the next one. -/
theorem advance (front : Frontier edges root n found [] next) : Frontier edges root (n + 1) found next [] where
  nodup := front.nodup
  sorted := front.sorted
  near dept mem := by
    obtain ⟨m, le, way⟩ := front.near dept mem
    exact ⟨m, Nat.le_succ_of_le le, way⟩
  level := front.nextLevel
  nextLevel := nofun
  passed m less dept way := by
    rcases Nat.lt_succ_iff_lt_or_eq.mp less with less | rfl
    · exact front.passed m less dept way
    · exact (front.reached dept way).resolve_right List.not_mem_nil
  reached := by
    rintro dept (_ | ⟨way, edge⟩)
    have parent := (front.reached _ way).resolve_right List.not_mem_nil
    simpa using front.closed _ parent dept (mem_children.mpr edge)
  closed dept mem child below := by simpa using front.closed dept mem child below

/-- Passing over a department loses nothing, for it is found. -/
theorem again {rest : List String} (front : Frontier edges root n found (dept :: rest) next)
    (known : dept ∈ found) : Frontier edges root n found rest next where
  nodup := front.nodup
  sorted := front.sorted
  near := front.near
  level other mem := front.level other (List.mem_cons_of_mem _ mem)
  nextLevel := front.nextLevel
  passed := front.passed
  reached other way := by
    rcases front.reached other way with mem | mem
    · exact .inl mem
    · rcases List.mem_cons.mp mem with rfl | mem
      · exact .inl known
      · exact .inr mem
  closed other mem child below := by
    rcases front.closed other mem child below with mem | mem
    · exact .inl mem
    · rcases List.mem_cons.mp mem with rfl | mem
      · exact .inl known
      · exact .inr mem

/-- A department that is found now is not nearer than the distance the search has come to. -/
theorem distance_new {rest : List String} (front : Frontier edges root n found (dept :: rest) next)
    (unknown : dept ∉ found) : n ≤ distance edges root dept :=
  le_distance (front.level dept (List.mem_cons_self ..)) fun k way =>
    Nat.not_lt.mp fun less => unknown (front.passed k less dept way)

theorem new {rest : List String} (front : Frontier edges root n found (dept :: rest) next)
    (unknown : dept ∉ found) :
    Frontier edges root n (found ++ [dept]) rest (next ++ children edges dept) where
  nodup := List.nodup_append.mpr ⟨front.nodup, List.nodup_singleton dept, fun a mem b mem' same => by
    cases List.mem_singleton.mp mem'
    exact unknown (same ▸ mem)⟩
  sorted := List.pairwise_append.mpr ⟨front.sorted, List.pairwise_singleton .., fun a mem b mem' => by
    cases List.mem_singleton.mp mem'
    obtain ⟨m, le, way⟩ := front.near a mem
    exact (distance_le way).trans (le.trans (front.distance_new unknown))⟩
  near other mem := by
    rcases List.mem_append.mp mem with mem | mem
    · exact front.near other mem
    · cases List.mem_singleton.mp mem
      exact ⟨n, Nat.le_refl n, front.level dept (List.mem_cons_self ..)⟩
  level other mem := front.level other (List.mem_cons_of_mem _ mem)
  nextLevel other mem := by
    rcases List.mem_append.mp mem with mem | mem
    · exact front.nextLevel other mem
    · exact .step (front.level dept (List.mem_cons_self ..)) (mem_children.mp mem)
  passed m less other way := List.mem_append_left _ (front.passed m less other way)
  reached other way := by
    rcases front.reached other way with mem | mem
    · exact .inl (List.mem_append_left _ mem)
    · rcases List.mem_cons.mp mem with rfl | mem
      · exact .inl (List.mem_append_right _ (List.mem_singleton_self _))
      · exact .inr mem
  closed other mem child below := by
    rcases List.mem_append.mp mem with mem | mem
    · have there := front.closed other mem child below
      simp only [List.mem_append, List.mem_cons] at there ⊢
      tauto
    · cases List.mem_singleton.mp mem
      simp [below]

/-- A round keeps what is known of the queue, perhaps at the next distance. -/
theorem round {s s' : Search} (front : Frontier edges root n s.found now next) (queue : s.queue = now ++ next)
    (first : Round edges s s') :
    ∃ n' now' next', Frontier edges root n' s'.found now' next' ∧ s'.queue = now' ++ next' := by
  cases now with
  | nil =>
    cases first with
    | again known =>
      cases queue
      exact ⟨_, _, _, front.advance.again known, (List.append_nil _).symm⟩
    | new unknown =>
      cases queue
      exact ⟨_, _, _, front.advance.new unknown, rfl⟩
  | cons dept rest =>
    cases first with
    | again known =>
      cases queue
      exact ⟨_, _, _, front.again known, rfl⟩
    | new unknown =>
      cases queue
      exact ⟨_, _, _, front.new unknown, List.append_assoc ..⟩

/-- At the end of a search there is nothing in the queue. -/
theorem ends {s : Search} {result : List String} (front : Frontier edges root n s.found now next)
    (queue : s.queue = now ++ next) {rounds : Nat} (ends : Ends edges rounds s result) :
    ∃ m, Frontier edges root m result [] [] := by
  induction ends generalizing n now next with
  | done found =>
    obtain ⟨rfl, rfl⟩ := List.append_eq_nil_iff.mp queue.symm
    exact ⟨n, front⟩
  | round first rest ih =>
    obtain ⟨n', now', next', front', queue'⟩ := front.round queue first
    exact ih front' queue'

/-- With nothing in the queue, all that is below the root is found, if the root is. -/
theorem complete (front : Frontier edges root n found [] []) (known : root ∈ found) :
    dept ∈ found ↔ ∃ m, WayDown edges root m dept := by
  constructor
  · intro mem
    obtain ⟨m, -, way⟩ := front.near dept mem
    exact ⟨m, way⟩
  · rintro ⟨m, way⟩
    induction way with
    | here => exact known
    | step way edge ih => simpa using front.closed _ ih _ (mem_children.mpr edge)

end Frontier

/-! ## What is found -/

/-- Whatever the edges are, the lookup answers: the search that follows them from the root comes to an end, after
one round for the root and at most one for each edge. The root is found first, then all that is below it and
nothing else, each department once, and none before one that is nearer. -/
theorem subtree_exact (d : Departments) (root : String) :
    ∃ below, d.directory.subtree root = .ok (root :: below) ∧
      (∃ rounds ≤ d.edges.length + 1, Ends d.edges rounds ⟨[], [root]⟩ (root :: below)) ∧
      (root :: below).Nodup ∧
      (∀ dept, dept ∈ root :: below ↔ ∃ n, WayDown d.edges root n dept) ∧
      (root :: below).Pairwise fun a b => distance d.edges root a ≤ distance d.edges root b := by
  have nothingRemoved : ∀ dept, dept ∉ ([] : List String) → children d.edges dept = children d.edges dept :=
    fun _ _ => rfl
  obtain ⟨rounds, le, ends⟩ := reach_ends d.edges [] [root] nothingRemoved
  obtain ⟨below, found⟩ : ∃ below, d.subtree root = root :: below := by
    cases ends with
    | round first rest =>
      cases first with
      | again known => cases known
      | new unknown =>
        obtain ⟨below, same⟩ := rest.extends
        exact ⟨below, same.symm⟩
  rw [← subtree, found] at ends
  obtain ⟨m, front⟩ := (Frontier.start d.edges root).ends rfl ends
  exact ⟨below, congrArg Except.ok found, ⟨rounds, le, ends⟩, front.nodup,
    fun dept => front.complete (List.mem_cons_self ..), front.sorted⟩

/-- Departments that are below each other, or below themselves, or below another one twice. -/
example : (Departments.mk [] [("b", "a"), ("c", "a"), ("b", "a"), ("a", "b"), ("d", "c"), ("c", "c"), ("d", "b"),
    ("f", "e")]).subtree "a" = ["a", "b", "c", "d"] := by
  decide +kernel

end RowAccess.Departments
