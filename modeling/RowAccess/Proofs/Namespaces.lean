import RowAccess.Proofs.Lookups
import RowAccess.Text.Split
/-!
# The nearest namespace

An id encloses an operation if it is the operation's own or followed by a dot in it. The ids that a lookup
tries are those that enclose the operation, the longest first (`mem_tried`, `tried_shrinks`), and each is the
one before it, cut at its last dot (`tried_eq`). So the rule found is that of the longest id declared that
encloses the operation, whatever dots are in it and whatever was looked up before (`Lookups.finds_nearest`).
-/

namespace RowAccess

/-- Whether a rule declared under an id is about an operation: the id is that of the operation, or of a
namespace of it. -/
def Encloses (id operation : String) : Prop := id = operation ∨ ∃ rest, operation = id ++ "." ++ rest

/-- The ids that are tried for an operation, one after the other. -/
def tried (operation : String) : List String := operation :: namespacesOf operation

/-! ## Paths -/

theorem mem_beforeDots {p cs : List Char} : p ∈ beforeDots cs ↔ p ++ ['.'] <+: cs := by
  induction cs generalizing p with
  | nil => simp [beforeDots]
  | cons c cs ih =>
    rw [beforeDots, List.mem_append, List.mem_map]
    cases p with
    | nil =>
      rw [List.nil_append, List.cons_prefix_cons]
      by_cases dot : c = '.' <;> simp [dot, eq_comm]
    | cons a p =>
      rw [List.cons_append, List.cons_prefix_cons, ← ih]
      have longer : a :: p ∉ if c = '.' then [[]] else [] := by split <;> simp
      rw [or_iff_right longer]
      constructor
      · rintro ⟨q, mem, same⟩
        cases same
        exact ⟨rfl, mem⟩
      · rintro ⟨rfl, mem⟩
        exact ⟨p, mem, rfl⟩

theorem beforeDots_shrinks (cs : List Char) :
    (beforeDots cs).Pairwise fun p q => p.length < q.length := by
  induction cs with
  | nil => exact .nil
  | cons c cs ih =>
    have later : ((beforeDots cs).map (c :: ·)).Pairwise fun p q => p.length < q.length :=
      List.pairwise_map.mpr (ih.imp Nat.succ_lt_succ)
    rw [beforeDots]
    by_cases dot : c = '.'
    · rw [if_pos dot]
      refine List.pairwise_cons.mpr ⟨fun q mem => ?_, later⟩
      obtain ⟨p, -, rfl⟩ := List.mem_map.mp mem
      exact Nat.succ_pos _
    · rw [if_neg dot]
      exact later

theorem length_beforeDots (cs : List Char) : (beforeDots cs).length = cs.count '.' := by
  induction cs with
  | nil => rfl
  | cons c cs ih =>
    rw [beforeDots, List.length_append, List.length_map, ih, List.count_cons]
    by_cases dot : c = '.'
    · simp [dot, Nat.add_comm]
    · simp [dot]

/-- The longest of the beginnings is what is before the last dot, and the others are those of it. -/
theorem beforeDots_eq (cs : List Char) :
    beforeDots cs = match Text.cutLast? '.' cs with
      | some (before, _) => beforeDots before ++ [before]
      | none => [] := by
  induction cs with
  | nil => rfl
  | cons c cs ih =>
    rw [beforeDots, Text.cutLast?, ih]
    rcases Text.cutLast? '.' cs with _ | ⟨before, after⟩
    · by_cases dot : c = '.' <;> simp [dot, beforeDots]
    · simp [beforeDots]

/-! ## The ids that are tried -/

theorem mem_namespacesOf {id operation : String} :
    id ∈ namespacesOf operation ↔ ∃ rest, operation = id ++ "." ++ rest := by
  have listed : id ∈ namespacesOf operation ↔ id.toList ∈ beforeDots operation.toList := by
    rw [namespacesOf, List.mem_map]
    constructor
    · rintro ⟨p, mem, rfl⟩
      rw [String.toList_ofList]
      exact List.mem_reverse.mp mem
    · intro mem
      exact ⟨id.toList, List.mem_reverse.mpr mem, String.ofList_toList⟩
  rw [listed, mem_beforeDots]
  constructor
  · rintro ⟨rest, same⟩
    refine ⟨String.ofList rest, String.toList_injective ?_⟩
    rw [← same]
    simp [String.toList_append]
  · rintro ⟨rest, rfl⟩
    exact ⟨rest.toList, by simp [String.toList_append]⟩

/-- The ids that are tried are those that enclose the operation. -/
theorem mem_tried {id operation : String} : id ∈ tried operation ↔ Encloses id operation := by
  rw [tried, List.mem_cons, mem_namespacesOf, Encloses]

instance (id operation : String) : Decidable (Encloses id operation) := decidable_of_iff _ mem_tried

/-- After an id, the same is tried with it cut at its last dot, until there is none. -/
theorem tried_eq (operation : String) :
    tried operation = operation :: match Text.cutLast? '.' operation.toList with
      | some (before, _) => tried (String.ofList before)
      | none => [] := by
  rw [tried, namespacesOf, beforeDots_eq]
  rcases Text.cutLast? '.' operation.toList with _ | ⟨before, after⟩
  · rfl
  · simp [tried, namespacesOf]

/-- Each id that is tried is shorter than those before it. -/
theorem tried_shrinks (operation : String) :
    (tried operation).Pairwise fun id id' => id'.length < id.length := by
  refine List.pairwise_cons.mpr ⟨fun id mem => ?_, ?_⟩
  · obtain ⟨rest, rfl⟩ := mem_namespacesOf.mp mem
    simp only [String.length_append]
    have dot : ".".length = 1 := rfl
    omega
  · rw [namespacesOf, List.pairwise_map, List.pairwise_reverse]
    exact (beforeDots_shrinks operation.toList).imp fun less => by
      simpa only [String.length_ofList] using less

/-- There is one more of them than there are dots. -/
theorem length_tried (operation : String) :
    (tried operation).length = operation.toList.count '.' + 1 := by
  rw [tried, List.length_cons, namespacesOf, List.length_map, List.length_reverse, length_beforeDots]

/-! ## The rule that is found -/

namespace Declarations

variable {d : Declarations} {operation : String}

theorem find?_tried (d : Declarations) (operation : String) :
    d.find? operation = (tried operation).findSome? d.at? := rfl

/-- The rule found is the one declared under the longest id that encloses the operation. -/
theorem find?_eq_some {r : Rule} :
    d.find? operation = some r ↔ ∃ id, Encloses id operation ∧ d.at? id = some r ∧
      ∀ id', Encloses id' operation → (d.at? id').isSome = true → id'.length ≤ id.length := by
  have shrinks := tried_shrinks operation
  simp only [← mem_tried, find?_tried]
  constructor
  · intro found
    obtain ⟨before, id, after, split, declared, others⟩ := List.findSome?_eq_some_iff.mp found
    rw [split] at shrinks ⊢
    refine ⟨id, by simp, declared, fun id' mem declared' => ?_⟩
    rcases List.mem_append.mp mem with mem | mem
    · rw [others id' mem] at declared'
      cases declared'
    · rcases List.mem_cons.mp mem with rfl | mem
      · exact Nat.le_refl _
      · have ordered := (List.pairwise_append.mp shrinks).2.1
        exact Nat.le_of_lt ((List.pairwise_cons.mp ordered).1 id' mem)
  · rintro ⟨id, mem, declared, longest⟩
    obtain ⟨before, after, split⟩ := List.append_of_mem mem
    refine List.findSome?_eq_some_iff.mpr ⟨before, id, after, split, declared, fun id' earlier => ?_⟩
    rw [split] at shrinks longest
    cases declared' : d.at? id' with
    | none => rfl
    | some r' =>
      have longer := (List.pairwise_append.mp shrinks).2.2 id' earlier id (by simp)
      have shorter := longest id' (by simp [earlier]) (by rw [declared']; rfl)
      exact absurd longer (Nat.not_lt.mpr shorter)

/-- No rule is found exactly if none is declared under an id that encloses the operation. -/
theorem find?_eq_none :
    d.find? operation = none ↔ ∀ id, Encloses id operation → d.at? id = none := by
  simp only [← mem_tried, find?_tried]
  exact List.findSome?_eq_none_iff

end Declarations

namespace Lookups

variable {d : Declarations}

/-- Lookups one after the other answer what a search finds for each. -/
theorem mapM_find (operations : List String) {l : Lookups} (sound : l.Sound d) :
    ((operations.mapM (find d)).run l).1 = operations.map d.find? := by
  induction operations generalizing l with
  | nil => rfl
  | cons operation operations ih =>
    obtain ⟨answer, sound'⟩ := find_sound sound operation
    rw [List.mapM_cons, List.map_cons, ← answer, ← ih sound']
    rfl

/-- Each of any number of lookups answers as if it were the first: with the rule of the longest id declared
that encloses the operation, or with nothing if none is declared that encloses it. The operation's own id is
tried and one more for each dot in it. -/
theorem finds_nearest (d : Declarations) (operations : List String) :
    ((operations.mapM (find d)).run none).1 =
        operations.map (fun operation => ((find d operation).run none).1) ∧
      ∀ operation,
        (∀ r, ((find d operation).run none).1 = some r ↔ ∃ id, Encloses id operation ∧ d.at? id = some r ∧
          ∀ id', Encloses id' operation → (d.at? id').isSome = true → id'.length ≤ id.length) ∧
        (((find d operation).run none).1 = .none ↔ ∀ id, Encloses id operation → d.at? id = .none) ∧
        ((find d operation).run none).1 = (tried operation).findSome? d.at? ∧
        (tried operation).length = operation.toList.count '.' + 1 := by
  have first (operation : String) : ((find d operation).run none).1 = d.find? operation :=
    (find_sound (sound_none d) operation).1
  refine ⟨?_, fun operation => ?_⟩
  · rw [mapM_find operations (sound_none d)]
    exact List.map_congr_left fun operation _ => (first operation).symm
  · rw [first]
    exact ⟨fun r => Declarations.find?_eq_some, Declarations.find?_eq_none,
      Declarations.find?_tried d operation, length_tried operation⟩

end Lookups

namespace Dotted

/-- Rules whose ids begin or end with a dot, or nothing. -/
def rules : Declarations := ["", "a", "a."].map fun id => (id, { tenant := true })

theorem mem_rules {id : String} (declared : (rules.at? id).isSome = true) : id ∈ ["", "a", "a."] := by
  simp only [Declarations.at?, Option.isSome_map, List.lookup_isSome_iff] at declared
  simpa [rules] using declared

/-- Dots at the beginning and the end of an operation's id, and next to each other, are dots as any other. -/
theorem dots_alike :
    ((["a.b.c", "a..", "..a"].mapM (Lookups.find rules)).run .none).1 =
      [rules.at? "a", rules.at? "a.", rules.at? ""] := by
  have found := Lookups.finds_nearest rules ["a.b.c", "a..", "..a"]
  have nearest (id : String) {operation : String} (encloses : Encloses id operation) {r : Rule}
      (declared : rules.at? id = some r)
      (longest : ∀ id' ∈ ["", "a", "a."], Encloses id' operation → id'.length ≤ id.length) :
      ((Lookups.find rules operation).run .none).1 = rules.at? id := by
    rw [declared, (found.2 operation).1 r]
    exact ⟨id, encloses, declared, fun id' encloses' declared' =>
      longest id' (mem_rules declared') encloses'⟩
  rw [found.1, List.map_cons, List.map_cons, List.map_cons, List.map_nil,
    nearest "a" (by decide) rfl (by decide),
    nearest "a." (by decide) rfl (by decide),
    nearest "" (by decide) rfl (by decide)]

end Dotted

end RowAccess
