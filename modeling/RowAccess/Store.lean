/-!
# Stores

A store keeps texts by keys for all contexts. Its calls may fail, and what they answer may depend on
what others do with it: only the type of its state is known.
-/

namespace RowAccess

/-- A call of a store: an answer, or the text of a failure. -/
abbrev StoreCall (σ : Type) := ExceptT String (StateM σ)

/-- The calls of a store whose state is `σ`. -/
structure Store (σ : Type) where
  get : String → StoreCall σ (Option String)
  set : String → String → StoreCall σ Unit
  delete : String → StoreCall σ Unit

/-- Texts by keys, of which the first one for a key counts. -/
structure Memory where
  entries : List (String × String)
deriving DecidableEq, Repr, Inhabited

namespace Memory

/-- Nothing kept. -/
def empty : Memory := ⟨[]⟩

/-- The text under a key. -/
def get? (m : Memory) (key : String) : Option String := m.entries.lookup key

/-- Without a key. -/
def erase (m : Memory) (key : String) : Memory := ⟨m.entries.filter fun e => e.1 != key⟩

/-- With a text under a key, in place of the one that was there. -/
def insert (m : Memory) (key value : String) : Memory := ⟨(key, value) :: (m.erase key).entries⟩

theorem lookup_filter_ne {α : Type} (entries : List (String × α)) (key other : String) :
    (entries.filter fun e => e.1 != key).lookup other =
      if other = key then none else entries.lookup other := by
  induction entries with
  | nil => simp
  | cons e es ih =>
    obtain ⟨k, v⟩ := e
    by_cases hk : k = key
    · subst hk
      have hf : ((k, v) :: es).filter (fun e => e.1 != k) = es.filter fun e => e.1 != k := by simp
      rw [hf, ih]
      by_cases ho : other = k
      · simp [ho]
      · simp [ho, List.lookup_cons, beq_eq_false_iff_ne.mpr ho]
    · have hf : ((k, v) :: es).filter (fun e => e.1 != key) =
          (k, v) :: es.filter fun e => e.1 != key := by simp [hk]
      rw [hf, List.lookup_cons, ih, List.lookup_cons]
      by_cases ho : other = k
      · subst ho
        simp [hk]
      · simp [beq_eq_false_iff_ne.mpr ho]

@[simp] theorem get?_erase (m : Memory) (key other : String) :
    (m.erase key).get? other = if other = key then none else m.get? other :=
  lookup_filter_ne m.entries key other

@[simp] theorem get?_insert (m : Memory) (key value other : String) :
    (m.insert key value).get? other = if other = key then some value else m.get? other := by
  have h : (m.insert key value).get? other =
      match other == key with
      | true => some value
      | false => (m.erase key).get? other := List.lookup_cons
  rw [h, get?_erase]
  by_cases ho : other = key
  · simp [ho]
  · simp [ho, beq_eq_false_iff_ne.mpr ho]

end Memory

/-- The store that keeps its texts in memory. Its calls never fail. -/
def Store.memory : Store Memory where
  get key := fun m => (.ok (m.get? key), m)
  set key value := fun m => (.ok (), m.insert key value)
  delete key := fun m => (.ok (), m.erase key)

end RowAccess
