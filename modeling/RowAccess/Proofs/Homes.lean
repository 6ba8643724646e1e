import Mathlib.Data.List.Nodup
import Mathlib.Data.List.Perm.Basic
import RowAccess.Rewrite
/-!
# Where the tables of a `FROM` list are restricted

A table is restricted where its predicates leave the rows alone that an outer join extends with nulls: in the
condition of the innermost join that has the table on its nullable side, or in the `WHERE` if there is none. Where
some join around it has no such condition, and under `PIVOT` and its kin, the table is wrapped. This is its `Home`.

Tables may be named twice, so they are told apart by where they stand (`Occurrence`). Homes are described from the
inside out: what one more surrounding does to them is all that an induction needs to know.
-/

namespace RowAccess

open Sql Rewrite

/-! ## Tables in their surroundings -/

/-- Where something stands in a `FROM` list: the number of its item, and then, for each chain of joins around it,
its number in the chain. -/
abbrev Address := List Nat

/-- What a table may stand in. -/
inductive Surrounding where
  /-- `PIVOT`, `UNPIVOT` or `MATCH_RECOGNIZE`. -/
  | reshaped
  /-- A relation with these joins. -/
  | chain (joins : List Join)
  /-- A side of the `n`th join of a chain. -/
  | side (chain : Address) (n : Nat) (kind : JoinKind) (side : NullableSide)

/-- A table that a `FROM` list names, outside of queries in it. -/
structure Occurrence where
  table : Table
  address : Address
  /-- What it stands in, from the inside out. -/
  around : List Surrounding

/-- The same, seen from around the `n`th relation of a chain or list. -/
def Surrounding.under (n : Nat) : Surrounding → Surrounding
  | .side address m kind s => .side (n :: address) m kind s
  | s => s

namespace Occurrence

/-- The same table, seen from around the `n`th relation of a chain or list. -/
def under (n : Nat) (o : Occurrence) : Occurrence where
  table := o.table
  address := n :: o.address
  around := o.around.map (·.under n)

/-- The same table with something more around it. -/
def within (s : Surrounding) (o : Occurrence) : Occurrence := { o with around := o.around ++ [s] }

/-- The tables on the two sides of the `n`th join of a chain. -/
def join (n : Nat) (kind : JoinKind) (before joined : List Occurrence) : List Occurrence :=
  before.map (within (.side [] n kind .preceding)) ++ joined.map (within (.side [] n kind .joined) ∘ under n)

mutual

/-- The tables of a relation with its joins. -/
def ofJoined : Joined → List Occurrence
  | .mk r js => (ofJoins 1 js ((ofRelation r).map (under 0))).map (within (.chain js))

/-- The tables of a chain, of which those before the `n`th join are given. -/
def ofJoins (n : Nat) : List Join → List Occurrence → List Occurrence
  | [], before => before
  | .mk _ kind r _ _ :: rest, before => ofJoins (n + 1) rest (join n kind before (ofRelation r))

/-- The tables of a relation. -/
def ofRelation : Relation → List Occurrence
  | .table name _ _ _ aliased _ => [⟨⟨Name.render name, aliased.map (·.name.render)⟩, [], []⟩]
  | .nested j _ => ofJoined j
  | .reshaped r _ _ => (ofRelation r).map (within .reshaped)
  | .derived .. | .function .. | .special .. => []

end

/-- The tables of the items of a list, the first of which is the `n`th. -/
def ofItems (n : Nat) : List Joined → List Occurrence
  | [] => []
  | j :: js => (ofJoined j).map (under n) ++ ofItems (n + 1) js

end Occurrence

/-! ## Homes -/

/-- Where the predicates of a table go. -/
inductive Home where
  /-- Into the filter that the table at an address is wrapped with. -/
  | own (address : Address)
  /-- Into the condition of the `n`th join of a chain. -/
  | join (chain : Address) (n : Nat)
  /-- Into the `WHERE`. -/
  | filter
deriving DecidableEq

/-- Whether all tables in it are wrapped. -/
def Surrounding.wraps : Surrounding → Bool
  | .reshaped => true
  | .chain js => js.any Join.needsWrapping
  | .side .. => false

/-- The join that it is the nullable side of. -/
def Surrounding.join? : Surrounding → Option (Address × Nat)
  | .side address n kind s => if nullableSide? kind = some s then some (address, n) else none
  | _ => none

namespace Occurrence

/-- Whether the table is wrapped for what it stands in. -/
def isWrapped (o : Occurrence) : Bool := o.around.any Surrounding.wraps

/-- The innermost join that has the table on its nullable side. -/
def join? (o : Occurrence) : Option (Address × Nat) := o.around.findSome? Surrounding.join?

/-- Where the predicates of the table go, if all tables are `wrapped` or not. -/
def homeIn (wrapped : Bool) (o : Occurrence) : Home :=
  if wrapped || o.isWrapped then .own o.address
  else match o.join? with
    | some (chain, n) => .join chain n
    | none => .filter

/-- Where the predicates of the table go: its own filter if it is wrapped, else the innermost join that has it on
its nullable side, else the `WHERE`. -/
def home (o : Occurrence) : Home := o.homeIn false

end Occurrence

namespace Home

/-- The same home, seen from around the `n`th relation of a chain or list. -/
def under (n : Nat) : Home → Home
  | own address => own (n :: address)
  | join chain m => join (n :: chain) m
  | filter => filter

/-- The home of a table on a side of the `n`th join of a chain, if it has no other. -/
def beside (n : Nat) (kind : JoinKind) (side : NullableSide) : Home → Home
  | filter => if nullableSide? kind = some side then join [] n else filter
  | h => h

/-- The number of the relation or join it belongs to. -/
def seat? : Home → Option Nat
  | own address => address.head?
  | join [] n => some n
  | join (n :: _) _ => some n
  | filter => none

/-- Where its predicates are placed. -/
def placement : Home → Placement
  | filter => .filter
  | _ => .join

/-- How many tables its scope counts, if the list names `n`. -/
def visible (n : Nat) : Home → Nat
  | own _ => 1
  | _ => n

/-- The address of a wrapped table. -/
def address? : Home → Option Address
  | own address => some address
  | _ => none

mutual

/-- Where predicates may go for a relation with its joins, in the order in which the source is asked. -/
def ofJoined : Joined → List Home
  | .mk r js => (ofRelation r).map (under 0) ++ ofJoins 1 js

/-- Where predicates may go for joins, the first of which is the `n`th. -/
def ofJoins (n : Nat) : List Join → List Home
  | [] => []
  | .mk _ _ r _ _ :: rest => (ofRelation r).map (under n) ++ join [] n :: ofJoins (n + 1) rest

/-- Where predicates may go for a relation. -/
def ofRelation : Relation → List Home
  | .table .. => [own []]
  | .nested j _ => ofJoined j
  | .reshaped r _ _ => ofRelation r
  | .derived .. | .function .. | .special .. => []

end

/-- Where predicates may go for the items of a list, the first of which is the `n`th. -/
def ofItems (n : Nat) : List Joined → List Home
  | [] => []
  | j :: js => (ofJoined j).map (under n) ++ ofItems (n + 1) js

end Home

/-! ## What a surrounding does to a home -/

namespace Surrounding

variable (n : Nat) (s : Surrounding)

@[simp] theorem wraps_under : (s.under n).wraps = s.wraps := by cases s <;> rfl

@[simp] theorem join?_under : (s.under n).join? = s.join?.map fun x => (n :: x.1, x.2) := by
  cases s with
  | side address m kind s =>
    simp only [under, join?]
    split <;> rfl
  | _ => rfl

end Surrounding

namespace Home

variable {n : Nat} {h h' : Home}

theorem under_inj (same : h.under n = h'.under n) : h = h' := by
  cases h <;> cases h' <;> simp_all [under]

theorem seat?_under (h : Home) (n : Nat) (other : h ≠ filter) : (h.under n).seat? = some n := by
  cases h with
  | filter => contradiction
  | _ => rfl

theorem under_ne_filter (other : h ≠ filter) : h.under n ≠ filter := fun same =>
  other (under_inj (n := n) same)

theorem under_ne_join (h : Home) (n : Nat) : h.under n ≠ join [] n := by
  cases h <;> simp [under]

@[simp] theorem placement_under (h : Home) (n : Nat) : (h.under n).placement = h.placement := by
  cases h <;> rfl

@[simp] theorem visible_under (h : Home) (n visible : Nat) : (h.under n).visible visible = h.visible visible := by
  cases h <;> rfl

@[simp] theorem address?_under (h : Home) (n : Nat) : (h.under n).address? = h.address?.map (n :: ·) := by
  cases h <;> rfl

end Home

namespace Occurrence

variable (n : Nat) (wrapped : Bool) (o : Occurrence)

theorem address_of_home {a : Address} (same : o.home = .own a) : o.address = a := by
  rw [home, homeIn] at same
  split at same
  · exact Home.own.inj same
  · split at same <;> cases same

theorem homeIn_under : (o.under n).homeIn wrapped = (o.homeIn wrapped).under n := by
  have wraps : (o.under n).isWrapped = o.isWrapped := by
    simp [isWrapped, under, List.any_map, Function.comp_def]
  have join : (o.under n).join? = o.join?.map fun x => (n :: x.1, x.2) := by
    simp only [join?, under, List.findSome?_map, Function.comp_def, Surrounding.join?_under, List.map_findSome?]
  rw [homeIn, homeIn, wraps, join]
  split
  · rfl
  · cases o.join? <;> rfl

theorem homeIn_side (kind : JoinKind) (side : NullableSide) :
    (o.within (.side [] n kind side)).homeIn wrapped = (o.homeIn wrapped).beside n kind side := by
  have wraps : (o.within (.side [] n kind side)).isWrapped = o.isWrapped := by
    simp [isWrapped, within, Surrounding.wraps]
  have join : (o.within (.side [] n kind side)).join? =
      o.join?.or (if nullableSide? kind = some side then some ([], n) else none) := by
    simp [join?, within, Surrounding.join?]
  rw [homeIn, homeIn, wraps, join]
  split
  · rfl
  · cases o.join? with
    | some x => rfl
    | none =>
      by_cases nullable : nullableSide? kind = some side
      · simp [nullable, Home.beside]
      · simp [nullable, Home.beside]

theorem homeIn_chain (js : List Join) :
    (o.within (.chain js)).homeIn wrapped = o.homeIn (wrapped || js.any Join.needsWrapping) := by
  have wraps : (o.within (.chain js)).isWrapped = (o.isWrapped || js.any Join.needsWrapping) := by
    simp [isWrapped, within, Surrounding.wraps]
  have join : (o.within (.chain js)).join? = o.join? := by
    simp [join?, within, Surrounding.join?]
  rw [homeIn, homeIn, wraps, join, Bool.or_assoc, Bool.or_comm o.isWrapped]
  rfl

theorem homeIn_reshaped : (o.within .reshaped).homeIn wrapped = o.homeIn true := by
  have wraps : (o.within .reshaped).isWrapped = true := by
    simp [isWrapped, within, Surrounding.wraps]
  rw [homeIn, homeIn, wraps, Bool.or_true]
  rfl

end Occurrence

/-! ## Tables with their homes -/

/-- A table with where its predicates go. -/
abbrev Homed := Home × Table

/-- The tables at home somewhere. -/
def tablesAt (xs : List Homed) (h : Home) : List Table := (xs.filter (·.1 = h)).map Prod.snd

/-- The same tables with other homes. -/
def rehome (f : Home → Home) (xs : List Homed) : List Homed := xs.map fun x => (f x.1, x.2)

/-- The tables before a join and those of the joined relation, with their homes after the join. -/
def afterJoin (n : Nat) (kind : JoinKind) (before joined : List Homed) : List Homed :=
  rehome (Home.beside n kind .preceding) before ++
    rehome (Home.beside n kind .joined) (rehome (Home.under n) joined)

namespace Occurrence

/-- Tables with their homes, if all of them are `wrapped` or not. -/
def homed (wrapped : Bool) (os : List Occurrence) : List Homed := os.map fun o => (o.homeIn wrapped, o.table)

variable (wrapped : Bool) (os os' : List Occurrence)

theorem homed_append : homed wrapped (os ++ os') = homed wrapped os ++ homed wrapped os' := List.map_append

theorem homed_under (n : Nat) : homed wrapped (os.map (under n)) = rehome (Home.under n) (homed wrapped os) := by
  simp only [homed, rehome, List.map_map, Function.comp_def, homeIn_under]
  rfl

theorem homed_side (n : Nat) (kind : JoinKind) (side : NullableSide) :
    homed wrapped (os.map (within (.side [] n kind side))) =
      rehome (Home.beside n kind side) (homed wrapped os) := by
  simp only [homed, rehome, List.map_map, Function.comp_def, homeIn_side]
  rfl

theorem homed_chain (js : List Join) :
    homed wrapped (os.map (within (.chain js))) = homed (wrapped || js.any Join.needsWrapping) os := by
  simp only [homed, List.map_map, Function.comp_def, homeIn_chain]
  rfl

theorem homed_reshaped : homed wrapped (os.map (within .reshaped)) = homed true os := by
  simp only [homed, List.map_map, Function.comp_def, homeIn_reshaped]
  rfl

theorem homed_join (wrapped : Bool) (os os' : List Occurrence) (n : Nat) (kind : JoinKind) :
    homed wrapped (join n kind os os') = afterJoin n kind (homed wrapped os) (homed wrapped os') := by
  rw [join, homed_append, homed_side, ← List.map_map, homed_side, homed_under]
  rfl

theorem homed_ofItems (n : Nat) (j : Joined) (js : List Joined) :
    homed false (ofItems n (j :: js)) =
      rehome (Home.under n) (homed false (ofJoined j)) ++ homed false (ofItems (n + 1) js) := by
  rw [ofItems, homed_append, homed_under]

theorem tablesAt_homed_true (os : List Occurrence) : tablesAt (homed true os) .filter = [] := by
  simp [tablesAt, homed, homeIn]

end Occurrence

section

variable {xs : List Homed} {n : Nat} {h h' : Home} {kind : JoinKind} {side : NullableSide} {f : Home → Home}

theorem tablesAt_append (xs ys : List Homed) (h : Home) :
    tablesAt (xs ++ ys) h = tablesAt xs h ++ tablesAt ys h := by
  rw [tablesAt, List.filter_append, List.map_append]
  rfl

theorem tablesAt_rehome (same : ∀ x ∈ xs, f x.1 = h ↔ x.1 = h') : tablesAt (rehome f xs) h = tablesAt xs h' := by
  simp only [tablesAt, rehome, List.filter_map, List.map_map]
  exact congrArg _ (List.filter_congr fun x mem => decide_eq_decide.mpr (same x mem))

theorem tablesAt_rehome_nil (never : ∀ x ∈ xs, f x.1 ≠ h) : tablesAt (rehome f xs) h = [] := by
  rw [tablesAt, rehome, List.filter_map, List.map_map, List.map_eq_nil_iff, List.filter_eq_nil_iff]
  exact fun x mem same => never x mem (of_decide_eq_true same)

theorem tablesAt_under (xs : List Homed) (n : Nat) (h : Home) :
    tablesAt (rehome (Home.under n) xs) (h.under n) = tablesAt xs h :=
  tablesAt_rehome fun _ _ => ⟨Home.under_inj, congrArg _⟩

theorem tablesAt_under_filter (xs : List Homed) (n : Nat) :
    tablesAt (rehome (Home.under n) xs) .filter = tablesAt xs .filter := tablesAt_under xs n .filter

/-- Under a relation there are no homes of other relations. -/
theorem tablesAt_under_of_ne (xs : List Homed) (other : h ≠ .filter) (elsewhere : h.seat? ≠ some n) :
    tablesAt (rehome (Home.under n) xs) h = [] := by
  refine tablesAt_rehome_nil fun x _ same => ?_
  by_cases filter : x.1 = .filter
  · rw [filter] at same
    exact other same.symm
  · exact elsewhere (same ▸ Home.seat?_under x.1 n filter)

/-- A join leaves alone what has a home of its own. -/
theorem tablesAt_beside_of_ne (xs : List Homed) (other : h ≠ .filter) (elsewhere : h ≠ .join [] n) :
    tablesAt (rehome (Home.beside n kind side) xs) h = tablesAt xs h := by
  refine tablesAt_rehome fun x _ => ?_
  rcases x with ⟨_ | _ | _, _⟩
  case filter =>
    simp only [Home.beside]
    split <;> simp [other.symm, elsewhere.symm]
  all_goals rfl

/-- What has no home yet is left to the `WHERE` unless it is on the nullable side. -/
theorem tablesAt_beside_filter (xs : List Homed) (n : Nat) (kind : JoinKind) (side : NullableSide) :
    tablesAt (rehome (Home.beside n kind side) xs) .filter =
      if nullableSide? kind = some side then [] else tablesAt xs .filter := by
  split
  case isTrue nullable =>
    refine tablesAt_rehome_nil fun x _ => ?_
    rcases x with ⟨_ | _ | _, _⟩ <;> simp [Home.beside, nullable]
  case isFalse nullable =>
    refine tablesAt_rehome fun x _ => ?_
    rcases x with ⟨_ | _ | _, _⟩ <;> simp [Home.beside, nullable]

/-- What has no home yet goes into the condition of the join that has it on its nullable side. -/
theorem tablesAt_beside_join (fresh : ∀ x ∈ xs, x.1 ≠ .join [] n) :
    tablesAt (rehome (Home.beside n kind side) xs) (.join [] n) =
      if nullableSide? kind = some side then tablesAt xs .filter else [] := by
  split
  case isTrue nullable =>
    refine tablesAt_rehome fun x mem => ?_
    have := fresh x mem
    rcases x with ⟨_ | _ | _, _⟩ <;> simp_all [Home.beside]
  case isFalse nullable =>
    refine tablesAt_rehome_nil fun x mem => ?_
    have := fresh x mem
    rcases x with ⟨_ | _ | _, _⟩ <;> simp_all [Home.beside]

end

/-! ## Possible homes -/

namespace Home

theorem ne_filter_of_seat {h : Home} {n : Nat} (seat : h.seat? = some n) : h ≠ filter := by
  rintro rfl
  cases seat

mutual

theorem ofJoined_ne_filter : ∀ (j : Joined), ∀ h ∈ ofJoined j, h ≠ filter
  | .mk r js, h, mem => by
    rw [ofJoined, List.mem_append] at mem
    rcases mem with mem | mem
    · obtain ⟨h', mem', rfl⟩ := List.mem_map.mp mem
      exact under_ne_filter (ofRelation_ne_filter r h' mem')
    · obtain ⟨m, -, seat⟩ := seat?_of_mem_ofJoins 1 js h mem
      exact ne_filter_of_seat seat

theorem seat?_of_mem_ofJoins (n : Nat) : ∀ (js : List Join), ∀ h ∈ ofJoins n js, ∃ m, n ≤ m ∧ h.seat? = some m
  | .mk _ _ r _ _ :: rest, h, mem => by
    rw [ofJoins, List.mem_append, List.mem_cons] at mem
    rcases mem with mem | rfl | mem
    · obtain ⟨h', mem', rfl⟩ := List.mem_map.mp mem
      exact ⟨n, Nat.le_refl n, seat?_under h' n (ofRelation_ne_filter r h' mem')⟩
    · exact ⟨n, Nat.le_refl n, rfl⟩
    · obtain ⟨m, later, seat⟩ := seat?_of_mem_ofJoins (n + 1) rest h mem
      exact ⟨m, by omega, seat⟩

theorem ofRelation_ne_filter : ∀ (r : Relation), ∀ h ∈ ofRelation r, h ≠ filter
  | .table .., _, mem => by
    cases List.mem_singleton.mp mem
    exact Home.noConfusion
  | .nested j _, h, mem => ofJoined_ne_filter j h mem
  | .reshaped r _ _, h, mem => ofRelation_ne_filter r h mem

end

theorem nodup_under {hs : List Home} (nodup : hs.Nodup) (n : Nat) : (hs.map (under n)).Nodup :=
  nodup.map fun _ _ => under_inj

mutual

theorem nodup_ofJoined : ∀ j : Joined, (ofJoined j).Nodup
  | .mk r js => by
    refine (nodup_under (nodup_ofRelation r) 0).append (nodup_ofJoins 1 js) fun h mem mem' => ?_
    obtain ⟨h', inside, rfl⟩ := List.mem_map.mp mem
    obtain ⟨m, later, seat⟩ := seat?_of_mem_ofJoins 1 js _ mem'
    rw [seat?_under h' 0 (ofRelation_ne_filter r h' inside)] at seat
    cases seat
    contradiction

theorem nodup_ofJoins (n : Nat) : ∀ js : List Join, (ofJoins n js).Nodup
  | [] => .nil
  | .mk _ _ r _ _ :: rest => by
    have first (h : Home) (mem : h ∈ ofJoins (n + 1) rest) : h.seat? ≠ some n := by
      obtain ⟨m, later, seat⟩ := seat?_of_mem_ofJoins (n + 1) rest h mem
      rw [seat]
      rintro ⟨⟩
      omega
    refine (nodup_under (nodup_ofRelation r) n).append
      (List.nodup_cons.mpr ⟨fun mem => first _ mem rfl, nodup_ofJoins (n + 1) rest⟩) fun h mem mem' => ?_
    obtain ⟨h', inside, rfl⟩ := List.mem_map.mp mem
    rcases List.mem_cons.mp mem' with same | mem'
    · exact under_ne_join h' n same
    · exact first _ mem' (seat?_under h' n (ofRelation_ne_filter r h' inside))

theorem nodup_ofRelation : ∀ r : Relation, (ofRelation r).Nodup
  | .table .. => List.nodup_singleton _
  | .nested j _ => nodup_ofJoined j
  | .reshaped r _ _ => nodup_ofRelation r
  | .derived .. | .function .. | .special .. => .nil

end

theorem seat?_of_mem_ofItems (n : Nat) : ∀ (js : List Joined), ∀ h ∈ ofItems n js, ∃ m, n ≤ m ∧ h.seat? = some m
  | j :: js, h, mem => by
    rcases List.mem_append.mp mem with mem | mem
    · obtain ⟨h', inside, rfl⟩ := List.mem_map.mp mem
      exact ⟨n, Nat.le_refl n, seat?_under h' n (ofJoined_ne_filter j h' inside)⟩
    · obtain ⟨m, later, seat⟩ := seat?_of_mem_ofItems (n + 1) js h mem
      exact ⟨m, by omega, seat⟩

theorem nodup_ofItems (n : Nat) : ∀ js : List Joined, (ofItems n js).Nodup
  | [] => .nil
  | j :: js => by
    refine (nodup_under (nodup_ofJoined j) n).append (nodup_ofItems (n + 1) js) fun h mem mem' => ?_
    obtain ⟨h', inside, rfl⟩ := List.mem_map.mp mem
    obtain ⟨m, later, seat⟩ := seat?_of_mem_ofItems (n + 1) js _ mem'
    rw [seat?_under h' n (ofJoined_ne_filter j h' inside)] at seat
    cases seat
    omega

end Home

/-! ## Every table has a home -/

/-- Each home is the `WHERE` or one of the possible homes. -/
def Possible (hs : List Home) (xs : List Homed) : Prop := ∀ x ∈ xs, x.1 = .filter ∨ x.1 ∈ hs

theorem Possible.under {hs : List Home} {xs : List Homed} (possible : Possible hs xs) (n : Nat) :
    Possible (hs.map (Home.under n)) (rehome (Home.under n) xs) := by
  intro x mem
  obtain ⟨y, there, rfl⟩ := List.mem_map.mp mem
  rcases possible y there with filter | here
  · exact .inl (by rw [filter]; rfl)
  · exact .inr (List.mem_map_of_mem here)

theorem Possible.beside {hs : List Home} {xs : List Homed} (possible : Possible hs xs) (n : Nat)
    (kind : JoinKind) (side : NullableSide) :
    Possible (.join [] n :: hs) (rehome (Home.beside n kind side) xs) := by
  intro x mem
  obtain ⟨⟨h, t⟩, there, rfl⟩ := List.mem_map.mp mem
  cases h with
  | filter =>
    simp only [Home.beside]
    split
    · exact .inr (.head _)
    · exact .inl rfl
  | _ => exact .inr (.tail _ ((possible _ there).resolve_left Home.noConfusion))

theorem Possible.append {hs hs' : List Home} {xs ys : List Homed} (first : Possible hs xs)
    (second : Possible hs' ys) : Possible (hs ++ hs') (xs ++ ys) := by
  intro x mem
  rcases List.mem_append.mp mem with mem | mem
  · exact (first x mem).imp_right (List.mem_append_left _)
  · exact (second x mem).imp_right (List.mem_append_right _)

theorem Possible.mono {hs hs' : List Home} {xs : List Homed} (possible : Possible hs xs) (sub : hs ⊆ hs') :
    Possible hs' xs := fun x mem => (possible x mem).imp_right fun here => sub here

mutual

theorem possible_relation (wrapped : Bool) : ∀ r : Relation,
    Possible (Home.ofRelation r) (Occurrence.homed wrapped (Occurrence.ofRelation r))
  | .table .. => by
    intro x mem
    obtain rfl := List.mem_singleton.mp mem
    cases wrapped with
    | true => exact .inr (.head _)
    | false => exact .inl rfl
  | .nested j _ => possible_joined wrapped j
  | .reshaped r _ _ => by
    rw [Occurrence.ofRelation, Occurrence.homed_reshaped]
    exact possible_relation true r
  | .derived .. | .function .. | .special .. => fun _ mem => absurd mem List.not_mem_nil

theorem possible_joined (wrapped : Bool) : ∀ j : Joined,
    Possible (Home.ofJoined j) (Occurrence.homed wrapped (Occurrence.ofJoined j))
  | .mk r js => by
    rw [Occurrence.ofJoined, Occurrence.homed_chain]
    refine possible_joins _ js 1 _ _ ?_
    rw [Occurrence.homed_under]
    exact (possible_relation _ r).under 0

theorem possible_joins (wrapped : Bool) : ∀ (js : List Join) (n : Nat) (hs : List Home)
    (before : List Occurrence), Possible hs (Occurrence.homed wrapped before) →
      Possible (hs ++ Home.ofJoins n js) (Occurrence.homed wrapped (Occurrence.ofJoins n js before))
  | [], _, hs, _, possible => possible.mono (List.subset_append_left hs [])
  | .mk _ kind r _ _ :: rest, n, hs, before, possible => by
    have joined := (possible.beside n kind .preceding).append
      (((possible_relation wrapped r).under n).beside n kind .joined)
    rw [← afterJoin, ← Occurrence.homed_join] at joined
    refine (possible_joins wrapped rest (n + 1) _ _ joined).mono fun h mem => ?_
    rw [Home.ofJoins]
    simp only [List.mem_append, List.mem_cons] at mem ⊢
    tauto

end

theorem possible_items : ∀ (js : List Joined) (n : Nat),
    Possible (Home.ofItems n js) (Occurrence.homed false (Occurrence.ofItems n js))
  | [], _ => fun _ mem => absurd mem List.not_mem_nil
  | j :: js, n => by
    rw [Occurrence.homed_ofItems]
    exact ((possible_joined false j).under n).append (possible_items js (n + 1))

/-! ## Every table has its own address -/

namespace Occurrence

/-- The addresses under the `n`th relation of a chain or list. -/
theorem address_under (hs : List Home) (n : Nat) :
    (hs.map (Home.under n)).filterMap Home.address? = (hs.filterMap Home.address?).map (n :: ·) := by
  simp only [List.filterMap_map, Function.comp_def, Home.address?_under, List.map_filterMap]

mutual

/-- The addresses of the tables are those of the homes that wrapped tables may have. -/
theorem address_ofRelation : ∀ r : Relation,
    (ofRelation r).map address = (Home.ofRelation r).filterMap Home.address?
  | .table .. | .derived .. | .function .. | .special .. => rfl
  | .nested j _ => address_ofJoined j
  | .reshaped r _ _ => by
    rw [ofRelation, List.map_map]
    exact address_ofRelation r

theorem address_ofJoined : ∀ j : Joined, (ofJoined j).map address = (Home.ofJoined j).filterMap Home.address?
  | .mk r js => by
    have first : ((ofRelation r).map (under 0)).map address =
        ((Home.ofRelation r).map (Home.under 0)).filterMap Home.address? := by
      rw [address_under, ← address_ofRelation r, List.map_map, List.map_map]
      rfl
    rw [ofJoined, List.map_map, Home.ofJoined, List.filterMap_append, ← first]
    exact address_ofJoins js 1 _

theorem address_ofJoins : ∀ (js : List Join) (n : Nat) (before : List Occurrence),
    (ofJoins n js before).map address = before.map address ++ (Home.ofJoins n js).filterMap Home.address?
  | [], _, _ => (List.append_nil _).symm
  | .mk _ kind r _ _ :: rest, n, before => by
    have joined : (join n kind before (ofRelation r)).map address =
        before.map address ++ ((Home.ofRelation r).map (Home.under n)).filterMap Home.address? := by
      rw [address_under, ← address_ofRelation r, join, List.map_append, List.map_map, List.map_map, List.map_map]
      rfl
    rw [ofJoins, address_ofJoins rest (n + 1), joined, Home.ofJoins, List.filterMap_append, List.append_assoc]
    rfl

end

theorem address_ofItems : ∀ (js : List Joined) (n : Nat),
    (ofItems n js).map address = (Home.ofItems n js).filterMap Home.address?
  | [], _ => rfl
  | j :: js, n => by
    rw [ofItems, Home.ofItems, List.map_append, List.filterMap_append, address_under, ← address_ofJoined j,
      ← address_ofItems js (n + 1), List.map_map, List.map_map]
    rfl

theorem nodup_address (js : List Joined) (n : Nat) : ((ofItems n js).map address).Nodup := by
  rw [address_ofItems]
  refine (Home.nodup_ofItems n js).filterMap fun h h' a mem mem' => ?_
  cases h <;> cases h' <;> simp_all [Home.address?]

end Occurrence

end RowAccess
