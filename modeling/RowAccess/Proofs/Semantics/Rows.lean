import Mathlib.Data.Multiset.Bind
import Mathlib.Data.Multiset.UnionInter
import RowAccess.Sql.Operator
/-!
# Rows and joins

A table and the result of a query are bags of rows. While a query joins its relations, a row keeps the
rows it is joined of under their qualifiers, and beside them the columns that are shown without one:
`NATURAL` and `USING` show a column of both sides once.

Restricting the sides of a join before joining them is the same as restricting the join, if the side
that may be missing is restricted in the condition of the join (`filter_joinRows`).
-/

namespace RowAccess.Semantics

open Sql

/-! ## Rows -/

/-- Values by the names of their columns. -/
abbrev Row (V : Type) := List (String × V)

/-- A table, or the result of a query: a bag of rows. -/
structure Rel (V : Type) where
  columns : List String
  rows : Multiset (List V)

/-- A row of joined relations. -/
structure Tuple (V : Type) where
  /-- The rows it is joined of, by their qualifiers. -/
  parts : List (String × Row V)
  /-- The columns that are shown without a qualifier. -/
  shown : Row V
deriving DecidableEq

/-- The columns of joined relations, arranged as in a `Tuple`. -/
structure Frame where
  parts : List (String × List String)
  shown : List String

/-- Joined relations. -/
structure Joint (V : Type) where
  frame : Frame
  rows : Multiset (Tuple V)

variable {V : Type}

namespace Rel

/-- The rows that satisfy a condition on their columns. -/
def filter (r : Rel V) (keep : Row V → Bool) : Rel V :=
  ⟨r.columns, r.rows.filter fun values => keep (r.columns.zip values) = true⟩

/-- Naming values again changes nothing. -/
theorem zip_map_snd (columns : List String) (values : List V) :
    columns.zip ((columns.zip values).map Prod.snd) = columns.zip values := by
  induction columns generalizing values with
  | nil => rfl
  | cons c cs ih =>
    cases values with
    | nil => rfl
    | cons v vs => simp [ih]

end Rel

namespace Tuple

/-- The qualifiers of the rows it is joined of. -/
def names (t : Tuple V) : List String := t.parts.map Prod.fst

/-- The row that a qualifier stands for. -/
def part? (t : Tuple V) (qualifier : String) : Option (Row V) := t.parts.lookup qualifier

theorem part?_isSome {t : Tuple V} {q : String} : (t.part? q).isSome = true ↔ q ∈ t.names := by
  rw [part?, names]
  induction t.parts with
  | nil => simp
  | cons e es ih =>
    rw [List.lookup_cons, List.map_cons, List.mem_cons, ← ih]
    by_cases same : q = e.1
    · simp [same]
    · simp [same, beq_false_of_ne same]

theorem exists_part {t : Tuple V} {q : String} (h : q ∈ t.names) : ∃ row, t.part? q = some row :=
  Option.isSome_iff_exists.mp (part?_isSome.mpr h)

end Tuple

/-- The qualifiers of joined relations. -/
def Frame.names (f : Frame) : List String := f.parts.map Prod.fst

/-- What a missing value is, and which values are missing. -/
structure Nulls (V : Type) where
  null : V
  isNull : V → Bool

namespace Nulls

variable (N : Nulls V)

/-- The first of two values that is not missing. -/
def coalesce (v w : Option V) : V :=
  match v with
  | some v => if N.isNull v then w.getD N.null else v
  | none => w.getD N.null

/-- The row in which every column is missing. -/
def missing (f : Frame) : Tuple V where
  parts := f.parts.map fun (q, columns) => (q, columns.map (·, N.null))
  shown := f.shown.map (·, N.null)

theorem names_missing (f : Frame) : (N.missing f).names = f.names := by
  simp [missing, Tuple.names, Frame.names]

/-- Two rows side by side, in which the columns `shared` are shown once. -/
def merge (shared : List String) (l r : Tuple V) : Tuple V where
  parts := l.parts ++ r.parts
  shown := shared.map (fun c => (c, N.coalesce (l.shown.lookup c) (r.shown.lookup c))) ++
    l.shown.filter (fun e => !shared.contains e.1) ++ r.shown.filter (fun e => !shared.contains e.1)

theorem names_merge (shared : List String) (l r : Tuple V) :
    (N.merge shared l r).names = l.names ++ r.names := by
  simp [merge, Tuple.names]

theorem part?_merge (shared : List String) (l r : Tuple V) (q : String) :
    (N.merge shared l r).part? q = (l.part? q).or (r.part? q) :=
  List.lookup_append

end Nulls

/-- The columns of two relations side by side, of which `shared` are shown once. -/
def Frame.merge (shared : List String) (l r : Frame) : Frame where
  parts := l.parts ++ r.parts
  shown := shared ++ l.shown.filter (fun c => !shared.contains c) ++
    r.shown.filter (fun c => !shared.contains c)

theorem Frame.names_merge (shared : List String) (l r : Frame) :
    (l.merge shared r).names = l.names ++ r.names := by
  simp [merge, names]

/-! ## Joins of bags -/

section

variable {α β γ : Type} {both : α → β → γ} {left : α → γ} {right : β → γ}

/-- The rows of `l` and `r` that belong together, and of each side that is kept those that belong to
none of the other. -/
def joinRows (both : α → β → γ) (left : α → γ) (right : β → γ) (matched : α → β → Bool)
    (keepsLeft keepsRight : Bool) (l : Multiset α) (r : Multiset β) : Multiset γ :=
  (l.bind fun a => (r.filter fun b => matched a b = true).map (both a)) +
    (if keepsLeft then (l.filter fun a => ∀ b ∈ r, matched a b = false).map left else 0) +
    if keepsRight then (r.filter fun b => ∀ a ∈ l, matched a b = false).map right else 0

theorem filter_pairs {matched matched' : α → β → Bool} {keep : γ → Bool} {keepₗ : α → Bool}
    {keepᵣ : β → Bool} {l : Multiset α} {r : Multiset β}
    (h : ∀ a ∈ l, ∀ b ∈ r, (matched' a b && keep (both a b)) = (keepₗ a && keepᵣ b && matched a b)) :
    (l.bind fun a => (r.filter fun b => matched' a b = true).map (both a)).filter
        (fun c => keep c = true) =
      (l.filter fun a => keepₗ a = true).bind fun a =>
        ((r.filter fun b => keepᵣ b = true).filter fun b => matched a b = true).map (both a) := by
  rw [Multiset.filter_bind, Multiset.bind_filter]
  refine Multiset.bind_congr fun a ha => ?_
  have rows : (r.filter fun b => matched' a b = true).filter (fun b => keep (both a b) = true) =
      r.filter fun b => (keepₗ a && keepᵣ b && matched a b) = true := by
    rw [Multiset.filter_filter]
    refine Multiset.filter_congr fun b hb => ?_
    rw [← h a ha b hb, Bool.and_eq_true, and_comm]
  rw [Multiset.filter_map]
  refine (congrArg (Multiset.map (both a)) rows).trans ?_
  cases keepₗ a with
  | false => simp
  | true => simp [Multiset.filter_filter, and_comm]

theorem filter_lonely {matched matched' : α → β → Bool} {keep : γ → Bool} {keepₗ : α → Bool}
    {keepᵣ : β → Bool} {l : Multiset α} {r : Multiset β} (alone : ∀ a ∈ l, keep (left a) = keepₗ a)
    (h : ∀ a ∈ l, keepₗ a = true → ∀ b ∈ r, matched' a b = (keepᵣ b && matched a b)) :
    ((l.filter fun a => ∀ b ∈ r, matched' a b = false).map left).filter (fun c => keep c = true) =
      ((l.filter fun a => keepₗ a = true).filter fun a =>
        ∀ b ∈ r.filter fun b => keepᵣ b = true, matched a b = false).map left := by
  rw [Multiset.filter_map, Multiset.filter_filter, Multiset.filter_filter]
  refine congrArg _ (Multiset.filter_congr fun a ha => ?_)
  rw [Function.comp_apply, alone a ha, and_comm, and_congr_left_iff]
  intro kept
  constructor
  · intro none b mem
    obtain ⟨hb, kept'⟩ := Multiset.mem_filter.mp mem
    simpa [h a ha kept b hb, kept'] using none b hb
  · intro none b hb
    rw [h a ha kept b hb]
    cases kept' : keepᵣ b with
    | false => rfl
    | true => exact none b (Multiset.mem_filter.mpr ⟨hb, kept'⟩)

/-- Restricting the rows of a join restricts both sides. A side whose rows may be missing has to be
restricted where the rows are matched, and the other side may be restricted afterwards. -/
theorem filter_joinRows {matched matched' : α → β → Bool} {keep : γ → Bool} {keepₗ : α → Bool}
    {keepᵣ : β → Bool} {keepsLeft keepsRight : Bool} {l : Multiset α} {r : Multiset β}
    (pairs : ∀ a ∈ l, ∀ b ∈ r,
      (matched' a b && keep (both a b)) = (keepₗ a && keepᵣ b && matched a b))
    (onLeft : keepsLeft = true → (∀ a ∈ l, keep (left a) = keepₗ a) ∧
      ∀ a ∈ l, keepₗ a = true → ∀ b ∈ r, matched' a b = (keepᵣ b && matched a b))
    (onRight : keepsRight = true → (∀ b ∈ r, keep (right b) = keepᵣ b) ∧
      ∀ b ∈ r, keepᵣ b = true → ∀ a ∈ l, matched' a b = (keepₗ a && matched a b)) :
    (joinRows both left right matched' keepsLeft keepsRight l r).filter (fun c => keep c = true) =
      joinRows both left right matched keepsLeft keepsRight (l.filter fun a => keepₗ a = true)
        (r.filter fun b => keepᵣ b = true) := by
  rw [joinRows, joinRows, Multiset.filter_add, Multiset.filter_add, filter_pairs pairs]
  congr 1
  · congr 1
    cases keepsLeft with
    | false => rfl
    | true => exact filter_lonely (onLeft rfl).1 (onLeft rfl).2
  · cases keepsRight with
    | false => rfl
    | true => exact filter_lonely (onRight rfl).1 fun b hb kept a ha => (onRight rfl).2 b hb kept a ha

end

/-! ## Joins of relations -/

/-- Whether a join keeps rows of its left side that match none of its right side. -/
def keepsLeft : JoinKind → Bool
  | .left | .leftOuter | .full => true
  | _ => false

/-- Whether a join keeps rows of its right side that match none of its left side. -/
def keepsRight : JoinKind → Bool
  | .right | .rightOuter | .full => true
  | _ => false

/-- What pairs the rows of two relations. -/
structure Pairing (V : Type) where
  /-- The columns that are shown once. -/
  shared : Frame → Frame → List String
  /-- Whether two rows belong together, given the columns shown once and the rows side by side. -/
  holds : List String → Tuple V → Tuple V → Tuple V → Bool

namespace Joint

/-- One row without columns, which joins to anything. -/
def unit : Joint V := ⟨⟨[], []⟩, {⟨[], []⟩}⟩

/-- No rows and no columns. -/
def nothing : Joint V := ⟨⟨[], []⟩, 0⟩

/-- The rows of a relation under a qualifier. -/
def named (q : String) (r : Rel V) : Joint V where
  frame := ⟨[(q, r.columns)], r.columns⟩
  rows := r.rows.map fun values => ⟨[(q, r.columns.zip values)], r.columns.zip values⟩

/-- Two relations, joined. -/
def join (N : Nulls V) (kind : JoinKind) (p : Pairing V) (l r : Joint V) : Joint V :=
  let shared := p.shared l.frame r.frame
  { frame := l.frame.merge shared r.frame
    rows := joinRows (N.merge shared) (fun a => N.merge shared a (N.missing r.frame))
      (fun b => N.merge shared (N.missing l.frame) b)
      (fun a b => p.holds shared a b (N.merge shared a b)) (keepsLeft kind) (keepsRight kind)
      l.rows r.rows }

/-- The qualifiers of its rows are these. -/
def HasNames (j : Joint V) (names : List String) : Prop :=
  j.frame.names = names ∧ ∀ t ∈ j.rows, t.names = names

theorem hasNames_unit : (unit : Joint V).HasNames [] := by
  refine ⟨rfl, fun t mem => ?_⟩
  rw [Multiset.mem_singleton.mp mem]
  rfl

theorem hasNames_named (q : String) (r : Rel V) : (named q r).HasNames [q] := by
  refine ⟨rfl, fun t mem => ?_⟩
  obtain ⟨values, -, rfl⟩ := Multiset.mem_map.mp mem
  rfl

theorem hasNames_join {N : Nulls V} {kind : JoinKind} {p : Pairing V} {l r : Joint V}
    {names names' : List String} (hl : l.HasNames names) (hr : r.HasNames names') :
    (join N kind p l r).HasNames (names ++ names') := by
  refine ⟨by rw [join, Frame.names_merge, hl.1, hr.1], fun t mem => ?_⟩
  simp only [join, joinRows, Multiset.mem_add] at mem
  rcases mem with (mem | mem) | mem
  · obtain ⟨a, ha, mem⟩ := Multiset.mem_bind.mp mem
    obtain ⟨b, hb, rfl⟩ := Multiset.mem_map.mp mem
    rw [Nulls.names_merge, hl.2 a ha, hr.2 b (Multiset.mem_of_mem_filter hb)]
  · split at mem
    · obtain ⟨a, ha, rfl⟩ := Multiset.mem_map.mp mem
      rw [Nulls.names_merge, hl.2 a (Multiset.mem_of_mem_filter ha), Nulls.names_missing, hr.1]
    · exact absurd mem (Multiset.notMem_zero t)
  · split at mem
    · obtain ⟨b, hb, rfl⟩ := Multiset.mem_map.mp mem
      rw [Nulls.names_merge, hr.2 b (Multiset.mem_of_mem_filter hb), Nulls.names_missing, hl.1]
    · exact absurd mem (Multiset.notMem_zero t)

end Joint

end RowAccess.Semantics
