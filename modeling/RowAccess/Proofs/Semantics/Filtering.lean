import RowAccess.Proofs.Semantics.Rows
import RowAccess.Table
/-!
# Filtering tables after they are joined

Rewriting leaves some tables of a relation to be filtered outside of it. Such a relation is `Filtered`
if keeping its rows that pass the filters of those tables gives the relation of the filtered tables. Each
way to place the filters of the sides of a join keeps this.
-/

namespace RowAccess

open Sql

/-- How a table is named in a `FROM` list. -/
structure Ref where
  name : Name
  aliased : Option Ident
deriving DecidableEq, Repr, Inhabited

namespace Ref

/-- The table as it is written. -/
def table (r : Ref) : Table := ⟨Name.render r.name, r.aliased.map Ident.render⟩

/-- What its columns are qualified with. -/
def shown (r : Ref) : Ident := r.aliased.getD (r.name.getLastD default)

end Ref

namespace Semantics

variable {V : Type}

/-- Which rows of a table are kept, and what the table is called where it is joined. -/
structure Filters (V : Type) where
  qualifier : Ref → String
  keep : Ref → Row V → Bool

namespace Filters

variable (F : Filters V)

/-- Whether the rows of these tables are kept that a row is joined of. -/
def passes (refs : List Ref) (t : Tuple V) : Bool :=
  refs.all fun r => (t.part? (F.qualifier r)).any (F.keep r)

theorem passes_append (refs refs' : List Ref) (t : Tuple V) :
    F.passes (refs ++ refs') t = (F.passes refs t && F.passes refs' t) := List.all_append

theorem passes_congr {refs : List Ref} {t t' : Tuple V}
    (h : ∀ r ∈ refs, t.part? (F.qualifier r) = t'.part? (F.qualifier r)) :
    F.passes refs t = F.passes refs t' := by
  rw [Bool.eq_iff_iff, passes, passes, List.all_eq_true, List.all_eq_true]
  exact forall₂_congr fun r mem => by rw [h r mem]

variable {F} {N : Nulls V} {refs : List Ref}

theorem passes_merge_left {shared : List String} {a b : Tuple V}
    (within : ∀ r ∈ refs, F.qualifier r ∈ a.names) :
    F.passes refs (N.merge shared a b) = F.passes refs a := by
  refine F.passes_congr fun r mem => ?_
  obtain ⟨row, found⟩ := Tuple.exists_part (within r mem)
  rw [Nulls.part?_merge, found, Option.some_or]

theorem passes_merge_right {shared : List String} {a b : Tuple V}
    (outside : ∀ r ∈ refs, F.qualifier r ∉ a.names) :
    F.passes refs (N.merge shared a b) = F.passes refs b := by
  refine F.passes_congr fun r mem => ?_
  have absent : a.part? (F.qualifier r) = none := by
    rw [← Option.not_isSome_iff_eq_none, Tuple.part?_isSome]
    exact outside r mem
  rw [Nulls.part?_merge, absent, Option.none_or]

end Filters

/-- The rows of `j'` that pass the filters of the tables `refs` are the rows of `j`. -/
structure Filtered (F : Filters V) (refs : List Ref) (j' j : Joint V) : Prop where
  frame : j'.frame = j.frame
  names : ∀ t ∈ j'.rows, t.names = j.frame.names
  within : ∀ r ∈ refs, F.qualifier r ∈ j.frame.names
  rows : j'.rows.filter (fun t => F.passes refs t = true) = j.rows

namespace Filtered

variable {F : Filters V} {N : Nulls V} {kind : JoinKind} {p p' : Pairing V}
  {refs refs' : List Ref} {l' l r' r : Joint V}

/-- What is left to be filtered by no table is the same. -/
theorem rows_eq (h : Filtered F [] l' l) : l'.rows = l.rows := by
  rw [← h.rows, Multiset.filter_eq_self.mpr]
  exact fun t _ => rfl

theorem eq (h : Filtered F [] l' l) : l' = l := by
  obtain ⟨frame, rows⟩ := l'
  obtain ⟨frame', rows'⟩ := l
  obtain rfl : frame = frame' := h.frame
  obtain rfl : rows = rows' := h.rows_eq
  rfl

theorem refl {names : List String} (h : l.HasNames names) : Filtered F [] l l where
  frame := rfl
  names t mem := (h.2 t mem).trans h.1.symm
  within := nofun
  rows := Multiset.filter_eq_self.mpr fun _ _ => rfl

/-- The rows of a table, from which its filter keeps some. -/
theorem named (F : Filters V) (r : Ref) (rel : Rel V) :
    Filtered F [r] (.named (F.qualifier r) rel) (.named (F.qualifier r) (rel.filter (F.keep r))) where
  frame := rfl
  names := (Joint.hasNames_named _ rel).2
  within x mem := by
    rw [List.mem_singleton.mp mem]
    exact .head _
  rows := by
    rw [Joint.named, Joint.named, Multiset.filter_map]
    refine congrArg _ (Multiset.filter_congr fun values _ => ?_)
    rw [Function.comp_apply, Filters.passes, List.all_cons, List.all_nil, Bool.and_true, Tuple.part?,
      List.lookup_cons_self, Option.any_some]

/-- The names of joined rows, whatever pairs them. -/
theorem names_join (hl : Filtered F refs l' l) (hr : Filtered F refs' r' r) :
    ∀ t ∈ (Joint.join N kind p' l' r').rows, t.names = (Joint.join N kind p l r).frame.names := by
  have joined : (Joint.join N kind p' l' r').HasNames _ := Joint.hasNames_join
    ⟨congrArg Frame.names hl.frame, hl.names⟩ ⟨congrArg Frame.names hr.frame, hr.names⟩
  intro t mem
  rw [joined.2 t mem, Joint.join, Frame.names_merge]

theorem names_missing (hl : Filtered F refs l' l) : (N.missing l'.frame).names = l.frame.names := by
  rw [Nulls.names_missing, hl.frame]

/-- The frame of a join does not depend on which rows are paired. -/
theorem frame_join (hl : Filtered F refs l' l) (hr : Filtered F refs' r' r) (same : p'.shared = p.shared) :
    (Joint.join N kind p' l' r').frame = (Joint.join N kind p l r).frame := by
  simp only [Joint.join, hl.frame, hr.frame, same]

section

variable (hl : Filtered F refs l' l) (hr : Filtered F refs' r' r)
  (apart : ∀ q ∈ l.frame.names, q ∉ r.frame.names)

include hl in
theorem passes_left {shared : List String} {a : Tuple V} (b : Tuple V) (ha : a.names = l.frame.names) :
    F.passes refs (N.merge shared a b) = F.passes refs a :=
  Filters.passes_merge_left fun r mem => ha ▸ hl.within r mem

include hr apart in
theorem passes_right {shared : List String} {a : Tuple V} (b : Tuple V) (ha : a.names = l.frame.names) :
    F.passes refs' (N.merge shared a b) = F.passes refs' b :=
  Filters.passes_merge_right fun r mem inside => apart _ (ha ▸ inside) (hr.within r mem)

include hl hr apart

/-- If no rows may be missing, the tables of both sides may be filtered afterwards. -/
theorem join_both (noLeft : keepsLeft kind = false) (noRight : keepsRight kind = false) :
    Filtered F (refs ++ refs') (Joint.join N kind p l' r') (Joint.join N kind p l r) where
  frame := hl.frame_join hr rfl
  names := hl.names_join hr
  within r mem := by
    rw [Joint.join, Frame.names_merge]
    rcases List.mem_append.mp mem with mem | mem
    · exact List.mem_append_left _ (hl.within r mem)
    · exact List.mem_append_right _ (hr.within r mem)
  rows := by
    simp only [Joint.join, hl.frame, hr.frame, noLeft, noRight, ← hl.rows, ← hr.rows]
    refine filter_joinRows ?_ (absurd · Bool.false_ne_true) (absurd · Bool.false_ne_true)
    intro a ha b _
    rw [Filters.passes_append, hl.passes_left b (hl.names a ha),
      hr.passes_right apart b (hl.names a ha), Bool.and_comm]

/-- If rows of the right side may be missing, its tables are filtered where rows are matched. -/
theorem join_left (noRight : keepsRight kind = false) (same : p'.shared = p.shared)
    (matched : ∀ shared, ∀ a ∈ l'.rows, ∀ b ∈ r'.rows, p'.holds shared a b (N.merge shared a b) =
      (p.holds shared a b (N.merge shared a b) && F.passes refs' (N.merge shared a b))) :
    Filtered F refs (Joint.join N kind p' l' r') (Joint.join N kind p l r) where
  frame := hl.frame_join hr same
  names := hl.names_join hr
  within r mem := by
    rw [Joint.join, Frame.names_merge]
    exact List.mem_append_left _ (hl.within r mem)
  rows := by
    simp only [Joint.join, hl.frame, hr.frame, noRight, same, ← hl.rows, ← hr.rows]
    refine filter_joinRows ?_ (fun _ => ⟨?_, ?_⟩) (absurd · Bool.false_ne_true)
    · intro a ha b hb
      rw [matched _ a ha b hb, hl.passes_left b (hl.names a ha), hr.passes_right apart b (hl.names a ha)]
      cases F.passes refs a <;> cases F.passes refs' b <;> simp
    · exact fun a ha => hl.passes_left _ (hl.names a ha)
    · intro a ha _ b hb
      rw [matched _ a ha b hb, hr.passes_right apart b (hl.names a ha), Bool.and_comm]

/-- If rows of the left side may be missing, its tables are filtered where rows are matched. -/
theorem join_right (noLeft : keepsLeft kind = false) (same : p'.shared = p.shared)
    (matched : ∀ shared, ∀ a ∈ l'.rows, ∀ b ∈ r'.rows, p'.holds shared a b (N.merge shared a b) =
      (p.holds shared a b (N.merge shared a b) && F.passes refs (N.merge shared a b))) :
    Filtered F refs' (Joint.join N kind p' l' r') (Joint.join N kind p l r) where
  frame := hl.frame_join hr same
  names := hl.names_join hr
  within r mem := by
    rw [Joint.join, Frame.names_merge]
    exact List.mem_append_right _ (hr.within r mem)
  rows := by
    simp only [Joint.join, hl.frame, hr.frame, noLeft, same, ← hl.rows, ← hr.rows]
    refine filter_joinRows ?_ (absurd · Bool.false_ne_true) (fun _ => ⟨?_, ?_⟩)
    · intro a ha b hb
      rw [matched _ a ha b hb, hl.passes_left b (hl.names a ha), hr.passes_right apart b (hl.names a ha)]
      cases F.passes refs a <;> cases F.passes refs' b <;> simp
    · intro b _
      refine hr.passes_right apart b ?_
      rw [Nulls.names_missing]
    · intro b hb _ a ha
      rw [matched _ a ha b hb, hl.passes_left b (hl.names a ha), Bool.and_comm]

end

end Filtered

end Semantics

end RowAccess
