import RowAccess.CacheKey
import Mathlib.Data.List.Infix
/-!
# Keys of caches that are kept apart, and keys that come back

With its tenant in front a key is to be one of the tenant's own, and without it the key that was asked for. Both
hold as long as no text runs over the colon behind a tenant. The keys of two tenants meet exactly if one of the
tenants, with a key, spells what the keys of the other begin with; and a key is taken for one that all tenants
share exactly if its tenant in front completes the marker (`CacheKeys.apart_iff`). It is the latter keys that do
not come back (`CacheKeys.unmap_map_iff`). Tenants without colons are always kept apart (`CacheKeys.apart_of_plain`).
-/

namespace RowAccess

/-! ## Beginnings and parts of texts -/

namespace Text

theorem after?_isSome_iff {start s : String} : (after? start s).isSome = true ↔ start.toList <+: s.toList := by
  rw [after?, ← List.isPrefixOf_iff_prefix]
  split <;> simp_all

theorem after?_append (start s : String) : after? start (start ++ s) = some s := by
  have begins : start.toList.isPrefixOf (start ++ s).toList = true := by
    rw [List.isPrefixOf_iff_prefix, String.toList_append]
    exact List.prefix_append _ _
  rw [after?, if_pos begins, String.toList_append, ← String.length_toList, List.drop_left, String.ofList_toList]

theorem occurs_iff (part cs : List Char) : occurs part cs = true ↔ part <:+: cs := by
  induction cs with
  | nil => simp [occurs]
  | cons c cs ih => rw [occurs, Bool.or_eq_true, ih, List.isPrefixOf_iff_prefix, List.infix_cons_iff]

theorem contains_iff {part s : String} : contains part s = true ↔ part.toList <:+: s.toList :=
  occurs_iff part.toList s.toList

theorem contains_eq_false_iff {part s : String} : contains part s = false ↔ ¬ part.toList <:+: s.toList := by
  rw [contains, ← occurs_iff, Bool.not_eq_true]

theorem isBlank_append_char {s : String} {c : Char} (solid : isSpace c = false) :
    isBlank (s ++ String.singleton c) = false := by
  simp [isBlank, solid]

end Text

namespace CacheKeys

variable {σ : Type} {k : CacheKeys} {a b : Option String} {tenant x y : String}

/-! ## What is put in front of keys -/

/-- What the keys of a tenant begin with; without a tenant, nothing. -/
def front : Option String → String
  | none => ""
  | some tenant => tenant ++ ":"

/-- The key with `front` before it, unless it begins with it already. -/
def behind (front key : String) : String := if (Text.after? front key).isSome then key else front ++ key

/-- The key is marked as one that all tenants share. -/
def isMarked (k : CacheKeys) (key : String) : Bool := Text.contains k.marker key

/-- A key of a tenant's own: it is neither blank nor marked. -/
def IsOwn (k : CacheKeys) (key : String) : Prop := Text.isBlank key = false ∧ k.isMarked key = false

theorem behind_of_begins {front key : String} (begins : front.toList <+: key.toList) :
    behind front key = key := by
  rw [behind, if_pos (Text.after?_isSome_iff.mpr begins)]

theorem behind_of_not_begins {front key : String} (begins : ¬ front.toList <+: key.toList) :
    behind front key = front ++ key := by
  rw [behind, if_neg (mt Text.after?_isSome_iff.mp begins)]

theorem begins_behind (front key : String) : front.toList <+: (behind front key).toList := by
  by_cases begins : front.toList <+: key.toList
  · rwa [behind_of_begins begins]
  · rw [behind_of_not_begins begins, String.toList_append]
    exact List.prefix_append _ _

theorem isBlank_behind {front key : String} (filled : Text.isBlank key = false) :
    Text.isBlank (behind front key) = false := by
  by_cases begins : front.toList <+: key.toList
  · rwa [behind_of_begins begins]
  · rw [behind_of_not_begins begins]
    rw [Text.isBlank] at filled ⊢
    rw [String.toList_append, List.all_append, filled, Bool.and_false]

theorem toList_front (tenant : String) : (front (some tenant)).toList = tenant.toList ++ [':'] :=
  String.toList_append

theorem behind_front_none (key : String) : behind (front none) key = key :=
  behind_of_begins List.nil_prefix

theorem after?_front_none (key : String) : Text.after? (front none) key = some key := by
  have whole := Text.after?_append "" key
  rwa [String.empty_append] at whole

/-! ## The keys that are stored -/

/-- The tenant whose front a key is given in a context with a tenant. -/
def ownerOf (k : CacheKeys) (ctx : Context) (tenant : Option String) (key : String) : Option String :=
  if ctx.isSuppressed .tenant || k.isMarked key then none else tenant

section

variable {t : Tenants σ} {ctx : Context} {s : σ} {key : String}

/-- What a key is stored under, as asked in a state of the store. -/
def stored (k : CacheKeys) (t : Tenants σ) (ctx : Context) (s : σ) (key : String) :
    Except Error (Option String) :=
  ((k.map t ctx key).run.run s).1

/-- The key that is stored under a text, as asked in a state of the store. -/
def restored (k : CacheKeys) (t : Tenants σ) (ctx : Context) (s : σ) (text : String) :
    Except Error (Option String) :=
  ((k.unmap t ctx text).run.run s).1

theorem tenant?_run (effective : ((t.effective ctx).run.run s).1 = .ok a) (key : String) :
    ((k.tenant? t ctx key).run.run s).1 = .ok (k.ownerOf ctx a key) := by
  rw [tenant?, ownerOf, isMarked]
  split
  · rfl
  · exact effective

theorem stored_eq (effective : ((t.effective ctx).run.run s).1 = .ok a) (filled : Text.isBlank key = false) :
    k.stored t ctx s key = .ok (some (k.base ++ behind (front (k.ownerOf ctx a key)) key)) := by
  have owner := tenant?_run (k := k) effective key
  rw [stored, map, filled, if_neg Bool.false_ne_true, ExceptT.run_bind, StateT.run_bind]
  rcases ran : (k.tenant? t ctx key).run.run s with ⟨answer, s'⟩
  rw [ran] at owner
  obtain rfl : answer = _ := owner
  cases k.ownerOf ctx a key with
  | none =>
    rw [behind_front_none]
    rfl
  | some tenant => rfl

theorem restored_eq (effective : ((t.effective ctx).run.run s).1 = .ok a) (filled : Text.isBlank key = false) :
    k.restored t ctx s (k.base ++ key) =
      .ok (some ((Text.after? (front (k.ownerOf ctx a key)) key).getD key)) := by
  have owner := tenant?_run (k := k) effective key
  rw [restored, unmap, Text.after?_append, Option.getD_some, filled, if_neg Bool.false_ne_true,
    ExceptT.run_bind, StateT.run_bind]
  rcases ran : (k.tenant? t ctx key).run.run s with ⟨answer, s'⟩
  rw [ran] at owner
  obtain rfl : answer = _ := owner
  cases k.ownerOf ctx a key with
  | none =>
    rw [after?_front_none]
    rfl
  | some tenant => rfl

end

/-- The tenant put in front of a key marks it, which was not marked before. -/
def TenantMarks (k : CacheKeys) (ctx : Context) (tenant : Option String) (key : String) : Prop :=
  ctx.isSuppressed .tenant = false ∧ k.isMarked key = false ∧ k.isMarked (front tenant ++ key) = true

instance (k : CacheKeys) (ctx : Context) (tenant : Option String) (key : String) :
    Decidable (k.TenantMarks ctx tenant key) := inferInstanceAs (Decidable (_ ∧ _ ∧ _))

/-! ## Keys that meet -/

/-- With tenant `a` in front, a key that is not marked is what the keys of `b` begin with. -/
def Nests (k : CacheKeys) (a b : Option String) : Prop :=
  ∃ key, k.isMarked key = false ∧ behind (front a) key = front b

/-- With the tenant in front, the end of the marker is marked: a part of it that is not the whole and does not
begin like a key of the tenant. -/
def Completes (k : CacheKeys) (tenant : String) : Prop :=
  ∃ rest : String, rest.toList <:+ k.marker.toList ∧ rest ≠ k.marker ∧
    ¬ (front (some tenant)).toList <+: rest.toList ∧ k.isMarked (front (some tenant) ++ rest) = true

/-- There is a letter that the marker does not end with. -/
theorem exists_fresh (k : CacheKeys) :
    ∃ c, c ≠ ':' ∧ Text.isSpace c = false ∧ k.marker.toList.getLast? ≠ some c := by
  by_cases last : k.marker.toList.getLast? = some 'a'
  · refine ⟨'b', by decide, by decide, ?_⟩
    rw [last]
    decide
  · exact ⟨'a', by decide, by decide, last⟩

/-- A letter that the marker does not end with marks no key. -/
theorem isMarked_append {c : Char} (fresh : k.marker.toList.getLast? ≠ some c) (unmarked : k.isMarked x = false) :
    k.isMarked (x ++ String.singleton c) = false := by
  rw [isMarked, Text.contains_eq_false_iff] at unmarked ⊢
  rw [String.toList_append, String.toList_singleton, List.infix_concat_iff, List.suffix_concat_iff]
  rintro ((empty | ⟨before, ends, -⟩) | within)
  · exact unmarked (empty ▸ List.nil_infix)
  · exact fresh (by rw [ends, List.getLast?_concat])
  · exact unmarked within

/-- A key begins with no more fronts for a letter at its end. -/
theorem front_prefix_append {c : Char} (noColon : c ≠ ':') (text : String) :
    (front a).toList <+: (text ++ String.singleton c).toList ↔ (front a).toList <+: text.toList := by
  rw [String.toList_append, String.toList_singleton, List.prefix_concat_iff, or_iff_right]
  intro whole
  cases a with
  | none => exact absurd whole.symm (List.append_ne_nil_of_right_ne_nil _ (List.cons_ne_nil _ _))
  | some tenant =>
    rw [toList_front] at whole
    have last := congrArg List.getLast? whole
    rw [List.getLast?_concat, List.getLast?_concat] at last
    exact noColon (Option.some.inj last).symm

theorem behind_append {c : Char} (noColon : c ≠ ':') (text : String) :
    behind (front a) (text ++ String.singleton c) = behind (front a) text ++ String.singleton c := by
  by_cases begins : (front a).toList <+: text.toList
  · rw [behind_of_begins begins, behind_of_begins ((front_prefix_append noColon text).mpr begins)]
  · rw [behind_of_not_begins begins, String.append_assoc,
      behind_of_not_begins (mt (front_prefix_append noColon text).mp begins)]

theorem behind_empty (front : String) : behind front "" = front := by
  by_cases begins : front.toList <+: "".toList
  · rw [behind_of_begins begins]
    exact String.toList_inj.mp (List.prefix_nil.mp begins).symm
  · rw [behind_of_not_begins begins, String.append_empty]

/-- A part of a key that is not marked is not marked either. -/
theorem isMarked_of_infix {x y : String} (part : x.toList <:+: y.toList) (unmarked : k.isMarked y = false) :
    k.isMarked x = false := by
  rw [isMarked, Text.contains_eq_false_iff] at unmarked ⊢
  exact fun marked => unmarked (marked.trans part)

/-- A key of `a` that is stored like one of `b` leads from the front of the one to the front of the other, if
that is the longer one. -/
theorem nests_of_begins (unmarked : k.isMarked x = false)
    (longer : (front a).toList <+: (front b).toList) (begins : (front b).toList <+: (behind (front a) x).toList) :
    k.Nests a b := by
  by_cases own : (front a).toList <+: x.toList
  · rw [behind_of_begins own] at begins
    exact ⟨front b, isMarked_of_infix begins.isInfix unmarked, behind_of_begins longer⟩
  · obtain ⟨rest, split⟩ := longer
    have split' : front b = front a ++ String.ofList rest := by
      rw [← String.toList_inj, String.toList_append, String.toList_ofList, split]
    rw [behind_of_not_begins own, String.toList_append, ← split, List.prefix_append_right_inj] at begins
    refine ⟨String.ofList rest, isMarked_of_infix ?_ unmarked, ?_⟩
    · rw [String.toList_ofList]
      exact begins.isInfix
    · rw [behind_of_not_begins, split']
      rw [String.toList_ofList]
      exact fun first => own (first.trans begins)

/-- Where the one leads to the other, a letter behind each of them makes two keys that meet. -/
theorem Nests.meet (nests : k.Nests a b) :
    ∃ x y, k.IsOwn x ∧ k.IsOwn y ∧ behind (front a) x = behind (front b) y := by
  obtain ⟨key, unmarked, leads⟩ := nests
  obtain ⟨c, noColon, solid, fresh⟩ := k.exists_fresh
  have empty : k.isMarked "" = false := isMarked_of_infix List.nil_infix unmarked
  refine ⟨key ++ String.singleton c, "" ++ String.singleton c,
    ⟨Text.isBlank_append_char solid, isMarked_append fresh unmarked⟩,
    ⟨Text.isBlank_append_char solid, isMarked_append fresh empty⟩, ?_⟩
  rw [behind_append noColon, behind_append noColon, leads, behind_empty]

theorem meet_iff : (∃ x y, k.IsOwn x ∧ k.IsOwn y ∧ behind (front a) x = behind (front b) y) ↔
    k.Nests a b ∨ k.Nests b a := by
  constructor
  · rintro ⟨x, y, ⟨-, unmarked⟩, ⟨-, unmarked'⟩, same⟩
    have begins : (front b).toList <+: (behind (front a) x).toList := same ▸ begins_behind (front b) y
    have begins' : (front a).toList <+: (behind (front b) y).toList := same ▸ begins_behind (front a) x
    rcases List.prefix_or_prefix_of_prefix (begins_behind (front a) x) begins with longer | longer
    · exact .inl (nests_of_begins unmarked longer begins)
    · exact .inr (nests_of_begins unmarked' longer begins')
  · rintro (nests | nests)
    · exact nests.meet
    · obtain ⟨x, y, own, own', same⟩ := nests.meet
      exact ⟨y, x, own', own, same.symm⟩

/-- A tenant without colons is not what another one leads to. -/
theorem not_nests_of_plain {other : String} (ne : tenant ≠ other) (plain : ':' ∉ other.toList) :
    ¬ k.Nests (some tenant) (some other) := by
  rintro ⟨key, -, leads⟩
  have longer := leads ▸ begins_behind (front (some tenant)) key
  rw [toList_front, toList_front, List.prefix_concat_iff] at longer
  rcases longer with same | within
  · exact ne (String.toList_inj.mp (List.append_cancel_right same))
  · exact plain (within.subset (List.mem_append_right _ (List.mem_singleton_self _)))

/-! ## Keys that are marked by their tenant -/

/-- The end of a marker is not marked, unless it is all of it. -/
theorem isMarked_of_suffix {rest : String} (ends : rest.toList <:+ k.marker.toList) (proper : rest ≠ k.marker) :
    k.isMarked rest = false := by
  rw [isMarked, Text.contains_eq_false_iff]
  intro whole
  exact proper (String.toList_inj.mp (ends.eq_of_length_le whole.length_le))

/-- A key of a tenant's own is marked behind the tenant exactly if the tenant completes the marker. -/
theorem completes_iff : (∃ x, k.IsOwn x ∧ k.isMarked (behind (front (some tenant)) x) = true) ↔
    k.Completes tenant := by
  constructor
  · rintro ⟨x, ⟨-, unmarked⟩, marked⟩
    have begins : ¬ (front (some tenant)).toList <+: x.toList := by
      intro begins
      rw [behind_of_begins begins, unmarked] at marked
      cases marked
    rw [behind_of_not_begins begins, isMarked, Text.contains_iff, String.toList_append,
      List.infix_append_iff] at marked
    rw [isMarked, Text.contains_eq_false_iff] at unmarked
    -- The marker does not stand in the key, so it ends in the front, or further on in the key.
    have found (rest : List Char) (ends : rest <:+ k.marker.toList) (starts : rest <+: x.toList)
        (marked : k.marker.toList <:+: (front (some tenant)).toList ++ rest) : k.Completes tenant := by
      refine ⟨String.ofList rest, ?_, ?_, ?_, ?_⟩
      · rwa [String.toList_ofList]
      · intro whole
        rw [← whole, String.toList_ofList] at unmarked
        exact unmarked starts.isInfix
      · rw [String.toList_ofList]
        exact fun first => begins (first.trans starts)
      · rwa [isMarked, Text.contains_iff, String.toList_append, String.toList_ofList]
    rcases marked with inFront | inKey | ⟨before, rest, parts, ends, starts⟩
    · exact found [] List.nil_suffix List.nil_prefix (by rwa [List.append_nil])
    · exact absurd inKey unmarked
    · refine found rest (parts ▸ List.suffix_append _ _) starts ?_
      obtain ⟨first, split⟩ := ends
      exact ⟨first, [], by rw [parts, ← split, List.append_nil, List.append_assoc]⟩
  · rintro ⟨rest, ends, proper, begins, marked⟩
    obtain ⟨c, noColon, solid, fresh⟩ := k.exists_fresh
    refine ⟨rest ++ String.singleton c,
      ⟨Text.isBlank_append_char solid, isMarked_append fresh (isMarked_of_suffix ends proper)⟩, ?_⟩
    rw [behind_append noColon, behind_of_not_begins begins]
    rw [isMarked, Text.contains_iff] at marked ⊢
    rw [String.toList_append (s := front (some tenant) ++ rest)]
    exact marked.trans (List.prefix_append _ _).isInfix

/-- A tenant in whose name the first letter of the marker does not occur does not complete it. -/
theorem not_completes_of_head {c : Char} {cs : List Char} (begins : k.marker.toList = c :: cs)
    (noColon : c ≠ ':') (absent : c ∉ tenant.toList) : ¬ k.Completes tenant := by
  rintro ⟨rest, ends, proper, -, marked⟩
  have outside : c ∉ (front (some tenant)).toList := by
    rw [toList_front]
    simp [absent, noColon]
  have unmarked := isMarked_of_suffix ends proper
  rw [isMarked, Text.contains_eq_false_iff] at unmarked
  rw [isMarked, Text.contains_iff, String.toList_append, List.infix_append_iff] at marked
  rcases marked with inFront | inRest | ⟨before, after, parts, inFront, starts⟩
  · exact outside (inFront.subset (begins ▸ List.mem_cons_self))
  · exact unmarked inRest
  · cases before with
    | nil => exact unmarked (parts ▸ starts.isInfix)
    | cons d ds =>
      rw [begins] at parts
      obtain ⟨rfl, -⟩ := List.cons.inj parts
      exact outside (inFront.subset List.mem_cons_self)

/-! ## Keys kept apart -/

section

variable {t : Tenants σ} {ctx ctx' : Context} {s s' : σ}

/-- A key of one's own is stored behind the tenant. -/
theorem IsOwn.stored (own : k.IsOwn x) (effective : ((t.effective ctx).run.run s).1 = .ok a)
    (unsuppressed : ctx.isSuppressed .tenant = false) :
    k.stored t ctx s x = .ok (some (k.base ++ behind (front a) x)) := by
  rw [stored_eq effective own.1, ownerOf, unsuppressed, own.2]
  rfl

/-- A key that is marked is stored as it is, whatever the context. -/
theorem stored_marked (filled : Text.isBlank y = false) (marked : k.isMarked y = true) :
    k.stored t ctx s y = .ok (some (k.base ++ y)) := by
  rw [isMarked] at marked
  rw [CacheKeys.stored, map, filled, if_neg Bool.false_ne_true, tenant?, marked, Bool.or_true, if_pos rfl]
  rfl

theorem stored_blank (blank : Text.isBlank y = true) : k.stored t ctx s y = .ok none := by
  rw [CacheKeys.stored, map, blank, if_pos rfl]
  rfl

theorem ok_base_inj : (Except.ok (some (k.base ++ x)) : Except Error (Option String)) =
    .ok (some (k.base ++ y)) ↔ x = y := by
  rw [Except.ok.injEq, Option.some.injEq, ← String.toList_inj, String.toList_append, String.toList_append,
    List.append_right_inj, String.toList_inj]

/-- In contexts where tenants are not suppressed every key is stored. No two keys of the tenants' own are stored
as the same exactly if no tenant leads to the other, and no key of a tenant's own is stored like one that is
marked exactly if the tenant does not complete the marker. -/
theorem apart_iff (k : CacheKeys) (effective : ((t.effective ctx).run.run s).1 = .ok a)
    (effective' : ((t.effective ctx').run.run s').1 = .ok b) (unsuppressed : ctx.isSuppressed .tenant = false)
    (unsuppressed' : ctx'.isSuppressed .tenant = false) :
    (∀ x, Text.isBlank x = false → ∃ text, k.stored t ctx s x = .ok (some text)) ∧
    ((∀ x y, k.IsOwn x → k.IsOwn y → k.stored t ctx s x ≠ k.stored t ctx' s' y) ↔
      ¬ k.Nests a b ∧ ¬ k.Nests b a) ∧
    ((∀ x y, k.IsOwn x → k.isMarked y = true → ∀ other state,
        k.stored t ctx s x ≠ k.stored t other state y) ↔
      ∀ tenant, a = some tenant → ¬ k.Completes tenant) := by
  refine ⟨?_, ?_, ?_⟩
  · intro x filled
    exact ⟨_, stored_eq effective filled⟩
  · rw [← not_or, ← meet_iff]
    constructor
    · rintro apart ⟨x, y, own, own', meet⟩
      refine apart x y own own' ?_
      rw [own.stored effective unsuppressed, own'.stored effective' unsuppressed', meet]
    · intro apart x y own own' meet
      rw [own.stored effective unsuppressed, own'.stored effective' unsuppressed', ok_base_inj] at meet
      exact apart ⟨x, y, own, own', meet⟩
  · constructor
    · rintro apart tenant rfl completes
      obtain ⟨x, own, marked⟩ := completes_iff.mpr completes
      refine apart x _ own marked ctx s ?_
      rw [own.stored effective unsuppressed, stored_marked (isBlank_behind own.1) marked]
    · intro apart x y own marked other state meet
      rw [own.stored effective unsuppressed] at meet
      cases filled : Text.isBlank y with
      | true =>
        rw [stored_blank filled] at meet
        cases meet
      | false =>
        rw [stored_marked filled marked, ok_base_inj] at meet
        cases a with
        | none =>
          rw [behind_front_none] at meet
          rw [← meet, own.2] at marked
          cases marked
        | some tenant => exact apart tenant rfl (completes_iff.mp ⟨x, own, meet ▸ marked⟩)

/-- Tenants without colons have keys of their own: no two of them are stored as the same. -/
theorem apart_of_plain {other : String} (ne : tenant ≠ other) (plain : ':' ∉ tenant.toList)
    (plain' : ':' ∉ other.toList) (effective : ((t.effective ctx).run.run s).1 = .ok (some tenant))
    (effective' : ((t.effective ctx').run.run s').1 = .ok (some other))
    (unsuppressed : ctx.isSuppressed .tenant = false) (unsuppressed' : ctx'.isSuppressed .tenant = false)
    (own : k.IsOwn x) (own' : k.IsOwn y) : k.stored t ctx s x ≠ k.stored t ctx' s' y := by
  intro meet
  rw [own.stored effective unsuppressed, own'.stored effective' unsuppressed', ok_base_inj] at meet
  rcases meet_iff.mp ⟨x, y, own, own', meet⟩ with nests | nests
  · exact not_nests_of_plain ne plain' nests
  · exact not_nests_of_plain ne.symm plain nests

/-! ## Keys that come back -/

/-- From where it is stored a key comes back as it was, or with the tenant if that marks it. -/
theorem restored_stored {key : String} (effective : ((t.effective ctx).run.run s).1 = .ok a)
    (filled : Text.isBlank key = false)
    (begins : ∀ tenant, a = some tenant → ¬ (front (some tenant)).toList <+: key.toList) :
    k.restored t ctx s (k.base ++ behind (front (k.ownerOf ctx a key)) key) =
      .ok (some (if k.TenantMarks ctx a key then front a ++ key else key)) := by
  rw [restored_eq effective (isBlank_behind filled)]
  cases suppressed : ctx.isSuppressed .tenant with
  | true => simp [ownerOf, TenantMarks, suppressed, behind_front_none, after?_front_none]
  | false =>
    cases marked : k.isMarked key with
    | true => simp [ownerOf, TenantMarks, marked, behind_front_none, after?_front_none]
    | false =>
      have owner : k.ownerOf ctx a key = a := by simp [ownerOf, suppressed, marked]
      have beside : behind (front a) key = front a ++ key := by
        cases a with
        | none => rw [behind_front_none, front, String.empty_append]
        | some tenant => exact behind_of_not_begins (begins tenant rfl)
      rw [owner, beside]
      cases remarked : k.isMarked (front a ++ key) with
      | true => simp [ownerOf, TenantMarks, suppressed, marked, remarked, after?_front_none]
      | false => simp [ownerOf, TenantMarks, suppressed, remarked, Text.after?_append]

/-- A key that does not begin like one of the tenant comes back from where it is stored exactly if the tenant put
in front of it does not mark it. Where it does, the key comes back with the tenant. -/
theorem unmap_map_iff (k : CacheKeys) (key : String)
    (effective : ((t.effective ctx).run.run s).1 = .ok a) (filled : Text.isBlank key = false)
    (begins : ∀ tenant, a = some tenant → ¬ (front (some tenant)).toList <+: key.toList) :
    ∃ text, k.stored t ctx s key = .ok (some text) ∧
      (k.restored t ctx s text = .ok (some key) ↔ ¬ k.TenantMarks ctx a key) ∧
      (k.TenantMarks ctx a key → k.restored t ctx s text = .ok (some (front a ++ key))) := by
  refine ⟨_, stored_eq effective filled, ?_⟩
  rw [restored_stored effective filled begins]
  by_cases marks : k.TenantMarks ctx a key
  · have longer : front a ++ key ≠ key := by
      intro same
      obtain ⟨-, unmarked, marked⟩ := marks
      rw [same, unmarked] at marked
      cases marked
    rw [if_pos marks]
    refine ⟨?_, fun _ => rfl⟩
    simpa [marks] using longer
  · simp [marks]

end

/-! ## A cache for several tenants -/

namespace Branches

def keys : CacheKeys := ⟨"app:", "global:"⟩

def tenants : Tenants Memory := ⟨true, "global:", .memory⟩

/-- The context of a clerk at a branch. -/
def clerkAt (branch : String) : Context := .start (.user ⟨"clerk", some branch, none, [], false⟩)

/-- The keys of two branches are kept apart, and from those that all branches share. -/
theorem branches_apart :
    (∀ x y, keys.IsOwn x → keys.IsOwn y →
      keys.stored tenants (clerkAt "1") .empty x ≠ keys.stored tenants (clerkAt "12") .empty y) ∧
    ∀ x y, keys.IsOwn x → keys.isMarked y = true → ∀ other state,
      keys.stored tenants (clerkAt "1") .empty x ≠ keys.stored tenants other state y := by
  have effective : ((tenants.effective (clerkAt "1")).run.run .empty).1 = .ok (some "1") := rfl
  have effective' : ((tenants.effective (clerkAt "12")).run.run .empty).1 = .ok (some "12") := rfl
  obtain ⟨-, own, marked⟩ := apart_iff keys effective effective' rfl rfl
  refine ⟨own.mpr ⟨?_, ?_⟩, marked.mpr ?_⟩
  · exact not_nests_of_plain (by decide) (by decide)
  · exact not_nests_of_plain (by decide) (by decide)
  · rintro _ ⟨⟩
    exact not_completes_of_head (rfl : keys.marker.toList = 'g' :: "lobal:".toList) (by decide) (by decide)

/-- A branch whose name goes on behind the colon of another one meets it, and one whose name completes the marker
has keys where those that all branches share are. -/
theorem branches_meet :
    (((tenants.effective (clerkAt "a")).run.run .empty).1 = .ok (some "a") ∧
      ((tenants.effective (clerkAt "a:b")).run.run .empty).1 = .ok (some "a:b") ∧
      (clerkAt "a").isSuppressed .tenant = false ∧ (clerkAt "a:b").isSuppressed .tenant = false ∧
      keys.IsOwn "b:x" ∧ keys.IsOwn "x" ∧
      keys.stored tenants (clerkAt "a") .empty "b:x" = .ok (some "app:a:b:x") ∧
      keys.stored tenants (clerkAt "a:b") .empty "x" = .ok (some "app:a:b:x")) ∧
    ((tenants.effective (clerkAt "global")).run.run .empty).1 = .ok (some "global") ∧
      (clerkAt "global").isSuppressed .tenant = false ∧ keys.isMarked "global:x" = true ∧
      keys.stored tenants (clerkAt "global") .empty "x" = .ok (some "app:global:x") ∧
      keys.stored tenants (clerkAt "global") .empty "global:x" = .ok (some "app:global:x") :=
  ⟨⟨rfl, rfl, rfl, rfl, ⟨rfl, rfl⟩, ⟨rfl, rfl⟩, rfl, rfl⟩, rfl, rfl, rfl, rfl, rfl⟩

/-- A key comes back from its tenant, but with a tenant whose name completes the marker. -/
theorem status_comes_back :
    keys.restored tenants (clerkAt "000000") .empty "app:000000:sys_dict:status" =
      .ok (some "sys_dict:status") ∧
    keys.restored tenants (clerkAt "global") .empty "app:global:x" = .ok (some "global:x") := by
  have effective (branch : String)
      (known : ((tenants.effective (clerkAt branch)).run.run .empty).1 = .ok (some branch)) :=
    fun key => unmap_map_iff keys key known
  constructor
  · obtain ⟨text, stored, back, -⟩ := effective "000000" rfl "sys_dict:status" rfl (by decide)
    cases (rfl : keys.stored tenants (clerkAt "000000") .empty "sys_dict:status" =
      .ok (some "app:000000:sys_dict:status")).symm.trans stored
    exact back.mpr (by decide)
  · obtain ⟨text, stored, -, back⟩ := effective "global" rfl "x" rfl (by decide)
    cases (rfl : keys.stored tenants (clerkAt "global") .empty "x" = .ok (some "app:global:x")).symm.trans
      stored
    exact back (by decide)

end Branches

end CacheKeys

end RowAccess
