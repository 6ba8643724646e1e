import RowAccess.Explain.Inquiry
import RowAccess.Proofs.Cuts
/-!
# Callers and departments that are described

Descriptions of roles and of departments are read as they are written (`Inquiry.described`): what is put together of
an id, a data scope and permissions is read as that very role, and what is put together of departments is read as
the directory to which they were added one after the other. A description of a role is refused only if it has no
data scope, or the id is blank, or nobody knows the data scope.

The departments of a role cannot be written in full: an empty one is lost among the commas.
-/

namespace RowAccess

/-! ## Data scopes -/

namespace DataScope

variable {d : DataScope} {text word : String}

/-- Whether a word stands for a data scope: its code, its name in any case, or the short name for one's own rows. -/
def isWord (d : DataScope) (word : String) : Bool :=
  word == d.code || Text.sameIgnoringCase word d.name ||
    (d == selfOnly && Text.sameIgnoringCase word "self")

/-- A text means a data scope if it is a word for it, with any white space around. -/
def IsText (d : DataScope) (text : String) : Prop :=
  ∃ before word after, Text.isBlank before = true ∧ Text.isBlank after = true ∧ d.isWord word = true ∧
    text = before ++ word ++ after

/-- Neither white space nor a colon. -/
def isPlain (c : Char) : Bool := !Text.isSpace c && c != ':'

theorem isPlain_toLower {c : Char} (plain : isPlain c.toLower = true) : isPlain c = true := by
  by_cases colon : c = ':'
  · subst colon
    exact plain
  · rw [isPlain, Text.isSpace_toLower, Bool.and_eq_true] at plain
    rw [isPlain, plain.1, Bool.true_and, bne_iff_ne]
    exact colon

theorem isPlain_sameIgnoringCase {name : String} (plain : (Text.asciiLower name).toList.all isPlain = true)
    (same : Text.sameIgnoringCase word name = true) : word.toList.all isPlain = true := by
  rw [← beq_iff_eq.mp same, Text.asciiLower, String.toList_ofList, List.all_map] at plain
  exact List.all_eq_true.mpr fun c mem => isPlain_toLower (List.all_eq_true.mp plain c mem)

theorem isWord_plain (stands : d.isWord word = true) : word.toList.all isPlain = true := by
  simp only [isWord, Bool.or_eq_true, Bool.and_eq_true, beq_iff_eq] at stands
  obtain (rfl | name) | ⟨-, self⟩ := stands
  · cases d <;> decide
  · exact isPlain_sameIgnoringCase (by cases d <;> decide) name
  · exact isPlain_sameIgnoringCase (by decide) self

theorem isText_iff : d.IsText text ↔ d.isWord (Text.trim text) = true := by
  constructor
  · rintro ⟨before, word, after, first, last, stands, rfl⟩
    have noSpace : ∀ c ∈ word.toList, Text.isSpace c = false := fun c mem => by
      have plain := List.all_eq_true.mp (isWord_plain stands) c mem
      rw [isPlain, Bool.and_eq_true, Bool.not_eq_true'] at plain
      exact plain.1
    have ends : Text.isStripped Text.isSpace word.toList = true :=
      Text.isStripped_iff.mpr ⟨fun c mem => noSpace c (List.mem_of_mem_head? mem),
        fun c mem => noSpace c (List.mem_of_getLast? mem)⟩
    have whole : Text.trim word = word := by
      rw [Text.trim, Text.stripBoth_eq_self.mpr ends, String.ofList_toList]
    rwa [Text.trim_padded first last, whole]
  · intro stands
    obtain ⟨before, after, first, last, parts⟩ := Text.trim_parts text
    exact ⟨before, Text.trim text, after, first, last, stands, parts⟩

theorem IsText.free (means : d.IsText text) : ':' ∉ text.toList := by
  obtain ⟨before, word, after, first, last, stands, rfl⟩ := means
  have lacks {p : Char → Bool} (colon : p ':' = false) {s : String} (all : s.toList.all p = true) :
      ':' ∉ s.toList := fun mem => Bool.noConfusion (colon.symm.trans (List.all_eq_true.mp all _ mem))
  rw [String.toList_append, String.toList_append, List.mem_append, List.mem_append, not_or, not_or]
  exact ⟨⟨lacks (by decide) first, lacks (by decide) (isWord_plain stands)⟩, lacks (by decide) last⟩

theorem ofName?_eq_some {name : String} : ofName? name = some d ↔ d.name = name := by
  constructor
  · intro found
    simpa using List.find?_some found
  · rintro rfl
    cases d <;> decide

theorem ofText_eq_ok : ofText text = .ok d ↔ d.IsText text := by
  rw [isText_iff, ofText]
  cases code : ofCode? text with
  | some d' =>
    have code : d'.code = Text.trim text := by simpa using List.find?_some code
    rw [← code, Except.ok.injEq]
    -- no code is a name, so a code is a word for one data scope only
    cases d <;> cases d' <;> decide
  | none =>
    have noCode : (Text.trim text == d.code) = false := by
      rw [ofCode?, List.find?_eq_none] at code
      have mem : d ∈ every := by cases d <;> decide
      exact beq_eq_false_iff_ne.mpr fun same => code d mem (beq_iff_eq.mpr same.symm)
    have lower : Text.asciiLower d.name = d.name := by cases d <;> decide
    have self : Text.asciiLower "self" = "self" := by decide
    dsimp only
    rw [isWord, noCode, Text.sameIgnoringCase, Text.sameIgnoringCase, lower, self]
    split
    · next same =>
      rw [same, Except.ok.injEq]
      cases d <;> decide
    · next other =>
      have byName : Text.asciiLower (Text.trim text) = d.name ↔
          ofName? (Text.asciiLower (Text.trim text)) = some d := by rw [ofName?_eq_some, eq_comm]
      rw [Bool.false_or, beq_eq_false_iff_ne.mpr other, Bool.and_false, Bool.or_false, beq_iff_eq, byName]
      cases ofName? (Text.asciiLower (Text.trim text)) <;> simp

end DataScope

/-! ## Departments that are added one after the other -/

namespace Departments

/-- The directory to which departments were assigned and then edges were added, one after the other. -/
def added (assignments : List (String × List String)) (edges : List (String × String)) : Departments :=
  edges.foldl (fun d e => d.add e.1 e.2) (assignments.foldl (fun d a => d.assign a.1 a.2) empty)

theorem assigned_assign (d : Departments) (role other : String) (depts : List String) :
    (d.assign role depts).assigned other = if other = role then depts else d.assigned other := by
  rw [assigned, assign, List.lookup_append, Memory.lookup_filter_ne, assigned]
  by_cases same : other = role
  · simp [same]
  · simp [same, List.lookup_cons, beq_eq_false_iff_ne.mpr same]

theorem assigned_foldl_assign (assignments : List (String × List String)) (role : String) :
    (assignments.foldl (fun d a => d.assign a.1 a.2) empty).assigned role =
      (assignments.reverse.lookup role).getD [] := by
  induction assignments using List.reverseRecOn with
  | nil => rfl
  | append_singleton init last ih =>
    rw [List.foldl_append, List.foldl_cons, List.foldl_nil, assigned_assign, ih, List.reverse_append,
      List.reverse_singleton, List.singleton_append, List.lookup_cons]
    by_cases same : role = last.1
    · simp [same]
    · simp [same, beq_eq_false_iff_ne.mpr same]

theorem foldl_add (edges : List (String × String)) (d : Departments) :
    edges.foldl (fun d e => d.add e.1 e.2) d = ⟨d.assignments, d.edges ++ edges⟩ := by
  induction edges generalizing d with
  | nil => simp
  | cons e es ih => rw [List.foldl_cons, ih, add, List.append_assoc, List.singleton_append]

theorem lookup_map {α β : Type} (f : α → β) (entries : List (String × α)) (key : String) :
    (entries.map fun a => (a.1, f a.2)).lookup key = (entries.lookup key).map f := by
  induction entries with
  | nil => rfl
  | cons a entries ih =>
    rw [List.map_cons, List.lookup_cons, List.lookup_cons, ih]
    split <;> rfl

/-- Of the entries for a role the last one counts. -/
theorem assigned_added (assignments : List (String × List String)) (edges : List (String × String))
    (role : String) : (added assignments edges).assigned role = (assignments.reverse.lookup role).getD [] := by
  rw [← assigned_foldl_assign, added, foldl_add]
  rfl

theorem edges_added (assignments : List (String × List String)) (edges : List (String × String)) :
    (added assignments edges).edges = edges := by
  have none : (assignments.foldl (fun d a => d.assign a.1 a.2) empty).edges = [] := by
    refine List.foldlRecOn (motive := fun d : Departments => d.edges = []) assignments _ ?_ ?_
    · rfl
    · exact fun d kept a _ => kept
  rw [added, foldl_add, none, List.nil_append]

end Departments

namespace Inquiry

variable {id scope text : String} {sep : Char}

/-! ## Descriptions -/

/-- A text that is read as it is: without white space at its ends, and without a separator. -/
structure IsPart (sep : Char) (s : String) : Prop where
  trimmed : Text.trim s = s
  free : sep ∉ s.toList

instance (sep : Char) (s : String) : Decidable (IsPart sep s) :=
  decidable_of_iff (Text.trim s = s ∧ sep ∉ s.toList) ⟨fun ⟨t, f⟩ => ⟨t, f⟩, fun p => ⟨p.trimmed, p.free⟩⟩

/-- The description of a role, with a text for its permissions or without one. -/
def roleText (id scope : String) : Option String → String
  | none => id ++ ":" ++ scope
  | some permissions => id ++ ":" ++ (scope ++ ":" ++ permissions)

/-- The description of the departments of a role. -/
def deptsText (a : String × List String) : String := a.1 ++ "=" ++ ",".intercalate a.2

/-- The description of an edge. -/
def edgeText (e : String × String) : String := e.1 ++ ":" ++ e.2

theorem cut?_append {before : String} (free : sep ∉ before.toList) (after : String) :
    cut? sep (before ++ String.singleton sep ++ after) = some (before, after) := by
  have chars : (before ++ String.singleton sep ++ after).toList = before.toList ++ sep :: after.toList := by simp
  rw [cut?, chars, Text.cutFirst?_append free]
  simp

theorem cut?_none (free : sep ∉ text.toList) : cut? sep text = none := by
  rw [cut?, Text.cutFirst?_none free]
  rfl

/-- Items are read as they are written, but for empty ones. -/
theorem items_intercalate {pieces : List String} (parts : ∀ s ∈ pieces, IsPart ',' s) :
    items (",".intercalate pieces) = pieces.filter fun s => !s.isEmpty := by
  have comma : "," = String.singleton ',' := rfl
  cases pieces with
  | nil => decide
  | cons piece pieces =>
    have trimmed : (piece :: pieces).map Text.trim = piece :: pieces :=
      (List.map_congr_left fun s mem => (parts s mem).trimmed).trans (List.map_id _)
    rw [items, comma, Text.splitOn_intercalate (fun s mem => (parts s mem).free) (List.cons_ne_nil _ _), trimmed]

theorem ofText_trim (s : String) : DataScope.ofText (Text.trim s) = DataScope.ofText s := by
  rw [DataScope.ofText, DataScope.ofCode?, Text.trim_trim]
  rfl

theorem role_roleText (idFree : ':' ∉ id.toList) (scopeFree : ':' ∉ scope.toList) (permissions : Option String) :
    role (roleText id scope permissions) =
      if Text.isBlank id then .error (.roleWithoutId (roleText id scope permissions))
      else match DataScope.ofText scope with
        | .ok d => .ok ⟨Text.trim id, d, (permissions.map items).getD []⟩
        | .error word => .error (.unknownScope (roleText id scope permissions) word) := by
  have colon : ":" = String.singleton ':' := rfl
  have named : (Text.trim id).isEmpty = Text.isBlank id := by
    rw [Bool.eq_iff_iff, String.isEmpty_iff, Text.trim_eq_empty]
  cases permissions with
  | none =>
    have cut : cut? ':' (roleText id scope none) = some (id, scope) := by
      rw [roleText, colon, cut?_append idFree]
    rw [role, cut]
    dsimp only
    rw [cut?_none scopeFree, named, ofText_trim]
    rfl
  | some permissions =>
    have cut : cut? ':' (roleText id scope (some permissions)) = some (id, scope ++ ":" ++ permissions) := by
      rw [roleText, colon, cut?_append idFree]
    rw [role, cut]
    dsimp only
    rw [colon, cut?_append scopeFree, named]
    dsimp only
    rw [ofText_trim]
    rfl

/-- A text with a colon describes a role by what stands before the first one, before the second one and after
that. -/
theorem exists_roleText (mem : ':' ∈ text.toList) :
    ∃ id scope permissions, ':' ∉ id.toList ∧ ':' ∉ scope.toList ∧ text = roleText id scope permissions := by
  obtain ⟨id, rest, idFree, rfl⟩ := Text.exists_cut mem
  by_cases more : ':' ∈ rest.toList
  · obtain ⟨scope, permissions, scopeFree, rfl⟩ := Text.exists_cut more
    exact ⟨id, scope, some permissions, idFree, scopeFree, rfl⟩
  · exact ⟨id, rest, none, idFree, more, rfl⟩

theorem addRoleDepts_deptsText {a : String × List String} (role : IsPart '=' a.1)
    (depts : ∀ dept ∈ a.2, IsPart ',' dept) (d : Departments) :
    addRoleDepts d (deptsText a) = .ok (d.assign a.1 (a.2.filter fun dept => !dept.isEmpty)) := by
  have equals : "=" = String.singleton '=' := rfl
  rw [addRoleDepts, deptsText, equals, cut?_append role.free]
  dsimp only
  rw [role.trimmed, items_intercalate depts]

theorem addDeptParent_edgeText {e : String × String} (child : IsPart ':' e.1) (parent : Text.trim e.2 = e.2)
    (d : Departments) : addDeptParent d (edgeText e) = .ok (d.add e.1 e.2) := by
  have colon : ":" = String.singleton ':' := rfl
  rw [addDeptParent, edgeText, colon, cut?_append child.free]
  dsimp only
  rw [child.trimmed, parent]

/-- Steps that do not fail on the texts of entries are what they do, one after the other. -/
theorem foldlM_map_ok {α β ε δ : Type} {step : δ → β → Except ε δ} {done : δ → α → δ} {write : α → β}
    {entries : List α} (ok : ∀ a ∈ entries, ∀ d, step d (write a) = .ok (done d a)) (d : δ) :
    (entries.map write).foldlM step d = .ok (entries.foldl done d) := by
  induction entries generalizing d with
  | nil => rfl
  | cons a entries ih =>
    rw [List.map_cons, List.foldlM_cons, ok a (List.mem_cons_self ..), List.foldl_cons]
    exact ih (fun b mem => ok b (List.mem_cons_of_mem _ mem)) _

theorem departments_texts {assignments : List (String × List String)} {edges : List (String × String)}
    (roles : ∀ a ∈ assignments, IsPart '=' a.1 ∧ ∀ dept ∈ a.2, IsPart ',' dept)
    (depts : ∀ e ∈ edges, IsPart ':' e.1 ∧ Text.trim e.2 = e.2) :
    departments (assignments.map deptsText) (edges.map edgeText) =
      .ok (.added (assignments.map fun a => (a.1, a.2.filter fun dept => !dept.isEmpty)) edges) := by
  have assigned := foldlM_map_ok (fun a mem => addRoleDepts_deptsText (roles a mem).1 (roles a mem).2) .empty
  have added := foldlM_map_ok fun e mem => addDeptParent_edgeText (depts e mem).1 (depts e mem).2
  rw [departments, assigned]
  refine (added _).trans ?_
  rw [Departments.added, List.foldl_map]

theorem role_roleText_error (idFree : ':' ∉ id.toList) (scopeFree : ':' ∉ scope.toList)
    (permissions : Option String) :
    (∃ failure, role (roleText id scope permissions) = .error failure) ↔
      Text.isBlank id = true ∨ ¬∃ d : DataScope, d.IsText scope := by
  simp only [role_roleText idFree scopeFree, ← DataScope.ofText_eq_ok]
  split
  · next blank => simp [blank]
  · next named => cases DataScope.ofText scope <;> simp [named]

/-- A description of a role is refused exactly if it has no data scope, a blank id or an unknown data scope. -/
theorem role_error_iff : (∃ failure, role text = .error failure) ↔
    ':' ∉ text.toList ∨ ∃ id scope permissions, ':' ∉ id.toList ∧ ':' ∉ scope.toList ∧
      text = roleText id scope permissions ∧ (Text.isBlank id = true ∨ ¬∃ d : DataScope, d.IsText scope) := by
  by_cases colon : ':' ∈ text.toList
  · rw [or_iff_right (not_not_intro colon)]
    constructor
    · intro refused
      obtain ⟨id, scope, permissions, idFree, scopeFree, rfl⟩ := exists_roleText colon
      exact ⟨id, scope, permissions, idFree, scopeFree, rfl,
        (role_roleText_error idFree scopeFree permissions).mp refused⟩
    · rintro ⟨id, scope, permissions, idFree, scopeFree, rfl, reason⟩
      exact (role_roleText_error idFree scopeFree permissions).mpr reason
  · refine iff_of_true ⟨.roleWithoutScope text, ?_⟩ (.inl colon)
    rw [role, cut?_none colon]

/-- A role is read as it is described. -/
theorem role_described {d : DataScope} {permissions : List String} (part : IsPart ':' id)
    (named : Text.isBlank id = false) (means : d.IsText scope) :
    role (roleText id scope none) = .ok ⟨id, d, []⟩ ∧
      ((∀ p ∈ permissions, IsPart ',' p ∧ p ≠ "") →
        role (roleText id scope (some (",".intercalate permissions))) = .ok ⟨id, d, permissions⟩) := by
  have known := DataScope.ofText_eq_ok.mpr means
  constructor
  · rw [role_roleText part.free means.free, named, known, part.trimmed]
    rfl
  · intro granted
    have kept : permissions.filter (fun p => !p.isEmpty) = permissions := by
      simpa using fun p mem => (granted p mem).2
    rw [role_roleText part.free means.free, named, known, part.trimmed, Option.map_some,
      items_intercalate fun p mem => (granted p mem).1, kept]
    rfl

end Inquiry

/-- Descriptions are read as they are written. A role is the one that was described, and its description is refused
exactly if it has no data scope, a blank id or an unknown data scope. The directory is the one to which the entries
were added one after the other, without the empty departments of roles. -/
theorem Inquiry.described :
    (∀ id scope (d : DataScope) permissions, IsPart ':' id → Text.isBlank id = false → d.IsText scope →
      (∀ p ∈ permissions, IsPart ',' p ∧ p ≠ "") →
      role (roleText id scope none) = .ok ⟨id, d, []⟩ ∧
        role (roleText id scope (some (",".intercalate permissions))) = .ok ⟨id, d, permissions⟩) ∧
    (∀ text, (∃ failure, role text = .error failure) ↔
      ':' ∉ text.toList ∨ ∃ id scope permissions, ':' ∉ id.toList ∧ ':' ∉ scope.toList ∧
        text = roleText id scope permissions ∧ (Text.isBlank id = true ∨ ¬∃ d : DataScope, d.IsText scope)) ∧
    ∀ (assignments : List (String × List String)) (edges : List (String × String)),
      (∀ a ∈ assignments, IsPart '=' a.1 ∧ ∀ dept ∈ a.2, IsPart ',' dept) →
      (∀ e ∈ edges, IsPart ':' e.1 ∧ Text.trim e.2 = e.2) →
      ∃ d, departments (assignments.map deptsText) (edges.map edgeText) = .ok d ∧
        d = .added (assignments.map fun a => (a.1, a.2.filter fun dept => !dept.isEmpty)) edges ∧
        (∀ role, d.directory.assigned role =
          .ok (((assignments.reverse.lookup role).getD []).filter fun dept => !dept.isEmpty)) ∧
        ∀ dept, d.directory.subtree dept = .ok (Departments.reach edges [] [dept]) := by
  refine ⟨fun id scope d permissions part named means granted => ?_, fun text => role_error_iff,
    fun assignments edges roles depts => ⟨_, departments_texts roles depts, rfl, fun role => ?_, fun dept => ?_⟩⟩
  · obtain ⟨alone, granting⟩ := role_described part named means
    exact ⟨alone, granting granted⟩
  · refine congrArg Except.ok ?_
    rw [Departments.assigned_added, ← List.map_reverse, Departments.lookup_map]
    cases assignments.reverse.lookup role <;> rfl
  · refine congrArg Except.ok ?_
    rw [Departments.subtree, Departments.edges_added]

/-- A role for one's own rows, with white space around its data scope; a role that is refused; and two entries for the
departments of a role, of which the later one counts. -/
theorem Inquiry.described_clerk :
    role (roleText "clerk" " Self " (some (",".intercalate ["orders:read", "orders:write"]))) =
        .ok ⟨"clerk", .selfOnly, ["orders:read", "orders:write"]⟩ ∧
      (∃ failure, role "clerk:nobody" = .error failure) ∧
      ∃ d, departments [deptsText ("clerk", ["", "a"]), deptsText ("clerk", ["b"])] [edgeText ("c", "b")] = .ok d ∧
        d.directory.assigned "clerk" = .ok ["b"] := by
  obtain ⟨roles, refused, directories⟩ := Inquiry.described
  have self : DataScope.selfOnly.IsText " Self " := ⟨" ", "Self", " ", by decide, by decide, by decide, by decide⟩
  have nobody : ¬∃ d : DataScope, d.IsText "nobody" := by
    rintro ⟨d, means⟩
    rw [DataScope.isText_iff] at means
    revert means
    cases d <;> decide
  obtain ⟨d, read, -, assigned, -⟩ :=
    directories [("clerk", ["", "a"]), ("clerk", ["b"])] [("c", "b")] (by decide) (by decide)
  refine ⟨(roles "clerk" " Self " _ _ (by decide) (by decide) self (by decide)).2,
    (refused _).mpr (.inr ⟨"clerk", "nobody", none, by decide, by decide, by decide, .inr nobody⟩),
    d, read, (assigned "clerk").trans (by decide)⟩

/-- The departments of a role are not read as they are written if one of them is empty. -/
theorem Inquiry.emptyDept_lost :
    ¬ ∀ assignments : List (String × List String),
      (∀ a ∈ assignments, IsPart '=' a.1 ∧ ∀ dept ∈ a.2, IsPart ',' dept) →
      ∃ d, departments (assignments.map deptsText) [] = .ok d ∧
        ∀ role, d.directory.assigned role = (Departments.added assignments []).directory.assigned role := by
  intro kept
  obtain ⟨d, read, same⟩ := kept [("r", ["", "a"])] (by decide)
  have lost : departments ([("r", ["", "a"])].map deptsText) [] = .ok ⟨[("r", ["a"])], []⟩ := by decide +kernel
  cases lost.symm.trans read
  exact absurd (same "r") (by decide +kernel)

end RowAccess
