import Mathlib
import RowAccess.Proofs.Audited
import RowAccess.Proofs.Disabling
import RowAccess.Proofs.Namespaces
/-!
# What an audit says of rules

An audit looks at namespaces and at what is enabled on its own, and the enforcer does so where a rule is used. Of a
configuration that starts up they say the same (`Audit.rules_reported`): a rule is reported to stand in for the
rule that would be found without it, and a concern is reported that no context ever has in force.

Operations are kept in the order of their ids (`Config.load_ordered`), so each has a single rule, and at most one
finding tells which rule it stands in for.
-/

namespace RowAccess

variable {α σ : Type}

/-! ## Operations are in the order of their ids -/

/-- Whether values are in the order of the texts they stand under, none of which is there twice. -/
def Ordered (map : List (String × α)) : Prop := map.Pairwise fun a b => a.1 < b.1

namespace Ordered

variable {map : List (String × α)}

theorem nodup (ordered : Ordered map) : (map.map (·.1)).Nodup :=
  List.pairwise_map.mpr (ordered.imp fun less => ne_of_lt less)

/-- What stands under a text is what a lookup answers. -/
theorem mem_iff_lookup (ordered : Ordered map) {key : String} {value : α} :
    (key, value) ∈ map ↔ map.lookup key = some value := by
  induction map with
  | nil => simp
  | cons entry rest ih =>
    obtain ⟨k, v⟩ := entry
    obtain ⟨first, later⟩ := List.pairwise_cons.mp ordered
    rw [List.mem_cons, List.lookup_cons, ih later]
    by_cases same : key = k
    · subst same
      have once : rest.lookup key ≠ some value := fun found =>
        lt_irrefl key (first _ ((ih later).mpr found))
      simp [once, eq_comm]
    · rw [beq_false_of_ne same]
      simp [same]

end Ordered

namespace Format

theorem mem_insertOrdered {key : String} {value : α} {map : List (String × α)} {entry : String × α}
    (mem : entry ∈ insertOrdered key value map) : entry = (key, value) ∨ entry ∈ map := by
  induction map with
  | nil => exact .inl (List.mem_singleton.mp mem)
  | cons first rest ih =>
    rw [insertOrdered] at mem
    split_ifs at mem
    · exact (List.mem_cons.mp mem).imp id (List.mem_cons_of_mem _)
    · exact List.mem_cons.mp mem
    · rcases List.mem_cons.mp mem with rfl | mem
      · exact .inr (List.mem_cons_self ..)
      · exact (ih mem).imp id (List.mem_cons_of_mem _)

theorem insertOrdered_ordered (key : String) (value : α) {map : List (String × α)} (ordered : Ordered map) :
    Ordered (insertOrdered key value map) := by
  induction map with
  | nil => exact List.pairwise_singleton ..
  | cons first rest ih =>
    obtain ⟨k, v⟩ := first
    obtain ⟨later, ordered'⟩ := List.pairwise_cons.mp ordered
    rw [insertOrdered]
    split_ifs with same less
    · subst same
      exact List.pairwise_cons.mpr ⟨later, ordered'⟩
    · refine List.pairwise_cons.mpr ⟨fun entry mem => ?_, ordered⟩
      rcases List.mem_cons.mp mem with rfl | mem
      · exact less
      · exact less.trans (later entry mem)
    · refine List.pairwise_cons.mpr ⟨fun entry mem => ?_, ih ordered'⟩
      rcases mem_insertOrdered mem with rfl | mem
      · exact lt_of_le_of_ne (not_lt.mp less) (Ne.symm same)
      · exact later entry mem

theorem mapOf?_ordered {ν : Type} {f : Format ν} {read : ν → Option α} {v : ν} {map : List (String × α)}
    (given : f.mapOf? read v = some map) : Ordered map := by
  simp only [mapOf?, Option.bind_eq_bind, Option.bind_eq_some_iff, Option.pure_def, Option.some.injEq] at given
  obtain ⟨_, -, entries, -, rfl⟩ := given
  refine List.foldlRecOn entries _ ?_ fun map ordered entry _ => ?_
  · exact .nil
  · exact insertOrdered_ordered entry.1 entry.2 ordered

end Format

namespace Config

variable {c : Config} {files : Files} {path : String}

theorem read?_ordered {ν : Type} {f : Format ν} {v : ν} (given : read? f v = some c) : Ordered c.operations := by
  simp only [read?, Option.bind_eq_bind, Option.bind_eq_some_iff, Option.pure_def, Option.some.injEq] at given
  obtain ⟨fields, -, _, -, _, -, _, -, _, -, operations, there, rfl⟩ := given
  rw [Format.field?] at there
  split at there
  · exact Format.mapOf?_ordered there
  · cases there
    exact .nil

theorem ofFile_ordered (written : ofFile files path = .ok c) : Ordered c.operations := by
  rw [ofFile] at written
  cases text : textAt files path with
  | error reason =>
    rw [text] at written
    cases written
  | ok text' =>
    rw [text] at written
    simp only [bind, Except.bind] at written
    cases given : ofYaml? text' with
    | none =>
      rw [given] at written
      cases written
    | some c' =>
      rw [given] at written
      cases written
      rw [ofYaml?, Yaml.read?] at given
      obtain ⟨d, -, given⟩ := Option.bind_eq_some_iff.mp given
      exact read?_ordered given

/-- The operations of a configuration that loads are in the order of their ids. -/
theorem load_ordered (loaded : load files path = .ok c) : Ordered c.operations := by
  obtain ⟨written, read, same, -⟩ := load_ok loaded
  rw [same]
  exact ofFile_ordered read

end Config

/-! ## Rules without the one of an operation -/

namespace Declarations

/-- The rules without the one that is declared under an id. -/
def without (d : Declarations) (id : String) : Declarations := d.filter fun o => o.1 != id

theorem at?_without (d : Declarations) (id other : String) :
    at? (d.without id) other = if other = id then none else d.at? other := by
  rw [at?, without, Memory.lookup_filter_ne, at?]
  split <;> rfl

/-- Among other ids, a search without the rule of an id finds that of the first one declared. -/
theorem findSome?_without (d : Declarations) {id : String} {ids : List String} (others : ∀ n ∈ ids, n ≠ id) :
    ids.findSome? (at? (d.without id)) = (ids.find? fun n => (d.lookup n).isSome).bind d.at? := by
  induction ids with
  | nil => rfl
  | cons n ids ih =>
    have same : at? (d.without id) n = d.at? n := by rw [at?_without, if_neg (others n (List.mem_cons_self ..))]
    rw [List.findSome?_cons, List.find?_cons, same, ih fun n mem => others n (List.mem_cons_of_mem _ mem)]
    cases there : d.lookup n with
    | none => simp [at?, there]
    | some r => simp [at?, there]

/-- Without its own rule, an operation has the rule of the nearest namespace that one is declared for. -/
theorem find?_without (d : Declarations) (id : String) :
    find? (d.without id) id = ((namespacesOf id).find? fun n => (d.lookup n).isSome).bind d.at? := by
  have own : at? (d.without id) id = none := by rw [at?_without, if_pos rfl]
  have shorter := (List.pairwise_cons.mp (tried_shrinks id)).1
  have others : ∀ n ∈ namespacesOf id, n ≠ id := by
    rintro n mem rfl
    exact lt_irrefl _ (shorter n mem)
  rw [find?, List.findSome?_cons, own, ← findSome?_without d others]

theorem at?_declaredAs {d : Declarations} {id : String} {r : Rule} (declared : d.at? id = some r) :
    r.declaredAs = id := by
  obtain ⟨o, -, rfl⟩ := Option.map_eq_some_iff.mp declared
  rfl

/-- What a search without the rule of an operation finds is declared as the nearest namespace that a rule is
declared for. -/
theorem find?_without_declaredAs (d : Declarations) (id : String) {n : String} :
    (∃ r, find? (d.without id) id = some r ∧ r.declaredAs = n) ↔
      ((namespacesOf id).find? fun n => (d.lookup n).isSome) = some n := by
  rw [find?_without]
  constructor
  · rintro ⟨r, found, rfl⟩
    obtain ⟨n, nearest, declared⟩ := Option.bind_eq_some_iff.mp found
    rw [nearest, at?_declaredAs declared]
  · intro nearest
    have declared : (d.lookup n).isSome = true :=
      List.find?_some (p := fun n => (d.lookup n).isSome) nearest
    obtain ⟨o, there⟩ := Option.isSome_iff_exists.mp declared
    rw [nearest, Option.bind_some, at?, there]
    exact ⟨_, rfl, rfl⟩

theorem find?_own {d : Declarations} {id : String} {r : Rule} (declared : d.at? id = some r) :
    d.find? id = some r := by
  rw [find?, List.findSome?_cons, declared]

end Declarations

namespace Enforcer

/-- The enforcer without the rule that is declared under an id. -/
def withoutRule (e : Enforcer σ) (id : String) : Enforcer σ :=
  { e with config := { e.config with operations := Declarations.without e.config.operations id } }

/-- A concern of a rule is in force in some context, such as one in which nothing is suppressed, unless it is not
enabled. -/
theorem never_inForce_iff (e : Enforcer σ) {l : Lookups} (sound : l.Sound e.config.operations) {id : String}
    {r : Rule} (declared : Declarations.at? e.config.operations id = some r) {concern : Concern}
    (asks : concern ∈ r.concerns) :
    (∀ ctx r', ((e.resolve ctx id).run l).1 = some r' → concern ∉ r'.concerns) ↔
      e.isEnabled concern = false := by
  have answer (ctx : Context) : ((e.resolve ctx id).run l).1 = e.inForce ctx r := by
    change ((e.declared id).run l).1.bind (e.inForce ctx) = _
    rw [(e.declared_answer sound id).1, Declarations.find?_own declared]
    rfl
  simp only [answer]
  constructor
  · intro never
    by_contra enabled
    have kept : (e.isEnabled concern && !(Context.start .anonymous).isSuppressed concern) = true := by
      rw [Bool.not_eq_false] at enabled
      rw [enabled]
      rfl
    cases inForce : e.inForce (.start .anonymous) r with
    | none =>
      rw [Enforcer.inForce, Rule.filter_eq_none_iff] at inForce
      rw [inForce concern asks] at kept
      cases kept
    | some r' =>
      refine never (.start .anonymous) r' inForce ?_
      rw [Rule.filter_some inForce]
      exact Rule.mem_concerns_masked.mpr ⟨asks, kept⟩
  · intro disabled ctx r' inForce mem
    rw [Rule.filter_some inForce, Rule.mem_concerns_masked, disabled] at mem
    cases mem.2

end Enforcer

/-! ## The findings -/

namespace Audit

variable {c : Config} {id : String}

/-- Whether a finding of a severity and a category is about the rule of an operation. -/
def isAbout (id : String) (severity : Severity) (category : String) (f : Finding) : Bool :=
  f.severity == severity && f.category == category && f.location? == some ("operations." ++ id)

/-- The category under which a concern is reported that is not enabled. -/
def category : Concern → Option String
  | .tenant => some "tenancy"
  | .dataPermission => some "data-permission"
  | _ => none

theorem isAbout_iff {severity : Severity} {category : String} {f : Finding} :
    isAbout id severity category f = true ↔
      f.severity = severity ∧ f.category = category ∧ f.location? = some ("operations." ++ id) := by
  simp [isAbout, and_assoc]

theorem sharedTable_elsewhere (table id : String) : "tenancy.tables." ++ table ≠ "operations." ++ id := by
  intro same
  have chars := congrArg String.toList same
  simp at chars

theorem isAbout_overrides {f : Finding} :
    isAbout id .info "operations" f = true ↔ ∃ namespaceId, f = .overrides id namespaceId := by
  rw [isAbout_iff]
  cases f <;> simp [Finding.severity, Finding.category, Finding.location?]

theorem isAbout_tenant {f : Finding} :
    isAbout id .warning "tenancy" f = true ↔ f = .tenantNotEnabled id := by
  rw [isAbout_iff]
  cases f <;> simp [Finding.severity, Finding.category, Finding.location?, sharedTable_elsewhere]

theorem isAbout_data {f : Finding} :
    isAbout id .warning "data-permission" f = true ↔ f = .dataNotEnabled id := by
  rw [isAbout_iff]
  cases f <;> simp [Finding.severity, Finding.category, Finding.location?]

/-- The checks before the one for rules that stand in for others tell of nothing that is merely worth knowing. -/
theorem isAbout_info_earlier {category : String} :
    ∀ f ∈ denyPredicate c ++ idleRules c ++ sharedTables c, isAbout id .info category f = false := by
  intro f found
  have grave : f.severity ≠ .info := by
    rw [List.mem_append, List.mem_append] at found
    obtain (deny | idle) | shared := found
    · simp [severity_denyPredicate deny]
    · simp [severity_idleRules idle]
    · simp [severity_sharedTables shared]
  simp [isAbout, grave]

/-- An operation is reported to stand in for the nearest namespace that a rule is declared for. -/
theorem mem_overrides (ordered : Ordered c.operations) {r : Rule}
    (declared : Declarations.at? c.operations id = some r) {namespaceId : String} :
    .overrides id namespaceId ∈ ofConfig c ↔
      (namespacesOf id).find? (fun n => (c.operations.lookup n).isSome) = some namespaceId := by
  have earlier : .overrides id namespaceId ∉ denyPredicate c ++ idleRules c ++ sharedTables c := fun found =>
    Bool.noConfusion ((isAbout_info_earlier _ found).symm.trans (isAbout_overrides.mpr ⟨namespaceId, rfl⟩))
  rw [ofConfig, List.mem_append, or_iff_right earlier, overridingRules, List.mem_filterMap]
  constructor
  · rintro ⟨⟨k, r⟩, -, nearest⟩
    obtain ⟨n, nearest, same⟩ := Option.map_eq_some_iff.mp nearest
    cases same
    exact nearest
  · intro nearest
    obtain ⟨o, there, -⟩ := Option.map_eq_some_iff.mp declared
    exact ⟨(id, o), ordered.mem_iff_lookup.mpr there, congrArg (Option.map _) nearest⟩

/-- An operation is reported at most once to stand in for a namespace. -/
theorem countP_overrides (ordered : Ordered c.operations) :
    (ofConfig c).countP (isAbout id .info "operations") ≤ 1 := by
  have earlier : (denyPredicate c ++ idleRules c ++ sharedTables c).countP (isAbout id .info "operations") = 0 :=
    List.countP_eq_zero.mpr fun f found => by simp [isAbout_info_earlier f found]
  have own (f : String × Config.OperationRule) :
      ((((namespacesOf f.1).find? fun n => (c.operations.lookup n).isSome).map (Finding.overrides f.1)).map
        (isAbout id .info "operations")).getD false = true → (f.1 == id) = true := by
    intro about
    cases nearest : (namespacesOf f.1).find? fun n => (c.operations.lookup n).isSome with
    | none =>
      rw [nearest] at about
      cases about
    | some n =>
      rw [nearest] at about
      obtain ⟨_, same⟩ := isAbout_overrides.mp about
      cases same
      exact beq_self_eq_true _
  calc (ofConfig c).countP (isAbout id .info "operations")
      = (overridingRules c).countP (isAbout id .info "operations") := by
        rw [ofConfig, List.countP_append, earlier, Nat.zero_add]
    _ ≤ c.operations.countP (fun o => o.1 == id) := by
        rw [overridingRules, List.countP_filterMap]
        exact List.countP_mono_left fun f _ => own f
    _ = (c.operations.map (·.1)).count id := by rw [List.count, List.countP_map]; rfl
    _ ≤ 1 := List.nodup_iff_count_le_one.mp ordered.nodup id

theorem location_notEnabled {o : Config.OperationRule} {f : Finding} (asked : f ∈ notEnabled c id o) :
    f.location? = some ("operations." ++ id) := by
  rw [notEnabled, List.mem_append] at asked
  obtain tenant | data := asked
  · rw [eq_of_mem_ite tenant]
    rfl
  · rw [eq_of_mem_ite data]
    rfl

/-- The warnings about the rule of an operation are those for what it asks for. -/
theorem mem_warning (ordered : Ordered c.operations) {o : Config.OperationRule}
    (declared : c.operations.lookup id = some o) {f : Finding} (grave : f.severity = .warning)
    (located : f.location? = some ("operations." ++ id)) : f ∈ ofConfig c ↔ f ∈ notEnabled c id o := by
  have deny : f ∉ denyPredicate c := fun found =>
    Severity.noConfusion (grave.symm.trans (severity_denyPredicate found))
  have overriding : f ∉ overridingRules c := fun found =>
    Severity.noConfusion (grave.symm.trans (severity_overridingRules found))
  have none : f ∉ if c.operations.isEmpty then [.noRules] else [] := by
    intro found
    rw [eq_of_mem_ite found] at located
    cases located
  have shared : f ∉ sharedTables c := by
    intro found
    obtain ⟨table, -, rfl⟩ := List.mem_map.mp found
    exact sharedTable_elsewhere table id (Option.some.inj located)
  rw [ofConfig, List.mem_append, or_iff_left overriding, List.mem_append, or_iff_left shared, List.mem_append,
    or_iff_right deny, idleRules, List.mem_append, or_iff_right none, List.mem_flatMap]
  constructor
  · rintro ⟨⟨k, r⟩, there, asked⟩
    have own : k = id := by simpa [location_notEnabled asked] using located
    subst own
    cases declared.symm.trans (ordered.mem_iff_lookup.mp there)
    exact asked
  · exact fun asked => ⟨(id, o), ordered.mem_iff_lookup.mpr declared, asked⟩

/-- A concern that an operation asks for is reported if it is not enabled. -/
theorem any_notEnabled {e : Enforcer σ} (ordered : Ordered e.config.operations)
    (tenants : e.tenants.enabled = e.config.tenancy.enabled) {r : Rule}
    (declared : Declarations.at? e.config.operations id = some r) {concern : Concern} {name : String}
    (reported : category concern = some name) :
    (ofConfig e.config).any (isAbout id .warning name) = true ↔
      concern ∈ r.concerns ∧ e.isEnabled concern = false := by
  obtain ⟨o, there, rfl⟩ := Option.map_eq_some_iff.mp declared
  rw [List.any_eq_true, Rule.mem_concerns]
  cases concern with
  | tenant =>
    cases reported
    have asked := mem_warning (f := .tenantNotEnabled id) ordered there rfl rfl
    simp [isAbout_tenant, asked, notEnabled, Enforcer.isEnabled, tenants]
  | dataPermission =>
    cases reported
    have asked := mem_warning (f := .dataNotEnabled id) ordered there rfl rfl
    simp [isAbout_data, asked, notEnabled, Enforcer.isEnabled]
  | _ => cases reported

end Audit

variable {files : Files} {path : String} {store : Store σ} {directory : Directory} {e : Enforcer σ}

/-- An audit of what starts up tells which rule stands in for which: the one that would be found without the rule
of the operation, once. It tells of a concern that an operation asks for exactly if no context has it in force. -/
theorem Audit.rules_reported (started : startUp files path store directory = .ok e) {id : String} {r : Rule}
    (declared : Declarations.at? e.config.operations id = some r) {l l' : Lookups}
    (sound : l.Sound e.config.operations) (sound' : l'.Sound (e.withoutRule id).config.operations) :
    (∀ namespaceId,
      (∃ f ∈ ofFile files path, isAbout id .info "operations" f = true ∧
        f.message = "Rule for '" ++ id ++ "' overrides the rule for namespace '" ++ namespaceId ++ "'") ↔
      ∃ r', (((e.withoutRule id).declared id).run l').1 = some r' ∧ r'.declaredAs = namespaceId) ∧
    (ofFile files path).countP (isAbout id .info "operations") ≤ 1 ∧
    ∀ concern name, category concern = some name →
      ((ofFile files path).any (isAbout id .warning name) = true ↔
        concern ∈ r.concerns ∧
          ∀ ctx r', ((e.resolve ctx id).run l).1 = some r' → concern ∉ r'.concerns) := by
  obtain ⟨loaded, built⟩ := startUp_ok started
  have found : ofFile files path = ofConfig e.config := by rw [ofFile, loaded]
  have ordered := Config.load_ordered loaded
  have tenants : e.tenants.enabled = e.config.tenancy.enabled := by
    obtain ⟨-, -, made⟩ := Enforcer.build_eq_ok.mp built
    rw [← made]
    rfl
  rw [found]
  refine ⟨fun namespaceId => ?_, countP_overrides ordered, fun concern name reported => ?_⟩
  · rw [((e.withoutRule id).declared_answer sound' id).1]
    refine Iff.trans ?_ (Declarations.find?_without_declaredAs e.config.operations id).symm
    rw [← mem_overrides ordered declared]
    constructor
    · rintro ⟨f, found, about, message⟩
      obtain ⟨n, rfl⟩ := isAbout_overrides.mp about
      change "Rule for '" ++ id ++ "' overrides the rule for namespace '" ++ n ++ "'" = _ at message
      rw [String.append_left_inj, String.append_right_inj] at message
      exact message ▸ found
    · exact fun found => ⟨_, found, isAbout_overrides.mpr ⟨namespaceId, rfl⟩, rfl⟩
  · rw [any_notEnabled ordered tenants declared reported]
    refine and_congr_right fun asks => ?_
    exact (e.never_inForce_iff sound declared asks).symm

/-- A rule for notices and one for reading them, both for a tenant that is not enabled. -/
def noticeRules : Config where
  operations := [("notice", { tenant := true }), ("notice.read", { tenant := true })]

def noticeText : String := "operations: {notice: {tenant: true}, notice.read: {tenant: true}}"

def noticeFiles : Files
  | "notices.yaml" => some (.text noticeText)
  | _ => none

set_option maxRecDepth 4000 in
-- Tokens are read by recursion on how much text is left, which the kernel does not unfold.
theorem tokens_noticeText : Yaml.tokens? noticeText = some
    [.blockMapping, .key, .scalar .plain "operations", .value,
      .flowMapping,
        .key, .scalar .plain "notice", .value,
          .flowMapping, .key, .scalar .plain "tenant", .value, .scalar .plain "true", .flowMappingEnd,
        .comma, .key, .scalar .plain "notice.read", .value,
          .flowMapping, .key, .scalar .plain "tenant", .value, .scalar .plain "true", .flowMappingEnd,
      .flowMappingEnd,
    .blockEnd] := by cbv

theorem noticeText_read : Config.ofYaml? noticeText = some noticeRules := by
  rw [Config.ofYaml?, Yaml.read?, Yaml.Document.ofText?, tokens_noticeText]
  decide +kernel

/-- The rule for reading notices is reported to stand in for the one for notices, and not to apply. -/
theorem Audit.rules_reported_notices :
    ∃ e, startUp noticeFiles "notices.yaml" Store.memory Departments.empty.directory = .ok e ∧
      (∃ f ∈ ofFile noticeFiles "notices.yaml", isAbout "notice.read" .info "operations" f = true ∧
        f.message = "Rule for 'notice.read' overrides the rule for namespace 'notice'") ∧
      (ofFile noticeFiles "notices.yaml").any (isAbout "notice.read" .warning "tenancy") = true := by
  let e : Enforcer Memory := ⟨noticeRules, .ofTenancy {} Store.memory, Departments.empty.directory⟩
  have loaded : Config.load noticeFiles "notices.yaml" = .ok noticeRules := by
    have text : Config.textAt noticeFiles "notices.yaml" = .ok noticeText := rfl
    rw [Config.load, Config.ofFile, text]
    simp only [bind, Except.bind, noticeText_read]
    decide +kernel
  have built : Enforcer.build noticeRules Store.memory Departments.empty.directory = .ok e :=
    Enforcer.build_eq_ok.mpr ⟨by decide +kernel, by decide +kernel, rfl⟩
  have started : startUp noticeFiles "notices.yaml" Store.memory Departments.empty.directory = .ok e := by
    rw [startUp, loaded]
    exact congrArg (Except.mapError _) built
  have declared : Declarations.at? e.config.operations "notice.read" = some ⟨"notice.read", true, none⟩ := rfl
  have asks : Concern.tenant ∈ Rule.concerns ⟨"notice.read", true, none⟩ := List.mem_cons_self ..
  have never := (e.never_inForce_iff (Lookups.sound_none _) declared asks).mpr rfl
  obtain ⟨standsIn, -, idle⟩ :=
    Audit.rules_reported started declared (Lookups.sound_none _) (Lookups.sound_none _)
  exact ⟨e, started, (standsIn "notice").mpr ⟨_, rfl, rfl⟩, (idle .tenant "tenancy" rfl).mpr ⟨asks, never⟩⟩

end RowAccess
