import RowAccess.Audit
import RowAccess.Enforcer.Basic
/-!
# An audit and starting up

An audit lists what is wrong with the configuration at a path. Starting up loads it and builds an enforcer
from it, and does not go on when one of the two fails. They judge a configuration on their own, and agree: the
errors among the findings are the one reason why starting up fails (`Audit.errors_startUp`), so an audit without
errors is one of a configuration that starts up, and the other way round (`Audit.hasErrors_iff_refused`).
-/

namespace RowAccess

variable {σ : Type} {c : Config} {files : Files} {path : String}

/-- Starts up with the configuration at a path. A failure is told by its message. -/
def startUp (files : Files) (path : String) (store : Store σ) (directory : Directory) :
    Except String (Enforcer σ) :=
  match Config.load files path with
  | .error reason => .error reason.message
  | .ok c => (Enforcer.build c store directory).mapError (·.message)

/-- What passes the check at the end of loading is valid, and stays as it is. -/
theorem Config.of_checked {written : Config}
    (checked : (match written.fault? with
      | some fault => throw (.invalid fault)
      | none => pure written : Except LoadError Config) = .ok c) : written = c ∧ c.fault? = none := by
  cases valid : written.fault? with
  | some fault =>
    rw [valid] at checked
    cases checked
  | none =>
    rw [valid] at checked
    cases checked
    exact ⟨rfl, valid⟩

/-- What loads is valid, and has the operations that are written in the file. -/
theorem Config.load_ok (loaded : load files path = .ok c) :
    ∃ written, ofFile files path = .ok written ∧ c.operations = written.operations ∧ c.fault? = none := by
  rw [load] at loaded
  cases found : ofFile files path with
  | error reason =>
    rw [found] at loaded
    cases loaded
  | ok written =>
    rw [found] at loaded
    refine ⟨written, rfl, ?_⟩
    cases refers : written.tenancyFile with
    | none =>
      simp only [bind, Except.bind, refers] at loaded
      obtain ⟨rfl, valid⟩ := of_checked loaded
      exact ⟨rfl, valid⟩
    | some file =>
      simp only [bind, Except.bind, refers] at loaded
      cases tenancy : Tenancy.load files file (Path.parent path) with
      | error reason =>
        rw [tenancy] at loaded
        cases loaded
      | ok t =>
        rw [tenancy] at loaded
        obtain ⟨rfl, valid⟩ := of_checked loaded
        exact ⟨rfl, valid⟩

theorem Config.load_valid (loaded : load files path = .ok c) : c.fault? = none := by
  obtain ⟨written, -, -, valid⟩ := load_ok loaded
  exact valid

/-- What starts up has loaded. -/
theorem startUp_ok {store : Store σ} {directory : Directory} {e : Enforcer σ}
    (started : startUp files path store directory = .ok e) :
    Config.load files path = .ok e.config ∧ Enforcer.build e.config store directory = .ok e := by
  rw [startUp] at started
  cases loaded : Config.load files path with
  | error reason =>
    rw [loaded] at started
    cases started
  | ok c =>
    rw [loaded] at started
    cases built : Enforcer.build c store directory with
    | error fault =>
      dsimp only at started
      rw [built] at started
      cases started
    | ok e' =>
      dsimp only at started
      rw [built] at started
      cases started
      obtain ⟨-, -, rfl⟩ := Enforcer.build_eq_ok.mp built
      exact ⟨rfl, built⟩

namespace Audit

/-- The findings that refuse a configuration. -/
def errors (findings : List Finding) : List Finding := findings.filter fun f => f.severity == .error

theorem hasErrors_iff (findings : List Finding) : hasErrors findings = true ↔ errors findings ≠ [] := by
  rw [hasErrors, errors, Ne, List.filter_eq_nil_iff, List.any_eq_true]
  simp

/-! ## Which checks refuse -/

theorem errors_append (fs gs : List Finding) : errors (fs ++ gs) = errors fs ++ errors gs :=
  List.filter_append fs gs

theorem errors_eq_nil {fs : List Finding} (harmless : ∀ f ∈ fs, f.severity ≠ .error) : errors fs = [] := by
  rw [errors, List.filter_eq_nil_iff]
  intro f found
  simpa using harmless f found

theorem eq_of_mem_ite {p : Prop} [Decidable p] {f g : Finding} (found : f ∈ if p then [g] else []) :
    f = g := by
  split at found
  · exact List.mem_singleton.mp found
  · cases found

theorem errors_denyPredicate : errors (denyPredicate c) = denyPredicate c := by
  rw [denyPredicate]
  split <;> rfl

theorem severity_denyPredicate {f : Finding} (found : f ∈ denyPredicate c) : f.severity = .error := by
  rw [denyPredicate] at found
  split at found
  · cases found
  · rw [List.mem_singleton.mp found]
    rfl

theorem severity_idleRules {f : Finding} (found : f ∈ idleRules c) : f.severity = .warning := by
  rw [idleRules, List.mem_append, List.mem_flatMap] at found
  obtain none | ⟨⟨id, r⟩, -, asked⟩ := found
  · rw [eq_of_mem_ite none]
    rfl
  · change f ∈ notEnabled c id r at asked
    rw [notEnabled, List.mem_append] at asked
    obtain tenant | data := asked
    · rw [eq_of_mem_ite tenant]
      rfl
    · rw [eq_of_mem_ite data]
      rfl

theorem severity_sharedTables {f : Finding} (found : f ∈ sharedTables c) : f.severity = .warning := by
  obtain ⟨table, -, rfl⟩ := List.mem_map.mp found
  rfl

theorem severity_overridingRules {f : Finding} (found : f ∈ overridingRules c) : f.severity = .info := by
  obtain ⟨⟨id, r⟩, -, nearest⟩ := List.mem_filterMap.mp found
  obtain ⟨namespaceId, -, rfl⟩ := Option.map_eq_some_iff.mp nearest
  rfl

theorem errors_idleRules : errors (idleRules c) = [] :=
  errors_eq_nil fun f found => by simp [severity_idleRules found]

theorem errors_sharedTables : errors (sharedTables c) = [] :=
  errors_eq_nil fun f found => by simp [severity_sharedTables found]

theorem errors_overridingRules : errors (overridingRules c) = [] :=
  errors_eq_nil fun f found => by simp [severity_overridingRules found]

/-- Of what loads, only the condition that denies all can be refused. -/
theorem errors_ofConfig (c : Config) : errors (ofConfig c) = denyPredicate c := by
  rw [ofConfig, errors_append, errors_append, errors_append, errors_denyPredicate, errors_idleRules,
    errors_sharedTables, errors_overridingRules, List.append_nil, List.append_nil, List.append_nil]

/-! ## Starting up -/

/-- An audit finds at most one error, and that is the one that starting up fails with. -/
theorem errors_startUp (files : Files) (path : String) (store : Store σ) (directory : Directory) :
    (errors (ofFile files path)).map (·.message) = match startUp files path store directory with
      | .error message => [message]
      | .ok _ => [] := by
  rw [ofFile, startUp]
  cases loaded : Config.load files path with
  | error reason => rfl
  | ok c =>
    dsimp only
    rw [errors_ofConfig, denyPredicate, Enforcer.build_valid (Config.load_valid loaded)]
    split <;> rfl

theorem startUp_error_iff {store : Store σ} {directory : Directory} :
    (∃ message, startUp files path store directory = .error message) ↔
      (∃ reason, Config.load files path = .error reason) ∨
        ∃ c fault, Config.load files path = .ok c ∧ Enforcer.build c store directory = .error fault := by
  rw [startUp]
  cases loaded : Config.load files path with
  | error reason => simp
  | ok c =>
    cases built : Enforcer.build c store directory with
    | error fault =>
      exact iff_of_true ⟨fault.message, congrArg (Except.mapError _) built⟩ (.inr ⟨c, fault, rfl, built⟩)
    | ok e =>
      refine iff_of_false ?_ ?_
      · rintro ⟨message, failed⟩
        dsimp only at failed
        rw [built] at failed
        cases failed
      · rintro (⟨reason, failed⟩ | ⟨c', fault, same, refused⟩)
        · cases failed
        · cases same
          rw [built] at refused
          cases refused

/-- An audit has errors exactly if the configuration at the path does not load, or loads and is refused by the
enforcer. -/
theorem hasErrors_iff_refused (files : Files) (path : String) (store : Store σ) (directory : Directory) :
    hasErrors (ofFile files path) = true ↔
      (∃ reason, Config.load files path = .error reason) ∨
        ∃ c fault, Config.load files path = .ok c ∧ Enforcer.build c store directory = .error fault := by
  have messages := errors_startUp files path store directory
  rw [hasErrors_iff, ← startUp_error_iff, Ne, ← List.map_eq_nil_iff (f := fun f : Finding => f.message),
    messages]
  cases startUp files path store directory <;> simp

end Audit

end RowAccess
