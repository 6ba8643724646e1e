import RowAccess.Audit
import RowAccess.CommandLine.Arguments
import RowAccess.Explain
/-!
# The command line

Two commands: `check` audits a configuration, and `explain` shows how a statement would be rewritten.
What they write is computed from the files that they read.
-/

namespace RowAccess.CommandLine

/-! ## Commands -/

/-- What is to be done. -/
inductive Task where
  /-- Audit the configuration. -/
  | check
  /-- Explain a rewrite, to a reader or as JSON. -/
  | explain (inquiry : Inquiry) (json : Bool)
deriving DecidableEq, Repr, Inhabited

/-- A command line that can be carried out. -/
structure Invocation where
  /-- The path of the configuration. -/
  config : String
  task : Task
deriving DecidableEq, Repr, Inhabited

/-- The path of the configuration, which may be given to each command and is not empty. -/
def configParameter : Parameter := ⟨"config", some 'c', .once, fun v => !v.isEmpty⟩

/-- What the program is given. -/
def programShape : Shape where
  parameters := [configParameter, .help, ⟨"version", some 'V', .version, fun _ => true⟩]
  positional := none
  commands := ["check", "explain", "help"]

/-- What `check` is given. -/
def checkShape : Shape := ⟨[configParameter, .help], none, []⟩

/-- What `explain` is given. -/
def explainShape : Shape where
  parameters := [
    configParameter, .help,
    ⟨"operation", some 'o', .once, fun _ => true⟩,
    ⟨"command", none, .once, fun v => (Command.ofName? v).isSome⟩,
    .once "user", .once "tenant", .once "dept", .many "role", .flag "super-admin",
    .once "dynamic-tenant", .many "role-depts", .many "dept-parent", .flag "json"]
  positional := some "sql"
  commands := []

/-- Reads all arguments of a command that has no commands within it. -/
def readAll (s : Shape) (args : List String) : Except Usage Given := do
  (← read s .none false args).1.settle

/-- Asks for help, or for that of a command. -/
def readHelp : List String → Usage
  | [] => .help
  | [name] => if programShape.commands.contains name then .help else .unknownCommand
  | _ => .unknownCommand

/-- The task of `explain`. -/
def explainTask (g : Given) : Except Usage Task :=
  match g.one? "sql", g.one? "operation" with
  | some sql, some operation =>
    .ok (.explain {
      sql, operation
      command := ((g.one? "command").bind Command.ofName?).getD .select
      user := g.one? "user"
      tenant := g.one? "tenant"
      dept := g.one? "dept"
      roles := g.all "role"
      superAdmin := g.has "super-admin"
      dynamicTenant := g.one? "dynamic-tenant"
      roleDepts := g.all "role-depts"
      deptParents := g.all "dept-parent" } (g.has "json"))
  | _, _ => .error .missingParameter

/-- The path of the configuration unless another one is given. -/
def defaultConfig : String := "rowguard.yaml"

/-- Reads a command line. A configuration that is given to the inner command counts before one that is
given to the program. -/
def parse (args : List String) : Except Usage Invocation := do
  let (outer, inner) ← read programShape .none false args
  match inner with
  | some (name, rest) =>
    if name = "help" then .error (readHelp rest)
    else
      let (given, task) ←
        if name = "check" then do pure (← readAll checkShape rest, Task.check)
        else do
          let given ← readAll explainShape rest
          pure (given, ← explainTask given)
      let outer ← outer.settle
      let config := (given.one? "config" <|> outer.one? "config").getD defaultConfig
      return ⟨config, task⟩
  | none =>
    let outer ← outer.settle
    .error (if outer.values.isEmpty then .nothing else .missingCommand)

/-! ## Carrying out -/

/-- What a command writes, and why it failed: the error and the errors behind it. -/
structure Outcome where
  lines : List String
  errors : List String
deriving DecidableEq, Repr, Inhabited

namespace Outcome

/-- A command that failed without writing anything. -/
def failed (errors : List String) : Outcome := ⟨[], errors⟩

/-- What a command writes, as a text. -/
def text (o : Outcome) : String := String.join (o.lines.map (· ++ "\n"))

end Outcome

/-- Audits the configuration at a path. -/
def check (files : Files) (path : String) : Outcome :=
  let findings := Audit.ofFile files path
  let lines := ("Checking rowguard configuration " ++ path ++ "...") :: "" :: Audit.report findings
  let errors := Audit.count findings .error
  if Audit.hasErrors findings then
    ⟨lines, ["Configuration check failed with " ++ toString errors ++ " error(s)"]⟩
  else ⟨lines, []⟩

/-- Answers an inquiry under the configuration at a path. -/
def explain (files : Files) (path : String) (q : Inquiry) (json : Bool) : Outcome :=
  match Config.load files path with
  | .error e => .failed ["Failed to load configuration from " ++ path, e.message]
  | .ok c =>
    match Explanation.of c q with
    | .error e => .failed [e.message]
    | .ok x => ⟨if json then [x.json] else x.lines, []⟩

/-- Carries out a command line over files. -/
def run (files : Files) (i : Invocation) : Outcome :=
  match i.task with
  | .check => check files i.config
  | .explain q json => explain files i.config q json

end RowAccess.CommandLine
