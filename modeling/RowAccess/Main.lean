import RowAccess.CommandLine
/-!
# The program

Reads the files that a command line asks for, carries it out, and writes what it answers.
-/

open RowAccess CommandLine

/-- How the program is called. -/
def usageText : String :=
  "Usage: rowguard [-c <CONFIG>] check\n" ++
  "       rowguard [-c <CONFIG>] explain <SQL> -o <OPERATION> [--command <COMMAND>]\n" ++
  "                [--user <ID>] [--tenant <ID>] [--dept <ID>] [--role <ROLE>]...\n" ++
  "                [--super-admin] [--dynamic-tenant <ID>] [--role-depts <DEPTS>]...\n" ++
  "                [--dept-parent <EDGE>]... [--json]"

/-- What a path leads to. -/
def look (path : String) : IO (Option FileEntry) := do
  try
    return some (.text (← IO.FS.readFile path))
  catch
    | .noFileOrDirectory .. => return none
    | _ => return some .unreadable

/-- The files that the configuration at a path needs: itself, and the one it refers to. -/
def readFiles (path : String) : IO Files := do
  let first ← look path
  let second? := match first with
    | some (.text text) => (Config.ofYaml? text).bind fun c => Config.tenancyPath? c path
    | _ => none
  match second? with
  | none => return fun p => if p = path then first else none
  | some other =>
    let second ← look other
    return fun p => if p = path then first else if p = other then second else none

/-- Answers a command line that is not carried out. -/
def explainUsage : Usage → IO UInt32
  | .help => do IO.println usageText; return 0
  | .version => do IO.println "rowguard 0.1.0"; return 0
  | _ => do IO.eprintln usageText; return 2

def main (args : List String) : IO UInt32 := do
  match CommandLine.parse args with
  | .error u => explainUsage u
  | .ok i =>
    let o := run (← readFiles i.config) i
    IO.print o.text
    match o.errors with
    | [] => return 0
    | error :: causes => do
      IO.eprintln ("Error: " ++ error)
      for cause in causes do
        IO.eprintln ("Caused by: " ++ cause)
      return 1
