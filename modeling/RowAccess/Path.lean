import RowAccess.Text.Split
/-!
# Paths

A path is a text whose names are separated by slashes. It may lead to a file from where the program
runs, or from the root if it starts with a slash.
-/

namespace RowAccess.Path

/-- Whether a path starts at the root. -/
def isAbsolute (path : String) : Bool := path.toList.head? == some '/'

/-- A path taken from a directory, unless it starts at the root. -/
def join (base path : String) : String :=
  if isAbsolute path || base.isEmpty then path
  else if base.toList.getLast? == some '/' then base ++ path
  else base ++ "/" ++ path

/-- Whether a name between slashes leads nowhere else. -/
def isIdle (name : String) : Bool := name.isEmpty || name == "."

/-- The names without the last ones that lead nowhere else. -/
def dropIdle (names : List String) : List String := (names.reverse.dropWhile isIdle).reverse

/-- The beginning of a path that is not a name: the root, or the place where the program runs. -/
def start (path : String) : String :=
  match path.toList with
  | '/' :: _ => "/"
  | ['.'] => "."
  | '.' :: '/' :: _ => "."
  | _ => ""

/-- The directory that a path leads to a file in. -/
def parent (path : String) : String :=
  let start := start path
  let names := Text.splitOn '/' (String.ofList (path.toList.drop start.length))
  start ++ "/".intercalate (dropIdle (dropIdle names).dropLast)

end RowAccess.Path
