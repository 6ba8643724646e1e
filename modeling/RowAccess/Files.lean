import RowAccess.Path
/-!
# Files

What a program can read: what paths lead to. `FileTree` is a tree of files kept in memory.
-/

namespace RowAccess

/-- What a path leads to. -/
inductive FileEntry where
  /-- A file with a text. -/
  | text (content : String)
  /-- Something that cannot be read as a text, such as a directory. -/
  | unreadable
deriving DecidableEq, Repr, Inhabited

/-- What paths lead to, for those that lead anywhere. -/
abbrev Files := String → Option FileEntry

/-- Files kept in memory: the names on the way to each, and its text. -/
structure FileTree where
  files : List (List String × String)
deriving Repr, Inhabited

namespace FileTree

/-- The tree of files with the given paths. -/
def ofList (files : List (String × String)) : FileTree :=
  ⟨files.map fun (path, text) => ((Text.splitOn '/' path).filter (fun n => !Path.isIdle n), text)⟩

/-- Whether names lead to a directory. -/
def isDirectory (t : FileTree) (names : List String) : Bool :=
  names.isEmpty || t.files.any fun (path, _) => path.length > names.length && names.isPrefixOf path

/-- What names lead to. -/
def entry? (t : FileTree) (names : List String) : Option FileEntry :=
  match t.files.lookup names with
  | some text => some (.text text)
  | none => if t.isDirectory names then some .unreadable else none

/-- What the rest of a path leads to from a place outside of the tree. -/
def outside? (names : List String) : Option FileEntry :=
  if names.all fun n => Path.isIdle n || n == ".." then some .unreadable else none

/-- What the rest of a path leads to from the directory `here`. -/
def walk? (t : FileTree) (here : List String) : List String → Option FileEntry
  | [] => t.entry? here
  | name :: names =>
    if !t.isDirectory here then none
    else if Path.isIdle name then t.walk? here names
    else if name = ".." then
      if here.isEmpty then outside? names else t.walk? here.dropLast names
    else t.walk? (here ++ [name]) names

/-- What a path leads to from the top of the tree. -/
def look (t : FileTree) : Files := fun path =>
  if path.isEmpty then none
  else if Path.isAbsolute path then outside? (Text.splitOn '/' path)
  else t.walk? [] (Text.splitOn '/' path)

end FileTree

end RowAccess
