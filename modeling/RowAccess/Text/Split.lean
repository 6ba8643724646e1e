/-!
# Cutting text at a character

Every function here works on the list of characters, so that what it keeps and what it drops can
be read off the list.
-/

namespace RowAccess.Text

/-- The pieces between the occurrences of `sep`; there is always at least one. -/
def splitChars (sep : Char) : List Char → List (List Char)
  | [] => [[]]
  | c :: cs =>
    if c = sep then [] :: splitChars sep cs
    else match splitChars sep cs with
      | [] => [[c]]
      | piece :: pieces => (c :: piece) :: pieces

/-- The pieces of a text between the occurrences of `sep`. -/
def splitOn (sep : Char) (s : String) : List String :=
  (splitChars sep s.toList).map String.ofList

/-- What stands before and after the first `sep`, if there is one. -/
def cutFirst? (sep : Char) : List Char → Option (List Char × List Char)
  | [] => none
  | c :: cs =>
    if c = sep then some ([], cs)
    else (cutFirst? sep cs).map fun (before, after) => (c :: before, after)

/-- What stands before and after the last `sep`, if there is one. -/
def cutLast? (sep : Char) : List Char → Option (List Char × List Char)
  | [] => none
  | c :: cs =>
    match cutLast? sep cs with
    | some (before, after) => some (c :: before, after)
    | none => if c = sep then some ([], cs) else none

/-- What stands after the last `sep`; the whole text if there is none. -/
def afterLast (sep : Char) (s : String) : String :=
  match cutLast? sep s.toList with
  | some (_, after) => String.ofList after
  | none => s

/-- The text after `start`, if the text begins with it. -/
def after? (start s : String) : Option String :=
  if start.toList.isPrefixOf s.toList then some (String.ofList (s.toList.drop start.length))
  else none

/-- Whether `part` occurs somewhere in the text. -/
def occurs (part : List Char) : List Char → Bool
  | [] => part.isEmpty
  | c :: cs => part.isPrefixOf (c :: cs) || occurs part cs

/-- Whether the text contains `part`. -/
def contains (part s : String) : Bool := occurs part.toList s.toList

end RowAccess.Text
