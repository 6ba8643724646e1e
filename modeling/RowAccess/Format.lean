/-!
# Records in data formats

Configurations and callers are read from data formats that differ in what they take for a text, a
truth value or an absent value. A `Format` says this for one of them; how records are made of fields
is the same for all.
-/

namespace RowAccess

/-- How the values of a data format are read. Each reading may fail. -/
structure Format (ν : Type) where
  /-- A text. -/
  text? : ν → Option String
  /-- A truth value. -/
  truth? : ν → Option Bool
  /-- The name of one of several alternatives. -/
  choice? : ν → Option String
  /-- A value that may be absent: the value, if it is there. -/
  optional? : ν → Option (Option ν)
  /-- A list of values. -/
  list? : ν → Option (List ν)
  /-- Values by texts, in the order in which they are written. -/
  entries? : ν → Option (List (String × ν))
  /-- The values of fields, whose names are given in their order. -/
  fields? : List String → ν → Option (List (String × ν))

namespace Format

variable {ν α : Type}

/-- An optional value. -/
def maybe? (f : Format ν) (read : ν → Option α) (v : ν) : Option (Option α) := do
  (← f.optional? v).mapM read

/-- A list of values, each read in the same way. -/
def listOf? (f : Format ν) (read : ν → Option α) (v : ν) : Option (List α) := do
  (← f.list? v).mapM read

/-- One of several alternatives, found by its name. -/
def choiceOf? (f : Format ν) (named : String → Option α) (v : ν) : Option α := do
  named (← f.choice? v)

/-- Puts a value under a key into a list ordered by keys, in place of the one that was there. -/
def insertOrdered (key : String) (value : α) : List (String × α) → List (String × α)
  | [] => [(key, value)]
  | (k, v) :: rest =>
    if key = k then (key, value) :: rest
    else if key < k then (key, value) :: (k, v) :: rest
    else (k, v) :: insertOrdered key value rest

/-- Values by texts, in the order of the texts. Of two values for a text the last one counts. -/
def mapOf? (f : Format ν) (read : ν → Option α) (v : ν) : Option (List (String × α)) := do
  let entries ← (← f.entries? v).mapM fun (key, v) => do return (key, ← read v)
  return entries.foldl (fun map (key, value) => insertOrdered key value map) []

/-- The fields of a record. Fields of other names are ignored, and none may be given twice. -/
def record? (f : Format ν) (names : List String) (v : ν) : Option (List (String × ν)) := do
  let fields := (← f.fields? names v).filter fun (name, _) => names.contains name
  if (fields.map (·.1)).Nodup then return fields else none

/-- A field of a record, or what stands for it if it is missing. -/
def field? (fields : List (String × ν)) (name : String) (read : ν → Option α)
    (missing : Option α) : Option α :=
  match fields.lookup name with
  | some v => read v
  | none => missing

end Format

end RowAccess
