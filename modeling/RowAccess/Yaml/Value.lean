import RowAccess.Format
import RowAccess.Yaml.Node
/-!
# Values in a document

How the nodes of a document are read. A scalar is what its reader takes it for: every scalar is a text,
and an empty one that is not quoted stands for an absent value, an empty list or a record without
fields.
-/

namespace RowAccess.Yaml

/-- The tag of truth values. -/
def truthTag : String := "tag:yaml.org,2002:bool"

/-- The tag of the absent value. -/
def nullTag : String := "tag:yaml.org,2002:null"

/-- Whether a text means an absent value. -/
def isNullWord (text : String) : Bool := ["null", "Null", "NULL", "~"].contains text

/-- The truth value that a text means. -/
def truthOfWord? (text : String) : Option Bool :=
  if ["true", "True", "TRUE"].contains text then some true
  else if ["false", "False", "FALSE"].contains text then some false
  else none

/-- The name in a tag of the document's own. -/
def ownTag? (tag : Option String) : Option String :=
  match tag.map (·.toList) with
  | some ['!'] => some "!"
  | some ('!' :: name) => some (String.ofList name)
  | _ => none

namespace Document

/-- A node, or the one that it is an alias for. -/
def resolve (d : Document) : Node → Option Node
  | .reference anchor => d.target? anchor
  | n => some n

/-- The text of a scalar. -/
def text? (d : Document) (n : Node) : Option String :=
  match d.resolve n with
  | some (.scalar _ _ text) => some text
  | _ => none

/-- A truth value: a plain scalar, or a literal block that is tagged as one. -/
def truth? (d : Document) (n : Node) : Option Bool :=
  match d.resolve n with
  | some (.scalar tag style text) =>
    if style = .plain || (style = .literal && tag = some truthTag) then truthOfWord? text else none
  | _ => none

/-- The name of an alternative: a tag of the document's own without a value, or else a text. -/
def choice? (d : Document) (n : Node) : Option String :=
  match d.resolve n with
  | some (.scalar tag style text) =>
    match ownTag? tag with
    | some name =>
      if style = .plain && (text.isEmpty || isNullWord text) then some name else none
    | none => some text
  | _ => none

/-- A value unless it is absent. -/
def optional? (d : Document) (n : Node) : Option (Option Node) :=
  match d.resolve n with
  | some (.scalar tag style text) =>
    let n := Node.scalar tag style text
    if style ≠ .plain then some (some n)
    else match tag with
      | some tag =>
        if tag = nullTag then (if isNullWord text then some none else none) else some (some n)
      | none => some (if text.isEmpty || isNullWord text then none else some n)
  | other => other.map some

/-- The items of a sequence. -/
def list? (d : Document) (n : Node) : Option (List Node) :=
  match d.resolve n with
  | some (.sequence items) => some items
  | some (.scalar _ .plain "") => some []
  | _ => none

/-- The entries of a mapping whose keys are scalars. -/
def entries? (d : Document) (n : Node) : Option (List (String × Node)) :=
  match d.resolve n with
  | some (.mapping entries) => entries.mapM fun (key, value) => (d.text? key).map (·, value)
  | some (.scalar _ .plain "") => some []
  | _ => none

/-- How the nodes of a document are read. -/
def format (d : Document) : Format Node where
  text? := d.text?
  truth? := d.truth?
  choice? := d.choice?
  optional? := d.optional?
  list? := d.list?
  entries? := d.entries?
  fields? := fun _ => d.entries?

end Document

/-- The value that a text holds. -/
def read? {α : Type} (decode : Format Node → Node → Option α) (text : String) : Option α := do
  let d ← Document.ofText? text
  decode d.format d.root

end RowAccess.Yaml
