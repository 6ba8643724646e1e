import RowAccess.Yaml.Lexer
/-!
# Documents

A document is a tree of scalars, sequences and mappings. A node with an anchor can stand in other
places by an alias. Which type a scalar has is left to its reader.
-/

namespace RowAccess.Yaml

/-- A node of a document. -/
inductive Node where
  | scalar (tag : Option String) (style : Style) (text : String)
  | sequence (items : List Node)
  | mapping (entries : List (Node × Node))
  /-- In place of the node with the anchor of a number. -/
  | reference (anchor : Nat)
deriving Repr, Inhabited

/-- Where nothing is written. -/
def Node.empty : Node := .scalar none .plain ""

/-- A node that has an anchor. -/
structure Anchored where
  /-- The number of the anchor. -/
  anchor : Nat
  /-- How many anchored nodes start before this one. -/
  order : Nat
  node : Node
deriving Repr, Inhabited

/-- A document. -/
structure Document where
  root : Node
  anchored : List Anchored
deriving Repr, Inhabited

/-- The node that an alias stands for: of the nodes with the number of its anchor, the one that starts
last. -/
def Document.target? (d : Document) (anchor : Nat) : Option Node :=
  let mine := d.anchored.filter fun a => a.anchor == anchor
  (mine.foldl (fun best a => match best with
    | none => some a
    | some b => if b.order < a.order then some a else some b) none).map (·.node)

/-! ## Reading tokens -/

/-- What is left of the tokens, and what is known of names. -/
structure Reading where
  rest : List Token
  /-- What the handles of tags stand for. -/
  handles : List (String × String)
  /-- The numbers of anchors: how many names there were when a name was last given to a node. -/
  names : List (String × Nat)
  /-- How many nodes with an anchor have started. -/
  started : Nat
  anchored : List Anchored

/-- Reads a part of a document. -/
abbrev Reader := StateT Reading Option

namespace Reader

/-- The next token, which stays. -/
def peek : Reader (Option Token) := do return (← get).rest.head?

/-- Drops the next token. -/
def advance : Reader Unit := modify fun r => { r with rest := r.rest.tail }

/-- Whether the next token is one of those given. -/
def at? (tokens : List Token) : Reader Bool := do
  match ← peek with
  | some t => return tokens.contains t
  | none => return false

/-- The next token, which must be the one given, is dropped. -/
def expect (t : Token) : Reader Unit := do
  if ← at? [t] then advance else failure

/-- The full text of a tag. -/
def tagText (handle suffix : String) : Reader String := do
  if handle.isEmpty then return suffix
  match (← get).handles.lookup handle with
  | some meaning => return meaning ++ suffix
  | none => failure

/-- The number of an anchor that has been given to a node. -/
def anchorNumber (name : String) : Reader Nat := do
  match (← get).names.lookup name with
  | some n => return n
  | none => failure

/-- Gives an anchor to a node that starts here: its number, and how many such nodes started before. -/
def giveAnchor (name : String) : Reader (Nat × Nat) := do
  let r ← get
  let number := r.names.length
  let names := (name, number) :: r.names.filter fun n => n.1 != name
  set { r with names, started := r.started + 1 }
  return (number, r.started)

/-- Remembers a node that has an anchor. -/
def remember (given : Option (Nat × Nat)) (node : Node) : Reader Unit :=
  match given with
  | none => pure ()
  | some (anchor, order) => modify fun r => { r with anchored := ⟨anchor, order, node⟩ :: r.anchored }

/-- The anchor in front of a node, if there is one. -/
def anchor? : Reader (Option String) := do
  match ← peek with
  | some (.anchor name) => do advance; return some name
  | _ => return none

/-- The tag in front of a node, if there is one. -/
def tag? : Reader (Option String) := do
  match ← peek with
  | some (.tag handle suffix) => do advance; return some (← tagText handle suffix)
  | _ => return none

/-- The anchor and the tag in front of a node, in any order. -/
def properties : Reader (Option String × Option String) := do
  match ← anchor? with
  | some name => return (some name, ← tag?)
  | none => do
    let tag ← tag?
    let anchor ← if tag.isSome then anchor? else pure none
    return (anchor, tag)

/-! ## Nodes -/

/-- An empty node, which there is only after an anchor or a tag. -/
def nothing (tag anchor : Option String) : Reader Node :=
  if tag.isSome || anchor.isSome then pure (.scalar tag .plain "") else failure

/-- A node as `node` reads it, or an empty one before one of the tokens given. -/
def nodeUnless (ends : List Token) (node : Reader Node) : Reader Node := do
  if ← at? ends then return Node.empty else node

/-- A single entry of a mapping, written without braces in a sequence. -/
def flowPair (node : Reader Node) : Reader (Node × Node) := do
  let key ← if ← at? [.value, .comma, .flowSequenceEnd] then do
      advance
      pure Node.empty
    else node
  let value ← if ← at? [.value] then do
      advance
      nodeUnless [.comma, .flowSequenceEnd] node
    else pure Node.empty
  return (key, value)

mutual

/-- A node. Within brackets only what needs no indentation is one, and only as a value of a mapping a
sequence need not be indented. -/
def node (block flat : Bool) : (fuel : Nat) → Reader Node
  | 0 => failure
  | fuel + 1 => do
    match ← peek with
    | some (.reference name) => do
      advance
      return .reference (← anchorNumber name)
    | _ => do
      let (anchor, tag) ← properties
      let given ← anchor.mapM giveAnchor
      let made ← match ← peek with
        | some (.scalar style text) => do
          advance
          pure (Node.scalar tag style text)
        | some .flowSequence => do
          advance
          pure (.sequence (← flowItems true fuel))
        | some .flowMapping => do
          advance
          pure (.mapping (← flowEntries true fuel))
        | some .entry =>
          if flat then do pure (.sequence (← flatItems fuel))
          else nothing tag anchor
        | some .blockSequence =>
          if block then do
            advance
            pure (.sequence (← blockItems fuel))
          else nothing tag anchor
        | some .blockMapping =>
          if block then do
            advance
            pure (.mapping (← blockEntries fuel))
          else nothing tag anchor
        | _ => nothing tag anchor
      remember given made
      return made

/-- The items of an indented sequence. -/
def blockItems : (fuel : Nat) → Reader (List Node)
  | 0 => failure
  | fuel + 1 => do
    if ← at? [.blockEnd] then
      advance
      return []
    expect .entry
    let item ← nodeUnless [.entry, .blockEnd] (node true false fuel)
    return item :: (← blockItems fuel)

/-- The items of a sequence that is not indented. -/
def flatItems : (fuel : Nat) → Reader (List Node)
  | 0 => failure
  | fuel + 1 => do
    if ← at? [.entry] then
      advance
      let item ← nodeUnless [.entry, .key, .value, .blockEnd] (node true false fuel)
      return item :: (← flatItems fuel)
    else return []

/-- The entries of an indented mapping. -/
def blockEntries : (fuel : Nat) → Reader (List (Node × Node))
  | 0 => failure
  | fuel + 1 => do
    if ← at? [.blockEnd] then
      advance
      return []
    expect .key
    let key ← nodeUnless [.key, .value, .blockEnd] (node true true fuel)
    let value ← if ← at? [.value] then do
        advance
        nodeUnless [.key, .value, .blockEnd] (node true true fuel)
      else pure Node.empty
    return (key, value) :: (← blockEntries fuel)

/-- The items of a sequence in brackets, each but the first one after a comma. -/
def flowItems (first : Bool) : (fuel : Nat) → Reader (List Node)
  | 0 => failure
  | fuel + 1 => do
    if ← at? [.flowSequenceEnd] then
      advance
      return []
    if !first then expect .comma
    if ← at? [.flowSequenceEnd] then
      advance
      return []
    let item ← if ← at? [.key] then do
        advance
        pure (Node.mapping [← flowPair (node false false fuel)])
      else node false false fuel
    return item :: (← flowItems false fuel)

/-- The entries of a mapping in braces, each but the first one after a comma. -/
def flowEntries (first : Bool) : (fuel : Nat) → Reader (List (Node × Node))
  | 0 => failure
  | fuel + 1 => do
    if ← at? [.flowMappingEnd] then
      advance
      return []
    if !first then expect .comma
    if ← at? [.flowMappingEnd] then
      advance
      return []
    let entry ← if ← at? [.key] then do
        advance
        let key ← nodeUnless [.value, .comma, .flowMappingEnd] (node false false fuel)
        let value ← if ← at? [.value] then do
            advance
            nodeUnless [.comma, .flowMappingEnd] (node false false fuel)
          else pure Node.empty
        pure (key, value)
      else do
        pure (← node false false fuel, Node.empty)
    return entry :: (← flowEntries false fuel)

end

/-! ## Documents -/

/-- What handles of tags stand for unless a directive says otherwise. -/
def standardHandles : List (String × String) := [("!", "!"), ("!!", "tag:yaml.org,2002:")]

/-- Reads the directives of a document. A version may be given once, and each handle once. -/
def directives (versioned : Bool) (handles : List (String × String)) :
    List Token → Option (List (String × String) × Bool × List Token)
  | .version major minor :: rest =>
    if !versioned && major == 1 && (minor == 1 || minor == 2) then directives true handles rest
    else none
  | .handle name meaning :: rest =>
    if (handles.lookup name).isSome then none
    else directives versioned (handles ++ [(name, meaning)]) rest
  | rest => some (handles, versioned || !handles.isEmpty, rest)

/-- Reads the only document of a text. -/
def document (fuel : Nat) : Reader Node := do
  let (handles, directed, rest) ← directives false [] (← get).rest
  set { (← get) with handles := handles ++ standardHandles, rest }
  if rest.isEmpty && !directed then return Node.empty
  let root ← if directed || (← at? [.documentStart]) then do
      expect .documentStart
      match ← peek with
      | none | some .documentEnd => pure Node.empty
      | _ => node true false fuel
    else node true false fuel
  modify fun r => { r with rest := r.rest.dropWhile (· == .documentEnd) }
  if (← peek).isSome then failure
  return root

end Reader

/-- The document that a text holds, if it holds a single one. An empty text holds an empty node. -/
def Document.ofText? (text : String) : Option Document := do
  let tokens ← tokens? text
  let (root, r) ← (Reader.document (2 * tokens.length + 2)).run ⟨tokens, [], [], 0, []⟩
  return ⟨root, r.anchored⟩

end RowAccess.Yaml
