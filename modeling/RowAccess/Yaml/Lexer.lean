import RowAccess.Yaml.Tag
/-!
# Cutting a YAML text into tokens

A collection without brackets starts where a line is indented further than the collection around it,
and ends where a line is indented less. That a scalar is a key shows only at the colon after it, so
the places where a key may have started are remembered.
-/

namespace RowAccess.Yaml

/-- Where a key may have started. -/
structure KeyStart where
  /-- Whether nothing but a key may start there. -/
  required : Bool
  /-- How many tokens stand before it. -/
  tokens : Nat
  place : Place
deriving Repr, Inhabited

/-- What has been read of a text. -/
structure Lexer where
  /-- The tokens, the last one first. -/
  tokens : List Token
  /-- The columns of the open collections without brackets, the innermost first. -/
  columns : List Nat
  /-- Whether a key may start here without a sign. -/
  keyAllowed : Bool
  /-- Where a key may have started, outside of all brackets. -/
  outerKey : Option KeyStart
  /-- The same within each open bracket, the innermost first. -/
  innerKeys : List (Option KeyStart)

namespace Lexer

/-- At the start of a text. -/
def start : Lexer := ⟨[], [], true, none, []⟩

/-- Whether a bracket is open. -/
def inFlow (l : Lexer) : Bool := !l.innerKeys.isEmpty

/-- The first column that lies within the innermost collection without brackets. -/
def margin (l : Lexer) : Nat :=
  match l.columns with
  | [] => 0
  | column :: _ => column + 1

/-- With a token more. -/
def push (l : Lexer) (t : Token) : Lexer := { l with tokens := t :: l.tokens }

/-- With a token after the first `n` ones. -/
def insert (l : Lexer) (n : Nat) (t : Token) : Lexer :=
  let newer := l.tokens.length - n
  { l with tokens := l.tokens.take newer ++ t :: l.tokens.drop newer }

/-- Where the innermost key may have started. -/
def key? (l : Lexer) : Option KeyStart :=
  match l.innerKeys with
  | [] => l.outerKey
  | key :: _ => key

/-- The innermost key replaced. -/
def setKey (l : Lexer) (key : Option KeyStart) : Lexer :=
  match l.innerKeys with
  | [] => { l with outerKey := key }
  | _ :: keys => { l with innerKeys := key :: keys }

/-- A key that can no longer be completed is forgotten, unless it is required. A key lies in one line
and has at most 1024 characters. -/
def keepKey (p : Place) : Option KeyStart → Option (Option KeyStart)
  | none => some none
  | some key =>
    if key.place.line < p.line || key.place.column + 1024 < p.column then
      if key.required then none else some none
    else some (some key)

/-- Forgets all keys that can no longer be completed. -/
def dropStaleKeys (l : Lexer) (p : Place) : Option Lexer := do
  return { l with outerKey := ← keepKey p l.outerKey, innerKeys := ← l.innerKeys.mapM (keepKey p) }

/-- Forgets the innermost key, which must not be required. -/
def dropKey (l : Lexer) : Option Lexer :=
  if l.key?.any (·.required) then none else some (l.setKey none)

/-- Remembers that a key may start here. -/
def saveKey (l : Lexer) (p : Place) : Option Lexer :=
  if l.keyAllowed then do
    let required := !l.inFlow && l.margin == p.column + 1
    return (← l.dropKey).setKey (some ⟨required, l.tokens.length, p⟩)
  else some l

/-- Starts a collection at a column, after the first `n` tokens, if the column lies within the
innermost one. -/
def enter (l : Lexer) (column n : Nat) (t : Token) : Lexer :=
  if !l.inFlow && l.margin ≤ column then { l.insert n t with columns := column :: l.columns } else l

/-- Ends the collections whose columns do not satisfy `stays`. -/
def leaveUntil (stays : Nat → Bool) (tokens : List Token) : List Nat → List Token × List Nat
  | [] => (tokens, [])
  | column :: columns =>
    if stays column then (tokens, column :: columns)
    else leaveUntil stays (.blockEnd :: tokens) columns

/-- Ends the collections that start further right than a column. -/
def leave (l : Lexer) (column : Nat) : Lexer :=
  if l.inFlow then l
  else
    let (tokens, columns) := leaveUntil (fun c => c ≤ column) l.tokens l.columns
    { l with tokens, columns }

/-- Ends all collections without brackets. -/
def leaveAll (l : Lexer) : Lexer :=
  if l.inFlow then l
  else
    let (tokens, columns) := leaveUntil (fun _ => false) l.tokens l.columns
    { l with tokens, columns }

/-- The cursor at the next token, after blanks, comments and ends of lines. A tab is a blank only where
no key may start. -/
def skipSpacing (l : Lexer) (p : Place) : List Char → Lexer × Cursor
  | [] => (l, ⟨p, []⟩)
  | c :: cs =>
    if c == ' ' || (c == '\t' && (l.inFlow || !l.keyAllowed)) then skipSpacing l (p.after c) cs
    else if c == '#' then skipComment l p (c :: cs)
    else if isBreak c then
      skipSpacing (if l.inFlow then l else { l with keyAllowed := true }) (p.after c) cs
    else (l, ⟨p, c :: cs⟩)
where
  /-- The cursor at the next token after a comment. -/
  skipComment (l : Lexer) (p : Place) : List Char → Lexer × Cursor
    | [] => (l, ⟨p, []⟩)
    | c :: cs =>
      if isBreak c then
        skipSpacing (if l.inFlow then l else { l with keyAllowed := true }) (p.after c) cs
      else skipComment l (p.after c) cs

/-! ## The tokens -/

/-- A token that starts a line of its own and ends all collections. -/
def mark (l : Lexer) (t : Token) : Option Lexer := do
  let l ← l.leaveAll.dropKey
  return { l.push t with keyAllowed := false }

/-- An opening bracket. -/
def openFlow (l : Lexer) (p : Place) (t : Token) : Option Lexer := do
  let l ← l.saveKey p
  return { l.push t with innerKeys := none :: l.innerKeys, keyAllowed := true }

/-- A closing bracket. -/
def closeFlow (l : Lexer) (t : Token) : Option Lexer := do
  let l ← l.dropKey
  return { l.push t with innerKeys := l.innerKeys.tail, keyAllowed := false }

/-- A comma. -/
def comma (l : Lexer) : Option Lexer := do
  let l ← l.dropKey
  return { l.push .comma with keyAllowed := true }

/-- A dash before an entry of a sequence. -/
def entry (l : Lexer) (p : Place) : Option Lexer := do
  if !l.inFlow && !l.keyAllowed then none
  let l ← (l.enter p.column l.tokens.length .blockSequence).dropKey
  return { l.push .entry with keyAllowed := true }

/-- A question mark before a key. -/
def keySign (l : Lexer) (p : Place) : Option Lexer := do
  if !l.inFlow && !l.keyAllowed then none
  let l ← (l.enter p.column l.tokens.length .blockMapping).dropKey
  return { l.push .key with keyAllowed := !l.inFlow }

/-- A colon before a value, whose key may have started before. -/
def valueSign (l : Lexer) (p : Place) : Option Lexer :=
  match l.key? with
  | some key =>
    let l := (l.insert key.tokens .key).enter key.place.column key.tokens .blockMapping
    some { (l.setKey none).push .value with keyAllowed := false }
  | none => do
    if !l.inFlow && !l.keyAllowed then none
    let l := l.enter p.column l.tokens.length .blockMapping
    return { l.push .value with keyAllowed := !l.inFlow }

/-- A token that may be a key or belong to one. -/
def keyPart (l : Lexer) (p : Place) (t : Token) : Option Lexer := do
  let l ← l.saveKey p
  return { l.push t with keyAllowed := false }

/-- Whether a plain scalar may start with a character that is followed by `cs`. -/
def startsPlain (flow : Bool) (c : Char) (cs : List Char) : Bool :=
  if c == '-' then !cs.head?.any isBlank
  else if c == '?' || c == ':' then !flow && !endsWord cs
  else !("?:,[]\x7b\x7d#&*!|>'\"%@\x60-".toList.contains c || isSpacing c)

/-- Reads a token at the cursor, which is at the character `c` before `cs`. -/
def token (l : Lexer) (p : Place) (c : Char) (cs : List Char) : Option (Lexer × Cursor) :=
  let here : Cursor := ⟨p, c :: cs⟩
  let next : Cursor := here.right 1
  let flow := l.inFlow
  let sign := flow || endsWord cs
  if p.column == 0 && c == '%' then do
    let (t, after) ← readDirective next
    return (← l.mark t, after)
  else if p.column == 0 && marksDocument (c :: cs) then do
    return (← l.mark (if c == '-' then .documentStart else .documentEnd), here.right 3)
  else if c == '[' then (l.openFlow p .flowSequence).map (·, next)
  else if c == '\x7b' then (l.openFlow p .flowMapping).map (·, next)
  else if c == ']' then (l.closeFlow .flowSequenceEnd).map (·, next)
  else if c == '\x7d' then (l.closeFlow .flowMappingEnd).map (·, next)
  else if c == ',' then l.comma.map (·, next)
  else if c == '-' && endsWord cs then (l.entry p).map (·, next)
  else if c == '?' && sign then (l.keySign p).map (·, next)
  else if c == ':' && sign then (l.valueSign p).map (·, next)
  else if c == '*' then do
    let (name, after) ← readAnchor next
    return (← l.keyPart p (.reference name), after)
  else if c == '&' then do
    let (name, after) ← readAnchor next
    return (← l.keyPart p (.anchor name), after)
  else if c == '!' then do
    let (t, after) ← readTag flow here
    return (← l.keyPart p t, after)
  else if (c == '|' || c == '>') && !flow then do
    let l ← l.dropKey
    let literal := c == '|'
    let (text, after) ← readBlock literal l.columns.head? next
    let style := if literal then .literal else .folded
    return ({ l.push (.scalar style (String.ofList text)) with keyAllowed := true }, after)
  else if c == '\'' then do
    let (text, after) ← readSingle [] .none next.place next.rest
    return (← l.keyPart p (.scalar .quoted (String.ofList text)), after)
  else if c == '"' then do
    let (text, after) ← readDouble [] .none next.place next.rest
    return (← l.keyPart p (.scalar .quoted (String.ofList text)), after)
  else if startsPlain flow c cs then do
    let s ← readPlain flow l.margin [] .none p (c :: cs)
    let l ← l.keyPart p (.scalar .plain (String.ofList s.text))
    return ({ l with keyAllowed := s.broken }, s.after)
  else none

/-- Reads the tokens from a cursor to the end of the text. -/
def run (l : Lexer) (c : Cursor) : Option (List Token) := do
  let (l, c') := l.skipSpacing c.place c.rest
  let l ← l.dropStaleKeys c'.place
  match c'.rest with
  | [] => do
    let l ← (l.leaveAll).dropKey
    return l.tokens.reverse
  | x :: xs =>
    let (l, after) ← (l.leave c'.place.column).token c'.place x xs
    if after.rest.length < c.rest.length then run l after else none
termination_by c.rest.length

end Lexer

/-- The tokens of a text, if it can be cut into tokens. A byte order mark in front is ignored. -/
def tokens? (text : String) : Option (List Token) :=
  let cs := match text.toList with
    | '\ufeff' :: cs => cs
    | cs => cs
  if cs.all isAllowed then
    let cs := uniformBreaks cs
    Lexer.start.run (match cs with
      | '\ufeff' :: rest => ⟨⟨0, 1⟩, rest⟩
      | _ => ⟨⟨0, 0⟩, cs⟩)
  else none

end RowAccess.Yaml
