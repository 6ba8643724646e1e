import RowAccess.Yaml.Place
/-!
# Scalars

A scalar is written plain, in quotes, or as an indented block. Where a plain or a quoted scalar goes
on in another line, the break between the lines is folded into a space; more breaks are kept but for
the first. A block keeps its breaks, or folds those between lines that are not indented further.
-/

namespace RowAccess.Yaml

/-! ## Folding -/

/-- The separators between two words of a scalar. -/
structure Gap where
  /-- The blanks, as long as the line is not left. -/
  blanks : List Char
  /-- Whether the line was left. -/
  broken : Bool
  /-- The first break, unless it was escaped. -/
  first : Option Char
  further : List Char
deriving Repr, Inhabited

namespace Gap

/-- No separators. -/
def none : Gap := ⟨[], false, .none, []⟩

/-- An escaped end of a line. -/
def escaped : Gap := ⟨[], true, .none, []⟩

/-- Whether nothing separates. -/
def isEmpty (g : Gap) : Bool := !g.broken && g.blanks.isEmpty

/-- The gap with a separator more. Blanks of all lines but the first do not count. -/
def add (g : Gap) (c : Char) : Gap :=
  if isBreak c then
    if g.broken then { g with further := g.further ++ [c] } else ⟨[], true, some c, []⟩
  else if g.broken then g
  else { g with blanks := g.blanks ++ [c] }

/-- What a gap stands for between two words. -/
def text (g : Gap) : List Char :=
  if !g.broken then g.blanks
  else match g.first with
    | some '\n' => if g.further.isEmpty then [' '] else g.further
    | some c => c :: g.further
    | .none => g.further

end Gap

/-! ## Plain scalars -/

/-- Characters of collections in brackets. -/
def isFlowSign (c : Char) : Bool := c == ',' || c == '[' || c == ']' || c == '\x7b' || c == '\x7d'

/-- A plain scalar that has been read. -/
structure PlainScalar where
  text : List Char
  after : Cursor
  /-- Whether the line was left after its last word. -/
  broken : Bool

/-- Reads on in a plain scalar of which `text` and then `gap` have been read. In a block it lasts as
long as its lines are indented to the column `margin`; in brackets, `flow`, it ends at their
signs. -/
def readPlain (flow : Bool) (margin : Nat) (text : List Char) (gap : Gap) (p : Place) :
    List Char → Option PlainScalar
  | [] => some ⟨text, ⟨p, []⟩, gap.broken⟩
  | c :: cs =>
    if isSpacing c then
      if c == '\t' && gap.broken && p.column < margin then none
      else readPlain flow margin text (gap.add c) (p.after c) cs
    else if !gap.isEmpty && ((!flow && p.column < margin) || c == '#' ||
        (p.column == 0 && marksDocument (c :: cs))) then
      some ⟨text, ⟨p, c :: cs⟩, gap.broken⟩
    else if flow && c == ':' && cs.head?.any (fun d => d == '?' || isFlowSign d) then none
    else if (c == ':' && endsWord cs) || (flow && isFlowSign c) then
      some ⟨text, ⟨p, c :: cs⟩, gap.broken⟩
    else readPlain flow margin (text ++ gap.text ++ [c]) .none (p.after c) cs

/-! ## Quoted scalars -/

/-- Reads on in a scalar in single quotes, inside of which a quote is written twice. -/
def readSingle (text : List Char) (gap : Gap) (p : Place) : List Char → Option (List Char × Cursor)
  | [] => none
  | c :: cs =>
    if isSpacing c then readSingle text (gap.add c) (p.after c) cs
    else if p.column == 0 && marksDocument (c :: cs) then none
    else if c == '\'' then
      match cs with
      | '\'' :: cs => readSingle (text ++ gap.text ++ ['\'']) .none (p.right 2) cs
      | _ => some (text ++ gap.text, ⟨p.right 1, cs⟩)
    else readSingle (text ++ gap.text ++ [c]) .none (p.right 1) cs

/-- The value of a hexadecimal digit. -/
def hexDigit? (c : Char) : Option Nat :=
  if c.isDigit then some (c.toNat - '0'.toNat)
  else if 'a' ≤ c && c ≤ 'f' then some (c.toNat - 'a'.toNat + 10)
  else if 'A' ≤ c && c ≤ 'F' then some (c.toNat - 'A'.toNat + 10)
  else none

/-- The number that a run of hexadecimal digits means. -/
def hexNumber? (digits : List Char) : Option Nat :=
  digits.foldlM (fun n c => (hexDigit? c).map (16 * n + ·)) 0

/-- The character with a code point, if there is one. -/
def charOfCode? (n : Nat) : Option Char := if n.isValidChar then some (Char.ofNat n) else none

/-- The character that a single letter means after a backslash. -/
def escapeLetter? : Char → Option Char
  | '0' => some '\x00'
  | 'a' => some '\x07'
  | 'b' => some '\x08'
  | 't' | '\t' => some '\t'
  | 'n' => some '\n'
  | 'v' => some '\x0b'
  | 'f' => some '\x0c'
  | 'r' => some '\r'
  | 'e' => some '\x1b'
  | ' ' => some ' '
  | '"' => some '"'
  | '/' => some '/'
  | '\\' => some '\\'
  | 'N' => some '\u0085'
  | '_' => some '\u00a0'
  | 'L' => some '\u2028'
  | 'P' => some '\u2029'
  | _ => none

/-- How many hexadecimal digits a letter asks for after a backslash. -/
def escapeDigits? : Char → Option Nat
  | 'x' => some 2
  | 'u' => some 4
  | 'U' => some 8
  | _ => none

/-- The character that an escape means, given what follows the backslash, and how many characters
the escape has after it. -/
def escape? : List Char → Option (Char × Nat)
  | [] => none
  | c :: cs =>
    match escapeDigits? c with
    | some n => do
      let digits := cs.take n
      if digits.length < n then none
      else return (← charOfCode? (← hexNumber? digits), n + 1)
    | none => (escapeLetter? c).map (·, 1)

/-- Reads on in a scalar in double quotes, with escapes after a backslash. -/
def readDouble (text : List Char) (gap : Gap) (p : Place) : List Char → Option (List Char × Cursor)
  | [] => none
  | c :: cs =>
    if isSpacing c then readDouble text (gap.add c) (p.after c) cs
    else if p.column == 0 && marksDocument (c :: cs) then none
    else if c == '"' then some (text ++ gap.text, ⟨p.right 1, cs⟩)
    else if c == '\\' then
      match cs with
      | [] => none
      | d :: ds =>
        if isBreak d then readDouble (text ++ gap.text) .escaped ((p.right 1).after d) ds
        else
          match escape? (d :: ds) with
          | none => none
          | some (meant, n) =>
            readDouble (text ++ gap.text ++ [meant]) .none (p.right (n + 1)) (ds.drop (n - 1))
    else readDouble (text ++ gap.text ++ [c]) .none (p.right 1) cs
termination_by cs => cs.length
decreasing_by all_goals (simp; try omega)

/-! ## Blocks -/

/-- What becomes of the breaks at the end of a block. -/
inductive Chomping where
  /-- All are dropped. -/
  | strip
  /-- The first one is kept. -/
  | clip
  | keep
deriving DecidableEq, Repr, Inhabited

/-- How a block chooses its end and its margin. -/
structure BlockHeader where
  chomping : Chomping
  /-- How far its lines are indented; zero if they show it. -/
  indentation : Nat

/-- The sign for the end of a block. -/
def chomping? : Char → Option Chomping
  | '-' => some .strip
  | '+' => some .keep
  | _ => none

/-- An indentation, which is a digit. Zero is refused. -/
def readIndentation? : List Char → Option (Nat × List Char)
  | c :: cs =>
    if c == '0' then none
    else if c.isDigit then some (c.toNat - '0'.toNat, cs)
    else some (0, c :: cs)
  | [] => some (0, [])

/-- The header of a block: the sign for its end and its indentation, in any order. -/
def readBlockHeader? (cs : List Char) : Option (BlockHeader × List Char) :=
  match cs.head?.bind chomping? with
  | some chomping => do
    let (indentation, rest) ← readIndentation? cs.tail
    return (⟨chomping, indentation⟩, rest)
  | none => do
    let (indentation, rest) ← readIndentation? cs
    if indentation = 0 then return (⟨.clip, 0⟩, rest)
    match rest.head?.bind chomping? with
    | some chomping => return (⟨chomping, indentation⟩, rest.tail)
    | none => return (⟨.clip, indentation⟩, rest)

/-- The empty lines before a line of a block. -/
structure EmptyLines where
  breaks : List Char
  /-- The furthest column at which one of them, or the line after them, starts. -/
  widest : Nat
  after : Cursor

/-- Reads empty lines and the indentation of the line after them. A line is indented up to the column
`margin`, or without bound if that is zero; a tab may not indent. -/
def readEmptyLines (margin : Nat) (breaks : List Char) (widest : Nat) (p : Place) :
    List Char → Option EmptyLines
  | [] => some ⟨breaks, max widest p.column, ⟨p, []⟩⟩
  | c :: cs =>
    let indents := margin == 0 || p.column < margin
    if indents && c == ' ' then readEmptyLines margin breaks widest (p.after c) cs
    else if indents && c == '\t' then none
    else if isBreak c then
      readEmptyLines margin (breaks ++ [c]) (max widest p.column) (p.after c) cs
    else some ⟨breaks, max widest p.column, ⟨p, c :: cs⟩⟩

/-- A block that is being read. -/
structure BlockText where
  text : List Char
  /-- The break after the last line. -/
  last : Option Char
  /-- The empty lines after the last line. -/
  empty : List Char
  /-- Whether the last line started with a blank. -/
  indented : Bool

/-- The text before another line, which starts with a blank or not. -/
def BlockText.joined (literal : Bool) (b : BlockText) (indented : Bool) : List Char :=
  let joint :=
    if !literal && b.last == some '\n' && !b.indented && !indented then
      if b.empty.isEmpty then [' '] else []
    else b.last.toList
  b.text ++ joint ++ b.empty

/-- Reads the lines of a block that start at the column `margin`. -/
def readBlockLines (literal : Bool) (margin : Nat) (b : BlockText) (c : Cursor) :
    Option (BlockText × Cursor) :=
  match c.rest with
  | [] => some (b, c)
  | first :: _ =>
    if c.place.column != margin then some (b, c)
    else
      let indented := isBlank first
      let line := c.rest.takeWhile fun x => !isBreak x
      let text := b.joined literal indented ++ line
      match c.rest.drop line.length with
      | [] => some (⟨text, none, [], indented⟩, c.right line.length)
      | x :: rest =>
        match readEmptyLines margin [] 0 ((c.place.right line.length).after x) rest with
        | none => none
        | some e =>
          if e.after.rest.length < c.rest.length then
            readBlockLines literal margin ⟨text, some x, e.breaks, indented⟩ e.after
          else none
termination_by c.rest.length

/-- The text of a block, whose end is chosen by its header. -/
def BlockText.chomped (b : BlockText) : Chomping → List Char
  | .strip => b.text
  | .clip => b.text ++ b.last.toList
  | .keep => b.text ++ b.last.toList ++ b.empty

/-- Reads a block after its sign. `enclosing` is the column of the collection that it stands in, if
it stands in one. -/
def readBlock (literal : Bool) (enclosing : Option Nat) (c : Cursor) :
    Option (List Char × Cursor) := do
  let (header, rest) ← readBlockHeader? c.rest
  let c ← (c.right (c.rest.length - rest.length)).endOfLine?
  let asked := if header.indentation = 0 then 0 else enclosing.getD 0 + header.indentation
  let e ← readEmptyLines asked [] 0 c.place c.rest
  let least := match enclosing with
    | some column => column + 1
    | none => 0
  let margin := if asked = 0 then max (max e.widest least) 1 else asked
  let (b, c) ← readBlockLines literal margin ⟨[], none, e.breaks, false⟩ e.after
  return (b.chomped header.chomping, c)

end RowAccess.Yaml
