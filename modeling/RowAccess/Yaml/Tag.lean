import RowAccess.Yaml.Scalar
import RowAccess.Yaml.Token
/-!
# Names in YAML

Anchors, tags and directives: each is a sign followed by a name.
-/

namespace RowAccess.Yaml

/-! ## Anchors -/

/-- The name of an anchor or an alias, after its sign. -/
def readAnchor (c : Cursor) : Option (String × Cursor) :=
  let (name, after) := c.span isWord
  let ends := match after.rest with
    | [] => true
    | x :: _ => isSpacing x || "?:,]\x7d%@\x60".toList.contains x
  if name.isEmpty || !ends then none else some (name, after)

/-! ## Tags -/

/-- Whether a character may stand in a tag; the signs of flow collections only in a tag between angle
brackets. -/
def isTagChar (verbatim : Bool) (c : Char) : Bool :=
  isWord c || ";/?:@&=+$.%!~*'()".toList.contains c || (verbatim && ",[]".toList.contains c)

/-- How many bytes follow the first byte of an encoded character. -/
def continuationBytes? (byte : Nat) : Option Nat :=
  if byte < 0x80 then some 0
  else if 0xC0 ≤ byte && byte < 0xE0 then some 1
  else if 0xE0 ≤ byte && byte < 0xF0 then some 2
  else if 0xF0 ≤ byte && byte < 0xF8 then some 3
  else none

/-- A byte written as a percent sign and two digits, in front of the text. -/
def readByte? : List Char → Option (Nat × List Char)
  | '%' :: a :: b :: rest => (hexNumber? [a, b]).map (·, rest)
  | _ => none

/-- Reads `n` more bytes of an encoded character of which `code` has been read. -/
def readContinuation : (n code : Nat) → List Char → Option (Nat × List Char)
  | 0, code, cs => some (code, cs)
  | n + 1, code, cs => do
    let (byte, rest) ← readByte? cs
    if byte / 0x40 = 2 then readContinuation n (code * 0x40 + byte % 0x40) rest else none

/-- A character written as escaped bytes. -/
def readEscapedChar (cs : List Char) : Option (Char × List Char) := do
  let (byte, rest) ← readByte? cs
  let n ← continuationBytes? byte
  let start := if n = 0 then byte else byte % (1 <<< (6 - n))
  let (code, rest) ← readContinuation n start rest
  return (← charOfCode? code, rest)

/-- Reads on in a tag of which `text` has been read. -/
def readTagText (verbatim : Bool) (text : List Char) (cs : List Char) :
    Option (List Char × List Char) :=
  match cs with
  | [] => some (text, [])
  | c :: rest =>
    if !isTagChar verbatim c then some (text, c :: rest)
    else if c == '%' then
      match readEscapedChar (c :: rest) with
      | none => none
      | some (meant, after) =>
        if after.length < rest.length + 1 then readTagText verbatim (text ++ [meant]) after else none
    else readTagText verbatim (text ++ [c]) rest
termination_by cs.length

/-- The rest of a tag after `start`; at least one character in all is required. -/
def readTagSuffix (verbatim : Bool) (start : List Char) (c : Cursor) : Option (String × Cursor) := do
  let (text, rest) ← readTagText verbatim start c.rest
  return (String.ofList text, c.right (c.rest.length - rest.length))

/-- A handle of tags: a name between exclamation marks, the second of which may be missing. -/
def readHandle (c : Cursor) : Option (List Char × Cursor) :=
  match c.rest with
  | '!' :: _ =>
    let (name, after) := (c.right 1).span isWord
    match after.rest with
    | '!' :: _ => some ('!' :: name.toList ++ ['!'], after.right 1)
    | _ => some ('!' :: name.toList, after)
  | _ => none

/-- A tag between angle brackets, in its handle or after a single exclamation mark. A tag must be
followed by a separator, or by a comma in a flow collection. -/
def readTag (flow : Bool) (c : Cursor) : Option (Token × Cursor) := do
  let (token, after) ← match c.rest with
    | '!' :: '<' :: _ => do
      let (suffix, after) ← readTagSuffix true [] (c.right 2)
      if suffix.isEmpty then none
      match after.rest with
      | '>' :: _ => some (Token.tag "" suffix, after.right 1)
      | _ => none
    | _ => do
      let (handle, after) ← readHandle c
      if 1 < handle.length && handle.getLast? == some '!' then
        let (suffix, after) ← readTagSuffix false [] after
        if suffix.isEmpty then none else some (Token.tag (String.ofList handle) suffix, after)
      else
        let (suffix, after) ← readTagSuffix false handle.tail after
        some (if suffix.isEmpty then Token.tag "" "!" else Token.tag "!" suffix, after)
  if endsWord after.rest || (flow && after.rest.head? == some ',') then some (token, after) else none

/-! ## Directives -/

/-- A number of at most nine digits. -/
def readNumber (c : Cursor) : Option (Nat × Cursor) :=
  let (digits, after) := c.span Char.isDigit
  if digits.isEmpty || 9 < digits.length then none else digits.toNat?.map (·, after)

/-- A directive, after its sign, and the cursor after its line. -/
def readDirective (c : Cursor) : Option (Token × Cursor) := do
  let (name, c) := c.span isWord
  if !endsWord c.rest then none
  let c := c.skip isBlank
  let (token, c) ←
    if name = "YAML" then do
      let (major, c) ← readNumber c
      match c.rest with
      | '.' :: _ =>
        let (minor, c) ← readNumber (c.right 1)
        some (Token.version major minor, c)
      | _ => none
    else if name = "TAG" then do
      let (handle, c) ← readHandle c
      if handle != ['!'] && handle.getLast? != some '!' then none
      if !c.rest.head?.any isBlank then none
      let (meaning, c) ← readTagSuffix true [] (c.skip isBlank)
      if meaning.isEmpty || !endsWord c.rest then none
      some (Token.handle (String.ofList handle) meaning, c)
    else none
  return (token, ← c.endOfLine?)

end RowAccess.Yaml
