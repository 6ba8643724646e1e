/-!
# Tokens of YAML

Indentation is told by tokens: a block collection starts and ends with a token of its own, and a key
is preceded by one even where nothing is written for it.
-/

namespace RowAccess.Yaml

/-- How a scalar is written. -/
inductive Style where
  | plain
  | quoted
  /-- A block whose line ends are kept. -/
  | literal
  /-- A block whose lines are joined. -/
  | folded
deriving DecidableEq, Repr, Inhabited

/-- A token of a YAML text. -/
inductive Token where
  /-- The version that a document is written for. -/
  | version (major minor : Nat)
  /-- What a handle of tags stands for. -/
  | handle (name meaning : String)
  | documentStart
  | documentEnd
  | blockSequence
  | blockMapping
  | blockEnd
  | flowSequence
  | flowSequenceEnd
  | flowMapping
  | flowMappingEnd
  | entry
  | comma
  | key
  | value
  | reference (name : String)
  | anchor (name : String)
  | tag (handle suffix : String)
  | scalar (style : Style) (text : String)
deriving DecidableEq, Repr, Inhabited

end RowAccess.Yaml
