import RowAccess.Sql.Dialect
/-!
# Signs

The operators and punctuation marks of each dialect. Where a dialect lets runs of operator characters
form new operators, a sign also says whether the characters after it may lengthen it.

`signs` lists longer signs before their beginnings, so that the first one that the text starts with is
the longest.
-/

namespace RowAccess.Sql

/-- What becomes of the operator characters after a sign. -/
inductive Growth where
  /-- They start the next token. -/
  | fixed
  /-- They lengthen the sign to an operator of its own. -/
  | extensible
  /-- They lengthen the sign, which is none without them. -/
  | incomplete
  /-- The character after the sign is skipped, whatever it is. -/
  | swallowing
deriving DecidableEq, Repr, Inhabited

/-- A sign, with the text of its token. -/
structure Sign where
  spelling : String
  token : String
  growth : Growth
deriving DecidableEq, Repr, Inhabited

namespace Sign

/-- Signs that grow as `growth` says and whose tokens are spelled like them. -/
def plain (growth : Growth) (spellings : List String) : List Sign :=
  spellings.map fun s => ⟨s, s, growth⟩

/-- The signs of every dialect. -/
def common : List Sign :=
  [⟨"!=", "<>", .fixed⟩, ⟨"<>", "<>", .extensible⟩] ++
    plain .fixed ["!~~*", "!~*", "!!", "::", ":=", "=>", "==", "^@", "@>", "@?"] ++
    plain .extensible ["->>", "->", "<=>", "<=", "<<", "<@", ">=", ">>", "||/", "||", "|/", "!~~",
      "!~", "~~*", "~~", "~*", "#>>", "#>", "#-", "&&"] ++
    plain .fixed ["(", ")", ",", ";", "\\", "[", "]", "\x7b", "\x7d", "/", "+", "*", "=", "!", ":",
      "^", "@"] ++
    plain .extensible ["-", "%", "|", "<", ">", "&", "~", "#", "?"]

/-- The signs of dialects with operators on shapes. -/
def geometric : List Sign :=
  [⟨"<<|", "<<|", .extensible⟩, ⟨"<|", "<<|", .extensible⟩, ⟨"&>", "&>", .swallowing⟩] ++
    plain .fixed ["?||", "?|", "?&", "?-|", "?-", "?#", "@-@", "@@", "&<|"] ++
    plain .extensible ["|&>", "|>>", "<->", "<^", ">^", "&<", "~=", "##"] ++
    plain .incomplete ["|&", "|>", "<-", "@-"] ++ plain .swallowing ["?"]

end Sign

/-- The signs of a dialect, longer ones before their beginnings. -/
def signs : Dialect → List Sign
  | .postgres => Sign.geometric ++ Sign.common
  | .mysql => Sign.common
  | .generic => Sign.plain .fixed ["//"] ++ Sign.plain .extensible ["|>"] ++ Sign.common

end RowAccess.Sql
