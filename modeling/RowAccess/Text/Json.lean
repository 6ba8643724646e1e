/-!
# JSON texts

Records of texts as JSON, laid out in lines that are indented by two spaces.
-/

namespace RowAccess.Text

/-- A hexadecimal digit. -/
def hexDigit (n : Nat) : Char := "0123456789abcdef".toList.getD n '0'

/-- A character within quotes. -/
def jsonChar (c : Char) : List Char :=
  match c with
  | '"' => ['\\', '"']
  | '\\' => ['\\', '\\']
  | '\x08' => ['\\', 'b']
  | '\x0c' => ['\\', 'f']
  | '\n' => ['\\', 'n']
  | '\r' => ['\\', 'r']
  | '\t' => ['\\', 't']
  | c =>
    if c.toNat < 0x20 then ['\\', 'u', '0', '0', hexDigit (c.toNat / 16), hexDigit (c.toNat % 16)]
    else [c]

/-- A text in quotes. -/
def jsonString (s : String) : String := "\"" ++ String.ofList (s.toList.flatMap jsonChar) ++ "\""

/-- The value of a field. -/
inductive JsonField where
  | null
  | text (value : String)
  | list (values : List String)
deriving DecidableEq, Repr, Inhabited

/-- A field of a text, if it is there. -/
def JsonField.ofOption : Option String → JsonField
  | none => null
  | some s => text s

/-- The value of a field as it is written. -/
def JsonField.render : JsonField → String
  | null => "null"
  | text value => jsonString value
  | list values =>
    if values.isEmpty then "[]"
    else "[\n    " ++ ",\n    ".intercalate (values.map jsonString) ++ "\n  ]"

/-- A record with the given fields, in their order. -/
def jsonRecord (fields : List (String × JsonField)) : String :=
  let line := fun (name, value) => "  " ++ jsonString name ++ ": " ++ value.render
  "\x7b\n" ++ ",\n".intercalate (fields.map line) ++ "\n\x7d"

end RowAccess.Text
