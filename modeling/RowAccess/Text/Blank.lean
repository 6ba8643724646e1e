/-!
# White space and letter case

White space is the Unicode property `White_Space`. A text is *blank* when it holds nothing else.
Names are compared without regard to the case of ASCII letters; other letters keep theirs.
-/

namespace RowAccess.Text

/-- Whether a character is white space. -/
def isSpace (c : Char) : Bool :=
  let n := c.toNat
  (9 ≤ n && n ≤ 13) || n == 0x20 || n == 0x85 || n == 0xA0 || n == 0x1680 ||
    (0x2000 ≤ n && n ≤ 0x200A) || n == 0x2028 || n == 0x2029 || n == 0x202F || n == 0x205F ||
    n == 0x3000

/-- The characters of `cs` that match `p` at neither end. -/
def stripBoth (p : Char → Bool) (cs : List Char) : List Char :=
  ((cs.dropWhile p).reverse.dropWhile p).reverse

/-- The text without white space at its ends. -/
def trim (s : String) : String := String.ofList (stripBoth isSpace s.toList)

/-- Whether a text is empty or all white space. -/
def isBlank (s : String) : Bool := s.toList.all isSpace

/-- The value, unless it is blank. -/
def nonBlank (value : Option String) : Option String := value.filter (fun v => !isBlank v)

/-- The text with every ASCII letter in lower case. -/
def asciiLower (s : String) : String := String.ofList (s.toList.map Char.toLower)

/-- Equality without regard to the case of ASCII letters. -/
def sameIgnoringCase (a b : String) : Bool := asciiLower a == asciiLower b

end RowAccess.Text
