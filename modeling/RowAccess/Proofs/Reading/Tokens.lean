import Mathlib.Data.List.TakeDrop
import RowAccess.Proofs.Reading.Quotes
/-!
# Reading the tokens of a condition

A condition on a column is made of plain words, a few signs and quoted values. Each of them is read as
one token, whatever follows (`Leads`), so the tokens of a text are found piece by piece.
-/

namespace RowAccess

open Sql Sql.Lexer

/-- Whether a character may stand in a plain word after its first one. -/
def isWordChar (c : Char) : Bool := c.isAlpha || c.isDigit || c == '_'

/-- Whether the text is a word of ASCII letters, digits and underscores that starts with no digit. -/
def isWord (w : String) : Bool :=
  match w.toList with
  | [] => false
  | c :: cs => (c.isAlpha || c == '_') && cs.all isWordChar

/-- Whether a plain word ends before these characters. -/
def endsWord (cs : List Char) : Prop := ∀ c ∈ cs.head?, c = ' ' ∨ c = '.' ∨ c = ')' ∨ c = ','

/-- The codes of letters. -/
theorem toNat_of_isAlpha {c : Char} (h : c.isAlpha = true) :
    (65 ≤ c.toNat ∧ c.toNat ≤ 90) ∨ (97 ≤ c.toNat ∧ c.toNat ≤ 122) := by
  have codes : (decide ('A'.val ≤ c.val ∧ c.val ≤ 'Z'.val) ||
      (decide ('a'.val ≤ c.val) && decide (c.val ≤ 'z'.val))) = true := h
  simp only [Bool.or_eq_true, Bool.and_eq_true, decide_eq_true_eq, UInt32.le_iff_toNat_le] at codes
  exact codes

/-- The codes of digits. -/
theorem toNat_of_isDigit {c : Char} (h : c.isDigit = true) : 48 ≤ c.toNat ∧ c.toNat ≤ 57 := by
  have codes : (decide ('0'.val ≤ c.val) && decide (c.val ≤ '9'.val)) = true := h
  simp only [Bool.and_eq_true, decide_eq_true_eq, UInt32.le_iff_toNat_le] at codes
  exact codes

theorem isAlpha_lt {c : Char} (h : c.isAlpha = true) : c.toNat < 0x80 := by
  have codes := toNat_of_isAlpha h
  omega

theorem continuesName_of_isWordChar (d : Dialect) {c : Char} (h : isWordChar c = true) :
    d.continuesName c = true := by
  simp only [isWordChar, Bool.or_eq_true, beq_iff_eq] at h
  rcases h with (alpha | digit) | rfl
  · cases d <;> simp [Dialect.continuesName, Dialect.startsName, Text.isLetter, alpha, isAlpha_lt alpha]
  · cases d <;> simp [Dialect.continuesName, digit]
  · cases d <;> rfl

theorem not_continuesName_of_endsWord (d : Dialect) {c : Char}
    (h : c = ' ' ∨ c = '.' ∨ c = ')' ∨ c = ',') : d.continuesName c = false := by
  rcases h with rfl | rfl | rfl | rfl <;> cases d <;> rfl

theorem run_word (d : Dialect) {more rest : List Char} (h : more.all isWordChar = true)
    (ends : endsWord rest) : run d.continuesName (more ++ rest) = (more, rest) := by
  have all : ∀ c ∈ more, d.continuesName c = true := fun c mem =>
    continuesName_of_isWordChar d (List.all_eq_true.mp h c mem)
  rw [run, List.span_eq_takeWhile_dropWhile, List.takeWhile_append_of_pos all,
    List.dropWhile_append_of_pos all]
  cases rest with
  | nil => simp
  | cons c cs =>
    have stops := not_continuesName_of_endsWord d (ends c rfl)
    simp [stops]

/-! ## One token or blank -/

theorem next_space (d : Dialect) (previous : Option Token) (cs : List Char) :
    next d previous ' ' cs = some (.blank .space, cs) := rfl

/-- A letter starts a plain word if no quote follows it at once. -/
theorem lettered_word (d : Dialect) (c : Char) {cs : List Char}
    (h : ∀ x ∈ cs.head?, x ≠ '\'' ∧ x ≠ '"' ∧ x ≠ '&') :
    lettered d c cs = some (word d [c] cs) := by
  unfold lettered
  split <;> simp_all

theorem lettered_append (d : Dialect) (c : Char) {more rest : List Char}
    (others : more.all isWordChar = true) (ends : endsWord rest) :
    lettered d c (more ++ rest) = some (.ofWord (String.ofList (c :: more)), rest) := by
  rw [lettered_word, word, run_word d others ends]
  · rfl
  · intro x mem
    cases more with
    | nil =>
      rcases ends x mem with rfl | rfl | rfl | rfl <;> decide
    | cons y ys =>
      obtain rfl : y = x := by simpa using mem
      have := List.all_eq_true.mp others y (.head _)
      refine ⟨?_, ?_, ?_⟩ <;> rintro rfl <;> exact absurd this (by decide)

theorem next_alpha (d : Dialect) (previous : Option Token) {c : Char} (h : c.isAlpha = true)
    (cs : List Char) :
    next d previous c cs = (lettered d c cs).map fun (t, rest) => (.token t, rest) := by
  unfold next
  split
  case h_5 => rw [if_pos h]
  all_goals exact absurd h (by decide)

theorem unquoted_underscore (d : Dialect) (cs : List Char) :
    unquoted d '_' cs = some (.token (word d ['_'] cs).1, (word d ['_'] cs).2) := by
  cases d <;> rfl

/-- A plain word is one token, wherever it stands. -/
theorem next_word (d : Dialect) (previous : Option Token) {c : Char} {more rest : List Char}
    (first : (c.isAlpha || c == '_') = true) (others : more.all isWordChar = true)
    (ends : endsWord rest) :
    next d previous c (more ++ rest) =
      some (.token (.ofWord (String.ofList (c :: more))), rest) := by
  by_cases alpha : c.isAlpha = true
  · rw [next_alpha d previous alpha, lettered_append d c others ends, Option.map_some]
  · obtain rfl : c = '_' := by simpa [alpha] using first
    have : next d previous '_' (more ++ rest) = unquoted d '_' (more ++ rest) := by cases d <;> rfl
    rw [this, unquoted_underscore, word, run_word d others ends]
    rfl

theorem next_quote (d : Dialect) (previous : Option Token) (cs : List Char) :
    next d previous '\'' cs =
      (untilQuote '\'' d.backslashEscapes d.backslashEscapes cs).map fun (s, r) =>
        (.token (.literal (.string (String.ofList s))), r) := by
  have : next d previous '\'' cs =
      ((untilQuote '\'' d.backslashEscapes d.backslashEscapes cs).map fun (s, r) =>
        (Token.literal (.string (String.ofList s)), r)).map fun (t, rest) => (.token t, rest) := rfl
  rw [this, Option.map_map]
  rfl

theorem next_equals (d : Dialect) (previous : Option Token) (cs : List Char) :
    next d previous '=' (' ' :: cs) = some (.token (.symbol "="), ' ' :: cs) := by
  cases d <;> rfl

theorem next_open (d : Dialect) (previous : Option Token) (cs : List Char) :
    next d previous '(' cs = some (.token (.symbol "("), cs) := by
  cases d <;> rfl

theorem next_close (d : Dialect) (previous : Option Token) (cs : List Char) :
    next d previous ')' cs = some (.token (.symbol ")"), cs) := by
  cases d <;> rfl

theorem next_comma (d : Dialect) (previous : Option Token) (cs : List Char) :
    next d previous ',' cs = some (.token (.symbol ","), cs) := by
  cases d <;> rfl

theorem digits_none (d : Dialect) {c : Char} (noDigit : c.isDigit = false) (noSeparator : c ≠ '_') (cs : List Char) :
    digits d Char.isDigit (c :: cs) = ([], c :: cs) := by
  rw [digits.eq_def]
  simp [noDigit, noSeparator]

/-- A dot after a word is a sign of its own if no number and no underscore comes next. -/
theorem next_dot_apart (d : Dialect) (w : String) {c : Char} (noDigit : c.isDigit = false) (noSeparator : c ≠ '_')
    (cs : List Char) :
    next d (some (.ofWord w)) '.' (c :: cs) = some (.token (.symbol "."), c :: cs) := by
  have one : digits d Char.isDigit ('.' :: c :: cs) = ([], '.' :: c :: cs) := by cases d <;> rfl
  have two := digits_none d noDigit noSeparator cs
  have sign : number d (some (.ofWord w)) ('.' :: c :: cs) = some (.symbol ".", c :: cs) := by
    rw [number]
    · simp [one, two, Token.ofWord, Token.isWord]
    · rintro rest heq
      exact noSeparator (List.cons.inj (List.cons.inj heq).2).1
  have : next d (some (.ofWord w)) '.' (c :: cs) =
      (number d (some (.ofWord w)) ('.' :: c :: cs)).map fun (t, rest) => (.token t, rest) := by
    cases d <;> rfl
  rw [this, sign, Option.map_some]

/-- A dot after a word and before another is a sign of its own. -/
theorem next_dot (d : Dialect) (w : String) {c : Char} (h : (c.isAlpha || c == '_') = true)
    (cs : List Char) :
    next d (some (.ofWord w)) '.' (c :: cs) = some (.token (.symbol "."), c :: cs) := by
  by_cases alpha : c.isAlpha = true
  · have noDigit : c.isDigit = false := by
      rw [Bool.eq_false_iff]
      intro digit
      have letters := toNat_of_isAlpha alpha
      have digits := toNat_of_isDigit digit
      omega
    have noSeparator : c ≠ '_' := by
      rintro rfl
      exact absurd alpha (by decide)
    exact next_dot_apart d w noDigit noSeparator cs
  · obtain rfl : c = '_' := by simpa [alpha] using h
    cases d <;> rfl

/-! ## Several tokens -/

/-- What is read after a token, with the token before it. -/
def putToken (t : Token) (read : List Blank × List Lexeme) : List Blank × List Lexeme :=
  ([], ⟨t, read.1⟩ :: read.2)

/-- What is read after a blank, with the blank before it. -/
def putBlank (b : Blank) (read : List Blank × List Lexeme) : List Blank × List Lexeme :=
  (b :: read.1, read.2)

/-- Reading `cs` after the token `previous` comes to `rest` after the token `previous'`, and `put`
adds what has been read by then. -/
def Leads (d : Dialect) (previous : Option Token) (cs : List Char) (previous' : Option Token)
    (rest : List Char) (put : List Blank × List Lexeme → List Blank × List Lexeme) : Prop :=
  ∀ fuel, cs.length < fuel → ∃ fuel', rest.length < fuel' ∧
    stream d fuel previous cs = (stream d fuel' previous' rest).map put

namespace Leads

variable {d : Dialect} {previous previous' previous'' : Option Token}
  {c : Char} {cs rest rest' : List Char} {t : Token} {b : Blank}
  {put put' : List Blank × List Lexeme → List Blank × List Lexeme}

theorem token (h : next d previous c cs = some (.token t, rest)) (shorter : rest.length ≤ cs.length) :
    Leads d previous (c :: cs) (some t) rest (putToken t) := by
  intro fuel enough
  cases fuel with
  | zero => exact absurd enough (Nat.not_lt_zero _)
  | succ fuel =>
    refine ⟨fuel, ?_, ?_⟩
    · simp only [List.length_cons] at enough
      omega
    · rw [stream, h, Option.bind_eq_bind, Option.bind_some]
      dsimp only
      cases stream d fuel (some t) rest <;> rfl

theorem blank (h : next d previous c cs = some (.blank b, rest)) (shorter : rest.length ≤ cs.length) :
    Leads d previous (c :: cs) none rest (putBlank b) := by
  intro fuel enough
  cases fuel with
  | zero => exact absurd enough (Nat.not_lt_zero _)
  | succ fuel =>
    refine ⟨fuel, ?_, ?_⟩
    · simp only [List.length_cons] at enough
      omega
    · rw [stream, h, Option.bind_eq_bind, Option.bind_some]
      dsimp only
      cases stream d fuel none rest <;> rfl

theorem trans (first : Leads d previous cs previous' rest put)
    (second : Leads d previous' rest previous'' rest' put') :
    Leads d previous cs previous'' rest' (put ∘ put') := by
  intro fuel enough
  obtain ⟨fuel₁, enough₁, one⟩ := first fuel enough
  obtain ⟨fuel₂, enough₂, two⟩ := second fuel₁ enough₁
  exact ⟨fuel₂, enough₂, by rw [one, two, Option.map_map]⟩

/-- Reading that comes to the end has read everything. -/
theorem lexemes {sql : String} (h : Leads d none sql.toList previous' [] put) :
    Lexer.lexemes d sql = some (put ([], [])).2 := by
  obtain ⟨fuel, -, same⟩ := h (sql.toList.length + 1) (Nat.lt_succ_self _)
  have done : stream d fuel previous' [] = some ([], []) := by cases fuel <;> rfl
  rw [Lexer.lexemes, same, done]
  rfl

end Leads

/-- If a text that starts with a token is read, the token comes first. -/
theorem head_of_next {d : Dialect} {fuel : Nat} {previous : Option Token} {c : Char}
    {cs rest : List Char} {t : Token} {gap : List Blank} {ts : List Lexeme}
    (h : next d previous c cs = some (.token t, rest))
    (found : stream d fuel previous (c :: cs) = some (gap, ts)) : ∀ l ∈ ts.head?, l.token = t := by
  cases fuel with
  | zero => cases found
  | succ fuel =>
    rw [stream, h, Option.bind_eq_bind, Option.bind_some] at found
    dsimp only at found
    rw [Option.bind_eq_bind, Option.bind_eq_some_iff] at found
    obtain ⟨⟨gap', more⟩, -, same⟩ := found
    cases same
    rintro l ⟨⟩
    rfl

/-! ## Words, blanks and signs -/

section

variable (d : Dialect) (previous : Option Token)

theorem leads_space (rest : List Char) :
    Leads d previous (' ' :: rest) none rest (putBlank .space) :=
  .blank (next_space d previous rest) (Nat.le_refl _)

theorem leads_word {w : String} (h : isWord w = true) {rest : List Char} (ends : endsWord rest) :
    Leads d previous (w.toList ++ rest) (some (.ofWord w)) rest (putToken (.ofWord w)) := by
  rw [isWord] at h
  cases same : w.toList with
  | nil => simp [same] at h
  | cons c cs =>
    simp only [same, Bool.and_eq_true] at h
    have whole : String.ofList (c :: cs) = w := by rw [← same, String.ofList_toList]
    have step := next_word d previous h.1 h.2 ends
    rw [whole] at step
    exact .token step (by simp)

theorem leads_dot (w : String) {w' : String} (h : isWord w' = true) (rest : List Char) :
    Leads d (some (.ofWord w)) ('.' :: (w'.toList ++ rest)) (some (.symbol ".")) (w'.toList ++ rest)
      (putToken (.symbol ".")) := by
  rw [isWord] at h
  cases same : w'.toList with
  | nil => simp [same] at h
  | cons c cs =>
    simp only [same, Bool.and_eq_true] at h
    exact .token (next_dot d w h.1 _) (Nat.le_refl _)

theorem leads_equals (rest : List Char) :
    Leads d previous ('=' :: ' ' :: rest) (some (.symbol "=")) (' ' :: rest)
      (putToken (.symbol "=")) :=
  .token (next_equals d previous rest) (Nat.le_refl _)

theorem leads_open (rest : List Char) :
    Leads d previous ('(' :: rest) (some (.symbol "(")) rest (putToken (.symbol "(")) :=
  .token (next_open d previous rest) (Nat.le_refl _)

theorem leads_close (rest : List Char) :
    Leads d previous (')' :: rest) (some (.symbol ")")) rest (putToken (.symbol ")")) :=
  .token (next_close d previous rest) (Nat.le_refl _)

theorem leads_comma (rest : List Char) :
    Leads d previous (',' :: rest) (some (.symbol ",")) rest (putToken (.symbol ",")) :=
  .token (next_comma d previous rest) (Nat.le_refl _)

end

end RowAccess
