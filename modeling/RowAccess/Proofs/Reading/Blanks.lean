import RowAccess.Proofs.Reading.Expressions
/-!
# Comparisons with no column

Of a column whose name is blank nothing is left once a text is read: the sign of the comparison comes first, or right
after the dot of the qualifier. No expression is read from such a text, whatever comes after the sign
(`parseExpr_blank`).
-/

namespace RowAccess

open Sql Sql.Lexer

/-- Whether a dialect passes over the character: it is white space, and no name starts with it. -/
def Sql.Dialect.skips (d : Dialect) (c : Char) : Bool := Text.isSpace c && !d.startsName c

/-! ## Blanks -/

/-- White space is no letter and no digit. -/
theorem not_isAlpha_of_isSpace {c : Char} (space : Text.isSpace c = true) : c.isAlpha = false ∧ c.isDigit = false := by
  have codes : (9 ≤ c.toNat ∧ c.toNat ≤ 32) ∨ 123 ≤ c.toNat := by
    simp only [Text.isSpace, Bool.or_eq_true, Bool.and_eq_true, decide_eq_true_eq, beq_iff_eq] at space
    omega
  constructor
  · rw [Bool.eq_false_iff]
    intro alpha
    have letters := toNat_of_isAlpha alpha
    omega
  · rw [Bool.eq_false_iff]
    intro digit
    have digits := toNat_of_isDigit digit
    omega

/-- No sign starts with white space. -/
theorem sign?_space (d : Dialect) {c : Char} (space : Text.isSpace c = true) (cs : List Char) :
    sign? d (c :: cs) = some none := by
  have starts : (signs d).all (fun s => s.spelling.toList.head?.any fun x => !Text.isSpace x) = true := by
    cases d <;> decide +kernel
  have none : (signs d).find? (fun s => s.spelling.toList.isPrefixOf (c :: cs)) = none := by
    rw [List.find?_eq_none]
    intro s mem begins
    have first := List.all_eq_true.mp starts s mem
    cases spelled : s.spelling.toList with
    | nil => simp [spelled] at first
    | cons x xs =>
      rw [spelled] at first begins
      obtain ⟨rfl, -⟩ : x = c ∧ _ := by simpa [List.isPrefixOf] using begins
      simp [space] at first
  rw [sign?, none]

theorem unquoted_space (d : Dialect) {c : Char} (skipped : d.skips c = true) (cs : List Char) :
    unquoted d c cs = some (.blank .space, cs) := by
  obtain ⟨space, unnamed⟩ : Text.isSpace c = true ∧ d.startsName c = false := by
    simpa [Dialect.skips] using skipped
  have other {x : Char} (h : Text.isSpace x = false) : c ≠ x := by
    rintro rfl
    rw [space] at h
    cases h
  have comment : comment? d (c :: cs) = some none := by
    unfold comment?
    split
    · next same => exact absurd (List.cons.inj same).1 (other (by decide))
    · next same => exact absurd (List.cons.inj same).1 (other (by decide))
    · next same => exact absurd (List.cons.inj same).1 (other (by decide))
    · rfl
  have marked : markedWord? d (c :: cs) = none := by
    unfold markedWord?
    split
    · next same => exact absurd (List.cons.inj same).1 (other (by decide))
    · next same => exact absurd (List.cons.inj same).1 (other (by decide))
    · next same => exact absurd (List.cons.inj same).1 (other (by decide))
    · next same => exact absurd (List.cons.inj same).1 (other (by decide))
    · rfl
  have question : questionMark? d (c :: cs) = none := by
    unfold questionMark?
    split
    · next same => exact absurd (List.cons.inj same).1 (other (by decide))
    · rfl
  rw [unquoted, comment, marked, question, sign?_space d space]
  simp [unnamed, other (x := '$') (by decide), space]

/-- What a dialect passes over is read as a blank. The end of a line is one blank, be it written with one character or
with two. -/
theorem next_skipped (d : Dialect) (previous : Option Token) {c : Char} (skipped : d.skips c = true)
    (cs : List Char) :
    ∃ b rest, next d previous c cs = some (.blank b, rest) ∧ (rest = cs ∨ cs = '\n' :: rest) := by
  have space : Text.isSpace c = true := by
    rw [Dialect.skips, Bool.and_eq_true] at skipped
    exact skipped.1
  have other {x : Char} (h : Text.isSpace x = false) : c ≠ x := by
    rintro rfl
    rw [space] at h
    cases h
  unfold next
  split
  · exact ⟨_, _, rfl, .inl rfl⟩
  · exact ⟨_, _, rfl, .inl rfl⟩
  · exact ⟨_, _, rfl, .inl rfl⟩
  · refine ⟨_, _, rfl, ?_⟩
    split
    · next newline =>
      cases cs with
      | nil => cases newline
      | cons x xs =>
        cases newline
        exact .inr rfl
    · exact .inl rfl
  · obtain ⟨noAlpha, noDigit⟩ := not_isAlpha_of_isSpace space
    have noName : d.quotesName c = false := by
      cases d <;> simp [Dialect.quotesName, other (x := '"') (by decide), other (x := '\x60') (by decide)]
    refine ⟨.space, cs, ?_, .inl rfl⟩
    rw [if_neg (by simp [noAlpha]), if_neg (other (by decide)), if_neg (by simp [noName]), if_neg (other (by decide)),
      if_neg (by simp [noDigit, other (x := '.') (by decide)]), unquoted_space d skipped]

/-- What a dialect passes over is read as blanks, up to the space after it. -/
theorem leads_skipped (d : Dialect) (rest : List Char) :
    ∀ (cs : List Char) (previous : Option Token), cs.all d.skips = true →
      ∃ blanks, Leads d previous (cs ++ ' ' :: rest) none rest fun read => (blanks ++ read.1, read.2)
  | [], previous, _ => ⟨[.space], leads_space d previous rest⟩
  | c :: cs, previous, skipped => by
    obtain ⟨first, others⟩ := Bool.and_eq_true_iff.mp (List.all_cons ▸ skipped)
    obtain ⟨b, left, step, here | more⟩ := next_skipped d previous first (cs ++ ' ' :: rest)
    · subst here
      obtain ⟨blanks, others⟩ := leads_skipped d rest cs none others
      exact ⟨b :: blanks, (Leads.blank step (Nat.le_refl _)).trans others⟩
    · -- the second character of the end of a line is white space too
      cases cs with
      | nil => cases more
      | cons x xs =>
        obtain ⟨rfl, rfl⟩ := List.cons.inj more
        obtain ⟨blanks, others⟩ := leads_skipped d rest xs none (Bool.and_eq_true_iff.mp (List.all_cons ▸ others)).2
        exact ⟨b :: blanks, (Leads.blank step (by simp)).trans others⟩

/-! ## The tokens of a comparison with no column -/

/-- What is read of a text starts with the tokens that reading its beginning leads to. -/
theorem Leads.lexemes_append {d : Dialect} {previous : Option Token} {sql : String} {cs rest : List Char}
    {put : List Blank × List Lexeme → List Blank × List Lexeme} (written : sql.toList = cs)
    (leads : Leads d none cs previous rest put) {read : List Lexeme} (found : Lexer.lexemes d sql = some read) :
    ∃ after, read = (put after).2 := by
  subst written
  obtain ⟨fuel, -, same⟩ := leads (sql.toList.length + 1) (Nat.lt_succ_self _)
  rw [Lexer.lexemes, same, Option.map_map, Option.map_eq_some_iff] at found
  obtain ⟨after, -, rfl⟩ := found
  exact ⟨after, rfl⟩

/-- The tokens of a qualifier and the dot after it. -/
def qualifierLexemes (qualifier : Option String) (gap : List Blank) : List Lexeme :=
  match qualifier with
  | none => []
  | some q => [⟨.ofWord q, []⟩, ⟨.symbol ".", gap⟩]

theorem leads_dot_skipped (d : Dialect) (q : String) {column : String} (skipped : column.toList.all d.skips = true)
    (rest : List Char) :
    Leads d (some (.ofWord q)) ('.' :: (column.toList ++ ' ' :: rest)) (some (.symbol "."))
      (column.toList ++ ' ' :: rest) (putToken (.symbol ".")) := by
  cases same : column.toList with
  | nil => exact .token (next_dot_apart d q (by decide) (by decide) _) (Nat.le_refl _)
  | cons c cs =>
    have space : Text.isSpace c = true := by
      rw [same, List.all_cons, Bool.and_eq_true, Dialect.skips, Bool.and_eq_true] at skipped
      exact skipped.1.1
    have apart : c ≠ '_' := by
      rintro rfl
      cases space
    exact .token (next_dot_apart d q (not_isAlpha_of_isSpace space).2 apart _) (Nat.le_refl _)

/-- If the text is read at all, its sign stands where the column should. -/
theorem lexemes_blank (d : Dialect) {qualifier : Option String} {column : String} (value : String)
    (words : ∀ q ∈ qualifier, isWord q = true) (skipped : column.toList.all d.skips = true) {read : List Lexeme}
    (found : Lexer.lexemes d (equalText (qualify qualifier column) value) = some read) :
    ∃ gap gap' more, read = qualifierLexemes qualifier gap ++ ⟨.symbol "=", gap'⟩ :: more := by
  have written : (equalText (qualify qualifier column) value).toList =
      (qualify qualifier column).toList ++ ' ' :: '=' :: ' ' :: (literalText value).toList := by
    simp [equalText]
  have sign := (leads_equals d none (literalText value).toList).trans (leads_space d _ _)
  cases qualifier with
  | none =>
    obtain ⟨blanks, column⟩ := leads_skipped d ('=' :: ' ' :: (literalText value).toList) column.toList none skipped
    obtain ⟨after, rfl⟩ := Leads.lexemes_append written (column.trans sign) found
    exact ⟨[], .space :: after.1, after.2, rfl⟩
  | some q =>
    have free : Text.contains "." column = false := by
      rw [Text.contains, show (".".toList) = ['.'] from rfl, occurs_singleton, decide_eq_false_iff_not]
      intro dot
      exact absurd (List.all_eq_true.mp skipped _ dot) (by cases d <;> decide)
    obtain ⟨blanks, column'⟩ :=
      leads_skipped d ('=' :: ' ' :: (literalText value).toList) column.toList (some (.symbol ".")) skipped
    have dot := leads_dot_skipped d q skipped ('=' :: ' ' :: (literalText value).toList)
    have dotted : endsWord ('.' :: (column.toList ++ ' ' :: '=' :: ' ' :: (literalText value).toList)) := by
      rintro c ⟨⟩
      exact .inr (.inl rfl)
    have all := (leads_word d none (words q rfl) dotted).trans (dot.trans (column'.trans sign))
    have whole : (equalText (qualify (some q) column) value).toList =
        q.toList ++ '.' :: (column.toList ++ ' ' :: '=' :: ' ' :: (literalText value).toList) := by
      simp [equalText, qualify, free]
    obtain ⟨after, rfl⟩ := Leads.lexemes_append whole all found
    exact ⟨blanks ++ [], .space :: after.1, after.2, rfl⟩

namespace Sql.Parser

variable {d : Dialect} {n strength : Nat} {gap gap' : List Blank} {more : List Lexeme}

/-! ## No expression -/

/-- No expression starts with the sign. -/
theorem operand_sign (g : Grammar) :
    operand g strength (⟨.symbol "=", gap⟩ :: more) = .error .unexpected := by
  have noType : typedLiteral g (⟨.symbol "=", gap⟩ :: more) = .error .unexpected := rfl
  have noPrefix : prefixOp? g.dialect "=" = none := by cases g.dialect <;> rfl
  have noSign : signed g "=" (⟨.symbol "=", gap⟩ :: more) = .error .unexpected := by
    unfold signed
    rw [noPrefix]
    rfl
  have first : primary g (⟨.symbol "=", gap⟩ :: more) = .error .unexpected := by
    rw [primary, bind_ok (attempt_unexpected noType)]
    exact (bind_ok (peek_cons _ _)).trans noSign
  rw [operand]
  exact bind_error first

/-- No part of an expression is after the dot. -/
theorem part?_sign (parts : Name) :
    part? (ordinary d (n + 1)) (.name parts) (⟨.symbol ".", gap⟩ :: ⟨.symbol "=", gap'⟩ :: more) =
      .error .unexpected := by
  have part : partExpr (ordinary d (n + 1)) (⟨.symbol "=", gap'⟩ :: more) = .error .unexpected := by
    rw [partExpr, operand_ordinary]
    exact bind_error (operand_sign _)
  have dotted : dottedPart (ordinary d (n + 1)) (⟨.symbol "=", gap'⟩ :: more) = .error .unexpected := by
    rw [dottedPart, bind_ok (peek_cons _ _)]
    exact (bind_ok (attempt_unexpected part)).trans rfl
  have after : part? (ordinary d (n + 1)) (.name parts) (⟨.symbol ".", gap⟩ :: ⟨.symbol "=", gap'⟩ :: more) =
      (do return some (qualify (.name parts) (← dottedPart (ordinary d (n + 1)))) : P (Option Expr))
        (⟨.symbol "=", gap'⟩ :: more) := rfl
  rw [after]
  exact bind_error dotted

theorem operand_dangling {q : String} (plain : reservedInExpressions.contains (keywordOf q) = false) :
    operand (ordinary d (n + 1)) strength
        (⟨.ofWord q, []⟩ :: ⟨.symbol ".", gap⟩ :: ⟨.symbol "=", gap'⟩ :: more) = .error .unexpected := by
  have dot : AfterName (⟨.symbol ".", gap⟩ :: ⟨.symbol "=", gap'⟩ :: more) := by
    rintro _ ⟨⟩
    exact .inl rfl
  have noName : customType (⟨.ofWord q, []⟩ :: ⟨.symbol ".", gap⟩ :: ⟨.symbol "=", gap'⟩ :: more) =
      .error .unexpected := rfl
  have noType := typedLiteral_word (g := ordinary d (n + 1)) dot (interval_reserved plain) (.inl noName)
  have parts : repeated (part? (ordinary d (n + 1))) (.name [⟨q, none⟩])
      (⟨.symbol ".", gap⟩ :: ⟨.symbol "=", gap'⟩ :: more) = .error .unexpected := by
    rw [repeated, iterate]
    exact bind_error (part?_sign _)
  rw [operand, bind_ok (primary_word plain dot noType)]
  exact bind_error parts

/-- A comparison with no column is no expression. -/
theorem parseExpr_blank {qualifier : Option String} {column : String} (value : String)
    (plain : ∀ q ∈ qualifier, isPlainName q = true) (skipped : column.toList.all d.skips = true) :
    parseExpr d (equalText (RowAccess.qualify qualifier column) value) = none := by
  have words : ∀ q ∈ qualifier, isWord q = true ∧ reservedInExpressions.contains (keywordOf q) = false := by
    intro q mem
    simpa [isPlainName] using plain q mem
  rw [parseExpr]
  cases found : Lexer.lexemes d (equalText (RowAccess.qualify qualifier column) value) with
  | none => rfl
  | some read =>
    obtain ⟨gap, gap', more, rfl⟩ := lexemes_blank d value (fun q mem => (words q mem).1) skipped found
    have fails : (grammar d).expr (qualifierLexemes qualifier gap ++ ⟨.symbol "=", gap'⟩ :: more) =
        .error .unexpected := by
      cases qualifier with
      | none => exact operand_sign _
      | some q => exact operand_dangling (n := 48) (words q rfl).2
    rw [Option.bind_eq_bind, Option.bind_some, fails]

end Sql.Parser

end RowAccess
