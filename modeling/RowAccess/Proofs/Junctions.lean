import RowAccess.Proofs.Fidelity
import RowAccess.Proofs.Reading.Terms
/-!
# Terms with `AND` or `OR` between them

A condition is a term (`Term.StandsIn`) if it is read as the same expression wherever it stands between parentheses,
`AND` and `OR`. Terms with one of the two words between them are read, all together, as their junction, however many
they are (`row_standsAlone`). This need not be a term itself, but in parentheses it is (`Term.StandsAlone.inParens`).

So the conditions of roles, which are joined to one text in parentheses, are read as the junction of what each of
them is read as (`parseExpr_combined`).
-/

namespace RowAccess

open Sql Sql.Lexer Sql.Parser
open Config (Combine)

namespace Config.Combine

/-- The word between combined conditions. -/
def word : Combine → String
  | or => "OR"
  | and => "AND"

/-- The operator that the word stands for. -/
def op : Combine → BinaryOp
  | or => .or
  | and => .and

/-- How tightly the operator binds. -/
def group : Combine → OperatorGroup
  | or => .or
  | and => .and

theorem weak (c : Combine) (d : Dialect) : c.group.strength d ≤ OperatorGroup.and.strength d := by
  cases c with
  | or => exact Nat.le_of_lt (or_lt_and d)
  | and => exact Nat.le_refl _

theorem strong (c : Combine) (d : Dialect) : 0 < c.group.strength d := by
  cases c <;> cases d <;> decide

theorem isWord_word (c : Combine) : isWord c.word = true := by cases c <;> rfl

theorem strengthAt_word (c : Combine) (d : Dialect) (gap : List Blank) (ts : List Lexeme) :
    strengthAt d (⟨.ofWord c.word, gap⟩ :: ts) = c.group.strength d := by
  cases c with
  | or => exact strengthAt_or d gap ts
  | and => exact strengthAt_and d gap ts

end Config.Combine

/-- Expressions with an operator between them, from left to right. -/
def Sql.Expr.joined (op : BinaryOp) (e : Expr) (es : List Expr) : Expr := es.foldl (.binary op) e

/-- The text is read as the expression wherever it stands between parentheses, `AND` and `OR`. -/
def Sql.Parser.StandsAs (d : Dialect) (text : String) (e : Expr) : Prop :=
  ∃ lead tokens, Term.Stands d ⟨text, e, lead, tokens⟩

namespace Sql.Parser

variable {d : Dialect} {n levels : Nat} {c : Combine} {gap : List Blank} {t : Term} {ts : List Term}

/-! ## Terms and whole texts -/

/-- The text is read as the expression wherever it stands as a term and is allowed so many levels of phrases. -/
structure Term.StandsIn (d : Dialect) (levels : Nat) (t : Term) : Prop where
  scanned : ∀ (previous : Option Token) {rest : List Char}, endsTerm rest → ∃ previous',
    Leads d previous (t.text.toList ++ rest) previous' rest fun read =>
      (t.lead, t.tokens read.1 ++ read.2)
  opens : ∀ gap, ∃ l ts, t.tokens gap = l :: ts ∧ ∀ k ∈ introducing, l.token.isKeyword k = false
  parsed : ∀ {n strength : Nat} (gap : List Blank) {rest : List Lexeme}, levels ≤ n →
    strength ≤ OperatorGroup.and.strength d → AfterTerm rest → ∃ fuel, rest.length < fuel ∧
      operand (ordinary d n) strength (t.tokens gap ++ rest) =
        iterate (operator? (ordinary d n) strength) fuel t.expr rest

theorem Term.Stands.standsIn (h : t.Stands d) (deep : termDepth ≤ levels) : t.StandsIn d levels :=
  ⟨h.scanned, h.opens, fun gap _ enough => h.parsed gap (Nat.le_trans deep enough)⟩

/-- The condition that a column has a value is a term if the value is readable. One level of phrases is enough. -/
theorem standsIn_equals {qualifier : Option String} {column : String}
    (h : (qualifier.toList ++ [column]).all isColumnName = true) {value : String}
    (readable : d.readable value = true) (some : 0 < levels) :
    Term.StandsIn d levels ⟨equalText (RowAccess.qualify qualifier column) value,
      equalExpr qualifier column value, [], fun gap =>
        columnLexemes qualifier column [.space] ++
          [⟨.symbol "=", [.space]⟩, ⟨valueToken value, gap⟩]⟩ := by
  have stands := stands_equals h readable
  refine ⟨stands.scanned, stands.opens, fun gap rest enough weak after => ?_⟩
  obtain ⟨m, rfl⟩ := Nat.exists_eq_add_one_of_ne_zero (Nat.ne_zero_of_lt (Nat.lt_of_lt_of_le some enough))
  rw [List.append_assoc]
  exact operand_equals (words_of_plain (plain_of_columns h)).2.2 value weak after

/-- Nothing follows, or a closing parenthesis. -/
def endsWhole (cs : List Char) : Prop := ∀ c ∈ cs.head?, c = ')'

/-- Nothing follows, or a closing parenthesis. -/
def AfterWhole (ts : List Lexeme) : Prop := ∀ l ∈ ts.head?, l.token = .symbol ")"

/-- The text is read as the expression if it stands alone, or alone in parentheses, and is allowed so many levels
of phrases. -/
structure Term.StandsAlone (d : Dialect) (levels : Nat) (t : Term) : Prop where
  scanned : ∀ (previous : Option Token) {rest : List Char}, endsWhole rest → ∃ previous',
    Leads d previous (t.text.toList ++ rest) previous' rest fun read =>
      (t.lead, t.tokens read.1 ++ read.2)
  opens : ∀ gap, ∃ l ts, t.tokens gap = l :: ts ∧ ∀ k ∈ introducing, l.token.isKeyword k = false
  parsed : ∀ {n : Nat} (gap : List Blank) {rest : List Lexeme}, levels ≤ n → AfterWhole rest →
    operand (ordinary d n) 0 (t.tokens gap ++ rest) = .ok (t.expr, rest)

theorem endsWhole.endsTerm {cs : List Char} (h : endsWhole cs) : endsTerm cs := fun c mem => .inr (h c mem)

theorem AfterWhole.afterTerm {ts : List Lexeme} (h : AfterWhole ts) : AfterTerm ts := fun l mem => .inl (h l mem)

theorem AfterWhole.strengthAt {ts : List Lexeme} (h : AfterWhole ts) : strengthAt d ts = 0 := by
  cases ts with
  | nil => rfl
  | cons l ts =>
    obtain ⟨token, gap⟩ := l
    obtain rfl : token = .symbol ")" := h _ rfl
    exact strengthAt_close d gap ts

theorem quantifier?_opens {ts : List Lexeme}
    (opens : ∃ l rest, ts = l :: rest ∧ ∀ k ∈ introducing, l.token.isKeyword k = false) :
    quantifier? ts = .ok (none, ts) := by
  obtain ⟨l, rest, rfl, free⟩ := opens
  have no (k : String) (mem : k ∈ introducing) : keyword? k (l :: rest) = .ok (false, l :: rest) :=
    keyword?_no fun l' first => by
      cases first
      exact free k mem
  rw [quantifier?, bind_ok (no "ANY" (by decide))]
  refine (bind_ok (no "ALL" (by decide))).trans ?_
  exact (bind_ok (no "SOME" (by decide))).trans rfl

theorem peekQuery_opens {ts : List Lexeme}
    (opens : ∃ l rest, ts = l :: rest ∧ ∀ k ∈ introducing, l.token.isKeyword k = false) :
    peekQuery ts = .ok (false, ts) := by
  obtain ⟨⟨token, gap⟩, rest, rfl, free⟩ := opens
  have noQuery (k : String) (word : peekWord (⟨token, gap⟩ :: rest) = .ok (k, ⟨token, gap⟩ :: rest))
      (other : ["SELECT", "WITH"].contains k = false) :
      peekQuery (⟨token, gap⟩ :: rest) = .ok (false, ⟨token, gap⟩ :: rest) := by
    rw [peekQuery, bind_ok word, other]
    rfl
  cases token with
  | word i k =>
    refine noQuery k rfl ?_
    have select : k ≠ "SELECT" := beq_eq_false_iff_ne.mp (free "SELECT" (by decide))
    have withWord : k ≠ "WITH" := beq_eq_false_iff_ne.mp (free "WITH" (by decide))
    simp [select, withWord]
  | literal _ => exact noQuery "" rfl rfl
  | symbol _ => exact noQuery "" rfl rfl
  | custom _ => exact noQuery "" rfl rfl

theorem opens_append {xs : List Lexeme} (ys : List Lexeme)
    (opens : ∃ l rest, xs = l :: rest ∧ ∀ k ∈ introducing, l.token.isKeyword k = false) :
    ∃ l rest, xs ++ ys = l :: rest ∧ ∀ k ∈ introducing, l.token.isKeyword k = false := by
  obtain ⟨l, rest, rfl, free⟩ := opens
  exact ⟨l, rest ++ ys, rfl, free⟩

/-- A term can stand alone. -/
theorem Term.StandsIn.standsAlone (h : t.StandsIn d levels) : t.StandsAlone d levels := by
  refine ⟨fun previous _ ends => h.scanned previous ends.endsTerm, h.opens, fun gap rest deep after => ?_⟩
  obtain ⟨fuel, enough, read⟩ := h.parsed gap deep (Nat.zero_le _) after.afterTerm
  obtain ⟨fuel, rfl⟩ := Nat.exists_eq_add_one_of_ne_zero (Nat.ne_zero_of_lt enough)
  rw [read, iterate, bind_ok (operator?_none (Nat.le_of_eq after.strengthAt))]
  rfl

/-! ## A row of terms -/

/-- Further terms of a row, and what comes after them. -/
def rowText (c : Combine) (after : List Char) : List Term → List Char
  | [] => after
  | t :: ts => ' ' :: (c.word.toList ++ ' ' :: (t.text.toList ++ rowText c after ts))

/-- The gap before further terms, and their tokens, with what is read after them. -/
def rowTokens (c : Combine) (read : List Blank × List Lexeme) : List Term → List Blank × List Lexeme
  | [] => read
  | t :: ts =>
    ([.space], ⟨.ofWord c.word, .space :: t.lead⟩ ::
      (t.tokens (rowTokens c read ts).1 ++ (rowTokens c read ts).2))

/-- A row of terms as one text. -/
def Term.row (c : Combine) (t : Term) (ts : List Term) : Term where
  text := String.ofList (t.text.toList ++ rowText c [] ts)
  expr := .joined c.op t.expr (ts.map (·.expr))
  lead := t.lead
  tokens gap := t.tokens (rowTokens c (gap, []) ts).1 ++ (rowTokens c (gap, []) ts).2

theorem endsTerm_row (c : Combine) {rest : List Char} (ends : endsTerm rest) (ts : List Term) :
    endsTerm (rowText c rest ts) := by
  cases ts with
  | nil => exact ends
  | cons t ts =>
    rintro _ ⟨⟩
    exact .inl rfl

theorem rowText_append (c : Combine) (rest : List Char) (ts : List Term) :
    rowText c rest ts = rowText c [] ts ++ rest := by
  induction ts with
  | nil => rfl
  | cons t ts ih => simp [rowText, ih]

theorem rowTokens_append (c : Combine) (gap : List Blank) (rest : List Lexeme) (ts : List Term) :
    rowTokens c (gap, rest) ts = ((rowTokens c (gap, []) ts).1, (rowTokens c (gap, []) ts).2 ++ rest) := by
  induction ts with
  | nil => rfl
  | cons t ts ih => simp [rowTokens, ih]

theorem leads_row (c : Combine) (all : ∀ t ∈ ts, t.StandsIn d levels) (previous : Option Token) {rest : List Char}
    (ends : endsTerm rest) :
    ∃ previous', Leads d previous (rowText c rest ts) previous' rest fun read => rowTokens c read ts := by
  induction ts generalizing previous with
  | nil => exact ⟨previous, fun fuel enough => ⟨fuel, enough, by simp [rowText, rowTokens]⟩⟩
  | cons t ts ih =>
    obtain ⟨between, term⟩ := (all t (.head _)).scanned none (endsTerm_row c ends ts)
    obtain ⟨previous', more⟩ := ih (fun t mem => all t (.tail _ mem)) between
    have blank : endsWord (' ' :: (t.text.toList ++ rowText c rest ts)) := by
      rintro _ ⟨⟩
      exact .inl rfl
    have leads := ((leads_space d previous _).trans (leads_word d none c.isWord_word blank)).trans
      ((leads_space d _ _).trans (term.trans more))
    exact ⟨previous', by simpa [rowText, rowTokens, Function.comp_def, putToken, putBlank] using leads⟩

theorem afterTerm_row (c : Combine) {rest : List Lexeme} (after : AfterTerm rest) (ts : List Term) :
    AfterTerm (rowTokens c (gap, rest) ts).2 := by
  cases ts with
  | nil => exact after
  | cons t ts =>
    rintro _ ⟨⟩
    cases c
    · exact .inr (.inr rfl)
    · exact .inr (.inl rfl)

theorem strengthAt_row (c : Combine) {rest : List Lexeme} (weak : strengthAt d rest = 0) (ts : List Term) :
    strengthAt d (rowTokens c (gap, rest) ts).2 ≤ c.group.strength d := by
  cases ts with
  | nil => exact Nat.le_trans (Nat.le_of_eq weak) (Nat.zero_le _)
  | cons t ts => exact Nat.le_of_eq (c.strengthAt_word d _ _)

/-- The word and a term after it make a junction of what is before them. -/
theorem operator?_row {rest : List Lexeme} (h : t.StandsIn d levels) (deep : levels ≤ n) (left : Expr)
    (after : AfterWhole rest) (ts : List Term) :
    operator? (ordinary d (n + 1)) 0 left (rowTokens c (gap, rest) (t :: ts)).2 =
      .ok (some (.binary c.op left t.expr), (rowTokens c (gap, rest) ts).2) := by
  rw [rowTokens, operator?_some (by rw [c.strengthAt_word]; exact c.strong d), c.strengthAt_word]
  refine bind_ok (a := Expr.binary c.op left t.expr) ?_
  generalize next : rowTokens c (gap, rest) ts = more
  have right : (ordinary d (n + 1)).operand (c.group.strength d) (t.tokens more.1 ++ more.2) =
      .ok (t.expr, more.2) := by
    obtain ⟨fuel, enough, read⟩ :=
      h.parsed more.1 deep (c.weak d) (next ▸ afterTerm_row c after.afterTerm ts)
    rw [operand_ordinary, read]
    obtain ⟨fuel, rfl⟩ := Nat.exists_eq_add_one_of_ne_zero (Nat.ne_zero_of_lt enough)
    rw [iterate, bind_ok (operator?_none (next ▸ strengthAt_row c after.strengthAt ts))]
    rfl
  have applied : applyOperator (ordinary d (n + 1)) (c.group.strength d) left
      (⟨.ofWord c.word, .space :: t.lead⟩ :: (t.tokens more.1 ++ more.2)) =
      rightOperand (ordinary d (n + 1)) (c.group.strength d) left c.op (t.tokens more.1 ++ more.2) := by
    cases c <;> rfl
  rw [applied, rightOperand, bind_ok (quantifier?_opens (opens_append more.2 (h.opens more.1)))]
  exact bind_ok right

theorem iterate_row (deep : levels ≤ n) {rest : List Lexeme} (after : AfterWhole rest) :
    ∀ {ts : List Term} (fuel : Nat) (left : Expr), (∀ t ∈ ts, t.StandsIn d levels) → ts.length < fuel →
      iterate (operator? (ordinary d (n + 1)) 0) fuel left (rowTokens c (gap, rest) ts).2 =
        .ok (.joined c.op left (ts.map (·.expr)), rest)
  | ts, 0, _, _, enough => absurd enough (Nat.not_lt_zero _)
  | [], fuel + 1, left, _, _ => by
    have stop : operator? (ordinary d (n + 1)) 0 left rest = .ok (none, rest) :=
      operator?_none (Nat.le_of_eq after.strengthAt)
    rw [rowTokens, iterate, bind_ok stop]
    rfl
  | t :: ts, fuel + 1, left, all, enough => by
    rw [iterate_succ (operator?_row (all t (.head _)) deep left after ts)]
    exact iterate_row deep after fuel _ (fun t mem => all t (.tail _ mem)) (by simpa using enough)

theorem length_rowTokens (c : Combine) (read : List Blank × List Lexeme) (ts : List Term) :
    ts.length ≤ (rowTokens c read ts).2.length := by
  induction ts with
  | nil => exact Nat.zero_le _
  | cons t ts ih =>
    simp only [rowTokens, List.length_cons, List.length_append]
    omega

/-- A row of terms is read whole, as their junction. -/
theorem row_standsAlone (c : Combine) (all : ∀ u ∈ t :: ts, u.StandsIn d levels) :
    (t.row c ts).StandsAlone d (levels + 1) := by
  have first := all t (.head _)
  refine ⟨fun previous rest ends => ?_, fun gap => opens_append _ (first.opens _), fun {n} gap rest deep after => ?_⟩
  · obtain ⟨between, term⟩ := first.scanned previous (endsTerm_row c ends.endsTerm ts)
    obtain ⟨previous', more⟩ := leads_row c (fun u mem => all u (.tail _ mem)) between ends.endsTerm
    refine ⟨previous', ?_⟩
    rw [Term.row, String.toList_ofList, List.append_assoc, ← rowText_append]
    have same : (fun read : List Blank × List Lexeme => (t.lead, (t.row c ts).tokens read.1 ++ read.2)) =
        (fun read => (t.lead, t.tokens read.1 ++ read.2)) ∘ fun read => rowTokens c read ts := by
      funext ⟨gap, rest⟩
      simp only [Function.comp_def, Term.row, List.append_assoc]
      rw [rowTokens_append c gap rest]
    exact same ▸ term.trans more
  · obtain ⟨m, rfl⟩ := Nat.exists_eq_add_one_of_ne_zero (Nat.ne_zero_of_lt deep)
    have next := rowTokens_append c gap rest ts
    obtain ⟨fuel, enough, read⟩ := first.parsed (rowTokens c (gap, rest) ts).1 (Nat.le_of_succ_le deep)
      (Nat.zero_le _) (afterTerm_row c after.afterTerm ts)
    have whole : (t.row c ts).tokens gap ++ rest =
        t.tokens (rowTokens c (gap, rest) ts).1 ++ (rowTokens c (gap, rest) ts).2 := by
      rw [next, Term.row, List.append_assoc]
    rw [whole, read]
    exact iterate_row (Nat.le_of_succ_le_succ deep) after fuel _ (fun u mem => all u (.tail _ mem))
      (Nat.lt_of_le_of_lt (length_rowTokens c (gap, rest) ts) enough)

/-! ## Parentheses -/

/-- A text in parentheses. -/
def Term.inParens (t : Term) : Term where
  text := "(" ++ t.text ++ ")"
  expr := .nested t.expr
  lead := []
  tokens gap := ⟨.symbol "(", t.lead⟩ :: (t.tokens [] ++ [⟨.symbol ")", gap⟩])

theorem Term.StandsAlone.primary_inParens (h : t.StandsAlone d levels) (gap : List Blank) (rest : List Lexeme)
    (deep : levels ≤ n) :
    primary (ordinary d (n + 1)) (⟨.symbol "(", t.lead⟩ :: (t.tokens [] ++ ⟨.symbol ")", gap⟩ :: rest)) =
      .ok (.nested t.expr, rest) := by
  generalize inside : t.tokens [] ++ ⟨.symbol ")", gap⟩ :: rest = ts
  have noType : typedLiteral (ordinary d (n + 1)) (⟨.symbol "(", t.lead⟩ :: ts) = .error .unexpected := rfl
  have whole : (ordinary d (n + 1)).expr ts = .ok (t.expr, ⟨.symbol ")", gap⟩ :: rest) := by
    rw [expr_ordinary, ← inside]
    exact h.parsed [] deep (by rintro _ ⟨⟩; rfl)
  have members : commas (ordinary d (n + 1)).expr ts = .ok ([t.expr], ⟨.symbol ")", gap⟩ :: rest) :=
    (bind_ok whole).trans rfl
  have noQuery : peekQuery ts = .ok (false, ts) := inside ▸ peekQuery_opens (opens_append _ (h.opens []))
  have parens : parenthesized (ordinary d (n + 1)) ts = .ok (.nested t.expr, rest) := by
    rw [parenthesized, bind_ok noQuery]
    exact (bind_ok members).trans rfl
  have sign : signed (ordinary d (n + 1)) "(" (⟨.symbol "(", t.lead⟩ :: ts) =
      parenthesized (ordinary d (n + 1)) ts := by
    cases d <;> rfl
  rw [primary, bind_ok (attempt_unexpected noType)]
  exact (bind_ok (peek_cons _ _)).trans (sign.trans parens)

/-- What is read whole is a term in parentheses. -/
theorem Term.StandsAlone.inParens (h : t.StandsAlone d levels) : t.inParens.StandsIn d (levels + 1) := by
  refine ⟨fun previous rest _ => ?_, fun gap => ⟨_, _, rfl, fun k mem => ?_⟩,
    fun {n strength} gap rest deep weak after => ?_⟩
  · have ends : endsWhole (')' :: rest) := by
      rintro _ ⟨⟩
      rfl
    obtain ⟨between, inside⟩ := h.scanned (some (.symbol "(")) ends
    have leads := (leads_open d previous _).trans (inside.trans (leads_close d between rest))
    refine ⟨some (.symbol ")"), ?_⟩
    simpa [Term.inParens, String.toList_append, Function.comp_def, putToken] using leads
  · rfl
  · obtain ⟨m, rfl⟩ := Nat.exists_eq_add_one_of_ne_zero (Nat.ne_zero_of_lt deep)
    have first := h.primary_inParens gap rest (Nat.le_of_succ_le_succ deep)
    refine ⟨rest.length + 2, by omega, ?_⟩
    have shape : t.inParens.tokens gap ++ rest =
        ⟨.symbol "(", t.lead⟩ :: (t.tokens [] ++ ⟨.symbol ")", gap⟩ :: rest) := by
      simp [Term.inParens]
    rw [shape, operand_eq first (repeated_none (after.part? _ _)) after.noCollation]
    rfl

/-- A text that is read whole is read as its expression. -/
theorem Term.StandsAlone.parseExpr (h : t.StandsAlone d levels) (deep : levels ≤ 49) :
    parseExpr d t.text = some t.expr := by
  rw [Condition.parseExpr_eq_some]
  have ends : endsWhole [] := nofun
  obtain ⟨previous, leads⟩ := h.scanned none ends
  rw [List.append_nil] at leads
  refine ⟨_, leads.lexemes, ?_⟩
  rw [expr_ordinary]
  exact h.parsed [] deep (by rintro _ ⟨⟩)

/-! ## Whole texts -/

theorem text_row (c : Combine) (t : Term) (ts : List Term) :
    (t.row c ts).text = (Config.DataRule.connective c).intercalate ((t :: ts).map (·.text)) := by
  have spaced : (Config.DataRule.connective c).toList = ' ' :: (c.word.toList ++ [' ']) := by
    cases c <;> rfl
  rw [← String.toList_inj, Term.row, String.toList_ofList]
  induction ts generalizing t with
  | nil => simp [rowText]
  | cons t' ts ih =>
    rw [rowText, ih t', List.map_cons, List.map_cons, List.map_cons, String.intercalate_cons_cons]
    simp [String.toList_append, spaced]

theorem parseExpr_term {t : Term} (h : t.Stands d) : parseExpr d t.text = some t.expr :=
  (h.standsIn (Nat.le_refl termDepth)).standsAlone.parseExpr (by decide)

theorem parseExpr_joined {t : Term} {ts : List Term} (all : ∀ u ∈ t :: ts, u.Stands d) :
    parseExpr d ("(" ++ (Config.DataRule.connective c).intercalate ((t :: ts).map (·.text)) ++ ")") =
      some (.nested (.joined c.op t.expr (ts.map (·.expr)))) := by
  have row := row_standsAlone c fun u mem => (all u mem).standsIn (Nat.le_refl termDepth)
  rw [← text_row]
  exact row.inParens.standsAlone.parseExpr (by decide)

/-- The text of joined terms stands as the junction of their expressions. -/
theorem parseExpr_combined (deny : String) {t : Term} {ts : List Term}
    (all : ∀ u ∈ t :: ts, u.Stands d) :
    parseExpr d (Config.DataRule.combined c deny ((t :: ts).map (·.text))) =
      some (if ts.isEmpty then t.expr else .nested (.joined c.op t.expr (ts.map (·.expr)))) := by
  cases ts with
  | nil => exact parseExpr_term (all t (.head _))
  | cons t' ts => exact parseExpr_joined all

end Sql.Parser

end RowAccess
