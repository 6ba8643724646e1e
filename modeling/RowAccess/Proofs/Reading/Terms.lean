import RowAccess.Proofs.Reading.Expressions
/-!
# Terms of a condition

A condition may stand in parentheses with others, `AND` or `OR` between them. It is a term there if it
is read as the same expression wherever it stands (`Term.Stands`): its tokens do not depend on what is
around it, nothing before it takes up its first word, and it ends before `AND`, `OR` and the closing
parenthesis. The conditions on a column are terms, and so are comparisons of constants.
-/

namespace RowAccess

open Sql Sql.Lexer

/-- Whether a term of a condition ends before these characters. -/
def endsTerm (cs : List Char) : Prop := ∀ c ∈ cs.head?, c = ' ' ∨ c = ')'

theorem endsTerm.noQuote {cs : List Char} (h : endsTerm cs) : cs.head? ≠ some '\'' := by
  intro quote
  rcases h '\'' quote with same | same <;> exact absurd same (by decide)

namespace Sql.Parser

/-- Words that introduce a query after a parenthesis, or a quantifier after an operator. -/
def introducing : List String := ["SELECT", "WITH", "ANY", "ALL", "SOME"]

/-- The tokens go on with a closing parenthesis, `AND` or `OR`, if they go on at all. -/
def AfterTerm (ts : List Lexeme) : Prop :=
  ∀ l ∈ ts.head?, l.token = .symbol ")" ∨ l.token = .ofWord "AND" ∨ l.token = .ofWord "OR"

/-- A text that stands for an expression, with the gap before its tokens, and its tokens by the gap
after them. -/
structure Term where
  text : String
  expr : Expr
  lead : List Blank
  tokens : List Blank → List Lexeme

/-- How far inside the outermost expression a term may be read. -/
def termDepth : Nat := 47

/-- The text is read as the expression wherever it stands as a term. -/
structure Term.Stands (d : Dialect) (t : Term) : Prop where
  scanned : ∀ (previous : Option Token) {rest : List Char}, endsTerm rest → ∃ previous',
    Leads d previous (t.text.toList ++ rest) previous' rest fun read =>
      (t.lead, t.tokens read.1 ++ read.2)
  opens : ∀ gap, ∃ l ts, t.tokens gap = l :: ts ∧ ∀ k ∈ introducing, l.token.isKeyword k = false
  parsed : ∀ {n strength : Nat} (gap : List Blank) {rest : List Lexeme}, termDepth ≤ n →
    strength ≤ OperatorGroup.and.strength d → AfterTerm rest → ∃ fuel, rest.length < fuel ∧
      operand (ordinary d n) strength (t.tokens gap ++ rest) =
        iterate (operator? (ordinary d n) strength) fuel t.expr rest

variable {d : Dialect} {n strength : Nat} {ts rest : List Lexeme} {gap : List Blank}

/-! ## Where a term ends -/

namespace AfterTerm

theorem nil : AfterTerm [] := by rintro _ ⟨⟩

theorem noText (h : AfterTerm ts) : NoText ts := by
  intro l mem
  rcases h l mem with same | same | same <;> rw [same] <;> rfl

theorem noCollation (h : AfterTerm ts) : ∀ l ∈ ts.head?, l.token.isKeyword "COLLATE" = false := by
  intro l mem
  rcases h l mem with same | same | same <;> rw [same] <;> decide

theorem part? (g : Grammar) (e : Expr) (h : AfterTerm ts) : Parser.part? g e ts = .ok (none, ts) := by
  cases ts with
  | nil => cases e <;> rfl
  | cons l ts =>
    obtain ⟨t, gap⟩ := l
    rcases h _ rfl with same | same | same <;> dsimp only at same <;> subst same <;> cases e <;> rfl

end AfterTerm

theorem strengthAt_and (d : Dialect) (gap : List Blank) (ts : List Lexeme) :
    strengthAt d (⟨.ofWord "AND", gap⟩ :: ts) = OperatorGroup.and.strength d := by
  cases d <;> rfl

theorem strengthAt_or (d : Dialect) (gap : List Blank) (ts : List Lexeme) :
    strengthAt d (⟨.ofWord "OR", gap⟩ :: ts) = OperatorGroup.or.strength d := by
  cases d <;> rfl

theorem strengthAt_close (d : Dialect) (gap : List Blank) (ts : List Lexeme) :
    strengthAt d (⟨.symbol ")", gap⟩ :: ts) = 0 := by
  cases d <;> rfl

theorem or_lt_and (d : Dialect) : OperatorGroup.or.strength d < OperatorGroup.and.strength d := by
  cases d <;> decide

theorem and_lt_comparison (d : Dialect) :
    OperatorGroup.and.strength d < OperatorGroup.comparison.strength d := by cases d <;> decide

theorem and_lt_between (d : Dialect) :
    OperatorGroup.and.strength d < OperatorGroup.between.strength d := by cases d <;> decide

theorem AfterTerm.weak (d : Dialect) (h : AfterTerm ts) :
    strengthAt d ts ≤ OperatorGroup.and.strength d := by
  cases ts with
  | nil => exact Nat.zero_le _
  | cons l ts =>
    obtain ⟨t, gap⟩ := l
    rcases h _ rfl with same | same | same <;> dsimp only at same <;> subst same
    · rw [strengthAt_close]
      exact Nat.zero_le _
    · exact Nat.le_of_eq (strengthAt_and d gap ts)
    · rw [strengthAt_or]
      exact Nat.le_of_lt (or_lt_and d)

/-! ## Operands that end a term -/

/-- Nothing is joined to an operand before `AND`, `OR` and a closing parenthesis. -/
theorem operand_last {e : Expr} (first : primary (ordinary d n) ts = .ok (e, rest))
    (after : AfterTerm rest) (tight : OperatorGroup.and.strength d ≤ strength) :
    operand (ordinary d n) strength ts = .ok (e, rest) := by
  rw [operand_eq first (repeated_none (after.part? _ _)) after.noCollation]
  exact repeated_none (operator?_none (Nat.le_trans (after.weak d) tight))

/-- A loop that takes one step has the fuel for the others. -/
theorem repeated_step {left e : Expr} {mid : List Lexeme}
    (h : operator? (ordinary d n) strength left mid = .ok (some e, rest))
    (less : rest.length ≤ mid.length) :
    ∃ fuel, rest.length < fuel ∧
      repeated (operator? (ordinary d n) strength) left mid =
        iterate (operator? (ordinary d n) strength) fuel e rest :=
  ⟨mid.length + 1, by omega, iterate_succ h⟩

/-! ## Conditions on a column -/

section

variable {qualifier : Option String} {column : String}

theorem operand_equals
    (plain : ∀ w ∈ qualifier.toList ++ [column], reservedInExpressions.contains (keywordOf w) = false)
    (value : String) (weak : strength ≤ OperatorGroup.and.strength d) (h : AfterTerm rest) :
    ∃ fuel, rest.length < fuel ∧
      operand (ordinary d (n + 1)) strength (columnLexemes qualifier column [.space] ++
          ⟨.symbol "=", [.space]⟩ :: ⟨valueToken value, gap⟩ :: rest) =
        iterate (operator? (ordinary d (n + 1)) strength) fuel (equalExpr qualifier column value) rest := by
  rw [operand_column (afterColumn_equals _ _) plain]
  refine repeated_step ?_ (by simp only [List.length_cons]; omega)
  rw [operator?_some (by rw [strengthAt_equals]; exact Nat.lt_of_le_of_lt weak (and_lt_comparison d)),
    strengthAt_equals]
  refine bind_ok (a := equalExpr qualifier column value) ?_
  have last : operand (ordinary d n) (OperatorGroup.comparison.strength d)
      (⟨valueToken value, gap⟩ :: rest) = .ok (.literal (.string value), rest) :=
    operand_last (primary_value _ (literal_closed _ h.noText)) h (Nat.le_of_lt (and_lt_comparison d))
  rw [applyOperator_equals, operand_ordinary, bind_ok last]
  rfl

theorem operand_members
    (plain : ∀ w ∈ qualifier.toList ++ [column], reservedInExpressions.contains (keywordOf w) = false)
    {values : List String} (nonempty : values ≠ []) (weak : strength ≤ OperatorGroup.and.strength d) :
    ∃ fuel, rest.length < fuel ∧
      operand (ordinary d (n + 1)) strength (columnLexemes qualifier column [.space] ++
          ⟨.ofWord "IN", [.space]⟩ :: ⟨.symbol "(", []⟩ :: (memberLexemes gap values ++ rest)) =
        iterate (operator? (ordinary d (n + 1)) strength) fuel (memberExpr qualifier column values)
          rest := by
  rw [operand_column (afterColumn_in _ _) plain]
  refine repeated_step (operator?_members gap nonempty (Nat.lt_of_le_of_lt weak (and_lt_between d)) rest) ?_
  simp only [List.length_cons, List.length_append]
  omega

/-- Whether the text is a word that names a column wherever it stands in a condition. -/
def isColumnName (w : String) : Bool := isPlainName w && !introducing.contains (keywordOf w)

theorem plain_of_columns {names : List String} (h : names.all isColumnName = true) :
    names.all isPlainName = true := by
  simp only [List.all_eq_true, isColumnName, Bool.and_eq_true] at h ⊢
  exact fun w mem => (h w mem).1

/-- The name of a column introduces nothing. -/
theorem opens_column (h : (qualifier.toList ++ [column]).all isColumnName = true) (gap : List Blank)
    (ts : List Lexeme) :
    ∃ l ts', columnLexemes qualifier column gap ++ ts = l :: ts' ∧
      ∀ k ∈ introducing, l.token.isKeyword k = false := by
  have none_of {w : String} (mem : w ∈ qualifier.toList ++ [column]) :
      ∀ k ∈ introducing, (Token.ofWord w).isKeyword k = false := by
    intro k among
    refine beq_false_of_ne fun same => ?_
    have name := List.all_eq_true.mp h w mem
    rw [isColumnName, same, List.contains_iff_mem.mpr among, Bool.not_true, Bool.and_false] at name
    cases name
  cases qualifier with
  | none => exact ⟨_, _, rfl, none_of (by simp)⟩
  | some q => exact ⟨_, _, rfl, none_of (by simp)⟩

theorem exists_level {n : Nat} (deep : termDepth ≤ n) : ∃ m, n = m + 1 :=
  Nat.exists_eq_add_one_of_ne_zero (by rw [termDepth] at deep; omega)

/-- The condition that a column has a value is a term if the value is readable. -/
theorem stands_equals (h : (qualifier.toList ++ [column]).all isColumnName = true) {value : String}
    (readable : d.readable value = true) :
    Term.Stands d ⟨equalText (RowAccess.qualify qualifier column) value,
      equalExpr qualifier column value, [], fun gap =>
        columnLexemes qualifier column [.space] ++
          [⟨.symbol "=", [.space]⟩, ⟨valueToken value, gap⟩]⟩ := by
  obtain ⟨hq, hc, free⟩ := words_of_plain (plain_of_columns h)
  refine ⟨fun previous rest ends => ?_, fun gap => opens_column h _ _, fun gap rest deep weak after => ?_⟩
  · have leads := (leads_equality d previous hq hc _).trans
      (leads_value d none readable ends.noQuote)
    refine ⟨some (valueToken value), ?_⟩
    rw [toList_equalText, List.append_assoc, List.cons_append, List.cons_append, List.cons_append]
    simpa [Function.comp_def, putToken] using leads
  · obtain ⟨m, rfl⟩ := exists_level deep
    rw [List.append_assoc]
    exact operand_equals free value weak after

/-- The condition that a column has one of several values is a term if all of them are readable. -/
theorem stands_members (h : (qualifier.toList ++ [column]).all isColumnName = true) (deny : String)
    {values : List String} (nonempty : values ≠ []) (readable : ∀ v ∈ values, d.readable v = true) :
    Term.Stands d ⟨memberText deny (RowAccess.qualify qualifier column) values,
      memberExpr qualifier column values, [], fun gap =>
        columnLexemes qualifier column [.space] ++
          ⟨.ofWord "IN", [.space]⟩ :: ⟨.symbol "(", []⟩ :: memberLexemes gap values⟩ := by
  obtain ⟨hq, hc, free⟩ := words_of_plain (plain_of_columns h)
  refine ⟨fun previous rest ends => ?_, fun gap => opens_column h _ _, fun gap rest deep weak after => ?_⟩
  · have leads := (leads_in d previous hq hc _).trans (leads_members d rest values _ readable)
    refine ⟨some (.symbol ")"), ?_⟩
    rw [toList_memberText deny _ nonempty]
    simpa [Function.comp_def] using leads
  · obtain ⟨m, rfl⟩ := exists_level deep
    rw [List.append_assoc]
    exact operand_members free nonempty weak

end

/-! ## Comparisons of constants -/

/-- A constant of a comparison. -/
inductive Constant where
  /-- Decimal digits. -/
  | number (digits : String)
  | string (value : String)
deriving DecidableEq, Repr, Inhabited

namespace Constant

/-- The constant as it is written. -/
def text : Constant → String
  | number digits => digits
  | string value => RowAccess.literalText value

/-- The constant as a literal. -/
def literal : Constant → Literal
  | number digits => .number digits false
  | string value => .string value

/-- Whether the constant is read as it is meant. -/
def isReadable (d : Dialect) : Constant → Bool
  | number digits => !digits.isEmpty && digits.toList.all Char.isDigit
  | string value => d.readable value

end Constant

theorem digits_run (d : Dialect) {ds : List Char} (h : ds.all Char.isDigit = true) {rest : List Char}
    (ends : endsTerm rest) : digits d Char.isDigit (ds ++ rest) = (ds, rest) := by
  induction ds with
  | nil =>
    cases rest with
    | nil => rfl
    | cons c cs => rcases ends c rfl with rfl | rfl <;> cases d <;> rfl
  | cons c ds ih =>
    rw [List.all_cons, Bool.and_eq_true] at h
    rw [List.cons_append, digits.eq_def]
    simp [h.1, ih h.2]

theorem run_name_ends (d : Dialect) {rest : List Char} (ends : endsTerm rest) :
    run d.continuesName rest = ([], rest) := by
  cases rest with
  | nil => rfl
  | cons c cs => rcases ends c rfl with rfl | rfl <;> cases d <;> rfl

theorem exponent_ends {rest : List Char} (ends : endsTerm rest) : exponent rest = ([], rest) := by
  cases rest with
  | nil => rfl
  | cons c cs => rcases ends c rfl with rfl | rfl <;> rfl

theorem number_digits (d : Dialect) (previous : Option Token) {ds : List Char}
    (nonempty : ds ≠ []) (h : ds.all Char.isDigit = true) {rest : List Char} (ends : endsTerm rest) :
    number d previous (ds ++ rest) = some (.literal (.number (String.ofList ds) false), rest) := by
  have whole := digits_run d h ends
  have fraction : digits d Char.isDigit ([] ++ rest) = ([], rest) := digits_run d rfl ends
  rw [List.nil_append] at fraction
  have noDot : ds ≠ ['.'] := by
    rintro rfl
    exact absurd h (by decide)
  have noWord : ∀ r, ds ++ rest ≠ '.' :: '_' :: r := by
    intro r same
    cases ds with
    | nil => exact nonempty rfl
    | cons c cs =>
      obtain rfl : c = '.' := (List.cons.inj same).1
      simp at h
  have name := run_name_ends d ends
  have power := exponent_ends ends
  have shape : rest = [] ∨ ∃ more, rest = ' ' :: more ∨ rest = ')' :: more := by
    cases rest with
    | nil => exact .inl rfl
    | cons c more => exact .inr ⟨more, by rcases ends c rfl with rfl | rfl <;> simp⟩
  cases previous
  all_goals
    rw [number]
    · simp only [whole]
      rcases shape with rfl | ⟨more, rfl | rfl⟩ <;>
        simp [fraction, name, power, noDot, startsExponent]
    · exact noWord

theorem next_digit (d : Dialect) (previous : Option Token) {c : Char} (h : c.isDigit = true)
    (cs : List Char) :
    next d previous c cs = (number d previous (c :: cs)).map fun (t, rest) => (.token t, rest) := by
  have code := toNat_of_isDigit h
  have noAlpha : c.isAlpha = false := by
    rw [Bool.eq_false_iff]
    intro alpha
    have letters := toNat_of_isAlpha alpha
    omega
  have noQuote : d.quotesName c = false := by
    rw [Bool.eq_false_iff]
    intro quotes
    cases d <;> simp [Dialect.quotesName] at quotes <;> first | subst quotes | (rcases quotes with rfl | rfl)
    all_goals exact absurd h (by decide)
  unfold next
  split
  case h_5 =>
    have single : c ≠ '\'' := by
      rintro rfl
      exact absurd h (by decide)
    have double : c ≠ '"' := by
      rintro rfl
      exact absurd h (by decide)
    simp [noAlpha, noQuote, single, double, h]
  all_goals exact absurd h (by decide)

theorem leads_number (d : Dialect) (previous : Option Token) {digits : String}
    (h : Constant.isReadable d (.number digits) = true) {rest : List Char} (ends : endsTerm rest) :
    Leads d previous (digits.toList ++ rest) (some (.literal (.number digits false))) rest
      (putToken (.literal (.number digits false))) := by
  simp only [Constant.isReadable, Bool.and_eq_true, Bool.not_eq_true'] at h
  cases same : digits.toList with
  | nil => simp [String.toList_eq_nil_iff.mp same] at h
  | cons c cs =>
    rw [same] at h
    have first : c.isDigit = true := List.all_eq_true.mp h.2 c (.head _)
    have read := number_digits d previous (List.cons_ne_nil c cs) h.2 ends
    rw [← same, String.ofList_toList, same] at read
    rw [List.cons_append] at read ⊢
    refine .token ?_ (by simp)
    rw [next_digit d previous first, read]
    rfl

namespace Constant

variable {c : Constant}

/-- The token of a constant. -/
def token (c : Constant) : Token := .literal c.literal

theorem leads (h : c.isReadable d = true) (previous : Option Token) {rest : List Char}
    (ends : endsTerm rest) :
    Leads d previous (c.text.toList ++ rest) (some c.token) rest (putToken c.token) := by
  cases c with
  | number digits => exact leads_number d previous h ends
  | string value => exact leads_value d previous h ends.noQuote

theorem primary (c : Constant) (n : Nat) (none : NoText ts) :
    Parser.primary (ordinary d n) (⟨c.token, gap⟩ :: ts) = .ok (.literal c.literal, ts) := by
  cases c with
  | number digits => rfl
  | string value => exact primary_value _ (literal_closed _ none)

end Constant

/-- The operators that compare two values. -/
def comparing : List BinaryOp := [.eq, .notEq, .lt, .ltEq, .gt, .gtEq]

theorem comparing_cases {op : BinaryOp} (h : op ∈ comparing) :
    op = .eq ∨ op = .notEq ∨ op = .lt ∨ op = .ltEq ∨ op = .gt ∨ op = .gtEq := by
  simpa [comparing] using h

theorem leads_comparing (d : Dialect) (previous : Option Token) {op : BinaryOp} (h : op ∈ comparing)
    (cs : List Char) :
    Leads d previous (op.render.toList ++ ' ' :: cs) (some (.symbol op.render)) (' ' :: cs)
      (putToken (.symbol op.render)) := by
  rcases comparing_cases h with rfl | rfl | rfl | rfl | rfl | rfl
  all_goals
    refine .token ?_ ?_
    · cases d <;> rfl
    · simp

/-- A comparison of constants as it is written. -/
def comparisonText (left : Constant) (op : BinaryOp) (right : Constant) : String :=
  left.text ++ " " ++ op.render ++ " " ++ right.text

/-- A sign of comparison after an operand is not one of its parts. -/
theorem part?_comparing {op : BinaryOp} (h : op ∈ comparing) (g : Grammar) (e : Expr) :
    part? g e (⟨.symbol op.render, gap⟩ :: ts) = .ok (none, ⟨.symbol op.render, gap⟩ :: ts) := by
  rcases comparing_cases h with rfl | rfl | rfl | rfl | rfl | rfl <;> cases e <;> rfl

theorem strengthAt_comparing (d : Dialect) {op : BinaryOp} (h : op ∈ comparing) :
    strengthAt d (⟨.symbol op.render, gap⟩ :: ts) = OperatorGroup.comparison.strength d := by
  rcases comparing_cases h with rfl | rfl | rfl | rfl | rfl | rfl <;> cases d <;> rfl

theorem applyOperator_comparing (g : Grammar) {op : BinaryOp} (h : op ∈ comparing) (left : Expr)
    (right : Constant) {gap' : List Blank} :
    applyOperator g strength left (⟨.symbol op.render, gap⟩ :: ⟨right.token, gap'⟩ :: ts) =
      (do return .binary op left (← g.operand strength) : P Expr) (⟨right.token, gap'⟩ :: ts) := by
  rcases comparing_cases h with rfl | rfl | rfl | rfl | rfl | rfl <;> cases right <;> rfl

theorem operand_comparison (left right : Constant) {op : BinaryOp} (comparison : op ∈ comparing)
    (weak : strength ≤ OperatorGroup.and.strength d) (after : AfterTerm rest) :
    ∃ fuel, rest.length < fuel ∧
      operand (ordinary d (n + 1)) strength
          (⟨left.token, [.space]⟩ :: ⟨.symbol op.render, [.space]⟩ :: ⟨right.token, gap⟩ :: rest) =
        iterate (operator? (ordinary d (n + 1)) strength) fuel
          (.binary op (.literal left.literal) (.literal right.literal)) rest := by
  have noText : NoText (⟨.symbol op.render, [.space]⟩ :: ⟨right.token, gap⟩ :: rest) := by
    rintro _ ⟨⟩
    rfl
  rw [operand_eq (left.primary _ noText) (repeated_none (part?_comparing comparison _ _))
    (by rintro _ ⟨⟩; rfl)]
  refine repeated_step ?_ (by simp only [List.length_cons]; omega)
  rw [operator?_some (by
      rw [strengthAt_comparing d comparison]
      exact Nat.lt_of_le_of_lt weak (and_lt_comparison d)), strengthAt_comparing d comparison]
  refine bind_ok (a := Expr.binary op (.literal left.literal) (.literal right.literal)) ?_
  have last : operand (ordinary d n) (OperatorGroup.comparison.strength d)
      (⟨right.token, gap⟩ :: rest) = .ok (.literal right.literal, rest) :=
    operand_last (right.primary n after.noText) after (Nat.le_of_lt (and_lt_comparison d))
  rw [applyOperator_comparing _ comparison, operand_ordinary, bind_ok last]
  rfl

/-- A comparison of readable constants is a term. -/
theorem stands_comparison {left right : Constant} {op : BinaryOp} (comparison : op ∈ comparing)
    (hl : left.isReadable d = true) (hr : right.isReadable d = true) :
    Term.Stands d ⟨comparisonText left op right,
      .binary op (.literal left.literal) (.literal right.literal), [], fun gap =>
        [⟨left.token, [.space]⟩, ⟨.symbol op.render, [.space]⟩, ⟨right.token, gap⟩]⟩ := by
  refine ⟨fun previous rest ends => ?_, fun gap => ⟨_, _, rfl, fun k _ => rfl⟩,
    fun gap rest deep weak after => ?_⟩
  · have blank : ∀ cs, endsTerm (' ' :: cs) := by
      rintro cs c ⟨⟩
      exact .inl rfl
    have leads := ((left.leads hl previous (blank _)).trans (leads_space d _ _)).trans
      (((leads_comparing d none comparison _).trans (leads_space d _ _)).trans (right.leads hr none ends))
    refine ⟨some right.token, ?_⟩
    simpa [comparisonText, String.toList_append, Function.comp_def, putToken, putBlank] using leads
  · obtain ⟨m, rfl⟩ := exists_level deep
    exact operand_comparison left right comparison weak after

end Sql.Parser

end RowAccess
