import RowAccess.Proofs.Reading.Names
/-!
# Reading conditions on a column

The name of a column and a literal are operands, and a comparison or a membership test is made of
them. Two levels of nesting are enough to read either.
-/

namespace RowAccess.Sql.Parser

variable {d : Dialect} {n : Nat} {ts rest : List Lexeme} {strength : Nat}

/-- The grammar of expressions with `n` levels of phrases inside them. -/
abbrev ordinary (d : Dialect) (n : Nat) : Grammar := (Level.ofDepth d n).ordinary

theorem dialect_ordinary (d : Dialect) (n : Nat) : (ordinary d n).dialect = d := by cases n <;> rfl

theorem setting_ordinary (d : Dialect) (n : Nat) : (ordinary d n).setting = .ordinary := by
  cases n <;> rfl

/-- Phrases inside others are read one level below. -/
theorem operand_ordinary (d : Dialect) (n strength : Nat) :
    (ordinary d (n + 1)).operand strength = operand (ordinary d n) strength := rfl

theorem expr_ordinary (d : Dialect) (n : Nat) :
    (ordinary d (n + 1)).expr = operand (ordinary d n) 0 := rfl

/-! ## Operands -/

/-- The strength of the operator that comes next. -/
def strengthAt (d : Dialect) (ts : List Lexeme) : Nat :=
  nextStrength d .ordinary ((ts.take 3).map (·.token))

theorem operator?_none {left : Expr} (h : strengthAt d ts ≤ strength) :
    operator? (ordinary d n) strength left ts = .ok (none, ts) := by
  rw [operator?, bind_ok (a := (ts.take 3).map (·.token)) rfl, dialect_ordinary, setting_ordinary]
  rw [if_pos (show nextStrength d .ordinary ((ts.take 3).map (·.token)) ≤ strength from h)]
  rfl

/-- An operand is read from its parts: what comes first, its parts and the operators after it. -/
theorem operand_eq {e whole : Expr} {mid after : List Lexeme}
    (first : primary (ordinary d n) ts = .ok (e, mid))
    (parts : repeated (part? (ordinary d n)) e mid = .ok (whole, after))
    (noCollation : ∀ l ∈ after.head?, l.token.isKeyword "COLLATE" = false) :
    operand (ordinary d n) strength ts =
      repeated (operator? (ordinary d n) strength) whole after := by
  have peeked : peekKeyword "COLLATE" after = .ok (false, after) := by
    cases after with
    | nil => rfl
    | cons l rest => exact congrArg (fun b => Except.ok (b, l :: rest)) (noCollation l rfl)
  rw [operand, bind_ok first, bind_ok parts, bind_ok peeked, setting_ordinary]
  rfl

/-! ## Columns -/

theorem strengthAt_equals (d : Dialect) (gap : List Blank) (rest : List Lexeme) :
    strengthAt d (⟨.symbol "=", gap⟩ :: rest) = OperatorGroup.comparison.strength d := by
  cases d <;> rfl

theorem strengthAt_in (d : Dialect) (gap : List Blank) (rest : List Lexeme) :
    strengthAt d (⟨.ofWord "IN", gap⟩ :: rest) = OperatorGroup.between.strength d := by
  cases d <;> rfl

theorem strengthAt_column (h : AfterColumn ts) :
    0 < strengthAt d ts ∧ strengthAt d ts ≤ dotStrength d := by
  obtain ⟨⟨t, gap⟩, rest, rfl, sign⟩ := h
  rcases sign with same | same <;> dsimp only at same <;> subst same
  · rw [strengthAt_equals]
    cases d <;> decide
  · rw [strengthAt_in]
    cases d <;> decide

theorem part?_column (e : Expr) (h : AfterColumn ts) :
    part? (ordinary d n) e ts = .ok (none, ts) := by
  obtain ⟨⟨t, gap⟩, rest, rfl, sign⟩ := h
  rcases sign with same | same <;> dsimp only at same <;> subst same <;> cases e <;> rfl

theorem noCollation_column (h : AfterColumn ts) :
    ∀ l ∈ ts.head?, l.token.isKeyword "COLLATE" = false := by
  obtain ⟨l, rest, rfl, sign⟩ := h
  rintro _ ⟨⟩
  rcases sign with same | same <;> rw [same] <;> decide

/-- The first word of a column's name is an expression of its own. -/
theorem primary_word {w : String} {gap : List Blank}
    (plain : reservedInExpressions.contains (keywordOf w) = false) (after : AfterName ts)
    (noType : typedLiteral (ordinary d n) (⟨.ofWord w, gap⟩ :: ts) = .error .unexpected) :
    primary (ordinary d n) (⟨.ofWord w, gap⟩ :: ts) = .ok (.name [⟨w, none⟩], ts) := by
  rw [primary, bind_ok (attempt_unexpected noType)]
  exact (bind_ok (peek_cons _ _)).trans ((bind_ok rfl).trans (worded_plain plain after))

theorem interval_reserved {w : String} (plain : reservedInExpressions.contains (keywordOf w) = false) :
    keywordOf w ≠ "INTERVAL" := by
  intro same
  rw [same] at plain
  exact absurd plain (by decide)

/-- An unqualified column is an operand, with the operators after it. -/
theorem operand_bare {column : String} {gap : List Blank} (h : AfterColumn ts)
    (plain : reservedInExpressions.contains (keywordOf column) = false) :
    operand (ordinary d n) strength (⟨.ofWord column, gap⟩ :: ts) =
      repeated (operator? (ordinary d n) strength) (.name [⟨column, none⟩]) ts := by
  have noType : typedLiteral (ordinary d n) (columnLexemes none column gap ++ ts) =
      .error .unexpected := by
    refine typedLiteral_column h ?_
    rintro _ ⟨⟩
    exact interval_reserved plain
  exact operand_eq (primary_word plain h.afterName noType) (repeated_none (part?_column _ h))
    (noCollation_column h)

/-- A column after a dot is read one level below. -/
theorem dottedPart_column {column : String} {gap : List Blank} (h : AfterColumn ts)
    (plain : reservedInExpressions.contains (keywordOf column) = false) :
    dottedPart (ordinary d (n + 1)) (⟨.ofWord column, gap⟩ :: ts) =
      .ok (.name [⟨column, none⟩], ts) := by
  have part : partExpr (ordinary d (n + 1)) (⟨.ofWord column, gap⟩ :: ts) =
      .ok (.name [⟨column, none⟩], ts) := by
    have read : operand (ordinary d n) (dotStrength d) (⟨.ofWord column, gap⟩ :: ts) =
        .ok (.name [⟨column, none⟩], ts) := by
      rw [operand_bare h plain]
      exact repeated_none (operator?_none (strengthAt_column h).2)
    rw [partExpr, operand_ordinary, dialect_ordinary, bind_ok read]
    rfl
  rw [dottedPart, bind_ok (peek_cons _ _)]
  exact (bind_ok (attempt_ok part)).trans rfl

theorem part?_dot (g : Grammar) (parts : Name) (w : String) (gap gap' : List Blank) :
    part? g (.name parts) (⟨.symbol ".", gap⟩ :: ⟨.ofWord w, gap'⟩ :: ts) =
      (do return some (qualify (.name parts) (← dottedPart g)) : P (Option Expr))
        (⟨.ofWord w, gap'⟩ :: ts) := rfl

/-- The name of a column is an operand, with the operators after it. -/
theorem operand_column {qualifier : Option String} {column : String} {gap : List Blank}
    (h : AfterColumn ts)
    (plain : ∀ w ∈ qualifier.toList ++ [column], reservedInExpressions.contains (keywordOf w) = false) :
    operand (ordinary d (n + 1)) strength (columnLexemes qualifier column gap ++ ts) =
      repeated (operator? (ordinary d (n + 1)) strength) (.name (columnName qualifier column)) ts := by
  cases qualifier with
  | none => exact operand_bare h (plain column (by simp))
  | some q =>
    have dot : AfterName (⟨.symbol ".", []⟩ :: ⟨.ofWord column, gap⟩ :: ts) := by
      rintro _ ⟨⟩
      exact .inl rfl
    have noType : typedLiteral (ordinary d (n + 1)) (columnLexemes (some q) column gap ++ ts) =
        .error .unexpected := by
      refine typedLiteral_column h ?_
      rintro _ ⟨⟩
      exact interval_reserved (plain q (by simp))
    have joins : part? (ordinary d (n + 1)) (.name [⟨q, none⟩])
        (⟨.symbol ".", []⟩ :: ⟨.ofWord column, gap⟩ :: ts) =
        .ok (some (.name [⟨q, none⟩, ⟨column, none⟩]), ts) := by
      rw [part?_dot, bind_ok (dottedPart_column h (plain column (by simp)))]
      rfl
    have parts : repeated (part? (ordinary d (n + 1))) (.name [⟨q, none⟩])
        (⟨.symbol ".", []⟩ :: ⟨.ofWord column, gap⟩ :: ts) =
        .ok (.name [⟨q, none⟩, ⟨column, none⟩], ts) := by
      rw [repeated, iterate_succ joins, iterate, bind_ok (part?_column _ h)]
      rfl
    exact operand_eq (primary_word (plain q (by simp)) dot noType) parts (noCollation_column h)

/-! ## Values -/

section

variable {w : String} {gap : List Blank} {more : List Lexeme}

/-- The tokens do not go on with text that could be joined to a literal. -/
def NoText (ts : List Lexeme) : Prop := ∀ l ∈ ts.head?, l.token.isText = false

theorem stringLiteral?_none (h : NoText ts) : stringLiteral? ts = .ok (none, ts) := by
  cases ts with
  | nil => rfl
  | cons l ts =>
    obtain ⟨t, gap⟩ := l
    have no : t.isText = false := h _ rfl
    cases t with
    | literal l => cases l <;> first | rfl | cases no
    | _ => rfl

theorem many_none {α : Type} {step : P (Option α)} (h : step ts = .ok (none, ts)) :
    many step ts = .ok ([], ts) := by
  rw [many, collect, bind_ok h]
  rfl

theorem literal_closed (d : Dialect) (h : NoText more) :
    literal d (⟨valueToken w, gap⟩ :: more) = .ok (.string w, more) := by
  have joined : joinedStrings d w more = .ok (w, more) := by
    rw [joinedStrings]
    split
    · rw [bind_ok (many_none (stringLiteral?_none h))]
      simp [pure_apply, String.join]
    · rfl
  have first : advanceLexeme (⟨valueToken w, gap⟩ :: more) = .ok (⟨valueToken w, gap⟩, more) := rfl
  rw [literal, bind_ok first]
  exact bind_ok joined

/-- Whatever follows, the literal starts with the value of its first token, and it is that value
if no further text follows. -/
theorem literal_value {l : Literal} (h : literal d (⟨valueToken w, gap⟩ :: more) = .ok (l, rest)) :
    ∃ joined, l = .string (w ++ joined) ∧ (NoText more → joined = "") := by
  obtain ⟨s, mid, joins, same⟩ := bind_eq_ok
    (show ((joinedStrings d w >>= fun s => pure (.string s)) : P Literal) more = .ok (l, rest) from h)
  cases same
  rw [joinedStrings] at joins
  split at joins
  · obtain ⟨texts, _, read, same⟩ := bind_eq_ok joins
    cases same
    refine ⟨_, rfl, fun none => ?_⟩
    rw [many_none (stringLiteral?_none none)] at read
    cases read
    rfl
  · cases joins
    exact ⟨"", by simp, fun _ => rfl⟩

theorem primary_value (g : Grammar) (h : literal g.dialect (⟨valueToken w, gap⟩ :: more) = .ok (l, rest)) :
    primary g (⟨valueToken w, gap⟩ :: more) = .ok (.literal l, rest) := by
  have noType : typedLiteral g (⟨valueToken w, gap⟩ :: more) = .error .unexpected := rfl
  rw [primary, bind_ok (attempt_unexpected noType)]
  exact (bind_ok (peek_cons _ _)).trans (bind_ok h)

/-- A value ends there: a comma, a closing parenthesis or nothing follows. -/
def Closes (ts : List Lexeme) : Prop := ∀ l ∈ ts.head?, l.token = .symbol "," ∨ l.token = .symbol ")"

theorem Closes.noText (h : Closes ts) : NoText ts := by
  intro l mem
  rcases h l mem with same | same <;> rw [same] <;> rfl

theorem Closes.strengthAt (d : Dialect) (h : Closes ts) : strengthAt d ts = 0 := by
  cases ts with
  | nil => rfl
  | cons l ts =>
    obtain ⟨t, gap⟩ := l
    rcases h _ rfl with same | same <;> dsimp only at same <;> subst same <;> cases d <;> rfl

theorem Closes.part? (g : Grammar) (e : Expr) (h : Closes ts) : part? g e ts = .ok (none, ts) := by
  cases ts with
  | nil => cases e <;> rfl
  | cons l ts =>
    obtain ⟨t, gap⟩ := l
    rcases h _ rfl with same | same <;> dsimp only at same <;> subst same <;> cases e <;> rfl

theorem Closes.noCollation (h : Closes ts) : ∀ l ∈ ts.head?, l.token.isKeyword "COLLATE" = false := by
  intro l mem
  rcases h l mem with same | same <;> rw [same] <;> rfl

/-- A value that is closed is an operand of its own. -/
theorem operand_value (h : Closes more) :
    operand (ordinary d n) strength (⟨valueToken w, gap⟩ :: more) =
      .ok (.literal (.string w), more) := by
  rw [operand_eq (primary_value _ (literal_closed _ h.noText)) (repeated_none (h.part? _ _))
    h.noCollation]
  exact repeated_none (operator?_none (by simp [h.strengthAt d]))

end

/-! ## Conditions -/

section

variable {w : String} {gap gap' gap'' : List Blank} {more : List Lexeme} {left : Expr}

theorem operator?_some (h : strength < strengthAt d ts) :
    operator? (ordinary d n) strength left ts =
      (do return some (← applyOperator (ordinary d n) (strengthAt d ts) left) : P (Option Expr)) ts := by
  rw [operator?, bind_ok (a := (ts.take 3).map (·.token)) rfl, dialect_ordinary, setting_ordinary]
  rw [if_neg (show ¬ nextStrength d .ordinary ((ts.take 3).map (·.token)) ≤ strength from
    Nat.not_le.mpr h)]
  rfl

theorem applyOperator_equals (g : Grammar) :
    applyOperator g strength left (⟨.symbol "=", gap⟩ :: ⟨valueToken w, gap'⟩ :: more) =
      (do return .binary .eq left (← g.operand strength) : P Expr) (⟨valueToken w, gap'⟩ :: more) :=
  rfl

/-- No query starts with a literal. -/
theorem query_value (g : Grammar) :
    query g (change? g) (⟨valueToken w, gap⟩ :: more) = .error .unexpected := by
  have noBody : body g (⟨valueToken w, gap⟩ :: more) = .error .unexpected := by
    refine bind_error ?_
    rw [bodyTerm, bind_ok (a := "") rfl]
    cases g.dialect <;> rfl
  exact (bind_ok (a := (false, [])) rfl).trans ((bind_ok (a := none) rfl).trans (bind_error noBody))

/-- `IN` takes a list of expressions if no query follows the parenthesis. -/
theorem applyOperator_in :
    applyOperator (ordinary d (n + 1)) strength left
        (⟨.ofWord "IN", gap⟩ :: ⟨.symbol "(", gap'⟩ :: ⟨valueToken w, gap''⟩ :: more) =
      (do
        let members ← commas (operand (ordinary d n) 0)
        symbol ")"
        return .inList false left members : P Expr) (⟨valueToken w, gap''⟩ :: more) := by
  have test : applyOperator (ordinary d (n + 1)) strength left
      (⟨.ofWord "IN", gap⟩ :: ⟨.symbol "(", gap'⟩ :: ⟨valueToken w, gap''⟩ :: more) =
      inTest (ordinary d (n + 1)) false left (⟨.symbol "(", gap'⟩ :: ⟨valueToken w, gap''⟩ :: more) := rfl
  have noQuery : attempt (ordinary d (n + 1)).query (⟨valueToken w, gap''⟩ :: more) =
      .ok (none, ⟨valueToken w, gap''⟩ :: more) := attempt_unexpected (query_value (ordinary d n))
  rw [test, inTest, bind_ok (a := false) rfl]
  dsimp only
  have opens : symbol "(" (⟨.symbol "(", gap'⟩ :: ⟨valueToken w, gap''⟩ :: more) =
      .ok ((), ⟨valueToken w, gap''⟩ :: more) := rfl
  refine (bind_ok opens).trans ?_
  rw [bind_ok noQuery]
  rfl

end

/-- The condition that a column has a value. -/
def equalExpr (qualifier : Option String) (column value : String) : Expr :=
  .binary .eq (.name (columnName qualifier column)) (.literal (.string value))

/-- The condition that a column has one of several values. -/
def memberExpr (qualifier : Option String) (column : String) (values : List String) : Expr :=
  .inList false (.name (columnName qualifier column)) (values.map fun v => .literal (.string v))

section

variable {qualifier : Option String} {column : String}

theorem afterColumn_equals (gap : List Blank) (ts : List Lexeme) :
    AfterColumn (⟨.symbol "=", gap⟩ :: ts) := ⟨_, _, rfl, .inl rfl⟩

theorem afterColumn_in (gap : List Blank) (ts : List Lexeme) :
    AfterColumn (⟨.ofWord "IN", gap⟩ :: ts) := ⟨_, _, rfl, .inr rfl⟩

theorem repeated_once {left e : Expr}
    (h : operator? (ordinary d n) strength left ts = .ok (some e, rest)) (closes : Closes rest) :
    repeated (operator? (ordinary d n) strength) left ts = .ok (e, rest) := by
  rw [repeated, iterate_succ h, iterate, bind_ok (operator?_none (by simp [closes.strengthAt d]))]
  rfl

theorem expr_equals
    (plain : ∀ w ∈ qualifier.toList ++ [column], reservedInExpressions.contains (keywordOf w) = false)
    (value : String) :
    (ordinary d (n + 2)).expr (columnLexemes qualifier column [.space] ++
        [⟨.symbol "=", [.space]⟩, ⟨valueToken value, []⟩]) =
      .ok (equalExpr qualifier column value, []) := by
  have closes : Closes [] := by rintro _ ⟨⟩
  rw [expr_ordinary, operand_column (afterColumn_equals _ _) plain]
  refine repeated_once ?_ closes
  rw [operator?_some (strengthAt_column (afterColumn_equals _ _)).1]
  refine bind_ok (a := equalExpr qualifier column value) ?_
  rw [applyOperator_equals, operand_ordinary, bind_ok (operand_value closes)]
  rfl

/-- The tokens after the first of several values. -/
def memberRest (gap : List Blank) : List String → List Lexeme
  | [] => [⟨.symbol ")", gap⟩]
  | values => ⟨.symbol ",", [.space]⟩ :: memberLexemes gap values

theorem memberLexemes_cons (gap : List Blank) (value : String) (values : List String) :
    memberLexemes gap (value :: values) = ⟨valueToken value, []⟩ :: memberRest gap values := by
  cases values <;> rfl

theorem closes_memberRest (gap : List Blank) (values : List String) (rest : List Lexeme) :
    Closes (memberRest gap values ++ rest) := by
  cases values <;> rintro _ ⟨⟩
  · exact .inr rfl
  · exact .inl rfl

theorem collect_members (gap : List Blank) (rest : List Lexeme) :
    ∀ (values : List String) (fuel : Nat), values.length < fuel →
      collect (optional (symbol? ",") (operand (ordinary d n) 0)) fuel (memberRest gap values ++ rest) =
        .ok (values.map fun v => .literal (.string v), ⟨.symbol ")", gap⟩ :: rest)
  | [], fuel, enough => by
    cases fuel with
    | zero => exact absurd enough (Nat.not_lt_zero _)
    | succ fuel => rfl
  | value :: values, fuel, enough => by
    cases fuel with
    | zero => exact absurd enough (Nat.not_lt_zero _)
    | succ fuel =>
      have next : optional (symbol? ",") (operand (ordinary d n) 0)
          (memberRest gap (value :: values) ++ rest) =
          .ok (some (.literal (.string value)), memberRest gap values ++ rest) := by
        rw [memberRest, memberLexemes_cons, List.cons_append, optional, bind_ok (symbol?_yes rfl)]
        · exact bind_ok (operand_value (closes_memberRest gap values rest))
        · rintro ⟨⟩
      rw [collect, bind_ok next]
      exact bind_ok (collect_members gap rest values fuel (by simpa using enough))

theorem length_memberRest (gap : List Blank) (values : List String) :
    values.length < (memberRest gap values).length := by
  induction values with
  | nil => simp [memberRest]
  | cons value values ih =>
    rw [memberRest, memberLexemes_cons]
    · simp only [List.length_cons]
      omega
    · rintro ⟨⟩

/-- `IN` with values makes a membership test of what is before it, whatever comes after. -/
theorem operator?_members {left : Expr} (gap : List Blank) {values : List String} (nonempty : values ≠ [])
    (weak : strength < OperatorGroup.between.strength d) (rest : List Lexeme) :
    operator? (ordinary d (n + 1)) strength left
        (⟨.ofWord "IN", [.space]⟩ :: ⟨.symbol "(", []⟩ :: (memberLexemes gap values ++ rest)) =
      .ok (some (.inList false left (values.map fun v => .literal (.string v))), rest) := by
  rw [operator?_some (by rwa [strengthAt_in])]
  refine bind_ok (a := Expr.inList false left (values.map fun v => .literal (.string v))) ?_
  cases values with
  | nil => exact absurd rfl nonempty
  | cons value values =>
    have enough : values.length < (memberRest gap values ++ rest).length + 2 := by
      have := length_memberRest gap values
      rw [List.length_append]
      omega
    have members : commas (operand (ordinary d n) 0)
        (⟨valueToken value, []⟩ :: (memberRest gap values ++ rest)) =
        .ok ((value :: values).map fun v => .literal (.string v), ⟨.symbol ")", gap⟩ :: rest) :=
      (bind_ok (operand_value (closes_memberRest gap values rest))).trans
        (bind_ok (collect_members gap rest values _ enough))
    rw [memberLexemes_cons, List.cons_append, applyOperator_in, bind_ok members]
    rfl

theorem expr_members
    (plain : ∀ w ∈ qualifier.toList ++ [column], reservedInExpressions.contains (keywordOf w) = false)
    {values : List String} (nonempty : values ≠ []) :
    (ordinary d (n + 2)).expr (columnLexemes qualifier column [.space] ++
        ⟨.ofWord "IN", [.space]⟩ :: ⟨.symbol "(", []⟩ :: memberLexemes [] values) =
      .ok (memberExpr qualifier column values, []) := by
  have closes : Closes [] := by rintro _ ⟨⟩
  have applied : operator? (ordinary d (n + 1)) 0 (.name (columnName qualifier column))
      (⟨.ofWord "IN", [.space]⟩ :: ⟨.symbol "(", []⟩ :: (memberLexemes [] values ++ [])) =
      .ok (some (memberExpr qualifier column values), []) :=
    operator?_members [] nonempty (by cases d <;> decide) []
  rw [List.append_nil] at applied
  rw [expr_ordinary, operand_column (afterColumn_in _ _) plain]
  exact repeated_once applied closes

end

end RowAccess.Sql.Parser
