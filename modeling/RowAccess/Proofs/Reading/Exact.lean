import RowAccess.Proofs.Reading.Expressions
/-!
# What cannot be read as a condition

An operator keeps what is on its left as its first operand, and neither an operator nor a part makes a
literal or a name of what it follows. So an expression that is read as the condition on a column has
been read without anything beyond that condition, and its values have been read as they were meant.
-/

namespace RowAccess.Sql.Parser

variable {α β : Type} {g : Grammar} {d : Dialect} {n strength : Nat} {ts rest : List Lexeme}

/-! ## What parsers answer -/

/-- Whatever the tokens are, what the parser answers satisfies `Q`. -/
def Yields (p : P α) (Q : α → Prop) : Prop := ∀ ts a rest, p ts = .ok (a, rest) → Q a

namespace Yields

variable {p : P α} {f : α → P β} {Q : β → Prop}

theorem pure {b : β} (h : Q b) : Yields (Pure.pure b) Q := by
  rintro ts _ rest ⟨⟩
  exact h

theorem unexpected : Yields Parser.unexpected Q := by
  rintro ts _ rest ⟨⟩

theorem bind (h : ∀ a, Yields (f a) Q) : Yields (p >>= f) Q := by
  intro ts b rest found
  obtain ⟨a, mid, -, next⟩ := bind_eq_ok found
  exact h a mid b rest next

/-- What a first step answers may be used for what follows. -/
theorem bind_of {R : α → Prop} (first : Yields p R) (h : ∀ a, R a → Yields (f a) Q) :
    Yields (p >>= f) Q := by
  intro ts b rest found
  obtain ⟨a, mid, reads, next⟩ := bind_eq_ok found
  exact h a (first ts a mid reads) mid b rest next

end Yields

/-- A loop keeps what each of its steps keeps. -/
theorem iterate_keeps {step : α → P (Option α)} {I : α → Prop}
    (keeps : ∀ a, I a → Yields (step a) fun next => ∀ a', next = some a' → I a') :
    ∀ (fuel : Nat) (a : α), I a → Yields (iterate step fuel a) I
  | 0, _, _ => by
    rintro ts _ rest ⟨⟩
  | fuel + 1, a, start => by
    rw [iterate]
    refine .bind_of (keeps a start) fun next after => ?_
    cases next with
    | none => exact .pure start
    | some a' => exact iterate_keeps keeps fuel a' (after a' rfl)

theorem repeated_keeps {step : α → P (Option α)} {I : α → Prop}
    (keeps : ∀ a, I a → Yields (step a) fun next => ∀ a', next = some a' → I a') {a : α} (start : I a) :
    Yields (repeated step a) I :=
  fun ts => iterate_keeps keeps (ts.length + 2) a start ts

/-! ## Operators -/

/-- An expression that an operator makes of what is on its left: neither a name nor a literal, and a
comparison or a membership test only of that. -/
def Applied (left : Expr) : Expr → Prop
  | .name _ => False
  | .literal _ => False
  | .binary _ operand _ => operand = left
  | .inList _ operand _ => operand = left
  | _ => True

theorem rightOperand_applied (left : Expr) (op : BinaryOp) :
    Yields (rightOperand g strength left op) (Applied left) := by
  refine .bind fun quantifier => ?_
  split
  · exact .bind fun _ => .pure rfl
  · dsimp only
    split
    · exact .bind_of (R := fun _ => False) .unexpected fun _ h => h.elim
    · refine .bind fun _ => .bind fun _ => .bind fun query => ?_
      split
      · exact .bind fun _ => .bind fun _ => .pure trivial
      · exact .bind fun _ => .bind fun _ => .pure trivial

theorem isTest_applied (left : Expr) : Yields (isTest g left) (Applied left) := by
  refine .bind fun negated => .bind fun property => ?_
  split
  case h_5 =>
    refine .bind fun distinct => ?_
    split
    · exact .bind fun _ => .pure trivial
    · exact .bind fun _ => .bind fun _ => .pure trivial
  all_goals exact .pure trivial

theorem inTest_applied (negated : Bool) (left : Expr) :
    Yields (inTest g negated left) (Applied left) := by
  refine .bind fun unnest => ?_
  split
  · exact .bind fun _ => .pure trivial
  · refine .bind fun _ => .bind fun query => ?_
    cases query with
    | some q => exact .bind_of (.pure rfl) fun _ same => .bind fun _ => .pure (same ▸ trivial)
    | none =>
      exact .bind fun _ => .bind_of (.pure rfl) fun _ same => .bind fun _ => .pure (same ▸ rfl)

theorem betweenTest_applied (negated : Bool) (left : Expr) :
    Yields (betweenTest g negated left) (Applied left) :=
  .bind fun _ => .bind fun _ => .bind fun _ => .pure trivial

theorem matchingTest_applied (kind : PatternKind) (negated : Bool) (left : Expr) :
    Yields (matchingTest g kind negated left) (Applied left) := by
  unfold matchingTest
  dsimp only
  split
  all_goals
    refine .bind fun _ => .bind fun _ => ?_
    split
    all_goals exact .bind fun _ => .pure trivial

theorem negatableTest_applied (left : Expr) : Yields (negatableTest g left) (Applied left) := by
  refine .bind fun negated => .bind fun _ => ?_
  split
  · exact matchingTest_applied _ _ _
  refine .bind fun _ => ?_
  split
  · exact matchingTest_applied _ _ _
  refine .bind fun _ => ?_
  split
  · split
    · exact .pure trivial
    · exact .unexpected
  refine .bind fun _ => ?_
  split
  · exact inTest_applied _ _
  refine .bind fun _ => ?_
  split
  · exact betweenTest_applied _ _
  refine .bind fun _ => ?_
  split
  · exact matchingTest_applied _ _ _
  refine .bind fun _ => ?_
  split
  · exact matchingTest_applied _ _ _
  refine .bind fun _ => ?_
  split
  · exact matchingTest_applied _ _ _
  · exact .unexpected

theorem applyOperator_applied (left : Expr) :
    Yields (applyOperator g strength left) (Applied left) := by
  refine .bind fun start => .bind fun t => ?_
  split
  case h_1 => exact rightOperand_applied _ _
  case h_2 => exact .bind fun _ => .pure trivial
  case h_3 =>
    split
    · exact .pure trivial
    · exact .unexpected
  case h_4 =>
    split
    · exact rightOperand_applied _ _
    · exact .unexpected
  case h_5 =>
    split
    case h_1 | h_2 | h_3 | h_4 => exact rightOperand_applied _ _
    case h_5 =>
      split
      · exact .unexpected
      · exact .bind fun _ => rightOperand_applied _ _
    case h_6 =>
      split
      · exact .bind fun _ => .pure rfl
      · exact .unexpected
    case h_7 => exact isTest_applied _
    case h_8 => exact .bind fun _ => .bind fun _ => .pure trivial
    case h_9 => exact .pure trivial
    case h_10 => exact .bind fun _ => .bind fun _ => .pure trivial
    case h_11 => exact .bind fun _ => negatableTest_applied _
  case h_6 => exact .unexpected

theorem operator?_applied (left : Expr) :
    Yields (operator? g strength left) fun next => ∀ e, next = some e → Applied left e := by
  refine .bind fun tokens => ?_
  dsimp only
  split
  · exact .pure nofun
  · refine .bind_of (applyOperator_applied left) fun e applied => .pure ?_
    rintro _ ⟨⟩
    exact applied

/-! ## Parts -/

/-- The expression is a literal only if it is this one. -/
def OnlyLiteral (l : Literal) (e : Expr) : Prop := ∀ l', e = .literal l' → l' = l

theorem qualify_ne (whole part : Expr) (l : Literal) : qualify whole part ≠ .literal l := by
  unfold qualify
  split <;> rintro ⟨⟩

theorem selectStep_ne (whole : Expr) (pieces : List Piece) (l : Literal) :
    selectStep whole pieces ≠ .literal l := by
  unfold selectStep
  split <;> rintro ⟨⟩

theorem part?_ne (e : Expr) :
    Yields (part? g e) fun next => ∀ e', next = some e' → ∀ l, e' ≠ .literal l := by
  refine .bind fun tokens => ?_
  split
  case h_1 => exact .pure nofun
  case h_2 =>
    split
    · split
      · refine .bind fun _ => .pure ?_
        rintro _ ⟨⟩ l ⟨⟩
      · exact .unexpected
    · exact .pure nofun
  case h_3 =>
    refine .bind fun _ => .bind fun part => .pure ?_
    rintro _ ⟨⟩
    exact qualify_ne _ _
  case h_4 =>
    refine .bind fun _ => .bind fun pieces => .pure ?_
    rintro _ ⟨⟩
    exact selectStep_ne _ _
  case h_5 => exact .pure nofun

/-! ## Values -/

section

variable {w : String} {gap : List Blank} {more : List Lexeme}

theorem primary_inv {e : Expr} (h : primary g (⟨valueToken w, gap⟩ :: more) = .ok (e, rest)) :
    ∃ l, e = .literal l ∧ literal g.dialect (⟨valueToken w, gap⟩ :: more) = .ok (l, rest) := by
  have noType : typedLiteral g (⟨valueToken w, gap⟩ :: more) = .error .unexpected := rfl
  rw [primary, bind_ok (attempt_unexpected noType)] at h
  obtain ⟨l, mid, read, same⟩ := bind_eq_ok
    (show ((literal g.dialect >>= fun l => pure (.literal l)) : P Expr)
      (⟨valueToken w, gap⟩ :: more) = .ok (e, rest) from h)
  cases same
  exact ⟨l, rfl, read⟩

theorem parts_onlyLiteral {l : Literal} {e : Expr} (h : OnlyLiteral l e) :
    Yields (repeated (part? g) e) (OnlyLiteral l) := by
  refine repeated_keeps (I := OnlyLiteral l) ?_ h
  intro e _ ts next rest read e' same l' eq
  exact absurd eq (part?_ne e ts next rest read e' same l')

theorem operators_onlyLiteral {l : Literal} {e : Expr} (h : OnlyLiteral l e) :
    Yields (repeated (operator? g strength) e) (OnlyLiteral l) := by
  refine repeated_keeps (I := OnlyLiteral l) ?_ h
  intro e _ ts next rest read e' same l' eq
  have applied := operator?_applied e ts next rest read e' same
  rw [eq] at applied
  exact applied.elim

/-- Neither parts nor operators make a literal, so an operand that is one is what was read first. -/
theorem operand_literal {l : Literal}
    (h : operand g strength (⟨valueToken w, gap⟩ :: more) = .ok (.literal l, rest)) :
    ∃ mid, literal g.dialect (⟨valueToken w, gap⟩ :: more) = .ok (l, mid) := by
  obtain ⟨first, mid, reads, h⟩ := bind_eq_ok h
  obtain ⟨l', rfl, read⟩ := primary_inv reads
  have start : OnlyLiteral l' (.literal l') := by
    rintro l'' ⟨⟩
    rfl
  have stays : OnlyLiteral l' (.literal l) := by
    refine Yields.bind_of (parts_onlyLiteral start) (fun e only => ?_) mid _ rest h
    refine .bind fun collated => ?_
    dsimp only
    split
    · refine .bind fun _ => .bind fun name => .bind_of (R := OnlyLiteral l') (.pure ?_) fun _ only => ?_
      · rintro l'' ⟨⟩
      · exact operators_onlyLiteral only
    · exact .bind_of (.pure only) fun _ only => operators_onlyLiteral only
  exact ⟨mid, by rwa [stays l rfl]⟩

end

/-- A value that is misread is not read as the value meant, in whatever way it is read. -/
theorem misread_ne {w value : String} {gap : List Blank} {more : List Lexeme} (h : Misread w value more)
    (read : operand g strength (⟨valueToken w, gap⟩ :: more) = .ok (.literal (.string value), rest)) :
    False := by
  obtain ⟨mid, read⟩ := operand_literal read
  obtain ⟨joined, same, alone⟩ := literal_value read
  cases same
  rcases h with parts | ⟨ne, noText⟩
  · exact parts ⟨joined.toList, by simp⟩
  · refine ne ?_
    rw [alone noText]
    simp

/-! ## Conditions -/

variable {qualifier : Option String} {column : String}

/-- The first operator after a name makes the whole condition on it: what later operators make has
an operand that is no name. -/
theorem operators_first {e : Expr} {parts : Name} (next : strength < strengthAt d ts)
    (direct : ∀ mid, Applied mid e → .name parts = mid)
    (h : repeated (operator? (ordinary d n) strength) (.name parts) ts = .ok (e, rest)) :
    ∃ after, applyOperator (ordinary d n) (strengthAt d ts) (.name parts) ts = .ok (e, after) := by
  rw [repeated, iterate] at h
  obtain ⟨made, mid, first, h⟩ := bind_eq_ok h
  rw [operator?_some next] at first
  obtain ⟨e', after, applies, same⟩ := bind_eq_ok first
  cases same
  have applied := applyOperator_applied _ _ _ _ applies
  have later : e = e' ∨ ∃ left, (∀ parts, left ≠ .name parts) ∧ Applied left e := by
    refine iterate_keeps (I := fun x => x = e' ∨ ∃ left, (∀ parts, left ≠ .name parts) ∧ Applied left x)
      ?_ _ _ (.inl rfl) _ _ _ h
    intro a from' ts next rest read a' same
    refine .inr ⟨a, ?_, operator?_applied a ts next rest read a' same⟩
    rintro parts' rfl
    rcases from' with rfl | ⟨left, _, made⟩
    · exact applied
    · exact made
  rcases later with rfl | ⟨left, noName, made⟩
  · exact ⟨_, applies⟩
  · exact absurd (direct left made).symm (noName parts)

/-- A condition that is read as an equality with a value has that value in it. -/
theorem expr_equals_misread
    (plain : ∀ w ∈ qualifier.toList ++ [column], reservedInExpressions.contains (keywordOf w) = false)
    {w value : String} {gap : List Blank} {more : List Lexeme} (h : Misread w value more)
    (read : (ordinary d (n + 2)).expr (columnLexemes qualifier column [.space] ++
        ⟨.symbol "=", [.space]⟩ :: ⟨valueToken w, gap⟩ :: more) =
      .ok (equalExpr qualifier column value, rest)) : False := by
  rw [expr_ordinary, operand_column (afterColumn_equals _ _) plain] at read
  have direct (mid : Expr) (applied : Applied mid (equalExpr qualifier column value)) :
      .name (columnName qualifier column) = mid := applied
  obtain ⟨after, applies⟩ :=
    operators_first (strengthAt_column (afterColumn_equals _ _)).1 direct read
  rw [applyOperator_equals] at applies
  obtain ⟨right, mid, reads, same⟩ := bind_eq_ok applies
  cases same
  rw [operand_ordinary] at reads
  exact misread_ne h reads

/-- Values that are read one after the other as they were meant are readable. -/
theorem members_readable {values : List String} (h : Members d values ts) :
    ∀ {e : Expr} {es : List Expr} {mid : List Lexeme} (fuel : Nat),
      operand (ordinary d n) 0 ts = .ok (e, mid) →
      collect (optional (symbol? ",") (operand (ordinary d n) 0)) fuel mid = .ok (es, rest) →
      e :: es = values.map (fun v => .literal (.string v)) →
      ∀ v ∈ values, d.readable v = true := by
  induction h with
  | last h =>
    intro e es mid fuel _ _ _ v mem
    rw [List.mem_singleton.mp mem]
    exact h
  | misread h misread =>
    intro e es mid fuel reads _ same
    rw [List.map_cons, List.cons.injEq] at same
    rw [same.1] at reads
    exact (misread_ne misread reads).elim
  | @cons value values ts h more ih =>
    intro e es mid fuel reads collects same
    have closes : Closes (⟨.symbol ",", [.space]⟩ :: ts) := by
      rintro _ ⟨⟩
      exact .inl rfl
    rw [operand_value closes] at reads
    cases reads
    cases fuel with
    | zero => cases collects
    | succ fuel =>
      obtain ⟨next, mid, read, collects⟩ := bind_eq_ok collects
      rw [optional, bind_ok (symbol?_yes rfl)] at read
      obtain ⟨e', mid', read, same'⟩ := bind_eq_ok (show ((operand (ordinary d n) 0 >>= fun e =>
        pure (some e)) : P (Option Expr)) ts = .ok (next, mid) from read)
      cases same'
      obtain ⟨es', mid'', collects, same'⟩ := bind_eq_ok collects
      cases same'
      rw [List.map_cons, List.cons.injEq] at same
      intro v mem
      rcases List.mem_cons.mp mem with rfl | mem
      · exact h
      · exact ih fuel read collects same.2 v mem

theorem members_head {values : List String} (h : Members d values ts) :
    ∃ w gap more, ts = ⟨valueToken w, gap⟩ :: more := by
  cases h with
  | last => exact ⟨_, _, _, rfl⟩
  | cons => exact ⟨_, _, _, rfl⟩
  | misread => exact ⟨_, _, _, rfl⟩

/-- A condition that is read as a membership in some values has those values in it. -/
theorem expr_members_readable
    (plain : ∀ w ∈ qualifier.toList ++ [column], reservedInExpressions.contains (keywordOf w) = false)
    {values : List String} (h : Members d values ts)
    (read : (ordinary d (n + 2)).expr (columnLexemes qualifier column [.space] ++
        ⟨.ofWord "IN", [.space]⟩ :: ⟨.symbol "(", []⟩ :: ts) =
      .ok (memberExpr qualifier column values, rest)) : ∀ v ∈ values, d.readable v = true := by
  rw [expr_ordinary, operand_column (afterColumn_in _ _) plain] at read
  have direct (mid : Expr) (applied : Applied mid (memberExpr qualifier column values)) :
      .name (columnName qualifier column) = mid := applied
  obtain ⟨after, applies⟩ := operators_first (strengthAt_column (afterColumn_in _ _)).1 direct read
  obtain ⟨w, gap, more, rfl⟩ := members_head h
  rw [applyOperator_in] at applies
  obtain ⟨members, mid, listed, applies⟩ := bind_eq_ok applies
  obtain ⟨_, _, _, same⟩ := bind_eq_ok applies
  obtain ⟨first, mid', reads, others⟩ := bind_eq_ok listed
  obtain ⟨others, _, collects, same'⟩ := bind_eq_ok others
  cases same'
  have made := (Prod.mk.inj (Except.ok.inj same)).1
  exact members_readable h _ reads collects (Expr.inList.inj made).2.2

end RowAccess.Sql.Parser
