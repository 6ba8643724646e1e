import RowAccess.Proofs.Reading.Phrases
/-!
# Reading names

A plain word is read as a name unless it introduces an expression of its own. It may also be the name
of a type, but no literal follows it, so it is not read as one.
-/

namespace RowAccess.Sql.Parser

variable {g : Grammar} {ts : List Lexeme}

/-- The tokens do not go on with a type or a call: a sign or `IN` follows a name. -/
def AfterName (ts : List Lexeme) : Prop :=
  ∀ l ∈ ts.head?, l.token = .symbol "." ∨ l.token = .symbol "=" ∨ l.token = .ofWord "IN"

namespace AfterName

theorem ne_symbol (h : AfterName ts) {s : String} (ne : s ≠ "." ∧ s ≠ "=") :
    ∀ l ∈ ts.head?, l.token ≠ .symbol s := by
  intro l mem
  rcases h l mem with same | same | same <;> rw [same]
  · rintro ⟨⟩
    exact ne.1 rfl
  · rintro ⟨⟩
    exact ne.2 rfl
  · rintro ⟨⟩

theorem symbol? (h : AfterName ts) {s : String} (ne : s ≠ "." ∧ s ≠ "=") :
    Parser.symbol? s ts = .ok (false, ts) :=
  symbol?_no (h.ne_symbol ne)

theorem peekSymbol (h : AfterName ts) {s : String} (ne : s ≠ "." ∧ s ≠ "=") :
    Parser.peekSymbol s ts = .ok (false, ts) :=
  peekSymbol_no (h.ne_symbol ne)

theorem keyword? (h : AfterName ts) {k : String} (ne : k ≠ "IN") :
    Parser.keyword? k ts = .ok (false, ts) := by
  refine keyword?_no fun l mem => ?_
  rcases h l mem with same | same | same <;> rw [same]
  · rfl
  · rfl
  · exact beq_false_of_ne (Ne.symm ne)

theorem keywords? (h : AfterName ts) {k : String} (ks : List String) (ne : k ≠ "IN") :
    Parser.keywords? (k :: ks) ts = .ok (false, ts) := by
  have : afterKeywords (k :: ks) ts = none := by
    cases ts with
    | nil => rfl
    | cons l ts =>
      have no : l.token.isKeyword k = false := by
        rcases h l rfl with same | same | same <;> rw [same]
        · rfl
        · rfl
        · exact beq_false_of_ne (Ne.symm ne)
      simp [afterKeywords, no]
  rw [Parser.keywords?, this]

theorem peekWord (h : AfterName ts) :
    Parser.peekWord ts = .ok ("", ts) ∨ Parser.peekWord ts = .ok ("IN", ts) := by
  cases ts with
  | nil => exact .inl rfl
  | cons l ts =>
    obtain ⟨t, gap⟩ := l
    rcases h _ rfl with same | same | same <;> dsimp only at same <;> subst same
    · exact .inl rfl
    · exact .inl rfl
    · exact .inr rfl

theorem oneOf? (h : AfterName ts) {ks : List String} (no : ks.contains "" = false)
    (no' : ks.contains "IN" = false) : Parser.oneOf? ks ts = .ok (none, ts) := by
  rcases h.peekWord with word | word <;> rw [Parser.oneOf?, bind_ok word]
  · simp only [no]
    rfl
  · simp only [no']
    rfl

theorem symbol (h : AfterName ts) {s : String} (ne : s ≠ "." ∧ s ≠ "=") :
    Parser.symbol s ts = .error .unexpected := by
  rw [Parser.symbol, bind_ok (h.symbol? ne)]
  rfl

theorem parens {α : Type} (h : AfterName ts) (p : P α) : Parser.parens p ts = .error .unexpected :=
  bind_error (h.symbol ⟨by decide, by decide⟩)

theorem lastWord (h : AfterName ts) {ks : List String} (no : ks.contains "" = false)
    (no' : ks.contains "IN" = false) : Parser.lastWord ks ts = .ok ("", ts) := by
  rw [Parser.lastWord, bind_ok (h.oneOf? no no')]
  rfl

theorem optionalPrecision (h : AfterName ts) : Parser.optionalPrecision ts = .ok ("", ts) :=
  bind_ok (h.symbol? ⟨by decide, by decide⟩)

theorem optionalScale (h : AfterName ts) : Parser.optionalScale ts = .ok ("", ts) :=
  bind_ok (h.symbol? ⟨by decide, by decide⟩)

theorem optionalLength (h : AfterName ts) : Parser.optionalLength ts = .ok ("", ts) :=
  bind_ok (h.symbol? ⟨by decide, by decide⟩)

theorem optionalByteLength (h : AfterName ts) : Parser.optionalByteLength ts = .ok ("", ts) :=
  bind_ok (h.symbol? ⟨by decide, by decide⟩)

theorem optionalUnsigned (h : AfterName ts) : Parser.optionalUnsigned ts = .ok ("", ts) :=
  h.lastWord rfl rfl

theorem optionalSign (d : Dialect) (h : AfterName ts) : Idle (Parser.optionalSign d) ts := by
  rw [Parser.optionalSign]
  refine .after h.optionalUnsigned ?_
  dsimp only
  split
  · exact .after (h.keyword? (by decide)) (.pure _ _)
  · exact .pure _ _

theorem optionalZone (h : AfterName ts) : Parser.optionalZone ts = .ok ("", ts) :=
  bind_ok (h.oneOf? rfl rfl)

theorem intervalFields (h : AfterName ts) : Parser.intervalFields ts = .ok ("", ts) :=
  bind_ok (h.oneOf? rfl rfl)

/-! ### Types -/

theorem momentType (d : Dialect) (k : String) (h : AfterName ts) : Idle (Parser.momentType d k) ts := by
  unfold Parser.momentType
  split
  · exact .after h.optionalPrecision (.after h.optionalZone (.pure _ _))
  · exact .after h.optionalPrecision (.after h.optionalZone (.pure _ _))
  · exact .fails (h.symbol ⟨by decide, by decide⟩)
  · split
    · exact .pure _ _
    · exact .after h.intervalFields (.after h.optionalPrecision (.pure _ _))
  · exact .pure _ _

theorem scalarType (d : Dialect) (k : String) (h : AfterName ts) : Idle (Parser.scalarType d k) ts := by
  unfold Parser.scalarType
  split
  case h_1 | h_2 | h_3 => exact .after h.optionalScale (.pure _ _)
  case h_4 | h_5 | h_6 => exact .after h.optionalScale (.after h.optionalUnsigned (.pure _ _))
  case h_7 => exact .after h.optionalUnsigned (.pure _ _)
  case h_8 =>
    exact .after (h.keyword? (by decide))
      (.after h.optionalScale (.after h.optionalUnsigned (.pure _ _)))
  case h_9 | h_10 => exact .after h.optionalLength (.pure _ _)
  case h_11 => exact .after h.optionalByteLength (.pure _ _)
  case h_12 | h_13 =>
    exact .after (h.keyword? (by decide))
      (.after (h.keywords? _ (by decide)) (.after h.optionalLength (.pure _ _)))
  case h_14 => exact .fails (h.parens _)
  case h_15 => exact .after (h.keyword? (by decide)) (.after h.optionalPrecision (.pure _ _))
  case h_16 | h_17 | h_18 => exact .fails (bind_error (h.parens _))
  case h_19 => exact .fails (bind_error (h.parens _))
  case h_20 | h_21 => exact .after (h.lastWord rfl rfl) (.pure _ _)
  case h_22 | h_23 => exact .pure _ _
  case h_24 => exact .after (h.keyword? (by decide)) (.pure _ _)
  case h_25 => exact .pure _ _

theorem structType (g : Grammar) (options : P String) (h : AfterName ts) :
    Parser.structType g options ts = .ok (([], false), ts) :=
  bind_ok (h.symbol? ⟨by decide, by decide⟩)

theorem compoundType (g : Grammar) (k : String) (h : AfterName ts) :
    Idle (Parser.compoundType g k) ts := by
  unfold Parser.compoundType
  split
  · exact .fails (h.symbol ⟨by decide, by decide⟩)
  · exact .after (h.peekSymbol ⟨by decide, by decide⟩) (.pure _ _)
  · split
    · exact .pure _ _
    · split
      case h_1 => exact .after (h.structType _ _) (.pure _ _)
      case h_2 => exact .fails (bind_error (h.parens _))
      case h_3 | h_4 => exact .fails (h.parens _)
      case h_5 => exact .fails (h.symbol ⟨by decide, by decide⟩)
      case h_6 | h_7 => exact .fails (h.parens _)
      case h_8 => exact .pure _ _

/-- A word on types reads nothing beyond itself before a sign or `IN`. -/
theorem keywordType (g : Grammar) (k : String) (h : AfterName ts) :
    Idle (Parser.keywordType g k) ts := by
  unfold Parser.keywordType
  dsimp only
  split
  · exact .pure _ _
  split
  · exact .pure _ _
  split
  · exact .after h.optionalPrecision (.bind (h.optionalSign _) fun _ _ => .pure _ _)
  split
  · exact .after h.optionalPrecision (.after h.optionalUnsigned (.pure _ _))
  split
  · exact .after h.optionalPrecision (.pure _ _)
  refine .bind (h.momentType _ _) fun moment _ => ?_
  cases moment with
  | some type => exact .pure _ _
  | none =>
    refine .bind (h.scalarType _ _) fun scalar _ => ?_
    cases scalar with
    | some type => exact .pure _ _
    | none => exact h.compoundType g k

theorem literal (d : Dialect) (h : AfterName ts) : Parser.literal d ts = .error .unexpected := by
  cases ts with
  | nil => rfl
  | cons l ts =>
    obtain ⟨t, gap⟩ := l
    rcases h _ rfl with same | same | same <;> dsimp only at same <;> subst same <;> rfl

theorem arrayBrackets (type : String) (h : AfterName ts) :
    Parser.arrayBrackets type ts = .ok (none, ts) :=
  bind_ok (h.symbol? ⟨by decide, by decide⟩)

end AfterName

/-! ## Columns -/

/-- A sign or `IN` follows the whole name of a column. -/
def AfterColumn (ts : List Lexeme) : Prop :=
  ∃ l rest, ts = l :: rest ∧ (l.token = .symbol "=" ∨ l.token = .ofWord "IN")

theorem AfterColumn.afterName (h : AfterColumn ts) : AfterName ts := by
  obtain ⟨l, rest, rfl, sign⟩ := h
  rintro _ ⟨⟩
  exact .inr sign

theorem AfterColumn.noDot (h : AfterColumn ts) : symbol? "." ts = .ok (false, ts) := by
  obtain ⟨l, rest, rfl, sign⟩ := h
  refine symbol?_no ?_
  rintro _ ⟨⟩
  rcases sign with same | same <;> rw [same] <;> decide

variable {qualifier : Option String} {column : String} {gap : List Blank}

theorem ident_word (w : String) (gap : List Blank) (ts : List Lexeme) :
    ident (⟨.ofWord w, gap⟩ :: ts) = .ok (⟨w, none⟩, ts) := rfl

theorem objectName_column (h : AfterColumn ts) :
    objectName (columnLexemes qualifier column gap ++ ts) = .ok (columnName qualifier column, ts) := by
  have stop : optional (symbol? ".") ident ts = .ok (none, ts) := bind_ok h.noDot
  cases qualifier with
  | none =>
    have more : many (optional (symbol? ".") ident) ts = .ok ([], ts) := by
      rw [many, collect, bind_ok stop]
      rfl
    rw [objectName, columnLexemes, List.singleton_append, bind_ok (ident_word column gap ts),
      bind_ok more]
    rfl
  | some q =>
    have dotted : optional (symbol? ".") ident (⟨.symbol ".", []⟩ :: ⟨.ofWord column, gap⟩ :: ts) =
        .ok (some ⟨column, none⟩, ts) := by
      rw [optional, bind_ok (symbol?_yes rfl)]
      rfl
    have more : many (optional (symbol? ".") ident)
        (⟨.symbol ".", []⟩ :: ⟨.ofWord column, gap⟩ :: ts) = .ok ([⟨column, none⟩], ts) := by
      have ends (fuel : Nat) : collect (optional (symbol? ".") ident) (fuel + 1) ts = .ok ([], ts) := by
        rw [collect, bind_ok stop]
        rfl
      rw [many, List.length_cons, collect, bind_ok dotted]
      exact bind_ok (ends _)
    rw [objectName, columnLexemes]
    exact (bind_ok (ident_word q [] _)).trans (bind_ok more)

/-- A type with the brackets after it, where the dialect has types of arrays. -/
def bracketed (g : Grammar) (base : TypeName) : P TypeName :=
  if g.dialect == .mysql then pure base
  else do
    let text ← repeated arrayBrackets base.text
    pure (if text == base.text then base else ⟨text, .known, base.closed⟩)

/-- No brackets follow the type. -/
theorem brackets_none (g : Grammar) (base : TypeName) {rest : List Lexeme} (h : AfterName rest) :
    bracketed g base rest = .ok (base, rest) := by
  unfold bracketed
  split
  · rfl
  · rw [bind_ok (repeated_none (h.arrayBrackets _)), beq_self_eq_true]
    rfl

/-- What is read where the name of a type may stand: nothing, the keyword of a type, or a name that is
no keyword. -/
theorem typeName_word (w : String) (gap : List Blank) {after : List Lexeme} (known : AfterName after) :
    typeName g (⟨.ofWord w, gap⟩ :: after) = .error .unexpected ∨
      (∃ t, typeName g (⟨.ofWord w, gap⟩ :: after) = .ok (t, after) ∧
        t.kind = if keywordOf w == "INTERVAL" then .interval else .known) ∨
      typeName g (⟨.ofWord w, gap⟩ :: after) =
        (customType >>= fun text => bracketed g ⟨text, .custom, false⟩) (⟨.ofWord w, gap⟩ :: after) := by
  unfold typeName
  rw [bind_ok (get_apply _), bind_ok (advance_cons _ _)]
  dsimp only [Token.ofWord]
  rcases known.keywordType g (keywordOf w) with ⟨found, reads⟩ | fails
  · cases found with
    | some type =>
      obtain ⟨type, closed⟩ := type
      refine .inr (.inl ⟨⟨type, _, closed⟩, ?_, rfl⟩)
      rw [bind_ok reads]
      exact brackets_none g _ known
    | none =>
      refine .inr (.inr ?_)
      rw [bind_ok reads]
      dsimp only
      rw [bind_ok (set_apply _ _)]
      rfl
  · exact .inl (bind_error fails)

/-- A word that introduces no interval is not read as a type with a literal after it, neither if it is the keyword
of a type nor if it starts a name. -/
theorem typedLiteral_word {w : String} {gap : List Blank} {after : List Lexeme} (known : AfterName after)
    (noInterval : keywordOf w ≠ "INTERVAL")
    (custom : customType (⟨.ofWord w, gap⟩ :: after) = .error .unexpected ∨
      ∃ text rest, customType (⟨.ofWord w, gap⟩ :: after) = .ok (text, rest) ∧ AfterName rest) :
    typedLiteral g (⟨.ofWord w, gap⟩ :: after) = .error .unexpected := by
  rw [typedLiteral]
  rcases typeName_word (g := g) w gap known with fails | ⟨t, reads, kind⟩ | reads
  · exact bind_error fails
  · rw [if_neg (by simpa using noInterval)] at kind
    rw [bind_ok reads]
    dsimp only
    split
    · rfl
    · rw [kind]
      exact bind_error (known.literal _)
  · rcases custom with fails | ⟨text, rest, found, ends⟩
    · exact bind_error (reads.trans (bind_error fails))
    · rw [bind_ok (reads.trans ((bind_ok found).trans (brackets_none g _ ends)))]
      rfl

/-- The name of a column is not read as a type with a literal after it. -/
theorem typedLiteral_column (h : AfterColumn ts)
    (noInterval : ∀ w ∈ (qualifier.toList ++ [column]).head?, keywordOf w ≠ "INTERVAL") :
    typedLiteral g (columnLexemes qualifier column gap ++ ts) = .error .unexpected := by
  obtain ⟨w, first, after, whole, afterWord, named⟩ :
      ∃ w first after, columnLexemes qualifier column gap ++ ts = ⟨.ofWord w, first⟩ :: after ∧
        AfterName after ∧ keywordOf w ≠ "INTERVAL" := by
    cases qualifier with
    | none => exact ⟨column, gap, ts, rfl, h.afterName, noInterval _ rfl⟩
    | some q =>
      refine ⟨q, [], _, rfl, ?_, noInterval _ rfl⟩
      rintro _ ⟨⟩
      exact .inl rfl
  have custom : customType (columnLexemes qualifier column gap ++ ts) =
      .ok (Name.render (columnName qualifier column), ts) := by
    have read : nameText (columnLexemes qualifier column gap ++ ts) =
        .ok (Name.render (columnName qualifier column), ts) := bind_ok (objectName_column h)
    rw [customType, bind_ok read, bind_ok (h.afterName.symbol? ⟨by decide, by decide⟩)]
    rfl
  rw [whole] at custom ⊢
  exact typedLiteral_word afterWord named (.inr ⟨_, ts, custom, h.afterName⟩)

/-! ## Words that are names -/

/-- Words that introduce an expression of their own even before a sign or `IN`. -/
def reservedInExpressions : List String :=
  ["TRUE", "FALSE", "NULL", "CURRENT_CATALOG", "CURRENT_USER", "SESSION_USER", "USER",
    "CURRENT_TIMESTAMP", "CURRENT_TIME", "CURRENT_DATE", "LOCALTIME", "LOCALTIMESTAMP", "CASE",
    "EXISTS", "TRIM", "INTERVAL", "NOT", "STRUCT", "PRIOR"]

/-- Whether the text is a word that names a column or a table wherever it stands. -/
def isPlainName (w : String) : Bool := isWord w && !reservedInExpressions.contains (keywordOf w)

theorem words_of_plain {qualifier : Option String} {column : String}
    (h : (qualifier.toList ++ [column]).all isPlainName = true) :
    (∀ q ∈ qualifier, isWord q = true) ∧ isWord column = true ∧
      ∀ w ∈ qualifier.toList ++ [column], reservedInExpressions.contains (keywordOf w) = false := by
  simp only [List.all_eq_true, isPlainName, Bool.and_eq_true, Bool.not_eq_true'] at h
  exact ⟨fun q mem => (h q (by simp [Option.mem_def.mp mem])).1, (h column (by simp)).1,
    fun w mem => (h w mem).2⟩

/-- A word that is not reserved introduces nothing there, or something that cannot be read. -/
theorem form_none {k : String} (plain : reservedInExpressions.contains k = false) (name : Ident)
    (h : AfterName ts) :
    form g name k ts = .ok (none, ts) ∨ form g name k ts = .error .unexpected := by
  have noParen := h.peekSymbol (s := "(") ⟨by decide, by decide⟩
  unfold form
  split
  all_goals try exact absurd plain (by decide)
  case h_14 | h_16 | h_17 | h_18 | h_20 | h_21 | h_22 | h_24 | h_25 | h_26 =>
    exact .inr (map_error _ (h.parens _))
  case h_15 =>
    split
    · exact .inr (map_error _ (h.parens _))
    · exact .inl rfl
  case h_23 => exact .inl (bind_ok noParen)
  case h_29 => exact .inl ((bind_ok (h.symbol? ⟨by decide, by decide⟩)).trans (bind_ok noParen))
  case h_31 =>
    split
    · exact .inl rfl
    · exact .inr (map_error _ (bind_error (h.parens _)))
  case h_33 =>
    refine .inl ((bind_ok (a := false) ?_).trans rfl)
    rw [onlyIf]
    split
    · exact h.symbol? ⟨by decide, by decide⟩
    · rfl
  case h_35 =>
    split
    · exact .inr (bind_error (h.literal _))
    · exact .inl rfl

theorem named_plain (g : Grammar) (w : String) (h : AfterName ts) :
    named g ⟨w, none⟩ ts = .ok (.name [⟨w, none⟩], ts) := by
  have alone : introduced? ⟨w, none⟩ ts = .ok (none, ts) := by
    rw [introduced?]
    split
    · rfl
    · cases ts with
      | nil => rfl
      | cons l ts =>
        obtain ⟨t, gap⟩ := l
        rcases h _ rfl with same | same | same <;> dsimp only at same <;> subst same <;> rfl
  rw [named, bind_ok (h.peekSymbol ⟨by decide, by decide⟩)]
  exact bind_ok alone

theorem worded_plain {w : String} (plain : reservedInExpressions.contains (keywordOf w) = false)
    (h : AfterName ts) :
    worded g ⟨w, none⟩ (keywordOf w) ts = .ok (.name [⟨w, none⟩], ts) := by
  rw [worded]
  rcases form_none (g := g) plain ⟨w, none⟩ h with none | fails
  · rw [none]
    exact named_plain g w h
  · have other : ∀ k ∈ reservedInExpressions, keywordOf w ≠ k := by
      rintro k mem rfl
      rw [List.contains_iff_mem.mpr mem] at plain
      cases plain
    have free : reservedForName g.dialect (keywordOf w) = false := by
      simp [reservedForName, other "EXISTS" (by decide), other "STRUCT" (by decide),
        other "TRIM" (by decide), other "INTERVAL" (by decide)]
    rw [fails]
    dsimp only
    rw [free, named_plain g w h]
    rfl

end RowAccess.Sql.Parser
