import RowAccess.Proofs.Reading.Tokens
import RowAccess.Sql.Operator
/-!
# The tokens of a condition on a column

The condition that a column has a value, or one of several values, is read as the name of the column,
a sign or `IN`, and the values. A value that is readable is one literal. From another one a literal is
read that is `Misread`: it cannot be taken for the value, whatever the dialect joins to it.
-/

namespace RowAccess

open Sql Sql.Lexer

/-! ## The name of a column -/

/-- The parts of a column's name. -/
def columnName (qualifier : Option String) (column : String) : Name :=
  (qualifier.toList ++ [column]).map fun w => Ident.mk w none

/-- The tokens of a column's name, with the gap after the last. -/
def columnLexemes (qualifier : Option String) (column : String) (gap : List Blank) : List Lexeme :=
  match qualifier with
  | none => [⟨.ofWord column, gap⟩]
  | some q => [⟨.ofWord q, []⟩, ⟨.symbol ".", []⟩, ⟨.ofWord column, gap⟩]

theorem occurs_singleton (c : Char) (cs : List Char) : Text.occurs [c] cs = decide (c ∈ cs) := by
  induction cs with
  | nil => rfl
  | cons x xs ih =>
    rw [Text.occurs, ih]
    by_cases same : c = x <;> simp [same, List.isPrefixOf]

theorem not_contains_dot {w : String} (h : isWord w = true) : Text.contains "." w = false := by
  rw [Text.contains, show (".".toList) = ['.'] from rfl, occurs_singleton, decide_eq_false_iff_not]
  rw [isWord] at h
  intro mem
  cases same : w.toList with
  | nil => simp [same] at h
  | cons c cs =>
    simp only [same, Bool.and_eq_true, List.all_eq_true] at h mem
    rcases List.mem_cons.mp mem with rfl | mem
    · exact absurd h.1 (by decide)
    · exact absurd (h.2 _ mem) (by decide)

theorem toList_qualify {qualifier : Option String} {column : String} (h : isWord column = true) :
    (qualify qualifier column).toList =
      match qualifier with
      | none => column.toList
      | some q => q.toList ++ '.' :: column.toList := by
  cases qualifier with
  | none => rfl
  | some q => simp [qualify, not_contains_dot h, String.toList_append]

theorem leads_column (d : Dialect) (previous : Option Token) {qualifier : Option String}
    {column : String} (hq : ∀ q ∈ qualifier, isWord q = true) (hc : isWord column = true)
    (rest : List Char) :
    Leads d previous ((qualify qualifier column).toList ++ ' ' :: rest) none rest
      fun read => ([], columnLexemes qualifier column (.space :: read.1) ++ read.2) := by
  have ends : endsWord (' ' :: rest) := by
    rintro c ⟨⟩
    exact .inl rfl
  rw [toList_qualify hc]
  cases qualifier with
  | none => exact (leads_word d previous hc ends).trans (leads_space d _ rest)
  | some q =>
    have dotted : endsWord ('.' :: (column.toList ++ ' ' :: rest)) := by
      rintro c ⟨⟩
      exact .inr (.inl rfl)
    rw [List.append_assoc, List.cons_append]
    exact ((leads_word d previous (hq q rfl) dotted).trans (leads_dot d q hc _)).trans
      ((leads_word d _ hc ends).trans (leads_space d _ rest))

/-! ## Values -/

/-- The token of a value that is read back. -/
def valueToken (value : String) : Token := .literal (.string value)

/-- Whether the token is text that a dialect may join to the text before it. -/
def Sql.Token.isText : Token → Bool
  | .literal (.string _) => true
  | .literal (.doubleQuoted _) => true
  | _ => false

/-- The literal `read` with the tokens `more` after it cannot be taken for the value. -/
def Misread (read value : String) (more : List Lexeme) : Prop :=
  ¬ read.toList <+: value.toList ∨ read ≠ value ∧ ∀ l ∈ more.head?, l.token.isText = false

theorem leads_value (d : Dialect) (previous : Option Token) {value : String}
    (h : d.readable value = true) {rest : List Char} (ends : rest.head? ≠ some '\'') :
    Leads d previous ((literalText value).toList ++ rest) (some (valueToken value)) rest
      (putToken (valueToken value)) := by
  have kept : d.backslashEscapes = true → keepsBackslashes value.toList = true := by
    intro escapes
    simpa [Dialect.readable, escapes] using h
  rw [toList_literalText, List.cons_append, List.append_assoc, List.singleton_append]
  refine .token ?_ ?_
  · rw [next_quote, untilQuote_doubled ends _ kept, Option.map_some]
    simp [valueToken]
  · simp only [List.length_append, List.length_cons]
    omega

/-- What is read from a value that does not read back, if the text is read at all; what stands after
the value starts with no text that could be joined to it. -/
theorem stream_value_misread (d : Dialect) (previous : Option Token) {value : String}
    (h : d.readable value ≠ true) {rest : List Char} (ends : rest.head? ≠ some '\'')
    (stops : ∀ fuel previous gap more, stream d fuel previous rest = some (gap, more) →
      ∀ l ∈ more.head?, l.token.isText = false)
    {fuel : Nat} {read : List Blank × List Lexeme}
    (found : stream d fuel previous ((literalText value).toList ++ rest) = some read) :
    ∃ w gap more, read = ([], ⟨valueToken w, gap⟩ :: more) ∧ Misread w value more := by
  rw [Dialect.readable, Ne, Bool.or_eq_true, not_or, Bool.not_eq_true, Bool.not_eq_false'] at h
  obtain ⟨escapes, lost⟩ := h
  rw [toList_literalText, List.cons_append, List.append_assoc, List.singleton_append] at found
  cases fuel with
  | zero => cases found
  | succ fuel =>
    rw [stream, next_quote, escapes, Option.bind_eq_bind, Option.bind_eq_some_iff] at found
    obtain ⟨⟨scanned, left⟩, scans, found⟩ := found
    obtain ⟨⟨w, r⟩, quoted, same⟩ := Option.map_eq_some_iff.mp scans
    cases same
    dsimp only at found
    rw [Option.bind_eq_bind, Option.bind_eq_some_iff] at found
    obtain ⟨⟨gap, more⟩, later, same⟩ := found
    cases same
    refine ⟨String.ofList w, gap, more, rfl, ?_⟩
    rcases untilQuote_unreadable ends _ _ _ lost quoted with parts | ⟨ends', less⟩
    · exact .inl (by rwa [String.toList_ofList])
    · rw [ends'] at later
      refine .inr ⟨?_, stops _ _ _ _ later⟩
      rintro rfl
      exact absurd less (by simp)

/-! ## One value -/

/-- The text after the name in a condition that the column has a value. -/
theorem toList_equalText (column value : String) :
    (equalText column value).toList =
      column.toList ++ ' ' :: '=' :: ' ' :: (literalText value).toList := by
  simp [equalText, String.toList_append]

theorem leads_equality (d : Dialect) (previous : Option Token) {qualifier : Option String}
    {column : String} (hq : ∀ q ∈ qualifier, isWord q = true) (hc : isWord column = true)
    (rest : List Char) :
    Leads d previous ((qualify qualifier column).toList ++ ' ' :: '=' :: ' ' :: rest) none rest
      fun read => ([], columnLexemes qualifier column [.space] ++
        ⟨.symbol "=", .space :: read.1⟩ :: read.2) :=
  (leads_column d previous hq hc _).trans ((leads_equals d _ _).trans (leads_space d _ _))

/-- A readable value is one literal after the name and the sign. -/
theorem lexemes_equalText (d : Dialect) {qualifier : Option String} {column : String}
    (hq : ∀ q ∈ qualifier, isWord q = true) (hc : isWord column = true) {value : String}
    (h : d.readable value = true) :
    lexemes d (equalText (qualify qualifier column) value) =
      some (columnLexemes qualifier column [.space] ++
        [⟨.symbol "=", [.space]⟩, ⟨valueToken value, []⟩]) := by
  have leads := (leads_equality d none hq hc _).trans
    (leads_value d none h (show ([] : List Char).head? ≠ some '\'' by simp))
  rw [List.append_nil, ← toList_equalText] at leads
  exact leads.lexemes

/-- Another value is misread, if the text can be read at all. -/
theorem lexemes_equalText_misread (d : Dialect) {qualifier : Option String} {column : String}
    (hq : ∀ q ∈ qualifier, isWord q = true) (hc : isWord column = true) {value : String}
    (h : d.readable value ≠ true) {ts : List Lexeme}
    (read : lexemes d (equalText (qualify qualifier column) value) = some ts) :
    ∃ w gap more, Misread w value more ∧
      ts = columnLexemes qualifier column [.space] ++
        ⟨.symbol "=", [.space]⟩ :: ⟨valueToken w, gap⟩ :: more := by
  rw [lexemes, toList_equalText] at read
  obtain ⟨fuel, -, same⟩ := leads_equality d none hq hc (literalText value).toList _ (Nat.lt_succ_self _)
  rw [same, Option.map_map] at read
  obtain ⟨⟨gap, found⟩, streamed, same⟩ := Option.map_eq_some_iff.mp read
  rw [← List.append_nil (literalText value).toList] at streamed
  obtain ⟨w, gap', more, whole, misread⟩ := stream_value_misread d none h
    (show ([] : List Char).head? ≠ some '\'' by simp)
    (fun fuel previous gap more done => by
      cases fuel <;> cases done <;> simp) streamed
  cases whole
  exact ⟨w, gap', more, misread, same.symm⟩

/-! ## Several values -/

/-- The text of values with commas between them, up to the closing parenthesis. -/
def membersText : List String → List Char
  | [] => [')']
  | [value] => (literalText value).toList ++ [')']
  | value :: values => (literalText value).toList ++ ',' :: ' ' :: membersText values

theorem toList_members (values : List String) :
    (", ".intercalate (values.map literalText) ++ ")").toList = membersText values := by
  induction values with
  | nil => rfl
  | cons value values ih =>
    cases values with
    | nil => simp [membersText, String.toList_append]
    | cons value' values =>
      rw [List.map_cons, List.map_cons, String.intercalate_cons_cons, membersText, ← ih]
      · simp [String.toList_append]
      · rintro ⟨⟩

theorem toList_memberText (deny column : String) {values : List String} (h : values ≠ []) :
    (memberText deny column values).toList =
      column.toList ++ ' ' :: 'I' :: 'N' :: ' ' :: '(' :: membersText values := by
  rw [memberText, if_neg (by simpa using h), ← toList_members]
  simp [String.toList_append]

/-- What may be read from values between parentheses: each of them up to the closing parenthesis, or
those before the first one that does not read back. -/
inductive Members (d : Dialect) : List String → List Lexeme → Prop
  | last {value : String} (h : d.readable value = true) :
      Members d [value] [⟨valueToken value, []⟩, ⟨.symbol ")", []⟩]
  | cons {value : String} {values : List String} {ts : List Lexeme} (h : d.readable value = true)
      (more : Members d values ts) :
      Members d (value :: values) (⟨valueToken value, []⟩ :: ⟨.symbol ",", [.space]⟩ :: ts)
  | misread {value w : String} {values : List String} {gap : List Blank} {more : List Lexeme}
      (h : d.readable value ≠ true) (misread : Misread w value more) :
      Members d (value :: values) (⟨valueToken w, gap⟩ :: more)

/-- The tokens of readable values, with the gap after the closing parenthesis. -/
def memberLexemes (gap : List Blank) : List String → List Lexeme
  | [] => [⟨.symbol ")", gap⟩]
  | [value] => [⟨valueToken value, []⟩, ⟨.symbol ")", gap⟩]
  | value :: values => ⟨valueToken value, []⟩ :: ⟨.symbol ",", [.space]⟩ :: memberLexemes gap values

theorem leads_members (d : Dialect) (rest : List Char) :
    ∀ (values : List String) (previous : Option Token),
      (∀ value ∈ values, d.readable value = true) →
      Leads d previous (membersText values ++ rest) (some (.symbol ")")) rest
        fun read => ([], memberLexemes read.1 values ++ read.2)
  | [], _, _ => leads_close d _ _
  | [value], previous, all => by
    rw [membersText, List.append_assoc]
    exact (leads_value d previous (all value (.head _)) (by simp)).trans (leads_close d _ _)
  | value :: value' :: values, previous, all => by
    have apart : (',' :: ' ' :: (membersText (value' :: values) ++ rest)).head? ≠ some '\'' := by simp
    have first := leads_value d previous (all value (.head _)) apart
    have others := leads_members d rest (value' :: values) none fun v mem => all v (.tail _ mem)
    rw [membersText, List.append_assoc]
    · exact first.trans ((leads_comma d _ _).trans ((leads_space d _ _).trans others))
    · rintro ⟨⟩

/-- What is read from values is known up to the first one that does not read back. -/
theorem stream_members (d : Dialect) :
    ∀ (values : List String), values ≠ [] → ∀ (fuel : Nat) (previous : Option Token)
      (read : List Blank × List Lexeme), (membersText values).length < fuel →
      stream d fuel previous (membersText values) = some read →
      ∃ ts, read = ([], ts) ∧ Members d values ts := by
  intro values nonempty
  induction values with
  | nil => exact absurd rfl nonempty
  | cons value values ih =>
    intro fuel previous read enough found
    cases values with
    | nil =>
      by_cases readable : d.readable value = true
      · obtain ⟨fuel', -, same⟩ := leads_members d [] [value] previous (by simpa using readable) fuel
          (by simpa using enough)
        have done : stream d fuel' (some (.symbol ")")) [] = some ([], []) := by cases fuel' <;> rfl
        rw [List.append_nil, found, done] at same
        cases same
        exact ⟨_, rfl, .last readable⟩
      · have stops : ∀ fuel previous gap more, stream d fuel previous [')'] = some (gap, more) →
            ∀ l ∈ more.head?, l.token.isText = false := by
          intro fuel previous gap more later l mem
          rw [head_of_next (next_close d previous []) later l mem]
          rfl
        obtain ⟨w, gap, more, rfl, misread⟩ :=
          stream_value_misread d previous readable (by simp) stops found
        exact ⟨_, rfl, .misread readable misread⟩
    | cons value' values =>
      have apart : (',' :: ' ' :: membersText (value' :: values)).head? ≠ some '\'' := by simp
      by_cases readable : d.readable value = true
      · obtain ⟨fuel', enough', same⟩ := (leads_value d previous readable apart).trans
          ((leads_comma d _ _).trans (leads_space d _ _)) fuel enough
        rw [membersText, same] at found
        · obtain ⟨later, streamed, rfl⟩ := Option.map_eq_some_iff.mp found
          obtain ⟨ts, rfl, members⟩ := ih (by simp) fuel' none later enough' streamed
          exact ⟨_, rfl, .cons readable members⟩
        · rintro ⟨⟩
      · have stops : ∀ fuel previous gap more,
            stream d fuel previous (',' :: ' ' :: membersText (value' :: values)) = some (gap, more) →
            ∀ l ∈ more.head?, l.token.isText = false := by
          intro fuel previous gap more later l mem
          rw [head_of_next (next_comma d previous _) later l mem]
          rfl
        obtain ⟨w, gap, more, rfl, misread⟩ :=
          stream_value_misread d previous readable apart stops found
        exact ⟨_, rfl, .misread readable misread⟩

/-! ## Conditions with several values -/

theorem leads_in (d : Dialect) (previous : Option Token) {qualifier : Option String}
    {column : String} (hq : ∀ q ∈ qualifier, isWord q = true) (hc : isWord column = true)
    (rest : List Char) :
    Leads d previous ((qualify qualifier column).toList ++ ' ' :: 'I' :: 'N' :: ' ' :: '(' :: rest)
      (some (.symbol "(")) rest
      fun read => ([], columnLexemes qualifier column [.space] ++
        ⟨.ofWord "IN", [.space]⟩ :: ⟨.symbol "(", read.1⟩ :: read.2) := by
  have ends : endsWord (' ' :: '(' :: rest) := by
    rintro c ⟨⟩
    exact .inl rfl
  have word := leads_word d none (w := "IN") rfl ends
  exact (leads_column d previous hq hc _).trans (word.trans ((leads_space d _ _).trans (leads_open d _ _)))

/-- The tokens of a condition with readable values. -/
theorem lexemes_memberText (d : Dialect) {qualifier : Option String} {column : String}
    (hq : ∀ q ∈ qualifier, isWord q = true) (hc : isWord column = true) (deny : String)
    {values : List String} (nonempty : values ≠ []) (h : ∀ value ∈ values, d.readable value = true) :
    lexemes d (memberText deny (qualify qualifier column) values) =
      some (columnLexemes qualifier column [.space] ++
        ⟨.ofWord "IN", [.space]⟩ :: ⟨.symbol "(", []⟩ :: memberLexemes [] values) := by
  have leads := (leads_in d none hq hc _).trans (leads_members d [] values _ h)
  rw [List.append_nil, ← toList_memberText deny _ nonempty] at leads
  rw [leads.lexemes]
  simp

/-- Otherwise the tokens are known up to the first value that does not read back. -/
theorem lexemes_memberText_members (d : Dialect) {qualifier : Option String} {column : String}
    (hq : ∀ q ∈ qualifier, isWord q = true) (hc : isWord column = true) (deny : String)
    {values : List String} (nonempty : values ≠ []) {ts : List Lexeme}
    (read : lexemes d (memberText deny (qualify qualifier column) values) = some ts) :
    ∃ members, Members d values members ∧
      ts = columnLexemes qualifier column [.space] ++
        ⟨.ofWord "IN", [.space]⟩ :: ⟨.symbol "(", []⟩ :: members := by
  rw [lexemes, toList_memberText deny _ nonempty] at read
  obtain ⟨fuel, enough, same⟩ := leads_in d none hq hc (membersText values) _ (Nat.lt_succ_self _)
  rw [same, Option.map_map] at read
  obtain ⟨found, streamed, same⟩ := Option.map_eq_some_iff.mp read
  obtain ⟨members, rfl, h⟩ := stream_members d values nonempty fuel _ found enough streamed
  exact ⟨members, h, same.symm⟩

end RowAccess
