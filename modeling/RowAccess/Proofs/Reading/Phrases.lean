import RowAccess.Proofs.Reading.Conditions
import RowAccess.Sql.Parser
/-!
# Running parsers

What parsers do at given tokens, step by step, and what they do where nothing they look for comes next:
they answer without reading anything, or fail (`Idle`).
-/

namespace RowAccess.Sql.Parser

variable {α β : Type} {p : P α} {f : α → P β} {ts rest : List Lexeme} {a : α} {e : Failure}

/-! ## Sequences -/

theorem pure_apply (a : α) (ts : List Lexeme) : (pure a : P α) ts = .ok (a, ts) := rfl

theorem get_apply (ts : List Lexeme) : (get : P (List Lexeme)) ts = .ok (ts, ts) := rfl

theorem set_apply (ts ts' : List Lexeme) : (set ts : P PUnit) ts' = .ok (⟨⟩, ts) := rfl

theorem bind_ok (h : p ts = .ok (a, rest)) : (p >>= f) ts = f a rest := by
  change (p ts >>= fun x => f x.1 x.2) = _
  rw [h]
  rfl

theorem bind_error (h : p ts = .error e) : (p >>= f) ts = .error e := by
  change (p ts >>= fun x => f x.1 x.2) = _
  rw [h]
  rfl

theorem bind_eq_ok {b : β} (h : (p >>= f) ts = .ok (b, rest)) :
    ∃ a mid, p ts = .ok (a, mid) ∧ f a mid = .ok (b, rest) := by
  cases found : p ts with
  | error e => rw [bind_error found] at h; cases h
  | ok answer => exact ⟨answer.1, answer.2, rfl, by rwa [bind_ok found] at h⟩

theorem map_error (g : α → β) (h : p ts = .error e) : (g <$> p) ts = .error e := by
  change (p ts >>= fun x => pure (g x.1, x.2)) = _
  rw [h]
  rfl

theorem attempt_ok (h : p ts = .ok (a, rest)) : attempt p ts = .ok (some a, rest) := by
  rw [attempt, h]

theorem attempt_unexpected (h : p ts = .error .unexpected) : attempt p ts = .ok (none, ts) := by
  rw [attempt, h]

/-! ## Loops -/

theorem repeated_none {step : α → P (Option α)} (h : step a ts = .ok (none, ts)) :
    repeated step a ts = .ok (a, ts) := by
  rw [repeated, iterate, bind_ok h]
  rfl

theorem iterate_succ {step : α → P (Option α)} {fuel : Nat} {a' : α}
    (h : step a ts = .ok (some a', rest)) :
    iterate step (fuel + 1) a ts = iterate step fuel a' rest := by
  rw [iterate, bind_ok h]

/-! ## Where nothing is read -/

/-- At these tokens the parser reads nothing: it answers or fails. -/
def Idle (p : P α) (ts : List Lexeme) : Prop :=
  (∃ a, p ts = .ok (a, ts)) ∨ p ts = .error .unexpected

namespace Idle

theorem pure (a : α) (ts : List Lexeme) : Idle (Pure.pure a : P α) ts := .inl ⟨a, rfl⟩

theorem unexpected (ts : List Lexeme) : Idle (Parser.unexpected : P α) ts := .inr rfl

theorem bind (h : Idle p ts) (next : ∀ a, p ts = .ok (a, ts) → Idle (f a) ts) : Idle (p >>= f) ts := by
  rcases h with ⟨a, h⟩ | h
  · rw [Idle, bind_ok h]
    exact next a h
  · exact .inr (bind_error h)

/-- A first step that reads nothing, and then others. -/
theorem after (h : p ts = .ok (a, ts)) (next : Idle (f a) ts) : Idle (p >>= f) ts := by
  rwa [Idle, bind_ok h]

/-- A first step that fails. -/
theorem fails (h : p ts = .error .unexpected) : Idle (p >>= f) ts := .inr (bind_error h)

end Idle

theorem symbol?_no {s : String} (h : ∀ l ∈ ts.head?, l.token ≠ .symbol s) :
    symbol? s ts = .ok (false, ts) := by
  cases ts with
  | nil => rfl
  | cons l ts =>
    have : (l.token == .symbol s) = false := beq_false_of_ne (h l rfl)
    simp only [symbol?, this]
    rfl

theorem symbol?_yes {l : Lexeme} {s : String} (h : l.token = .symbol s) :
    symbol? s (l :: ts) = .ok (true, ts) := by
  have : (l.token == .symbol s) = true := beq_iff_eq.mpr h
  simp only [symbol?, this]
  rfl

theorem peekSymbol_no {s : String} (h : ∀ l ∈ ts.head?, l.token ≠ .symbol s) :
    peekSymbol s ts = .ok (false, ts) := by
  cases ts with
  | nil => rfl
  | cons l ts =>
    have : (some l.token == some (.symbol s)) = false := beq_false_of_ne fun same =>
      h l rfl (Option.some.inj same)
    exact congrArg (fun b => Except.ok (b, l :: ts)) this

theorem keyword?_no {k : String} (h : ∀ l ∈ ts.head?, l.token.isKeyword k = false) :
    keyword? k ts = .ok (false, ts) := by
  cases ts with
  | nil => rfl
  | cons l ts =>
    simp only [keyword?, h l rfl]
    rfl

theorem peek_cons (l : Lexeme) (ts : List Lexeme) : peek (l :: ts) = .ok (some l.token, l :: ts) := rfl

theorem advance_cons (l : Lexeme) (ts : List Lexeme) : advance (l :: ts) = .ok (l.token, ts) := rfl

end RowAccess.Sql.Parser
