import RowAccess.Fragment
import RowAccess.Sql.Lexer
/-!
# Reading quoted values back

A value is written between quotes with each of its quotes doubled. Where a backslash escapes nothing,
reading stops at the closing quote and gives the value back. Where it does, the same holds exactly for
the values that are `readable`: those in which each backslash stands before a wildcard of a pattern.

For the others, what is read either differs from the value at some place, or ends at the closing quote
and is shorter than the value (`untilQuote_unreadable`).
-/

namespace RowAccess

open Sql Sql.Lexer

/-- The characters of a value with each quote written twice. -/
def doubled (cs : List Char) : List Char := cs.flatMap fun c => if c = '\'' then ['\'', '\''] else [c]

/-- Whether each backslash stands before a wildcard of a pattern, where reading keeps it. -/
def keepsBackslashes : List Char → Bool
  | [] => true
  | c :: cs =>
    if c = '\\' then
      match cs with
      | [] => false
      | x :: rest => (x = '%' || x = '_') && keepsBackslashes rest
    else keepsBackslashes cs

/-- Whether a value that is written between quotes reads back in the dialect. -/
def Sql.Dialect.readable (d : Dialect) (value : String) : Bool :=
  !d.backslashEscapes || keepsBackslashes value.toList

theorem readable_of_no_escapes {d : Dialect} (h : d.backslashEscapes = false) (value : String) :
    d.readable value = true := by
  simp [Dialect.readable, h]

theorem keepsBackslashes_cons {c : Char} (h : c ≠ '\\') (cs : List Char) :
    keepsBackslashes (c :: cs) = keepsBackslashes cs := by
  rw [keepsBackslashes.eq_def]
  simp only [if_neg h]

theorem keepsBackslashes_escape (x : Char) (cs : List Char) :
    keepsBackslashes ('\\' :: x :: cs) = true ↔ (x = '%' ∨ x = '_') ∧ keepsBackslashes cs = true := by
  rw [keepsBackslashes.eq_def]
  simp

/-- A value without backslashes reads back in every dialect. -/
theorem readable_of_no_backslash (d : Dialect) {value : String} (h : '\\' ∉ value.toList) :
    d.readable value = true := by
  have kept : ∀ cs : List Char, '\\' ∉ cs → keepsBackslashes cs = true := by
    intro cs
    induction cs with
    | nil => exact fun _ => rfl
    | cons c cs ih =>
      intro free
      rw [List.mem_cons, not_or] at free
      rw [keepsBackslashes_cons (Ne.symm free.1)]
      exact ih free.2
  rw [Dialect.readable, kept _ h, Bool.or_true]

@[simp] theorem doubled_nil : doubled [] = [] := rfl

theorem doubled_quote (cs : List Char) : doubled ('\'' :: cs) = '\'' :: '\'' :: doubled cs := rfl

theorem doubled_cons {c : Char} (h : c ≠ '\'') (cs : List Char) :
    doubled (c :: cs) = c :: doubled cs := by
  simp [doubled, h]

theorem toList_literalText (value : String) :
    (literalText value).toList = '\'' :: (doubled value.toList ++ ['\'']) := by
  simp [literalText, doubled, String.toList_append]

/-! ## One character of quoted text -/

section

variable {backslash : Bool} {rest : List Char}

theorem untilQuote_end (h : rest.head? ≠ some '\'') :
    untilQuote '\'' backslash backslash ('\'' :: rest) = some ([], rest) := by
  cases rest with
  | nil => rfl
  | cons c cs =>
    have : c ≠ '\'' := by simpa using h
    simp [untilQuote, this]

theorem untilQuote_pair (rest : List Char) :
    untilQuote '\'' backslash backslash ('\'' :: '\'' :: rest) =
      (untilQuote '\'' backslash backslash rest).map fun (s, r) => ('\'' :: s, r) := rfl

theorem untilQuote_plain {c : Char} (h : c ≠ '\'') (h' : c = '\\' → backslash = false) :
    untilQuote '\'' backslash backslash (c :: rest) =
      (untilQuote '\'' backslash backslash rest).map fun (s, r) => (c :: s, r) := by
  have : ¬ (c = '\\' && backslash) = true := by
    cases backslash <;> simp_all
  rw [untilQuote.eq_def]
  simp only [if_neg h, if_neg this]

theorem untilQuote_wildcard {x : Char} (h : x = '%' ∨ x = '_') :
    untilQuote '\'' true true ('\\' :: x :: rest) =
      (untilQuote '\'' true true rest).map fun (s, r) => ('\\' :: x :: s, r) := by
  rcases h with rfl | rfl <;> rfl

theorem untilQuote_backslashes :
    untilQuote '\'' true true ('\\' :: '\\' :: rest) =
      (untilQuote '\'' true true rest).map fun (s, r) => ('\\' :: s, r) := rfl

/-- Any other character after a backslash is read as a character that is no backslash. -/
theorem untilQuote_escape {x : Char} (h : ¬ (x = '%' ∨ x = '_')) (h' : x ≠ '\\') :
    ∃ y, y ≠ '\\' ∧ untilQuote '\'' true true ('\\' :: x :: rest) =
      (untilQuote '\'' true true rest).map fun (s, r) => (y :: s, r) := by
  have notKept : (true && (decide (x = '%') || decide (x = '_'))) = false := by simpa using h
  rw [untilQuote.eq_def]
  dsimp only
  rw [if_neg (by decide), if_pos (by decide)]
  split
  case h_9 => exact ⟨x, h', by simp only [notKept, Bool.false_eq_true, if_false, List.singleton_append]⟩
  all_goals exact ⟨_, by decide, rfl⟩

end

/-! ## Whole values -/

/-- A value is read back where nothing escapes, or if its backslashes are kept. -/
theorem untilQuote_doubled {backslash : Bool} {rest : List Char} (h : rest.head? ≠ some '\'') :
    ∀ cs : List Char, (backslash = true → keepsBackslashes cs = true) →
      untilQuote '\'' backslash backslash (doubled cs ++ '\'' :: rest) = some (cs, rest)
  | [], _ => untilQuote_end h
  | c :: cs, kept => by
    by_cases quote : c = '\''
    · subst quote
      have kept' : backslash = true → keepsBackslashes cs = true := by
        rwa [keepsBackslashes_cons (by decide)] at kept
      rw [doubled_quote, List.cons_append, List.cons_append, untilQuote_pair,
        untilQuote_doubled h cs kept', Option.map_some]
    by_cases plain : c = '\\' → backslash = false
    · have kept' : backslash = true → keepsBackslashes cs = true := by
        intro on
        have noSlash : c ≠ '\\' := fun slash => by simp [plain slash] at on
        rw [← keepsBackslashes_cons noSlash]
        exact kept on
      rw [doubled_cons quote, List.cons_append, untilQuote_plain quote plain,
        untilQuote_doubled h cs kept', Option.map_some]
    · obtain ⟨rfl, on⟩ := Classical.not_imp.mp plain
      obtain rfl : backslash = true := by simpa using on
      have := kept rfl
      cases cs with
      | nil => exact absurd this (by decide)
      | cons x cs =>
        rw [keepsBackslashes_escape] at this
        have notQuote : x ≠ '\'' := by rcases this.1 with rfl | rfl <;> decide
        rw [doubled_cons quote, doubled_cons notQuote, List.cons_append, List.cons_append,
          untilQuote_wildcard this.1, untilQuote_doubled h cs fun _ => this.2, Option.map_some]

/-- What is read and what was meant part at some place, or the reading ends at the closing quote with
less than was meant. -/
def Falls (read rest meant rest' : List Char) : Prop :=
  ¬ read <+: meant ∨ rest = rest' ∧ read.length < meant.length

theorem Falls.cons {read rest meant rest' : List Char} (c : Char) (h : Falls read rest meant rest') :
    Falls (c :: read) rest (c :: meant) rest' := by
  rcases h with parts | ⟨ends, less⟩
  · exact .inl fun within => parts (List.cons_prefix_cons.mp within).2
  · exact .inr ⟨ends, Nat.succ_lt_succ less⟩

theorem Falls.of_ne {c c' : Char} (h : c ≠ c') (read rest meant rest' : List Char) :
    Falls (c :: read) rest (c' :: meant) rest' :=
  .inl fun within => h (List.cons_prefix_cons.mp within).1

theorem Falls.of_map {c c' : Char} {text meant rest : List Char} {read : List Char × List Char}
    (h : (untilQuote '\'' true true text).map (fun (s, r) => (c :: s, r)) = some read)
    (falls : c = c' → ∀ s r, untilQuote '\'' true true text = some (s, r) → Falls s r meant rest) :
    Falls read.1 read.2 (c' :: meant) rest := by
  obtain ⟨⟨s, r⟩, found, rfl⟩ := Option.map_eq_some_iff.mp h
  by_cases same : c = c'
  · subst same
    exact (falls rfl s r found).cons c
  · exact .of_ne same s r meant rest

theorem Falls.of_escape {x : Char} {text s r : List Char} (h : ¬ (x = '%' ∨ x = '_')) (h' : x ≠ '\\')
    (found : untilQuote '\'' true true ('\\' :: x :: text) = some (s, r))
    (meant rest : List Char) : Falls s r ('\\' :: meant) rest := by
  obtain ⟨y, other, reads⟩ : ∃ y, y ≠ '\\' ∧ untilQuote '\'' true true ('\\' :: x :: text) =
      (untilQuote '\'' true true text).map fun (s, r) => (y :: s, r) := untilQuote_escape h h'
  rw [reads] at found
  exact Falls.of_map found fun same => absurd same other

/-- What follows a backslash in doubled text, the closing quote included. -/
theorem doubled_append_quote (cs rest : List Char) :
    (∃ text, doubled cs ++ '\'' :: rest = '\'' :: text) ∨
      ∃ x cs', cs = x :: cs' ∧ x ≠ '\'' ∧ doubled cs = x :: doubled cs' := by
  cases cs with
  | nil => exact .inl ⟨rest, rfl⟩
  | cons x cs =>
    by_cases quote : x = '\''
    · subst quote
      exact .inl ⟨_, rfl⟩
    · exact .inr ⟨x, cs, rfl, quote, doubled_cons quote cs⟩

/-- Once reading lags behind by some backslashes, it never catches up. -/
theorem untilQuote_lagging {rest : List Char} (h : rest.head? ≠ some '\'') :
    ∀ (cs : List Char) (k : Nat) (s r : List Char),
      untilQuote '\'' true true (doubled cs ++ '\'' :: rest) = some (s, r) →
      Falls s r ('\\' :: (List.replicate k '\\' ++ cs)) rest
  | [], k, s, r, found => by
    rw [doubled_nil, List.nil_append, untilQuote_end h] at found
    cases found
    exact .inr ⟨rfl, by simp⟩
  | c :: cs, k, s, r, found => by
    by_cases quote : c = '\''
    · subst quote
      rw [doubled_quote, List.cons_append, List.cons_append, untilQuote_pair] at found
      exact Falls.of_map found fun same => absurd same (by decide)
    rw [doubled_cons quote, List.cons_append] at found
    by_cases slash : c = '\\'
    · subst slash
      have shift : ∀ l, List.replicate k '\\' ++ '\\' :: l = '\\' :: (List.replicate k '\\' ++ l) := by
        intro l
        rw [List.append_cons, ← List.replicate_succ', List.replicate_succ, List.cons_append]
      rw [shift]
      rcases doubled_append_quote cs rest with ⟨text, next⟩ | ⟨x, cs', rfl, notQuote, next⟩
      · rw [next] at found
        exact Falls.of_escape (by decide) (by decide) found _ _
      rw [next, List.cons_append] at found
      by_cases again : x = '\\'
      · subst again
        rw [untilQuote_backslashes] at found
        refine Falls.of_map found fun _ s r found => ?_
        have := untilQuote_lagging h cs' (k + 1) s r found
        rwa [shift, ← List.cons_append, ← List.replicate_succ]
      by_cases wild : x = '%' ∨ x = '_'
      · rw [untilQuote_wildcard wild] at found
        obtain ⟨⟨s', r'⟩, -, same⟩ := Option.map_eq_some_iff.mp found
        cases same
        exact (Falls.of_ne again ..).cons _
      · exact Falls.of_escape wild again found _ _
    · rw [untilQuote_plain quote fun same => absurd same slash] at found
      exact Falls.of_map found fun same => absurd same slash

/-- A value whose backslashes are not all kept is not read back. -/
theorem untilQuote_unreadable {rest : List Char} (h : rest.head? ≠ some '\'') :
    ∀ (cs s r : List Char), keepsBackslashes cs ≠ true →
      untilQuote '\'' true true (doubled cs ++ '\'' :: rest) = some (s, r) → Falls s r cs rest
  | [], s, r, lost, _ => absurd rfl lost
  | c :: cs, s, r, lost, found => by
    by_cases quote : c = '\''
    · subst quote
      rw [keepsBackslashes_cons (by decide)] at lost
      rw [doubled_quote, List.cons_append, List.cons_append, untilQuote_pair] at found
      exact Falls.of_map found fun _ s r found => untilQuote_unreadable h cs s r lost found
    rw [doubled_cons quote, List.cons_append] at found
    by_cases slash : c = '\\'
    · subst slash
      rcases doubled_append_quote cs rest with ⟨text, next⟩ | ⟨x, cs', rfl, notQuote, next⟩
      · rw [next] at found
        exact Falls.of_escape (by decide) (by decide) found _ _
      rw [next, List.cons_append] at found
      rw [Ne, keepsBackslashes_escape, not_and] at lost
      by_cases again : x = '\\'
      · subst again
        rw [untilQuote_backslashes] at found
        exact Falls.of_map found fun _ s r found => untilQuote_lagging h cs' 0 s r found
      by_cases wild : x = '%' ∨ x = '_'
      · rw [untilQuote_wildcard wild] at found
        obtain ⟨⟨s', r'⟩, found', same⟩ := Option.map_eq_some_iff.mp found
        cases same
        exact ((untilQuote_unreadable h cs' s' r (lost wild) found').cons x).cons _
      · exact Falls.of_escape wild again found _ _
    · rw [keepsBackslashes_cons slash] at lost
      rw [untilQuote_plain quote fun same => absurd same slash] at found
      exact Falls.of_map found fun _ s r found => untilQuote_unreadable h cs s r lost found

end RowAccess
