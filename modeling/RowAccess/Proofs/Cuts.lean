import Mathlib.Data.List.DropRight
import Mathlib.Data.List.TakeWhile
import RowAccess.Text.Blank
import RowAccess.Text.Split
/-!
# Texts that are cut

What is cut off at the ends of a text is what it was enclosed in, as long as nothing of the kind is left at its ends
(`stripBoth_padded`). What a text is cut into at a character is what it was put together of, as long as none of the
parts has the character (`splitOn_intercalate`).
-/

namespace RowAccess.Text

/-! ## Without what stands at the ends -/

section Ends

variable {p : Char → Bool}

/-- Whether no character at either end matches `p`. -/
def isStripped (p : Char → Bool) (cs : List Char) : Bool := cs.head?.all (!p ·) && cs.getLast?.all (!p ·)

theorem isStripped_iff {cs : List Char} :
    isStripped p cs = true ↔ (∀ c ∈ cs.head?, p c = false) ∧ ∀ c ∈ cs.getLast?, p c = false := by
  simp [isStripped, Option.all_eq_true]

theorem head?_dropWhile (cs : List Char) {c : Char} (first : c ∈ (cs.dropWhile p).head?) : p c = false := by
  have unmatched := List.head?_dropWhile_not p cs
  rw [Option.mem_def.mp first] at unmatched
  exact unmatched

theorem isStripped_stripBoth (p : Char → Bool) (cs : List Char) : isStripped p (stripBoth p cs) = true := by
  rw [isStripped_iff]
  constructor
  · intro c first
    -- cutting at the end leaves the first character, if it leaves any
    obtain ⟨behind, parts⟩ : stripBoth p cs <+: cs.dropWhile p := List.rdropWhile_prefix p _
    refine head?_dropWhile cs ?_
    rw [← parts, List.head?_append, Option.mem_def.mp first]
    rfl
  · intro c last
    rw [stripBoth, List.getLast?_reverse] at last
    exact head?_dropWhile _ last

theorem stripBoth_eq_self {cs : List Char} : stripBoth p cs = cs ↔ isStripped p cs = true := by
  constructor
  · intro same
    exact same ▸ isStripped_stripBoth p cs
  · intro stripped
    obtain ⟨first, last⟩ := isStripped_iff.mp stripped
    have front : cs.dropWhile p = cs := by
      cases cs with
      | nil => rfl
      | cons c cs => rw [List.dropWhile_cons_of_neg (by simp [first c rfl])]
    have back : cs.rdropWhile p = cs := by
      rw [List.rdropWhile_eq_self_iff]
      intro some
      simp [last _ (List.getLast?_eq_some_getLast some)]
    exact (congrArg _ front).trans back

theorem stripBoth_padded {before after : List Char} (first : ∀ c ∈ before, p c = true)
    (last : ∀ c ∈ after, p c = true) (cs : List Char) :
    stripBoth p (before ++ (cs ++ after)) = stripBoth p cs := by
  have cut (cs : List Char) : stripBoth p cs = (cs.dropWhile p).rdropWhile p := rfl
  rw [cut, cut, List.dropWhile_append_of_pos first, List.dropWhile_append]
  split
  · next none => rw [List.isEmpty_iff.mp none, List.dropWhile_eq_nil_iff.mpr last]
  · rw [List.rdropWhile, List.reverse_append, List.dropWhile_append_of_pos, List.rdropWhile]
    simpa using last

theorem stripBoth_enclosed {q : Char} (matched : p q = true) (cs : List Char) :
    stripBoth p (q :: cs ++ [q]) = stripBoth p cs := by
  have only : ∀ c ∈ [q], p c = true := List.forall_mem_singleton.mpr matched
  exact stripBoth_padded only only cs

theorem mem_stripBoth {cs : List Char} {c : Char} (found : c ∈ stripBoth p cs) : c ∈ cs :=
  (List.dropWhile_suffix p).subset ((List.rdropWhile_prefix p _).subset found)

/-- A text is what is left of it with what was cut off at its ends. -/
theorem stripBoth_parts (p : Char → Bool) (cs : List Char) :
    ∃ before after, (∀ c ∈ before, p c = true) ∧ (∀ c ∈ after, p c = true) ∧
      cs = before ++ (stripBoth p cs ++ after) := by
  refine ⟨cs.takeWhile p, (cs.dropWhile p).rtakeWhile p, fun c => List.mem_takeWhile_imp,
    fun c => List.mem_rtakeWhile_imp, ?_⟩
  have cut : stripBoth p cs = (cs.dropWhile p).rdropWhile p := rfl
  rw [cut, List.rdropWhile_append_rtakeWhile, List.takeWhile_append_dropWhile]

/-- Nothing is left of a text of which every character matches, and of no other one. -/
theorem stripBoth_eq_nil {cs : List Char} : stripBoth p cs = [] ↔ ∀ c ∈ cs, p c = true := by
  constructor
  · intro nothing c found
    obtain ⟨before, after, first, last, parts⟩ := stripBoth_parts p cs
    rw [nothing] at parts
    rw [parts, List.nil_append, List.mem_append] at found
    exact found.elim (first c) (last c)
  · intro all
    simpa [stripBoth] using stripBoth_padded all (List.forall_mem_nil _) []

end Ends

/-! ## Without white space at the ends -/

theorem trim_trim (s : String) : trim (trim s) = trim s := by
  rw [trim, trim, String.toList_ofList, stripBoth_eq_self.mpr (isStripped_stripBoth ..)]

theorem trim_padded {before after : String} (first : isBlank before = true) (last : isBlank after = true)
    (s : String) : trim (before ++ s ++ after) = trim s := by
  rw [trim, String.append_assoc, String.toList_append, String.toList_append,
    stripBoth_padded (List.all_eq_true.mp first) (List.all_eq_true.mp last), trim]

theorem trim_parts (s : String) :
    ∃ before after, isBlank before = true ∧ isBlank after = true ∧ s = before ++ trim s ++ after := by
  obtain ⟨before, after, first, last, parts⟩ := stripBoth_parts isSpace s.toList
  refine ⟨String.ofList before, String.ofList after, ?_, ?_, ?_⟩
  · simpa [isBlank] using first
  · simpa [isBlank] using last
  · rw [← String.toList_inj, trim]
    simpa using parts

theorem trim_eq_empty {s : String} : trim s = "" ↔ isBlank s = true := by
  rw [trim, String.ofList_eq_empty_iff, stripBoth_eq_nil, isBlank, List.all_eq_true]

/-! ## Letters in lower case -/

theorem toNat_toLower (c : Char) :
    c.toLower.toNat = c.toNat ∨ (65 ≤ c.toNat ∧ c.toNat ≤ 90 ∧ c.toLower.toNat = c.toNat + 32) := by
  unfold Char.toLower
  split
  · next upper =>
    have least : 65 ≤ c.toNat := upper.1
    have most : c.toNat ≤ 90 := upper.2
    refine .inr ⟨least, most, ?_⟩
    change (c.val + ('a'.val - 'A'.val)).toNat = c.toNat + 32
    have code : c.val.toNat = c.toNat := rfl
    rw [UInt32.toNat_add]
    simp
    omega
  · exact .inl rfl

theorem isSpace_toLower (c : Char) : isSpace c.toLower = isSpace c := by
  have lowered := toNat_toLower c
  rw [Bool.eq_iff_iff]
  simp only [isSpace, Bool.or_eq_true, Bool.and_eq_true, beq_iff_eq, decide_eq_true_eq]
  omega

/-! ## Cut at a character -/

theorem cutFirst?_append {sep : Char} {before : List Char} (free : sep ∉ before) (after : List Char) :
    cutFirst? sep (before ++ sep :: after) = some (before, after) := by
  induction before with
  | nil => rw [List.nil_append, cutFirst?, if_pos rfl]
  | cons c before ih =>
    obtain ⟨first, rest⟩ := not_or.mp (List.mem_cons.not.mp free)
    rw [List.cons_append, cutFirst?, if_neg (Ne.symm first), ih rest]
    rfl

theorem cutFirst?_none {sep : Char} {cs : List Char} (free : sep ∉ cs) : cutFirst? sep cs = none := by
  induction cs with
  | nil => rfl
  | cons c cs ih =>
    obtain ⟨first, rest⟩ := not_or.mp (List.mem_cons.not.mp free)
    rw [cutFirst?, if_neg (Ne.symm first), ih rest]
    rfl

/-- A text with a separator is what stands before and after the first one. -/
theorem exists_cut {sep : Char} {s : String} (mem : sep ∈ s.toList) :
    ∃ before after, sep ∉ before.toList ∧ s = before ++ String.singleton sep ++ after := by
  obtain ⟨before, after, parts, free⟩ := List.eq_append_cons_of_mem mem
  refine ⟨String.ofList before, String.ofList after, ?_, ?_⟩
  · rwa [String.toList_ofList]
  · rw [← String.toList_inj, parts]
    simp

theorem cutLast?_append (sep : Char) (cs ds : List Char) :
    cutLast? sep (cs ++ sep :: ds) =
      some (match cutLast? sep ds with
        | some (before, after) => (cs ++ sep :: before, after)
        | none => (cs, ds)) := by
  induction cs with
  | nil =>
    rw [List.nil_append, cutLast?]
    rcases cutLast? sep ds with _ | ⟨before, after⟩
    · rw [if_pos rfl]
    · rfl
  | cons c cs ih =>
    rw [List.cons_append, cutLast?, ih]
    rcases cutLast? sep ds with _ | ⟨before, after⟩ <;> rfl

theorem cutLast?_none {sep : Char} {cs : List Char} (free : sep ∉ cs) : cutLast? sep cs = none := by
  induction cs with
  | nil => rfl
  | cons c cs ih =>
    obtain ⟨first, rest⟩ := not_or.mp (List.mem_cons.not.mp free)
    rw [cutLast?, ih rest, if_neg (Ne.symm first)]

theorem afterLast_free {sep : Char} {s : String} (free : sep ∉ s.toList) : afterLast sep s = s := by
  rw [afterLast, cutLast?_none free]

theorem afterLast_dot (s t : String) : afterLast '.' (s ++ "." ++ t) = afterLast '.' t := by
  have cut : (s ++ "." ++ t).toList = s.toList ++ '.' :: t.toList := by simp
  rw [afterLast, afterLast, cut, cutLast?_append]
  rcases cutLast? '.' t.toList with _ | ⟨before, after⟩
  · exact String.ofList_toList
  · rfl

/-- What stands after the last separator is the end of the text, and has no separator in it. -/
theorem afterLast_parts (sep : Char) (s : String) :
    sep ∉ (afterLast sep s).toList ∧
      (afterLast sep s = s ∨ ∃ before, s.toList = before ++ sep :: (afterLast sep s).toList) := by
  by_cases found : sep ∈ s.toList
  · obtain ⟨after, before, parts, free⟩ := List.eq_append_cons_of_mem (List.mem_reverse.mpr found)
    have parts : s.toList = before.reverse ++ sep :: after.reverse := by
      simpa using congrArg List.reverse parts
    have free : sep ∉ after.reverse := List.mem_reverse.not.mpr free
    have cut : afterLast sep s = String.ofList after.reverse := by
      rw [afterLast, parts, cutLast?_append, cutLast?_none free]
    rw [cut, String.toList_ofList]
    exact ⟨free, .inr ⟨before.reverse, parts⟩⟩
  · rw [afterLast_free found]
    exact ⟨found, .inl rfl⟩

/-- A text that ends with another character than the separator still does after the last separator. -/
theorem getLast?_afterLast {sep c : Char} (other : c ≠ sep) {s : String} (last : s.toList.getLast? = some c) :
    (afterLast sep s).toList.getLast? = some c := by
  obtain ⟨-, whole | ⟨before, parts⟩⟩ := afterLast_parts sep s
  · rwa [whole]
  · rw [parts, List.getLast?_append, List.getLast?_cons] at last
    cases found : (afterLast sep s).toList.getLast? with
    | none =>
      rw [found] at last
      exact absurd (Option.some.inj last).symm other
    | some c' =>
      rw [found] at last
      exact last

/-! ## Cut into pieces -/

theorem splitChars_eq (sep : Char) (cs : List Char) : splitChars sep cs = cs.splitOn sep := by
  induction cs with
  | nil => rfl
  | cons c cs ih =>
    rw [splitChars, ih, List.splitOn_cons_eq_if_modifyHead]
    cases rest : cs.splitOn sep with
    | nil => exact absurd rest (List.splitOn_ne_nil sep cs)
    | cons piece pieces => simp

/-- Pieces without the separator are what the text of them is cut into. -/
theorem splitOn_intercalate {sep : Char} {pieces : List String} (free : ∀ s ∈ pieces, sep ∉ s.toList)
    (some : pieces ≠ []) : splitOn sep ((String.singleton sep).intercalate pieces) = pieces := by
  have cut : splitChars sep ((String.singleton sep).intercalate pieces).toList = pieces.map String.toList := by
    rw [splitChars_eq, String.toList_intercalate, String.toList_singleton]
    exact List.splitOn_intercalate sep (by simpa using free) (by simpa using some)
  rw [splitOn, cut, List.map_map]
  simp [Function.comp_def]

end RowAccess.Text
