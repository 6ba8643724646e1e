import RowAccess.Proofs.Erasure
/-!
# What the names of tables are told apart by

The last name of a table is cut out of the text of its name: what stands after the last dot, without the quotes at
its ends. That is the last part of the name unless the part is written with more than itself between its quotes, or
has a dot or a quote where the cut is made (`baseName_iff`). The name of a rule is cut at its last dot too, but keeps
its quotes, and no last name ends with a quote. So a rule whose table is written with quotes restricts no table
(`tables_matched`).
-/

namespace RowAccess

open Sql

variable {σ : Type}

/-! ## Text within quotes -/

namespace Sql

theorem head?_doubleQuotes (q previous : Char) (cs : List Char) :
    (doubleQuotes q previous cs).head? = cs.head? := by
  fun_cases doubleQuotes q previous cs <;> simp_all

theorem getLast?_doubleQuotes (q previous : Char) (cs : List Char) :
    (doubleQuotes q previous cs).getLast? = cs.getLast? := by
  fun_induction doubleQuotes q previous cs <;> simp_all [List.getLast?_cons]

theorem mem_doubleQuotes {q previous : Char} {cs : List Char} {c : Char} :
    c ∈ doubleQuotes q previous cs ↔ c ∈ cs := by
  fun_induction doubleQuotes q previous cs <;> simp_all

theorem length_doubleQuotes (q previous : Char) (cs : List Char) :
    cs.length ≤ (doubleQuotes q previous cs).length := by
  fun_induction doubleQuotes q previous cs <;> grind

theorem isStripped_doubleQuotes (p : Char → Bool) (q previous : Char) (cs : List Char) :
    Text.isStripped p (doubleQuotes q previous cs) = Text.isStripped p cs := by
  rw [Text.isStripped, head?_doubleQuotes, getLast?_doubleQuotes, ← Text.isStripped]

/-- Whether a part of a name is the same without its quotes: there is nothing but itself between them, and it has no
dot in it and no quote at its ends. -/
def Ident.isClear (i : Ident) : Bool :=
  i.quote.all (fun q => Table.isQuote q && doubleQuotes q '\x00' i.value.toList == i.value.toList) &&
    !i.value.toList.contains '.' && Text.isStripped Table.isQuote i.value.toList

/-- Whether the part is written within quotes. -/
def Ident.isQuoted (i : Ident) : Bool := i.quote.any Table.isQuote

theorem Ident.isClear_iff {i : Ident} :
    i.isClear = true ↔
      (∀ q ∈ i.quote, Table.isQuote q = true ∧ doubleQuotes q '\x00' i.value.toList = i.value.toList) ∧
        '.' ∉ i.value.toList ∧ Text.isStripped Table.isQuote i.value.toList = true := by
  simp [isClear, Option.all_eq_true, and_assoc]

theorem Name.afterLast_last (schema : Name) (i : Ident) :
    Text.afterLast '.' (Name.render (schema ++ [i])) = Text.afterLast '.' i.render := by
  cases schema with
  | nil => exact Ref.afterLast_name [] i
  | cons j schema =>
    rw [List.cons_append, Ref.afterLast_name, ← List.cons_append, List.getLastD_concat]

end Sql

/-! ## Last names -/

namespace Table

theorem not_isQuote_of_continuesName {d : Dialect} {c : Char} (plain : d.continuesName c = true) :
    c ≠ '.' ∧ isQuote c = false := by
  constructor
  · rintro rfl
    cases d <;> revert plain <;> decide
  · rw [Bool.eq_false_iff]
    intro quote
    have either : c = '"' ∨ c = '\x60' := by simpa [isQuote] using quote
    rcases either with rfl | rfl <;> cases d <;> revert plain <;> decide

theorem isQuote_iff {c : Char} : isQuote c = true ↔ c.toNat = 34 ∨ c.toNat = 96 := by
  simp [isQuote, ← Char.toNat_inj]

/-- Quotes are no letters. -/
theorem isQuote_toLower (c : Char) : isQuote c.toLower = isQuote c := by
  rw [Bool.eq_iff_iff, isQuote_iff, isQuote_iff]
  have lowered := Text.toNat_toLower c
  omega

/-- What needs no quotes is the same without them. -/
theorem isClear_plain {d : Dialect} {i : Ident} (bare : i.quote = none)
    (plain : ∀ c ∈ i.value.toList, d.continuesName c = true) : i.isClear = true := by
  have free : '.' ∉ i.value.toList := fun dot => (not_isQuote_of_continuesName (plain _ dot)).1 rfl
  have ends : Text.isStripped isQuote i.value.toList = true :=
    Text.isStripped_iff.mpr
      ⟨fun c first => (not_isQuote_of_continuesName (plain c (List.mem_of_mem_head? first))).2,
        fun c last => (not_isQuote_of_continuesName (plain c (List.mem_of_mem_getLast? last))).2⟩
  exact Ident.isClear_iff.mpr ⟨by simp [bare], free, ends⟩

/-- What is left of a part once dots and quotes are cut off is the part exactly if it is clear. -/
theorem stripped_iff {i : Ident} (delimited : i.quote ≠ some '.') :
    Text.stripBoth isQuote (Text.afterLast '.' i.render).toList = i.value.toList ↔ i.isClear = true := by
  rw [Ident.isClear_iff]
  by_cases dotted : '.' ∈ i.value.toList
  · refine iff_of_false ?_ fun clear => clear.2.1 dotted
    intro same
    exact (Text.afterLast_parts '.' i.render).1 (Text.mem_stripBoth (same ▸ dotted))
  · obtain ⟨value, quote⟩ := i
    cases quote with
    | none =>
      rw [Ident.render, Text.afterLast_free dotted, Text.stripBoth_eq_self]
      simp [dotted]
    | some q =>
      have written : (Ident.render ⟨value, some q⟩).toList = q :: doubleQuotes q '\x00' value.toList ++ [q] :=
        String.toList_ofList
      have whole : '.' ∉ (Ident.render ⟨value, some q⟩).toList := by
        have other : '.' ≠ q := fun dot => delimited (congrArg some dot.symm)
        simpa [written, mem_doubleQuotes, other] using dotted
      rw [Text.afterLast_free whole, written]
      cases quotes : isQuote q with
      | true =>
        -- the quotes go, and what is between them keeps its ends
        rw [Text.stripBoth_enclosed quotes]
        constructor
        · intro same
          have ends : Text.isStripped isQuote value.toList = true := same ▸ Text.isStripped_stripBoth isQuote _
          have whole := Text.stripBoth_eq_self.mpr ((isStripped_doubleQuotes isQuote q '\x00' _).trans ends)
          refine ⟨?_, dotted, ends⟩
          rintro _ ⟨rfl⟩
          exact ⟨quotes, whole.symm.trans same⟩
        · rintro ⟨itself, -, ends⟩
          rw [(itself q rfl).2]
          exact Text.stripBoth_eq_self.mpr ends
      | false =>
        -- the quotes stay, so there is more than the part
        have ends : Text.isStripped isQuote (q :: doubleQuotes q '\x00' value.toList ++ [q]) = true := by
          rw [Text.isStripped, List.getLast?_concat, List.cons_append, List.head?_cons]
          simp [quotes]
        rw [Text.stripBoth_eq_self.mpr ends]
        refine iff_of_false ?_ fun clear => ?_
        · intro same
          have longer := congrArg List.length same
          have shorter := length_doubleQuotes q '\x00' value.toList
          simp only [List.length_append, List.length_cons] at longer
          omega
        · rw [(clear.1 q rfl).1] at quotes
          cases quotes

theorem baseName_iff (schema : Name) {i : Ident} (aliased : Option String) (delimited : i.quote ≠ some '.') :
    (⟨Name.render (schema ++ [i]), aliased⟩ : Table).baseName = i.value ↔ i.isClear = true := by
  rw [← stripped_iff delimited, baseName, Name.afterLast_last, ← String.toList_inj, String.toList_ofList]

-- a dot within quotes is cut at too
example : (⟨Name.render [⟨"a.b", some '"'⟩], none⟩ : Table).baseName = "b" := by decide +kernel

/-! ## Names that are told apart -/

/-- No table is called by a name whose last part is within quotes. -/
theorem isNamed_quoted (t : Table) (schema : Name) {j : Ident} (quoted : j.isQuoted = true) :
    t.isNamed (Name.render (schema ++ [j])) = false := by
  obtain ⟨value, quote⟩ := j
  cases quote with
  | none => cases quoted
  | some q =>
    have quotes : isQuote q = true := quoted
    have other : q ≠ '.' := fun dot => by
      rw [dot] at quotes
      cases quotes
    have written : (Ident.render ⟨value, some q⟩).toList.getLast? = some q := by
      rw [show (Ident.render ⟨value, some q⟩).toList = q :: doubleQuotes q '\x00' value.toList ++ [q] from
        String.toList_ofList]
      exact List.getLast?_concat
    rw [Bool.eq_false_iff]
    intro named
    have alike : t.baseName.toList.map Char.toLower =
        (Text.afterLast '.' (Ident.render ⟨value, some q⟩)).toList.map Char.toLower := by
      rw [isNamed, Name.afterLast_last, Text.sameIgnoringCase, beq_iff_eq] at named
      exact String.ofList_injective named
    -- so the last name of the table ends with a quote in either case
    have last := congrArg List.getLast? alike
    rw [List.getLast?_map, List.getLast?_map, Text.getLast?_afterLast other written] at last
    obtain ⟨c, ending, same⟩ := Option.map_eq_some_iff.mp last
    have bare : isQuote c = false := by
      have stripped := Text.isStripped_stripBoth isQuote (Text.afterLast '.' t.name).toList
      rw [baseName, String.toList_ofList] at ending
      exact (Text.isStripped_iff.mp stripped).2 c ending
    have quote := isQuote_toLower q
    rw [← same, isQuote_toLower, bare, quotes] at quote
    cases quote

theorem isNamed_iff (t : Table) (schema : Name) {j : Ident} (clear : j.isClear = true) :
    t.isNamed (Name.render (schema ++ [j])) = true ↔
      j.quote = none ∧ Text.sameIgnoringCase t.baseName j.value = true := by
  obtain ⟨value, quote⟩ := j
  obtain ⟨quotes, free, -⟩ := Ident.isClear_iff.mp clear
  cases quote with
  | none =>
    rw [isNamed, Name.afterLast_last, Ident.render, Text.afterLast_free free]
    exact (and_iff_right rfl).symm
  | some q =>
    rw [isNamed_quoted t schema (by exact (quotes q rfl).1)]
    exact iff_of_false nofun nofun

end Table

theorem Enforcer.dataPredicates_quoted (e : Enforcer σ) (ctx : Context) {r : Config.DataRule} (scope : Scope)
    {schema : Name} {j : Ident} (quoted : j.isQuoted = true) (target : r.table = some (Name.render (schema ++ [j]))) :
    e.dataPredicates ctx r scope = .ok [] := by
  have none : (scope.tables.filter fun t => t.isNamed (Name.render (schema ++ [j]))) = [] :=
    List.filter_eq_nil_iff.mpr fun t _ => Bool.eq_false_iff.mp (t.isNamed_quoted schema quoted)
  rw [dataPredicates, target]
  change ((scope.tables.filter fun t => t.isNamed (Name.render (schema ++ [j]))).mapM _ >>= _ : Except Error _) = _
  rw [none]
  rfl

/-- Names of tables, of any number of parts, as they are written. The last name of a table is the last part of its
name exactly if that is clear, as all parts are that need no quotes. A name whose last part is clear means the tables
with that last name, without regard to case, if the part is written without quotes, and no table otherwise: so a
clear name means its own table exactly if it is written without quotes, and two that are alike mean each other's
tables both or not according to their quotes. A rule whose table is written with quotes restricts no table. -/
theorem tables_matched (d : Dialect) (schema schema' : Name) {i j : Ident} (aliased aliased' : Option String)
    (delimited : i.quote ≠ some '.') :
    let t : Table := ⟨Name.render (schema ++ [i]), aliased⟩
    let t' : Table := ⟨Name.render (schema' ++ [j]), aliased'⟩
    (t.baseName = i.value ↔ i.isClear = true) ∧
      (i.quote = none → (∀ c ∈ i.value.toList, d.continuesName c = true) → i.isClear = true) ∧
      (i.isClear = true → j.isClear = true →
        (t.isNamed t'.name = true ↔ j.quote = none ∧ Text.sameIgnoringCase i.value j.value = true) ∧
        (t.isNamed t.name = true ↔ i.quote = none) ∧
        (t.isNamed t'.name = t'.isNamed t.name ↔
          (Text.sameIgnoringCase i.value j.value = true → (i.quote = none ↔ j.quote = none)))) ∧
      (j.isQuoted = true →
        (∀ table : Table, table.isNamed t'.name = false) ∧
          ∀ (e : Enforcer σ) (ctx : Context) (r : Config.DataRule) (scope : Scope), r.table = some t'.name →
            e.dataPredicates ctx r scope = .ok []) := by
  intro t t'
  refine ⟨Table.baseName_iff schema aliased delimited, Table.isClear_plain, ?_, ?_⟩
  · intro clear clear'
    have delimited' : j.quote ≠ some '.' := fun dot => by cases ((Ident.isClear_iff.mp clear').1 _ dot).1
    have base : t.baseName = i.value := (Table.baseName_iff schema aliased delimited).mpr clear
    have base' : t'.baseName = j.value := (Table.baseName_iff schema' aliased' delimited').mpr clear'
    have forth := t.isNamed_iff schema' clear'
    have back := t'.isNamed_iff schema clear
    have itself := t.isNamed_iff schema clear
    have alike (a b : String) : Text.sameIgnoringCase a b = Text.sameIgnoringCase b a := Bool.beq_comm
    rw [base] at forth itself
    rw [base', alike] at back
    refine ⟨forth, itself.trans (and_iff_left (beq_self_eq_true _)), ?_⟩
    rw [Bool.eq_iff_iff, forth, back]
    exact and_congr_left_iff.trans (imp_congr_right fun _ => iff_comm)
  · intro quoted
    exact ⟨fun table => table.isNamed_quoted schema' quoted,
      fun e ctx r scope target => e.dataPredicates_quoted ctx scope quoted target⟩

/-! ## Orders within quotes -/

namespace QuotedOrders

/-- The name `"orders"`, in its quotes. -/
def name : Ident := ⟨"orders", some '"'⟩

def table : Table := ⟨Name.render [name], none⟩

/-- A query of orders. -/
def scope : Scope := ⟨.select, .filter, [table], 1⟩

/-- Of the rows of a table, the caller reads those that are their own. -/
def ownRows (target : String) : Config.DataRule := { table := some target, deptColumn := none, userColumn := some "owner" }

/-- A clerk without any role, who reads nothing. -/
def clerk : Context := ⟨.user ⟨"clerk", none, none, [], false⟩, .idle, none⟩

/-- A rule for the orders restricts the query if it is written without quotes, and not if it is written as the query
is. -/
theorem orders_unrestricted :
    table.baseName = "orders" ∧ table.isNamed table.name = false ∧
      orderRules.dataPredicates clerk (ownRows table.name) scope = .ok [] ∧
      (orderRules.dataPredicates clerk (ownRows "orders") scope).toOption.any (·.length == 1) = true := by
  obtain ⟨base, -, -, quoted⟩ :=
    tables_matched (σ := Memory) (i := name) (j := name) .postgres [] [] none none (by decide)
  exact ⟨base.mpr (by decide +kernel), (quoted rfl).1 table, (quoted rfl).2 _ _ _ _ rfl, by decide +kernel⟩

end QuotedOrders

end RowAccess
