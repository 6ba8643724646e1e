import RowAccess.Proofs.Places
/-!
# What rewriting does to an outline

Where no table is wrapped, rewriting leaves a statement as it is but for its conditions, and each place gets
the conjuncts of what the source answers for it (`Rewrite.statements_grow`). The source must leave its state
as it is, its predicates must hold no queries, and what is written like a predicate must have its conjuncts.
-/

namespace RowAccess

open Sql Semantics

variable {σ α β : Type}

namespace Rewrite

/-! ## Steps from a state -/

/-- From the state the step leaves it as it is, and what it answers satisfies `q`. -/
def Yields (s : σ) (m : Rewriting σ α) (q : α → Prop) : Prop :=
  ∀ a x a' s', Runs m a s x a' s' → s' = s ∧ q x

namespace Yields

variable {s : σ} {m : Rewriting σ α} {f : α → Rewriting σ β} {p : α → Prop} {q : β → Prop}

theorem pure {x : α} (h : p x) : Yields s (Pure.pure x) p := by
  intro a y a' s' run
  obtain ⟨rfl, -, same⟩ := runs_pure.mp run
  exact ⟨same, h⟩

theorem fail (e : Error) : Yields s (Rewrite.fail e) p := by
  intro a x a' s' run
  cases run

theorem bind (first : Yields s m p) (next : ∀ x, p x → Yields s (f x) q) : Yields s (m >>= f) q := by
  intro a y a'' s'' run
  obtain ⟨x, a', s', one, two⟩ := runs_bind.mp run
  obtain ⟨rfl, px⟩ := first a x a' s' one
  exact next x px a' y a'' s'' two

theorem map {g : α → β} (h : Yields s m p) (le : ∀ x, p x → q (g x)) :
    Yields s (m >>= fun x => Pure.pure (g x)) q :=
  h.bind fun x px => .pure (le x px)

end Yields

end Rewrite

/-! ## Outlines that grow -/

section

variable (given : Scope → Except Error (List Predicate))

/-- The predicates that are answered for a place with a scope. -/
def granted (scope : Option Scope) : List Predicate :=
  scope.elim [] fun scope => (given scope).toOption.getD []

/-- The look of a place after the predicates of its scope have been added. -/
def Face.granted (f : Face) : Face :=
  { f with conjuncts := f.conjuncts ∪ {t | ∃ q ∈ RowAccess.granted given f.scope, t ∈ conjunctsOf q.condition} }

/-- Nothing is answered for tables that would be wrapped, and no predicate holds a query. -/
structure Plain (places : List Place) : Prop where
  unwrapped : ∀ p ∈ places, p.wraps = true → granted given p.scope = []
  queryless : ∀ p ∈ places, ∀ q ∈ granted given p.scope, (Outline.expr q.condition).places = []

/-- What is written like a predicate for a place has the same conjuncts there. -/
def Apart (places : List Place) : Prop :=
  ∀ p ∈ places, ∀ e ∈ p.condition, ∀ t ∈ terms (asConjunct e), ∀ q ∈ granted given p.scope,
    t.render = q.condition.render → conjunctsOf t = conjunctsOf q.condition

/-- A part differs in its conditions at most. Each of them has grown by what was answered for it. -/
structure Grown (x x' : Outline α) : Prop where
  answered : ∀ p ∈ x.places, ∀ scope ∈ p.scope, ∃ ps, given scope = .ok ps
  blank : x'.blank = x.blank
  faces : Apart given x'.places → x'.places.map Place.face = x.places.map fun p => p.face.granted given

/-- A part grows where all is plain. -/
def Grows (x x' : Outline α) : Prop := Plain given x.places → Grown given x x'

end

variable {given : Scope → Except Error (List Predicate)}

section

variable {places more : List Place}

theorem Plain.left (h : Plain given (places ++ more)) : Plain given places where
  unwrapped p mem := h.unwrapped p (List.mem_append_left _ mem)
  queryless p mem := h.queryless p (List.mem_append_left _ mem)

theorem Plain.right (h : Plain given (places ++ more)) : Plain given more where
  unwrapped p mem := h.unwrapped p (List.mem_append_right _ mem)
  queryless p mem := h.queryless p (List.mem_append_right _ mem)

theorem Apart.left (h : Apart given (places ++ more)) : Apart given places :=
  fun p mem => h p (List.mem_append_left _ mem)

theorem Apart.right (h : Apart given (places ++ more)) : Apart given more :=
  fun p mem => h p (List.mem_append_right _ mem)

end

namespace Grows

theorem pure (x : α) : Grows given (Outline.pure x) (.pure x) := fun _ => ⟨nofun, rfl, fun _ => rfl⟩

theorem map {x x' : Outline α} (h : Grows given x x') (f : α → β) : Grows given (x.map f) (x'.map f) :=
  fun plain => ⟨(h plain).answered, congrArg f (h plain).blank, (h plain).faces⟩

theorem seq {f f' : Outline (α → β)} {x x' : Outline α} (first : Grows given f f') (second : Grows given x x') :
    Grows given (f.seq x) (f'.seq x') := by
  intro plain
  have h₁ := first plain.left
  have h₂ := second plain.right
  refine ⟨?_, ?_, fun apart => ?_⟩
  · intro p mem
    exact (List.mem_append.mp mem).elim (h₁.answered p) (h₂.answered p)
  · change f'.blank x'.blank = f.blank x.blank
    rw [h₁.blank, h₂.blank]
  · change (f'.places ++ x'.places).map Place.face = (f.places ++ x.places).map _
    rw [List.map_append, List.map_append, h₁.faces apart.left, h₂.faces apart.right]

/-- A place that nothing is answered for stays as it is. -/
theorem unanswered {x : Outline α} (answered : ∀ p ∈ x.places, ∀ scope ∈ p.scope, ∃ ps, given scope = .ok ps)
    (none : ∀ p ∈ x.places, granted given p.scope = []) : Grows given x x := by
  refine fun _ => ⟨answered, rfl, fun _ => List.map_congr_left fun p mem => ?_⟩
  have same : p.face.conjuncts = p.face.conjuncts ∪
      {t | ∃ q ∈ granted given p.scope, t ∈ conjunctsOf q.condition} := by
    rw [none p mem]
    simp
  exact congrArg (Face.mk p.scope p.wraps) same

end Grows

/-! ## Conditions -/

theorem places_asConjunct (e : Expr) : (Outline.expr (asConjunct e)).places = (Outline.expr e).places := by
  unfold asConjunct
  split <;> rfl

/-- Predicates without queries add no place within a condition. -/
theorem places_withTerms {condition : Option Expr} {ps : List Expr}
    (queryless : ∀ p ∈ ps, (Outline.expr p).places = []) :
    (Outline.expr? (withTerms condition ps)).places = (Outline.expr? condition).places := by
  induction ps generalizing condition with
  | nil => rfl
  | cons p ps ih =>
    have rest := fun q mem => queryless q (List.mem_cons_of_mem p mem)
    rw [withTerms]
    split
    · exact ih rest
    · rw [ih rest]
      cases condition with
      | none => exact queryless p (.head _)
      | some e =>
        change (Outline.expr (asConjunct e)).places ++ (Outline.expr (asConjunct p)).places =
          (Outline.expr e).places
        rw [places_asConjunct, places_asConjunct, queryless p (.head _), List.append_nil]

theorem conjuncts_blank (condition : Option Expr) :
    {t | ∃ e ∈ condition, t ∈ conjunctsOf e} =
      {t | ∃ b ∈ (Outline.expr? condition).blank, t ∈ conjuncts b} := by
  cases condition with
  | none => simp [Outline.expr?, Outline.pure]
  | some e => simp [Outline.expr?, Outline.map, conjunctsOf]

/-- A place grows by the predicates that are added to its condition. -/
theorem Grows.condition {scope : Option Scope} {before walked after : Option Expr}
    (answered : ∀ sc ∈ scope, ∃ ps, given sc = .ok ps)
    (within : Grows given (Outline.expr? before) (Outline.expr? walked))
    (added : after = withTerms walked ((granted given scope).map (·.condition))) :
    Grows given (Outline.condition scope before (Outline.expr? before))
      (Outline.condition scope after (Outline.expr? after)) := by
  intro plain
  have h := within plain.left
  refine ⟨?_, rfl, fun apart => ?_⟩
  · intro p mem
    rcases List.mem_append.mp mem with mem | mem
    · exact h.answered p mem
    · rw [List.mem_singleton.mp mem]
      exact answered
  · have queryless : ∀ p ∈ (granted given scope).map (·.condition), (Outline.expr p).places = [] := by
      simpa using plain.right.queryless ⟨scope, before, false⟩ (.head _)
    have own := apart.right ⟨scope, after, false⟩ (.head _)
    have inner : (Outline.expr? after).places = (Outline.expr? walked).places := by
      rw [added, places_withTerms queryless]
    have faces : (Outline.expr? walked).places.map Place.face =
        (Outline.expr? before).places.map fun p => p.face.granted given := h.faces (inner ▸ apart.left)
    have conjuncts : {t | ∃ e ∈ after, t ∈ conjunctsOf e} = {t | ∃ e ∈ before, t ∈ conjunctsOf e} ∪
        {t | ∃ q ∈ granted given scope, t ∈ conjunctsOf q.condition} := by
      rw [added] at own ⊢
      rw [conjunctsOf_withTerms (by simpa using own), conjuncts_blank walked, h.blank, ← conjuncts_blank before]
      simp
    change ((Outline.expr? after).places ++ [_]).map Place.face = ((Outline.expr? before).places ++ [_]).map _
    rw [List.map_append, List.map_append, inner, faces]
    exact congrArg (fun face => _ ++ [Face.mk scope false face]) conjuncts

namespace Rewrite

/-! ## Steps that ask -/

section

variable {codec : Codec} {source : Source σ} {s : σ}
  (quiet : ∀ scope, (source scope).run.run s = (given scope, s))

include quiet

theorem addPredicates_yields (scope : Scope) (condition : Option Expr) :
    Yields s (addPredicates source scope condition) fun condition' =>
      (∃ ps, given scope = .ok ps) ∧
        condition' = withTerms condition ((granted given (some scope)).map (·.condition)) := by
  intro a condition' a' s' run
  obtain ⟨ps, a₁, s₁, asked, run⟩ := runs_bind.mp run
  have asked := runs_ask asked
  rw [quiet scope] at asked
  have answered : given scope = .ok ps := congrArg Prod.fst asked
  have made : restrict condition ps a₁ = (condition', a') := Except.ok.inj (Prod.mk.inj run).1
  have granted : RowAccess.granted given (some scope) = ps := by
    rw [RowAccess.granted, Option.elim_some, answered]
    rfl
  refine ⟨(Prod.mk.inj run).2.symm.trans (congrArg Prod.snd asked).symm, ⟨ps, answered⟩, ?_⟩
  rw [granted, ← restrict_fst condition ps a₁, made]

theorem restrictJoin_yields (operation : Operation) (visible : Nat) (tables : List Table) (condition : Expr) :
    Yields s (restrictJoin source operation visible tables condition) fun condition' =>
      ∃ scope, scope = (if tables.isEmpty then none else some ⟨operation, .join, tables, visible⟩) ∧
        (∀ sc ∈ scope, ∃ ps, given sc = .ok ps) ∧
        some condition' = withTerms (some condition) ((granted given scope).map (·.condition)) := by
  rw [restrictJoin]
  split
  · exact .pure ⟨none, rfl, fun _ mem => absurd mem (Option.not_mem_none _), rfl⟩
  · refine (addPredicates_yields quiet _ _).map fun condition' restricted => ⟨_, rfl, ?_, ?_⟩
    · rintro _ ⟨⟩
      exact restricted.1
    · have made := restricted.2
      obtain ⟨e, some⟩ := Enforcement.Sound.withTerms_some condition
        ((granted given (some ⟨operation, .join, tables, visible⟩)).map (·.condition))
      rw [made, some]
      rfl

/-- A table that no predicate is answered for stays as it is. -/
theorem wrap_yields (operation : Operation) (r : Relation) (t : Table) :
    Yields s (wrap codec source operation r t) fun r' =>
      (∃ ps, given ⟨operation, .join, [t], 1⟩ = .ok ps) ∧
        (granted given (some ⟨operation, .join, [t], 1⟩) = [] → r' = r) := by
  rw [wrap]
  refine (addPredicates_yields quiet _ none).bind fun condition ⟨answered, made⟩ => ?_
  cases condition with
  | none => exact .pure ⟨answered, fun _ => rfl⟩
  | some filter =>
    have wraps (r' : Relation) : granted given (some ⟨operation, .join, [t], 1⟩) = [] → r' = r := by
      intro none
      rw [none] at made
      cases made
    dsimp only
    split
    · exact .fail _
    · split
      · exact .pure ⟨answered, wraps _⟩
      · exact .fail _

end

theorem refuseHidden_yields {s : σ} (e : Expr) : Yields s (refuseHidden (σ := σ) e) fun e' => e' = e := by
  rw [refuseHidden]
  split
  · exact .fail _
  · exact .pure rfl

/-! ## The walk -/

section

variable (codec : Codec) (source : Source σ) (s : σ)
  (quiet : ∀ scope, (source scope).run.run s = (given scope, s))

omit quiet

/-- Relations with the same outline hand on the same tables. -/
theorem relation_same {operation : Operation} {visible : Nat} {wrapped : Bool} {r r' : Relation}
    (blank : (Outline.relation operation visible wrapped r').blank =
      (Outline.relation operation visible wrapped r).blank) (w : Bool) :
    Outer.relation w r' = Outer.relation w r := by
  rw [← Outline.outer_relation operation visible w wrapped r', blank, Outline.outer_relation]

theorem joined_same {operation : Operation} {visible : Nat} {wrapped : Bool} {j j' : Joined}
    (blank : (Outline.joined operation visible wrapped j').blank = (Outline.joined operation visible wrapped j).blank)
    (w : Bool) : Outer.joined w j' = Outer.joined w j ∧ countTables [j'] = countTables [j] := by
  rw [← Outline.outer_joined operation visible w wrapped j', ← Outline.countTables_joined operation visible wrapped j',
    blank, Outline.outer_joined, Outline.countTables_joined]
  exact ⟨rfl, rfl⟩

theorem joinedList_same {operation : Operation} {visible : Nat} {js js' : List Joined}
    (blank : (Outline.joinedList operation visible js').blank = (Outline.joinedList operation visible js).blank) :
    Outer.joinedList js' = Outer.joinedList js ∧ countTables js' = countTables js := by
  rw [← Outline.outer_joinedList operation visible js', ← Outline.countTables_joinedList operation visible js',
    blank, Outline.outer_joinedList, Outline.countTables_joinedList]
  exact ⟨rfl, rfl⟩

-- Where only calls of the block itself use the hypothesis, it counts as unused.
set_option linter.unusedSectionVars false

include quiet

mutual

theorem expr_grows : ∀ e : Expr,
    Yields s (expr codec source e) fun e' => Grows given (Outline.expr e) (Outline.expr e')
  | .name _ | .literal _ | .typed .. | .wildcard _ => .pure (.pure _)
  | .unary _ operand | .test _ _ operand | .nested operand | .cast _ operand _ | .collate operand _
  | .extract _ _ operand => (expr_grows operand).map fun _ h => h.map _
  | .binary _ left right | .quantified _ _ left right | .distinctness _ left right
  | .atTimeZone left right | .matching _ left right =>
    (expr_grows left).bind fun _ h₁ => (expr_grows right).map fun _ h₂ => (h₁.map _).seq h₂
  | .inList _ operand members =>
    (expr_grows operand).bind fun _ h₁ => (exprs_grows members).map fun _ h₂ => (h₁.map _).seq h₂
  | .inQuery _ operand q =>
    (expr_grows operand).bind fun _ h₁ => (query_grows q).map fun _ h₂ => (h₁.map _).seq h₂
  | .between _ operand low high =>
    (expr_grows operand).bind fun _ h₁ => (expr_grows low).bind fun _ h₂ =>
      (expr_grows high).map fun _ h₃ => ((h₁.map _).seq h₂).seq h₃
  | .case operand conditions otherwise =>
    (expr?_grows operand).bind fun _ h₁ => (expr?_grows otherwise).bind fun _ h₂ =>
      (branches_grows conditions).map fun _ h₃ => ((h₁.map _).seq h₃).seq h₂
  | .tuple members => (exprs_grows members).map fun _ h => h.map _
  | .call _ _ args _ filter _ =>
    (arguments_grows args).bind fun _ h₁ => (expr?_grows filter).map fun _ h₂ => (h₁.map _).seq h₂
  | .exists _ q | .subquery q => (query_grows q).map fun _ h => h.map _
  | .access root steps => fun a x a' s' run => by
    obtain ⟨same, rfl⟩ := refuseHidden_yields (.access root steps) a x a' s' run
    exact ⟨same, .pure _⟩
  | .special pieces => fun a x a' s' run => by
    obtain ⟨same, rfl⟩ := refuseHidden_yields (.special pieces) a x a' s' run
    exact ⟨same, .pure _⟩

theorem expr?_grows : ∀ e : Option Expr,
    Yields s (expr? codec source e) fun e' => Grows given (Outline.expr? e) (Outline.expr? e')
  | none => .pure (.pure _)
  | some e => (expr_grows e).map fun _ h => h.map _

theorem exprs_grows : ∀ es : List Expr,
    Yields s (exprs codec source es) fun es' => Grows given (Outline.exprs es) (Outline.exprs es')
  | [] => .pure (.pure _)
  | e :: es => (expr_grows e).bind fun _ h₁ => (exprs_grows es).map fun _ h₂ => (h₁.map _).seq h₂

theorem branches_grows : ∀ bs : List Branch,
    Yields s (branches codec source bs) fun bs' => Grows given (Outline.branches bs) (Outline.branches bs')
  | [] => .pure (.pure _)
  | .mk condition result :: rest =>
    (expr_grows condition).bind fun _ h₁ => (expr_grows result).bind fun _ h₂ =>
      (branches_grows rest).map fun _ h₃ => ((h₁.map _).seq h₂).seq h₃

theorem arguments_grows : ∀ args : Arguments,
    Yields s (arguments codec source args) fun args' =>
      Grows given (Outline.arguments args) (Outline.arguments args')
  | .none => .pure (.pure _)
  | .query q => (query_grows q).map fun _ h => h.map _
  | .list _ list _ => (argumentList_grows list).map fun _ h => h.map _

theorem argumentList_grows : ∀ args : List Argument,
    Yields s (argumentList codec source args) fun args' =>
      Grows given (Outline.argumentList args) (Outline.argumentList args')
  | [] => .pure (.pure _)
  | .mk _ value :: rest =>
    (expr_grows value).bind fun _ h₁ => (argumentList_grows rest).map fun _ h₂ => (h₁.map _).seq h₂

theorem items_grows : ∀ is : List Item,
    Yields s (items codec source is) fun is' => Grows given (Outline.items is) (Outline.items is')
  | [] => .pure (.pure _)
  | .mk e _ _ :: rest =>
    (expr_grows e).bind fun _ h₁ => (items_grows rest).map fun _ h₂ => (h₁.map _).seq h₂

theorem ctes_grows : ∀ cs : List Cte,
    Yields s (ctes codec source cs) fun cs' => Grows given (Outline.ctes cs) (Outline.ctes cs')
  | [] => .pure (.pure _)
  | .mk _ _ _ q _ :: rest =>
    (query_grows q).bind fun _ h₁ => (ctes_grows rest).map fun _ h₂ => (h₁.map _).seq h₂

theorem query_grows : ∀ q : Query,
    Yields s (query codec source q) fun q' => Grows given (Outline.query q) (Outline.query q')
  | .mk _ named b order _ =>
    (ctes_grows named).bind fun _ h₁ => (body_grows b).bind fun _ h₂ =>
      (items_grows order).map fun _ h₃ => ((h₁.map _).seq h₂).seq h₃

theorem body_grows : ∀ b : Body,
    Yields s (body codec source b) fun b' => Grows given (Outline.body b) (Outline.body b')
  | .select q => (select_grows q).map fun _ h => h.map _
  | .query q => (query_grows q).map fun _ h => h.map _
  | .combined _ _ left right =>
    (body_grows left).bind fun _ h₁ => (body_grows right).map fun _ h₂ => (h₁.map _).seq h₂
  | .values _ _ rows => (exprs_grows rows).map fun _ h => h.map _
  | .statement (.update u) => (update_grows u).map fun _ h => h.map _
  | .statement (.delete r) => (delete_grows r).map fun _ h => h.map _
  | .statement (.insert ..) => .pure (.pure _)
  | .statement (.query _) => .pure (.pure _)
  | .statement (.other .export _) => .pure (.pure _)
  | .statement (.other .definition _) | .statement (.other .other _) => .fail _
  | .table _ => .fail _

theorem select_grows : ∀ q : Select,
    Yields s (select codec source q) fun q' => Grows given (Outline.select q) (Outline.select q')
  | ⟨_, _, projection, _, relations, _, prewhere, selection, groupBy, _, _, having, _, _, qualify, _⟩ =>
    (items_grows projection).bind fun _ h₁ => (expr?_grows prewhere).bind fun _ h₂ =>
      (expr?_grows having).bind fun _ h₃ => (expr?_grows qualify).bind fun _ h₄ =>
      (exprs_grows groupBy).bind fun _ h₅ => (expr?_grows selection).bind fun _ h₆ => by
        refine (joinedList_grows .select _ relations).bind ?_
        rintro ⟨relations', _⟩ ⟨rfl, h₇⟩
        refine (addPredicates_yields quiet _ _).map fun selection' ⟨answered, added⟩ plain => ?_
        -- the relations are read as before, so the scope of the condition is the same
        obtain ⟨outer, count⟩ := joinedList_same (h₇ plain.left.right).blank
        change Grown given _ (Outline.seq (Outline.seq _ (Outline.joinedList .select (countTables relations') _))
          (Outline.condition (some ⟨_, _, Outer.joinedList relations', countTables relations'⟩) _ _))
        rw [outer, count]
        exact (((((((h₁.map _).seq h₂).seq h₃).seq h₄).seq h₅).seq h₇).seq
          (.condition (by rintro _ ⟨⟩; exact answered) h₆ added)) plain

theorem update_grows : ∀ u : Update,
    Yields s (update codec source u) fun u' => Grows given (Outline.update u) (Outline.update u')
  | ⟨_, target, assigned, _, relations, selection, _⟩ =>
    (assignments_grows assigned).bind fun _ h₁ => (expr?_grows selection).bind fun _ h₂ =>
      by
        refine (joined_grows .update _ false target).bind ?_
        rintro ⟨target', _⟩ ⟨rfl, h₃⟩
        refine (joinedList_grows .update _ relations).bind ?_
        rintro ⟨relations', _⟩ ⟨rfl, h₄⟩
        refine (addPredicates_yields quiet _ _).map fun selection' ⟨answered, added⟩ plain => ?_
        obtain ⟨outer, count⟩ := joined_same (h₃ plain.left.left.right).blank false
        obtain ⟨outer', count'⟩ := joinedList_same (h₄ plain.left.right).blank
        change Grown given _ (Outline.seq (Outline.seq (Outline.seq _
            (Outline.joined .update (countTables [target'] + countTables relations') false _))
            (Outline.joinedList .update (countTables [target'] + countTables relations') _))
          (Outline.condition (some ⟨_, _, Outer.joined false target' ++ Outer.joinedList relations',
            countTables [target'] + countTables relations'⟩) _ _))
        rw [outer, count, outer', count']
        exact ((((h₁.map _).seq h₃).seq h₄).seq (.condition (by rintro _ ⟨⟩; exact answered) h₂ added)) plain

theorem delete_grows : ∀ r : Delete,
    Yields s (delete codec source r) fun r' => Grows given (Outline.delete r) (Outline.delete r')
  | ⟨_, _, relations, others, selection, _⟩ =>
    (expr?_grows selection).bind fun _ h₁ => by
      refine (joinedList_grows .delete _ relations).bind ?_
      rintro ⟨relations', _⟩ ⟨rfl, h₂⟩
      refine (joinedList_grows .delete _ others).bind ?_
      rintro ⟨others', _⟩ ⟨rfl, h₃⟩
      refine (addPredicates_yields quiet _ _).map fun selection' ⟨answered, added⟩ plain => ?_
      obtain ⟨outer, count⟩ := joinedList_same (h₂ plain.left.left).blank
      obtain ⟨outer', count'⟩ := joinedList_same (h₃ plain.left.right).blank
      change Grown given _ (Outline.seq (Outline.seq
          (Outline.map _ (Outline.joinedList .delete (countTables relations' + countTables others') _))
          (Outline.joinedList .delete (countTables relations' + countTables others') _))
        (Outline.condition (some ⟨_, _, Outer.joinedList relations' ++ Outer.joinedList others',
          countTables relations' + countTables others'⟩) _ _))
      rw [outer, count, outer', count']
      exact (((h₂.map _).seq h₃).seq (.condition (by rintro _ ⟨⟩; exact answered) h₁ added)) plain

theorem assignments_grows : ∀ list : List Assignment,
    Yields s (assignments codec source list) fun list' =>
      Grows given (Outline.assignments list) (Outline.assignments list')
  | [] => .pure (.pure _)
  | .mk _ value :: rest =>
    (expr_grows value).bind fun _ h₁ => (assignments_grows rest).map fun _ h₂ => (h₁.map _).seq h₂

theorem joinedList_grows (operation : Operation) (visible : Nat) : ∀ js : List Joined,
    Yields s (joinedList codec source operation visible js) fun x => x.2 = Outer.joinedList js ∧
      Grows given (Outline.joinedList operation visible js) (Outline.joinedList operation visible x.1)
  | [] => .pure ⟨rfl, .pure _⟩
  | j :: js =>
    (joined_grows operation visible false j).bind fun _ ⟨first, h₁⟩ =>
      (joinedList_grows operation visible js).map fun _ ⟨rest, h₂⟩ =>
        ⟨congrArg₂ (· ++ ·) first rest, (h₁.map _).seq h₂⟩

theorem joined_grows (operation : Operation) (visible : Nat) (wrapped : Bool) : ∀ j : Joined,
    Yields s (joined codec source operation visible wrapped j) fun x => x.2 = Outer.joined wrapped j ∧
      Grows given (Outline.joined operation visible wrapped j) (Outline.joined operation visible wrapped x.1)
  | .mk r js =>
    (relation_grows operation visible _ r).bind fun (r', outer) ⟨first, h₁⟩ => by
      obtain rfl : outer = _ := first
      refine (joins_grows operation visible _ _ js).map fun (js', _) ⟨rest, h₂⟩ => ⟨rest, fun plain => ?_⟩
      -- the joins need wrapping as before, and the same tables are handed on to them
      have wraps : js'.any Join.needsWrapping = js.any Join.needsWrapping := by
        rw [← Outline.needsWrapping_joins operation visible _ _ js',
          (h₂ plain.right).blank, Outline.needsWrapping_joins]
      have outer (w : Bool) : Outer.relation w r' = Outer.relation w r :=
        relation_same (h₁ plain.left).blank w
      change Grown given _ (Outline.joined operation visible wrapped (.mk r' js'))
      rw [Outline.joined, Outline.joined, wraps, outer]
      exact ((h₁.map _).seq h₂) plain

theorem joins_grows (operation : Operation) (visible : Nat) (wrapped : Bool) (outer : List Table) :
    ∀ js : List Join, Yields s (joins codec source operation visible wrapped outer js) fun x =>
      x.2 = Outer.joins wrapped outer js ∧
        Grows given (Outline.joins operation visible wrapped outer js)
          (Outline.joins operation visible wrapped outer x.1)
  | [] => .pure ⟨rfl, .pure _⟩
  | .mk _ kind r _ constraint :: rest =>
    (relation_grows operation visible wrapped r).bind fun (r', tables) ⟨own, h₁⟩ => by
      obtain rfl : tables = _ := own
      refine (joinConstraint_grows operation visible kind outer _ constraint).bind fun (c', outer') ⟨own, h₂⟩ => ?_
      obtain rfl : outer' = _ := own
      refine (joins_grows operation visible wrapped _ rest).map fun (rest', _) ⟨more, h₃⟩ =>
        ⟨more, fun plain => ?_⟩
      have tables (w : Bool) : Outer.relation w r' = Outer.relation w r :=
        relation_same (h₁ plain.left.left).blank w
      have handed : Outer.joinConstraint kind outer (Outer.relation wrapped r) c' =
          Outer.joinConstraint kind outer (Outer.relation wrapped r) constraint := by
        rw [← Outline.outer_joinConstraint operation visible kind kind _ _ outer (Outer.relation wrapped r) c',
          (h₂ plain.left.right).blank, Outline.outer_joinConstraint]
      change Grown given _ (Outline.joins operation visible wrapped outer (.mk _ kind r' _ c' :: rest'))
      rw [Outline.joins, Outline.joins, tables, handed]
      exact (((h₁.map _).seq h₂).seq h₃) plain

theorem joinConstraint_grows (operation : Operation) (visible : Nat) (kind : JoinKind)
    (outer tables : List Table) : ∀ c : JoinConstraint,
    Yields s (joinConstraint codec source operation visible kind outer tables c) fun x =>
      x.2 = Outer.joinConstraint kind outer tables c ∧
        Grows given (Outline.joinConstraint operation visible kind outer tables c)
          (Outline.joinConstraint operation visible kind outer tables x.1)
  | .on condition => by
    refine (expr_grows condition).bind fun walked h => ?_
    have within : Grows given (Outline.expr? (some condition)) (Outline.expr? (some walked)) := h.map some
    split
    -- whichever side may be null, its tables are asked about
    case h_1 side | h_2 side =>
      refine (restrictJoin_yields quiet operation visible _ walked).map fun condition' => ?_
      rintro ⟨scope, own, answered, added⟩
      refine ⟨by rw [Outer.joinConstraint, side], ?_⟩
      have asked : Outline.joinScope operation visible kind outer tables = scope := by
        rw [Outline.joinScope, side, own]
      rw [Outline.joinConstraint, Outline.joinConstraint, asked]
      exact (Grows.condition answered within added).map _
    case h_3 side =>
      refine .pure ⟨by rw [Outer.joinConstraint, side], ?_⟩
      have asked : Outline.joinScope operation visible kind outer tables = none := by
        rw [Outline.joinScope, side]
        rfl
      rw [Outline.joinConstraint, Outline.joinConstraint, asked]
      exact (Grows.condition (by rintro _ ⟨⟩) within rfl).map _
  | .columns _ | .natural | .none => .pure ⟨rfl, .pure _⟩

theorem relation_grows (operation : Operation) (visible : Nat) (wrapped : Bool) : ∀ r : Relation,
    Yields s (relation codec source operation visible wrapped r) fun x => x.2 = Outer.relation wrapped r ∧
      Grows given (Outline.relation operation visible wrapped r) (Outline.relation operation visible wrapped x.1)
  | .table name partitions args ordinality aliased after => by
    cases wrapped with
    | false => exact .pure ⟨rfl, .unanswered nofun nofun⟩
    | true =>
      refine (wrap_yields quiet _ _ _).map fun r' ⟨answered, whole⟩ => ⟨rfl, fun plain => ?_⟩
      have none := plain.unwrapped _ (.head _) rfl
      obtain rfl := whole none
      refine Grows.unanswered (fun p mem => ?_) (fun p mem => ?_) plain
      · rw [List.mem_singleton.mp mem]
        rintro _ ⟨⟩
        exact answered
      · rw [List.mem_singleton.mp mem]
        exact none
  | .derived _ q _ => (query_grows q).map fun _ h => ⟨rfl, h.map _⟩
  | .nested j _ => (joined_grows operation visible wrapped j).map fun _ ⟨tables, h⟩ => ⟨tables, h.map _⟩
  | .reshaped r _ _ => (relation_grows operation visible true r).map fun _ ⟨tables, h⟩ => ⟨tables, h.map _⟩
  | .function call _ => (expr_grows call).map fun _ h => ⟨rfl, h.map _⟩
  | .special .. => .pure ⟨rfl, .pure _⟩

end

theorem statement_grows (stacked : Bool) (q : Statement) :
    Yields s (statement codec source stacked q) fun q' =>
      Grows given (Outline.statement q) (Outline.statement q') := by
  cases q with
  | query q => exact (query_grows codec source s quiet q).map fun _ h => h.map _
  | update u => exact (update_grows codec source s quiet u).map fun _ h => h.map _
  | delete r => exact (delete_grows codec source s quiet r).map fun _ h => h.map _
  | insert _ _ | other _ _ =>
    simp only [statement]
    split
    · exact .fail _
    · exact .pure (.pure _)

/-- Rewriting restricts the conditions of statements by what is answered for them, and nothing else. -/
theorem statements_grow (stacked : Bool) : ∀ list : List Statement,
    Yields s (statements codec source stacked list) fun list' =>
      list'.length = list.length ∧ Grows given (Outline.statements list) (Outline.statements list')
  | [] => .pure ⟨rfl, .pure _⟩
  | q :: rest =>
    (statement_grows codec source s quiet stacked q).bind fun _ h₁ =>
      (statements_grow stacked rest).map fun _ ⟨length, h₂⟩ => ⟨congrArg (· + 1) length, (h₁.map _).seq h₂⟩

end

end Rewrite

end RowAccess
