import RowAccess.Proofs.Coverage
import RowAccess.Proofs.OuterJoins
import RowAccess.Proofs.Places
/-!
# The scopes of the `FROM` lists of a statement

Rewriting walks over a statement with its queries nested in one another, and each query, update and delete has a
`FROM` list of its own, for which the source is asked about some scopes. The scopes of one list stand in an order
of their own, but those of a subquery in the condition of a join come in between. So what a whole run asks about
is woven of one strand for each list (`Woven`): in the order of the strands, with others in between.

The walk is taken apart by `Asks`: a step asks about scopes of the list that it is in, which go on where an earlier
step has stopped, and about those of whole lists inside of it. A step that fails has asked about the first of them.
-/

namespace RowAccess

open Sql

/-! ## Weaving -/

/-- The last list is put together from the members of the two, which keep their order. -/
inductive Shuffle {α : Type} : List α → List α → List α → Prop
  | nil : Shuffle [] [] []
  | left {x : α} {xs ys zs : List α} : Shuffle xs ys zs → Shuffle (x :: xs) ys (x :: zs)
  | right {y : α} {xs ys zs : List α} : Shuffle xs ys zs → Shuffle xs (y :: ys) (y :: zs)

namespace Shuffle

variable {α : Type} {xs ys zs xs' ys' zs' : List α}

theorem nil_left : ∀ ys : List α, Shuffle [] ys ys
  | [] => .nil
  | _ :: ys => .right (nil_left ys)

theorem nil_right : ∀ xs : List α, Shuffle xs [] xs
  | [] => .nil
  | _ :: xs => .left (nil_right xs)

theorem eq_of_nil_left : ∀ {ys zs : List α}, Shuffle [] ys zs → ys = zs
  | _, _, .nil => rfl
  | _, _, .right rest => congrArg _ (eq_of_nil_left rest)

theorem append (first : Shuffle xs ys zs) (second : Shuffle xs' ys' zs') :
    Shuffle (xs ++ xs') (ys ++ ys') (zs ++ zs') := by
  induction first with
  | nil => exact second
  | left _ ih => exact .left ih
  | right _ ih => exact .right ih

end Shuffle

/-- The list is put together from the members of the strands, each of which keeps its order. -/
def Woven {α : Type} : List (List α) → List α → Prop
  | [], whole => whole = []
  | strand :: others, whole => ∃ rest, Shuffle strand rest whole ∧ Woven others rest

namespace Woven

variable {α : Type} {strands strands' : List (List α)} {whole whole' : List α}

theorem append (first : Woven strands whole) (second : Woven strands' whole') :
    Woven (strands ++ strands') (whole ++ whole') := by
  induction strands generalizing whole with
  | nil =>
    cases first
    exact second
  | cons strand others ih =>
    obtain ⟨rest, shuffled, woven⟩ := first
    have longer := shuffled.append (.nil_left whole')
    rw [List.append_nil] at longer
    exact ⟨rest ++ whole', longer, ih woven⟩

/-- Strands can be woven one after the other. -/
theorem flatten : ∀ strands : List (List α), Woven strands strands.flatten
  | [] => rfl
  | strand :: others =>
    ⟨others.flatten, by simpa using (Shuffle.nil_right strand).append (.nil_left others.flatten),
      flatten others⟩

end Woven

/-! ## The lists -/

/-- The relations that a query or statement reads, or changes. -/
structure FromList where
  operation : Operation
  relations : List Joined

namespace FromList

section

variable (operation : Operation) (visible : Nat)

mutual

/-- The scopes for a relation with its joins. -/
def joined (wrapped : Bool) : Joined → List Scope
  | .mk r js =>
    let wrapped := wrapped || js.any Rewrite.Join.needsWrapping
    relation wrapped r ++ joins wrapped (Outer.relation wrapped r) js

/-- The scopes for joined relations after the tables `outer`. -/
def joins (wrapped : Bool) (outer : List Table) : List Join → List Scope
  | [] => []
  | .mk _ kind r _ constraint :: rest =>
    relation wrapped r ++ (joinConstraint kind outer (Outer.relation wrapped r) constraint ++
      joins wrapped (Outer.joinConstraint kind outer (Outer.relation wrapped r) constraint) rest)

/-- The scope for a join between the tables `outer` and `tables`, if there is one. -/
def joinConstraint (kind : JoinKind) (outer tables : List Table) : JoinConstraint → List Scope
  | .on _ => (Outline.joinScope operation visible kind outer tables).toList
  | _ => []

/-- The scopes for a relation. -/
def relation (wrapped : Bool) : Relation → List Scope
  | .table name _ _ _ aliased _ =>
    if wrapped then [⟨operation, .join, [⟨Name.render name, aliased.map (·.name.render)⟩], 1⟩] else []
  | .nested j _ => joined wrapped j
  | .reshaped r _ _ => relation true r
  | .derived .. | .function .. | .special .. => []

end

/-- The scopes for the relations of a list, without the `WHERE`. -/
def joinedList : List Joined → List Scope
  | [] => []
  | j :: js => joined operation visible false j ++ joinedList js

theorem joinedList_append (js ks : List Joined) :
    joinedList operation visible (js ++ ks) =
      joinedList operation visible js ++ joinedList operation visible ks := by
  induction js with
  | nil => rfl
  | cons j js ih => rw [List.cons_append, joinedList, ih, joinedList, List.append_assoc]

end

/-- How many tables a list names. -/
def visible (l : FromList) : Nat := Rewrite.countTables l.relations

/-- The scopes that the source is asked about for a list, the one of the `WHERE` last. -/
def strand (l : FromList) : List Scope :=
  joinedList l.operation l.visible l.relations ++
    [⟨l.operation, .filter, Outer.joinedList l.relations, l.visible⟩]

end FromList

/-! The lists that rewriting reaches, in the order in which it does. -/

namespace FromLists

mutual

/-- The lists in an expression. -/
def expr : Expr → List FromList
  | .name _ | .literal _ | .typed .. | .wildcard _ | .access .. | .special _ => []
  | .unary _ operand | .test _ _ operand | .nested operand | .cast _ operand _ | .collate operand _
  | .extract _ _ operand => expr operand
  | .binary _ left right | .quantified _ _ left right | .distinctness _ left right
  | .atTimeZone left right | .matching _ left right => expr left ++ expr right
  | .inList _ operand members => expr operand ++ exprs members
  | .inQuery _ operand q => expr operand ++ query q
  | .between _ operand low high => expr operand ++ (expr low ++ expr high)
  | .case operand conditions otherwise => expr? operand ++ (expr? otherwise ++ branches conditions)
  | .tuple members => exprs members
  | .call _ _ args _ filter _ => arguments args ++ expr? filter
  | .exists _ q | .subquery q => query q

/-- The lists in an expression that may be absent. -/
def expr? : Option Expr → List FromList
  | none => []
  | some e => expr e

/-- The lists in expressions. -/
def exprs : List Expr → List FromList
  | [] => []
  | e :: es => expr e ++ exprs es

/-- The lists in the branches of a `CASE`. -/
def branches : List Branch → List FromList
  | [] => []
  | .mk condition result :: rest => expr condition ++ (expr result ++ branches rest)

/-- The lists in the arguments of a call. -/
def arguments : Arguments → List FromList
  | .none => []
  | .query q => query q
  | .list _ list _ => argumentList list

/-- The lists in arguments. -/
def argumentList : List Argument → List FromList
  | [] => []
  | .mk _ value :: rest => expr value ++ argumentList rest

/-- The lists in columns, or in expressions to order by. -/
def items : List Item → List FromList
  | [] => []
  | .mk e _ _ :: rest => expr e ++ items rest

/-- The lists in named queries. -/
def ctes : List Cte → List FromList
  | [] => []
  | .mk _ _ _ q _ :: rest => query q ++ ctes rest

/-- The lists in a query. -/
def query : Query → List FromList
  | .mk _ named b order _ => ctes named ++ (body b ++ items order)

/-- The lists in the body of a query. -/
def body : Body → List FromList
  | .select s => select s
  | .query q => query q
  | .combined _ _ left right => body left ++ body right
  | .values _ _ rows => exprs rows
  | .statement s =>
    match s with
    | .update u => update u
    | .delete r => delete r
    | .insert .. | .query _ | .other .. => []
  | .table _ => []

/-- The lists in a `SELECT`. -/
def select : Select → List FromList
  | ⟨_, _, projection, _, relations, _, prewhere, selection, groupBy, _, _, having, _, _, qualify, _⟩ =>
    items projection ++ (expr? prewhere ++ (expr? having ++ (expr? qualify ++ (exprs groupBy ++
      (expr? selection ++ (⟨.select, relations⟩ :: joinedList relations))))))

/-- The lists in an `UPDATE`. -/
def update : Update → List FromList
  | ⟨_, target, assigned, _, relations, selection, _⟩ =>
    assignments assigned ++ (expr? selection ++
      (⟨.update, target :: relations⟩ :: (joined target ++ joinedList relations)))

/-- The lists in a `DELETE`. -/
def delete : Delete → List FromList
  | ⟨_, _, relations, others, selection, _⟩ =>
    expr? selection ++ (⟨.delete, relations ++ others⟩ :: (joinedList relations ++ joinedList others))

/-- The lists in the assignments of an `UPDATE`. -/
def assignments : List Assignment → List FromList
  | [] => []
  | .mk _ value :: rest => expr value ++ assignments rest

/-- The lists in the relations of a list. -/
def joinedList : List Joined → List FromList
  | [] => []
  | j :: js => joined j ++ joinedList js

/-- The lists in a relation with its joins. -/
def joined : Joined → List FromList
  | .mk r js => relation r ++ joins js

/-- The lists in joined relations. -/
def joins : List Join → List FromList
  | [] => []
  | .mk _ _ r _ constraint :: rest => relation r ++ (joinConstraint constraint ++ joins rest)

/-- The lists in the constraint of a join. -/
def joinConstraint : JoinConstraint → List FromList
  | .on condition => expr condition
  | .columns _ | .natural | .none => []

/-- The lists in a relation. -/
def relation : Relation → List FromList
  | .table .. | .special .. => []
  | .derived _ q _ => query q
  | .nested j _ => joined j
  | .reshaped r _ _ => relation r
  | .function call _ => expr call

end

/-- The lists in a statement. -/
def statement : Statement → List FromList
  | .query q => query q
  | .update u => update u
  | .delete r => delete r
  | .insert .. | .other .. => []

/-- The lists in statements. -/
def statements (list : List Statement) : List FromList := list.flatMap statement

end FromLists

namespace Rewrite

variable {σ α β : Type}

/-! ## What a step asks -/

/-- The scopes of a list that a step is in, and of whole lists inside of it, in an order in which a step may ask
about them. -/
def Orders (own : List Scope) (lists : List FromList) (whole : List Scope) : Prop :=
  ∃ others, Shuffle own others whole ∧ Woven (lists.map FromList.strand) others

/-- The step `m'` does what `m` does and writes down its scopes. They are the first ones of those in the list that
it is in, `own`, and in whole `lists` inside of it; if the step answers, they are all of them and the answer
satisfies `Q`. -/
def Asks (m : Rewriting σ α) (m' : Rewriting (σ × List Scope) α) (Q : α → Prop) (own : List Scope)
    (lists : List FromList) : Prop :=
  ∀ a s log, ∃ asked rest, outcome m' a (s, log) = ((outcome m a s).1, ((outcome m a s).2, log ++ asked)) ∧
    Orders own lists (asked ++ rest) ∧
    ∀ x a', (outcome m a s).1 = .ok (x, a') → rest = [] ∧ Q x

/-- A step that asks about whole lists only. -/
abbrev AsksWithin (m : Rewriting σ α) (m' : Rewriting (σ × List Scope) α) (lists : List FromList) : Prop :=
  Asks m m' (fun _ => True) [] lists

section

variable {own own' : List Scope} {lists lists' : List FromList} {whole whole' : List Scope}

theorem Orders.append (first : Orders own lists whole) (second : Orders own' lists' whole') :
    Orders (own ++ own') (lists ++ lists') (whole ++ whole') := by
  obtain ⟨others, shuffled, woven⟩ := first
  obtain ⟨others', shuffled', woven'⟩ := second
  exact ⟨others ++ others', shuffled.append shuffled', by simpa using woven.append woven'⟩

theorem exists_orders (own : List Scope) (lists : List FromList) : ∃ whole, Orders own lists whole :=
  ⟨own ++ (lists.map FromList.strand).flatten, _,
    by simpa using (Shuffle.nil_right own).append (.nil_left _), .flatten _⟩

end

namespace Asks

variable {m : Rewriting σ α} {m' : Rewriting (σ × List Scope) α} {f : α → Rewriting σ β}
  {f' : α → Rewriting (σ × List Scope) β} {Q : α → Prop} {Q' : β → Prop} {own own' : List Scope}
  {lists lists' : List FromList}

theorem pure {x : α} (h : Q x) : Asks (σ := σ) (Pure.pure x) (Pure.pure x) Q [] [] :=
  fun _ _ _ => ⟨[], [], by rw [List.append_nil]; rfl, ⟨[], .nil, rfl⟩, by rintro _ _ ⟨⟩; exact ⟨rfl, h⟩⟩

theorem fail (e : Error) : Asks (σ := σ) (Rewrite.fail e) (Rewrite.fail e) Q own lists := by
  intro a s log
  obtain ⟨whole, orders⟩ := exists_orders own lists
  exact ⟨[], whole, by rw [List.append_nil]; rfl, orders, by rintro _ _ ⟨⟩⟩

/-- The second step goes on where the first one has stopped. -/
theorem bind (first : Asks m m' Q own lists) (next : ∀ x, Q x → Asks (f x) (f' x) Q' own' lists') :
    Asks (m >>= f) (m' >>= f') Q' (own ++ own') (lists ++ lists') := by
  intro a s log
  obtain ⟨asked, rest, same, orders, answered⟩ := first a s log
  rw [outcome_bind, outcome_bind, same]
  rcases h : outcome m a s with ⟨e | ⟨x, a'⟩, s'⟩
  · -- The second step is not taken, so all that it might ask about is left.
    obtain ⟨whole, orders'⟩ := exists_orders own' lists'
    exact ⟨asked, rest ++ whole, rfl, by simpa using orders.append orders', by rintro _ _ ⟨⟩⟩
  · obtain ⟨rfl, holds⟩ := answered x a' (by rw [h])
    obtain ⟨asked', rest', same', orders', answered'⟩ := next x holds a' s' (log ++ asked)
    exact ⟨asked ++ asked', rest', by rw [← List.append_assoc]; exact same', by simpa using orders.append orders',
      answered'⟩

/-- A step that asks about whole lists only, before others. -/
theorem step (first : AsksWithin m m' lists) (next : ∀ x, Asks (f x) (f' x) Q' own' lists') :
    Asks (m >>= f) (m' >>= f') Q' own' (lists ++ lists') :=
  first.bind fun x _ => next x

/-- What is done with an answer asks nothing. -/
theorem map {g : α → β} (h : Asks m m' Q own lists) (holds : ∀ x, Q x → Q' (g x)) :
    Asks (m >>= fun x => Pure.pure (g x)) (m' >>= fun x => Pure.pure (g x)) Q' own lists := by
  have asks : Asks _ _ Q' (own ++ []) (lists ++ []) := h.bind fun x hx => pure (holds x hx)
  rwa [List.append_nil, List.append_nil] at asks

theorem lift (h : AsksWithin m m' lists) (g : α → β) :
    AsksWithin (m >>= fun x => Pure.pure (g x)) (m' >>= fun x => Pure.pure (g x)) lists :=
  h.map fun _ _ => trivial

/-- At the end of a list, all of its scopes have been asked about. -/
theorem close {l : FromList} (h : Asks m m' Q l.strand lists) : Asks m m' Q [] (l :: lists) := by
  intro a s log
  obtain ⟨asked, rest, same, ⟨others, shuffled, woven⟩, answered⟩ := h a s log
  exact ⟨asked, rest, same, ⟨asked ++ rest, .nil_left _, others, shuffled, woven⟩, answered⟩

theorem addPredicates (source : Source σ) (scope : Scope) (condition : Option Expr) :
    Asks (Rewrite.addPredicates source scope condition)
      (Rewrite.addPredicates (recording source) scope condition) (fun _ => True) [scope] [] := by
  intro a s log
  have recorded : (recording source scope).run.run (s, log) =
      (((source scope).run.run s).1, (((source scope).run.run s).2, log ++ [scope])) := rfl
  refine ⟨[scope], [], ?_, ⟨[], .nil_right _, rfl⟩, fun _ _ _ => ⟨rfl, trivial⟩⟩
  simp only [Rewrite.addPredicates, outcome_bind, outcome_ask, recorded]
  rcases (source scope).run.run s with ⟨_ | answer, s'⟩ <;> rfl

theorem restrictJoin (source : Source σ) (operation : Operation) (visible : Nat) (tables : List Table)
    (condition : Expr) :
    Asks (Rewrite.restrictJoin source operation visible tables condition)
      (Rewrite.restrictJoin (recording source) operation visible tables condition) (fun _ => True)
      (if tables.isEmpty then none else some ⟨operation, .join, tables, visible⟩ : Option Scope).toList [] := by
  cases tables with
  | nil => exact pure trivial
  | cons first rest => exact (addPredicates source _ (some condition)).map fun _ _ => trivial

theorem wrap (codec : Codec) (source : Source σ) (operation : Operation) (r : Relation) (t : Table) :
    Asks (Rewrite.wrap codec source operation r t) (Rewrite.wrap codec (recording source) operation r t)
      (fun _ => True) [⟨operation, .join, [t], 1⟩] [] := by
  rw [Rewrite.wrap, Rewrite.wrap]
  change Asks _ _ _ ([⟨operation, .join, [t], 1⟩] ++ []) ([] ++ [])
  refine (addPredicates source _ none).bind fun filter _ => ?_
  cases filter with
  | none => exact pure trivial
  | some filter =>
    dsimp only
    split
    · exact fail _
    · split
      · exact pure trivial
      · exact fail _

/-- An expression that is not looked into is refused or left as it is. -/
theorem refuseHidden (e : Expr) : AsksWithin (σ := σ) (Rewrite.refuseHidden e) (Rewrite.refuseHidden e) [] := by
  rw [Rewrite.refuseHidden, Rewrite.refuseHidden]
  split
  · exact fail _
  · exact pure trivial

end Asks

/-! ## What the walk asks -/

section

variable (codec : Codec) (source : Source σ)

mutual

theorem expr_asks : ∀ e : Expr,
    AsksWithin (expr codec source e) (expr codec (recording source) e) (FromLists.expr e)
  | .name _ | .literal _ | .typed .. | .wildcard _ => .pure trivial
  | .unary _ operand | .test _ _ operand | .nested operand | .cast _ operand _ | .collate operand _
  | .extract _ _ operand => (expr_asks operand).lift _
  | .binary _ left right | .quantified _ _ left right | .distinctness _ left right
  | .atTimeZone left right | .matching _ left right => (expr_asks left).step fun _ => (expr_asks right).lift _
  | .inList _ operand members => (expr_asks operand).step fun _ => (exprs_asks members).lift _
  | .inQuery _ operand q => (expr_asks operand).step fun _ => (query_asks q).lift _
  | .between _ operand low high =>
    (expr_asks operand).step fun _ => (expr_asks low).step fun _ => (expr_asks high).lift _
  | .case operand conditions otherwise =>
    (expr?_asks operand).step fun _ => (expr?_asks otherwise).step fun _ => (branches_asks conditions).lift _
  | .tuple members => (exprs_asks members).lift _
  | .call _ _ args _ filter _ => (arguments_asks args).step fun _ => (expr?_asks filter).lift _
  | .exists _ q | .subquery q => (query_asks q).lift _
  | .access root steps => .refuseHidden (.access root steps)
  | .special pieces => .refuseHidden (.special pieces)

theorem expr?_asks : ∀ e : Option Expr,
    AsksWithin (expr? codec source e) (expr? codec (recording source) e) (FromLists.expr? e)
  | none => .pure trivial
  | some e => (expr_asks e).lift _

theorem exprs_asks : ∀ es : List Expr,
    AsksWithin (exprs codec source es) (exprs codec (recording source) es) (FromLists.exprs es)
  | [] => .pure trivial
  | e :: es => (expr_asks e).step fun _ => (exprs_asks es).lift _

theorem branches_asks : ∀ bs : List Branch,
    AsksWithin (branches codec source bs) (branches codec (recording source) bs) (FromLists.branches bs)
  | [] => .pure trivial
  | .mk condition result :: rest =>
    (expr_asks condition).step fun _ => (expr_asks result).step fun _ => (branches_asks rest).lift _

theorem arguments_asks : ∀ args : Arguments,
    AsksWithin (arguments codec source args) (arguments codec (recording source) args) (FromLists.arguments args)
  | .none => .pure trivial
  | .query q => (query_asks q).lift _
  | .list _ list _ => (argumentList_asks list).lift _

theorem argumentList_asks : ∀ args : List Argument,
    AsksWithin (argumentList codec source args) (argumentList codec (recording source) args)
      (FromLists.argumentList args)
  | [] => .pure trivial
  | .mk _ value :: rest => (expr_asks value).step fun _ => (argumentList_asks rest).lift _

theorem items_asks : ∀ is : List Item,
    AsksWithin (items codec source is) (items codec (recording source) is) (FromLists.items is)
  | [] => .pure trivial
  | .mk e _ _ :: rest => (expr_asks e).step fun _ => (items_asks rest).lift _

theorem ctes_asks : ∀ cs : List Cte,
    AsksWithin (ctes codec source cs) (ctes codec (recording source) cs) (FromLists.ctes cs)
  | [] => .pure trivial
  | .mk _ _ _ q _ :: rest => (query_asks q).step fun _ => (ctes_asks rest).lift _

theorem query_asks : ∀ q : Query,
    AsksWithin (query codec source q) (query codec (recording source) q) (FromLists.query q)
  | .mk _ named b order _ =>
    (ctes_asks named).step fun _ => (body_asks b).step fun _ => (items_asks order).lift _

theorem body_asks : ∀ b : Body,
    AsksWithin (body codec source b) (body codec (recording source) b) (FromLists.body b)
  | .select s => (select_asks s).lift _
  | .query q => (query_asks q).lift _
  | .combined _ _ left right => (body_asks left).step fun _ => (body_asks right).lift _
  | .values _ _ rows => (exprs_asks rows).lift _
  | .statement (.update u) => (update_asks u).lift _
  | .statement (.delete r) => (delete_asks r).lift _
  | .statement (.insert ..) | .statement (.query _) | .statement (.other .export _) => .pure trivial
  | .statement (.other .definition _) | .statement (.other .other _) | .table _ => .fail _

theorem select_asks : ∀ s : Select,
    AsksWithin (select codec source s) (select codec (recording source) s) (FromLists.select s)
  | ⟨_, _, projection, _, relations, _, prewhere, selection, groupBy, _, _, having, _, _, qualify, _⟩ => by
    refine (items_asks projection).step fun _ => (expr?_asks prewhere).step fun _ =>
      (expr?_asks having).step fun _ => (expr?_asks qualify).step fun _ => (exprs_asks groupBy).step fun _ =>
      (expr?_asks selection).step fun _ => .close ?_
    rw [← List.append_nil (FromLists.joinedList relations)]
    refine (joinedList_asks .select _ relations).bind fun ⟨_, _⟩ tables => ?_
    obtain rfl := tables
    exact (Asks.addPredicates source _ _).map fun _ _ => trivial

theorem update_asks : ∀ u : Update,
    AsksWithin (update codec source u) (update codec (recording source) u) (FromLists.update u)
  | ⟨_, target, assigned, _, relations, selection, _⟩ => by
    refine (assignments_asks assigned).step fun _ => (expr?_asks selection).step fun _ => .close ?_
    have visible : FromList.visible ⟨.update, target :: relations⟩ =
        countTables [target] + countTables relations := countTables_append [target] relations
    rw [FromList.strand, visible, FromList.joinedList, List.append_assoc,
      ← List.append_nil (FromLists.joinedList relations)]
    refine (joined_asks .update _ false target).bind fun ⟨_, first⟩ tables => ?_
    refine (joinedList_asks .update _ relations).bind fun ⟨_, rest⟩ more => ?_
    obtain rfl : first = Outer.joined false target := tables
    obtain rfl : rest = Outer.joinedList relations := more
    exact (Asks.addPredicates source _ _).map fun _ _ => trivial

theorem delete_asks : ∀ r : Delete,
    AsksWithin (delete codec source r) (delete codec (recording source) r) (FromLists.delete r)
  | ⟨_, _, relations, others, selection, _⟩ => by
    refine (expr?_asks selection).step fun _ => .close ?_
    have visible : FromList.visible ⟨.delete, relations ++ others⟩ =
        countTables relations + countTables others := countTables_append relations others
    rw [FromList.strand, visible, FromList.joinedList_append, Outer.joinedList, List.flatMap_append,
      List.append_assoc, ← List.append_nil (FromLists.joinedList others)]
    refine (joinedList_asks .delete _ relations).bind fun ⟨_, first⟩ tables => ?_
    refine (joinedList_asks .delete _ others).bind fun ⟨_, rest⟩ more => ?_
    obtain rfl : first = Outer.joinedList relations := tables
    obtain rfl : rest = Outer.joinedList others := more
    exact (Asks.addPredicates source _ _).map fun _ _ => trivial

theorem assignments_asks : ∀ list : List Assignment,
    AsksWithin (assignments codec source list) (assignments codec (recording source) list)
      (FromLists.assignments list)
  | [] => .pure trivial
  | .mk _ value :: rest => (expr_asks value).step fun _ => (assignments_asks rest).lift _

theorem joinedList_asks (operation : Operation) (visible : Nat) : ∀ js : List Joined,
    Asks (joinedList codec source operation visible js) (joinedList codec (recording source) operation visible js)
      (fun x => x.2 = Outer.joinedList js) (FromList.joinedList operation visible js) (FromLists.joinedList js)
  | [] => .pure rfl
  | j :: js => by
    refine (joined_asks operation visible false j).bind fun ⟨_, _⟩ first => ?_
    refine (joinedList_asks operation visible js).map fun ⟨_, _⟩ rest => ?_
    exact congrArg₂ _ first rest

theorem joined_asks (operation : Operation) (visible : Nat) (wrapped : Bool) : ∀ j : Joined,
    Asks (joined codec source operation visible wrapped j)
      (joined codec (recording source) operation visible wrapped j) (fun x => x.2 = Outer.joined wrapped j)
      (FromList.joined operation visible wrapped j) (FromLists.joined j)
  | .mk r js => by
    refine (relation_asks operation visible _ r).bind fun ⟨_, _⟩ outer => ?_
    obtain rfl := outer
    exact (joins_asks operation visible _ _ js).map fun ⟨_, _⟩ tables => tables

theorem joins_asks (operation : Operation) (visible : Nat) (wrapped : Bool) (outer : List Table) :
    ∀ js : List Join,
    Asks (joins codec source operation visible wrapped outer js)
      (joins codec (recording source) operation visible wrapped outer js)
      (fun x => x.2 = Outer.joins wrapped outer js) (FromList.joins operation visible wrapped outer js)
      (FromLists.joins js)
  | [] => .pure rfl
  | .mk _ kind r _ constraint :: rest => by
    refine (relation_asks operation visible wrapped r).bind fun ⟨_, _⟩ tables => ?_
    obtain rfl := tables
    refine (joinConstraint_asks operation visible kind outer _ constraint).bind fun ⟨_, _⟩ handedOn => ?_
    obtain rfl := handedOn
    exact (joins_asks operation visible wrapped _ rest).map fun ⟨_, _⟩ tables => tables

theorem joinConstraint_asks (operation : Operation) (visible : Nat) (kind : JoinKind)
    (outer tables : List Table) : ∀ c : JoinConstraint,
    Asks (joinConstraint codec source operation visible kind outer tables c)
      (joinConstraint codec (recording source) operation visible kind outer tables c)
      (fun x => x.2 = Outer.joinConstraint kind outer tables c)
      (FromList.joinConstraint operation visible kind outer tables c) (FromLists.joinConstraint c)
  | .on condition => by
    rw [FromLists.joinConstraint, ← List.append_nil (FromLists.expr condition)]
    refine (expr_asks condition).step fun e => ?_
    simp only [FromList.joinConstraint, Outline.joinScope, Outer.joinConstraint]
    cases nullableSide? kind with
    | none => exact .pure rfl
    | some side =>
      cases side with
      | joined => exact (Asks.restrictJoin source operation visible tables e).map fun _ _ => rfl
      | preceding => exact (Asks.restrictJoin source operation visible outer e).map fun _ _ => rfl
  | .columns _ | .natural | .none => .pure rfl

theorem relation_asks (operation : Operation) (visible : Nat) (wrapped : Bool) : ∀ r : Relation,
    Asks (relation codec source operation visible wrapped r)
      (relation codec (recording source) operation visible wrapped r)
      (fun x => x.2 = Outer.relation wrapped r) (FromList.relation operation visible wrapped r)
      (FromLists.relation r)
  | .table .. => by
    cases wrapped with
    | true => exact (Asks.wrap codec _ _ _ _).map fun _ _ => rfl
    | false => exact .pure rfl
  | .derived _ q _ => (query_asks q).map fun _ _ => rfl
  | .nested j _ => (joined_asks operation visible wrapped j).map fun ⟨_, _⟩ tables => tables
  | .reshaped r _ _ => (relation_asks operation visible true r).map fun ⟨_, _⟩ tables => tables
  | .function call _ => (expr_asks call).map fun _ _ => rfl
  | .special .. => .pure rfl

end

theorem statement_asks (stacked : Bool) (s : Statement) :
    AsksWithin (statement codec source stacked s) (statement codec (recording source) stacked s)
      (FromLists.statement s) := by
  cases s with
  | query q => exact (query_asks codec source q).lift _
  | update u => exact (update_asks codec source u).lift _
  | delete r => exact (delete_asks codec source r).lift _
  | _ =>
    cases stacked with
    | true => exact .fail _
    | false => exact .pure trivial

theorem statements_asks (stacked : Bool) : ∀ list : List Statement,
    AsksWithin (statements codec source stacked list) (statements codec (recording source) stacked list)
      (FromLists.statements list)
  | [] => .pure trivial
  | s :: rest => (statement_asks codec source stacked s).step fun _ => (statements_asks stacked rest).lift _

end

end Rewrite

/-- The scopes that the source is asked about while a text is rewritten are woven of one strand for each `FROM`
list. If the rewriting fails, the source was asked about the first of them. -/
theorem rewriteWith_asks {σ : Type} (codec : Codec) (source : Source σ) {sql : String} {list : List Statement}
    (parsed : codec.parse sql = some list) (s : σ) :
    ∃ asked rest, (rewriteWith codec (recording source) sql).run.run (s, []) =
        (((rewriteWith codec source sql).run.run s).1, (((rewriteWith codec source sql).run.run s).2, asked)) ∧
      Woven ((FromLists.statements list).map FromList.strand) (asked ++ rest) ∧
      (((rewriteWith codec source sql).run.run s).1.isOk = true → rest = []) := by
  -- Statements are in no list, so there is nothing to shuffle with.
  obtain ⟨asked, rest, same, ⟨others, shuffled, woven⟩, answered⟩ :=
    Rewrite.statements_asks codec source (1 < list.length) list .nothing s []
  rw [shuffled.eq_of_nil_left] at woven
  rw [rewriteWith_run codec _ parsed, rewriteWith_run codec _ parsed, same]
  rcases ran : Rewrite.outcome (Rewrite.statements codec source (1 < list.length) list) .nothing s with
    ⟨e | ⟨list', added⟩, s'⟩
  · exact ⟨asked, rest, rfl, woven, nofun⟩
  · exact ⟨asked, rest, rfl, woven, fun _ => (answered list' added (by rw [ran])).1⟩

end RowAccess
