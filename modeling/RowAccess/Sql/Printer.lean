import RowAccess.Sql.Syntax
/-!
# Writing statements

A statement is written with keywords in upper case, one space between words, and a comma and a space
between the members of a list. Parentheses are written where the tree has them and nowhere else.
-/

namespace RowAccess.Sql

/-- Whether the expression is a query in parentheses. -/
def Expr.isSubquery : Expr → Bool
  | .subquery _ => true
  | _ => false

mutual

/-- A piece of a clause as it is written. -/
def Piece.render : Piece → String
  | .text words => words
  | .expr e => e.render
  | .query q => q.render
  | .relation r => r.render
  | .statement s => s.render

/-- Pieces, one right after the other. -/
def Piece.renderAll : List Piece → String
  | [] => ""
  | p :: ps => p.render ++ Piece.renderAll ps

/-- An expression as it is written. -/
def Expr.render : Expr → String
  | .name parts => Name.render parts
  | .literal value => value.render
  | .typed before value after => before ++ value.render ++ after
  | .wildcard [] => "*"
  | .wildcard qualifier => Name.render qualifier ++ ".*"
  | .unary op operand => op.render operand.render
  | .binary op left right => left.render ++ " " ++ op.render ++ " " ++ right.render
  | .quantified op quantifier left right =>
    left.render ++ " " ++ op.render ++ " " ++ quantifier.render ++
      (if right.isSubquery then right.render else "(" ++ right.render ++ ")")
  | .distinctness negated left right =>
    left.render ++ (if negated then " IS NOT DISTINCT FROM " else " IS DISTINCT FROM ") ++
      right.render
  | .atTimeZone operand zone => operand.render ++ " AT TIME ZONE " ++ zone.render
  | .matching how operand pattern =>
    operand.render ++ (if how.negated then " NOT " else " ") ++ how.kind.render ++
      (if how.any then " ANY " else " ") ++ pattern.render ++
      (match how.escape with
        | none => ""
        | some escape => " ESCAPE " ++ escape.render)
  | .test negated property operand =>
    operand.render ++ (if negated then " IS NOT " else " IS ") ++ property.render
  | .nested inner => "(" ++ inner.render ++ ")"
  | .cast form operand type =>
    match form with
    | .cast => "CAST(" ++ operand.render ++ " AS " ++ type ++ ")"
    | .tryCast => "TRY_CAST(" ++ operand.render ++ " AS " ++ type ++ ")"
    | .safeCast => "SAFE_CAST(" ++ operand.render ++ " AS " ++ type ++ ")"
    | .doubleColon => operand.render ++ "::" ++ type
  | .collate operand collation => operand.render ++ " COLLATE " ++ Name.render collation
  | .extract field comma operand =>
    "EXTRACT(" ++ field ++ (if comma then ", " else " FROM ") ++ operand.render ++ ")"
  | .inList negated operand members =>
    operand.render ++ (if negated then " NOT IN (" else " IN (") ++ Expr.renderList "" members ++
      ")"
  | .inQuery negated operand query =>
    operand.render ++ (if negated then " NOT IN (" else " IN (") ++ query.render ++ ")"
  | .between negated operand low high =>
    operand.render ++ (if negated then " NOT BETWEEN " else " BETWEEN ") ++ low.render ++ " AND " ++
      high.render
  | .case operand branches otherwise =>
    "CASE" ++ Expr.renderAfter " " operand ++ Branch.renderAll branches ++
      Expr.renderAfter " ELSE " otherwise ++ " END"
  | .tuple members => "(" ++ Expr.renderList "" members ++ ")"
  | .call function parameters arguments grouping filter window =>
    Name.render function ++ parameters.render ++ arguments.render ++
      Piece.renderAll grouping ++
      (match filter with
        | none => ""
        | some condition => " FILTER (WHERE " ++ condition.render ++ ")") ++
      Piece.renderAll window
  | .exists negated query =>
    (if negated then "NOT EXISTS (" else "EXISTS (") ++ query.render ++ ")"
  | .subquery query => "(" ++ query.render ++ ")"
  | .access root steps => root.render ++ Piece.renderAll steps
  | .special pieces => Piece.renderAll pieces

/-- An expression after `lead`, or nothing if there is none. -/
def Expr.renderAfter (lead : String) : Option Expr → String
  | none => ""
  | some e => lead ++ e.render

/-- Expressions with commas between them; `lead` is written before the first. -/
def Expr.renderList (lead : String) : List Expr → String
  | [] => ""
  | e :: es => lead ++ e.render ++ Expr.renderList ", " es

/-- A branch as it is written, with the space before it. -/
def Branch.render : Branch → String
  | .mk condition result => " WHEN " ++ condition.render ++ " THEN " ++ result.render

/-- Branches, one right after the other. -/
def Branch.renderAll : List Branch → String
  | [] => ""
  | b :: bs => b.render ++ Branch.renderAll bs

/-- An argument as it is written. -/
def Argument.render : Argument → String
  | .mk label value => Piece.renderAll label ++ value.render

/-- Arguments with commas between them; `lead` is written before the first. -/
def Argument.renderList (lead : String) : List Argument → String
  | [] => ""
  | a :: as => lead ++ a.render ++ Argument.renderList ", " as

/-- Arguments as they are written, with the parentheses around them. -/
def Arguments.render : Arguments → String
  | .none => ""
  | .query q => "(" ++ q.render ++ ")"
  | .list distinct arguments clauses =>
    "(" ++ distinct ++ Argument.renderList "" arguments ++ Piece.renderAll clauses ++ ")"

/-- An item as it is written. -/
def Item.render : Item → String
  | .mk expr aliased options =>
    expr.render ++
      (match aliased with
        | none => ""
        | some name => " AS " ++ name.render) ++
      Piece.renderAll options

/-- Items with commas between them; `lead` is written before the first. -/
def Item.renderList (lead : String) : List Item → String
  | [] => ""
  | i :: is => lead ++ i.render ++ Item.renderList ", " is

/-- A named query as it is written. -/
def Cte.render : Cte → String
  | .mk name columns materialized query source =>
    name.render ++ renderColumns columns ++ " AS " ++ materialized ++ "(" ++ query.render ++ ")" ++
      (match source with
        | none => ""
        | some other => " FROM " ++ other.render)

/-- Named queries with commas between them; `lead` is written before the first. -/
def Cte.renderList (lead : String) : List Cte → String
  | [] => ""
  | c :: cs => lead ++ c.render ++ Cte.renderList ", " cs

/-- A query as it is written. -/
def Query.render : Query → String
  | .mk recursive ctes body order tail =>
    Cte.renderList (if recursive then "WITH RECURSIVE " else "WITH ") ctes ++
      (if ctes.isEmpty then "" else " ") ++ body.render ++ Item.renderList " ORDER BY " order ++
      Piece.renderAll tail

/-- The body of a query as it is written. -/
def Body.render : Body → String
  | .select s => s.render
  | .query q => "(" ++ q.render ++ ")"
  | .combined op quantifier left right =>
    left.render ++ " " ++ op.render ++ quantifier ++ " " ++ right.render
  | .values keyword rowWord rows => keyword ++ Body.renderRows (" " ++ rowWord) rowWord rows
  | .statement s => s.render
  | .table name => "TABLE " ++ ".".intercalate name

/-- Rows with commas between them; `lead` is written before the first, `rowWord` before the others.
-/
def Body.renderRows (lead rowWord : String) : List Expr → String
  | [] => ""
  | e :: es => lead ++ e.render ++ Body.renderRows (", " ++ rowWord) rowWord es

/-- A `SELECT` as it is written. -/
def Select.render : Select → String
  | ⟨form, distinct, projection, into, relations, views, prewhere, selection, groupBy, groupOptions,
      clustering, having, windows, windowsFirst, qualify, hierarchy⟩ =>
    (match form with
      | .standard => "SELECT"
      | .relationsFirst => "FROM " ++ Joined.renderList "" relations ++ " SELECT"
      | .relationsOnly => "FROM " ++ Joined.renderList "" relations) ++
    Piece.renderAll distinct ++ Item.renderList " " projection ++ into ++
    (match form with
      | .standard => Joined.renderList " FROM " relations
      | _ => "") ++
    Piece.renderAll views ++ Expr.renderAfter " PREWHERE " prewhere ++ Expr.renderAfter " WHERE " selection ++
    Expr.renderList " GROUP BY " groupBy ++ Piece.renderAll groupOptions ++
    Piece.renderAll clustering ++ Expr.renderAfter " HAVING " having ++
    (if windowsFirst then Piece.renderAll windows ++ Expr.renderAfter " QUALIFY " qualify
      else Expr.renderAfter " QUALIFY " qualify ++ Piece.renderAll windows) ++
    Piece.renderAll hierarchy

/-- The constraint of a join as it is written after the relation. -/
def JoinConstraint.render : JoinConstraint → String
  | .on condition => " ON " ++ condition.render
  | .columns names => " USING(" ++ ", ".intercalate (names.map Name.render) ++ ")"
  | .natural => ""
  | .none => ""

/-- A joined relation as it is written, with the space before it. -/
def Join.render : Join → String
  | .mk global kind relation matchCondition constraint =>
    (if global then " GLOBAL" else "") ++
      (match constraint with
        | .natural => " NATURAL "
        | _ => " ") ++
      kind.render ++ " " ++ relation.render ++
      (match matchCondition with
        | none => ""
        | some condition => " MATCH_CONDITION (" ++ condition.render ++ ")") ++
      constraint.render

/-- Joined relations, one right after the other. -/
def Join.renderAll : List Join → String
  | [] => ""
  | j :: js => j.render ++ Join.renderAll js

/-- A relation with its joins as it is written. -/
def Joined.render : Joined → String
  | .mk relation joins => relation.render ++ Join.renderAll joins

/-- Relations with commas between them; `lead` is written before the first. -/
def Joined.renderList (lead : String) : List Joined → String
  | [] => ""
  | j :: js => lead ++ j.render ++ Joined.renderList ", " js

/-- A relation as it is written. -/
def Relation.render : Relation → String
  | .table name partitions arguments ordinality aliased after =>
    Name.render name ++
      (if partitions.isEmpty then ""
        else "PARTITION (" ++ ", ".intercalate (partitions.map Ident.render) ++ ")") ++
      arguments.render ++ (if ordinality then " WITH ORDINALITY" else "") ++ Alias.render aliased ++
      Piece.renderAll after
  | .derived lateral query aliased =>
    (if lateral then "LATERAL (" else "(") ++ query.render ++ ")" ++ Alias.render aliased
  | .nested joined aliased => "(" ++ joined.render ++ ")" ++ Alias.render aliased
  | .reshaped relation clause aliased =>
    relation.render ++ Piece.renderAll clause ++ Alias.render aliased
  | .function call aliased => "TABLE(" ++ call.render ++ ")" ++ Alias.render aliased
  | .special pieces aliased after =>
    Piece.renderAll pieces ++ Alias.render aliased ++ Piece.renderAll after

/-- An assignment as it is written. -/
def Assignment.render : Assignment → String
  | .mk target value => target ++ " = " ++ value.render

/-- Assignments with commas between them; `lead` is written before the first. -/
def Assignment.renderList (lead : String) : List Assignment → String
  | [] => ""
  | a :: as => lead ++ a.render ++ Assignment.renderList ", " as

/-- An `UPDATE` as it is written. -/
def Update.render : Update → String
  | ⟨conflict, target, assignments, relationsFirst, relations, selection, tail⟩ =>
    "UPDATE " ++ conflict ++ target.render ++
      (if relationsFirst then Joined.renderList " FROM " relations else "") ++
      Assignment.renderList " SET " assignments ++
      (if relationsFirst then "" else Joined.renderList " FROM " relations) ++
      Expr.renderAfter " WHERE " selection ++ Piece.renderAll tail

/-- A `DELETE` as it is written. -/
def Delete.render : Delete → String
  | ⟨tables, fromWord, relations, others, selection, tail⟩ =>
    "DELETE" ++ (if tables.isEmpty then "" else " " ++ ", ".intercalate (tables.map Name.render)) ++
      Joined.renderList (if fromWord then " FROM " else " ") relations ++
      Joined.renderList " USING " others ++ Expr.renderAfter " WHERE " selection ++
      Piece.renderAll tail

/-- A statement as it is written. -/
def Statement.render : Statement → String
  | .query q => q.render
  | .update u => u.render
  | .delete d => d.render
  | .insert _ pieces => Piece.renderAll pieces
  | .other _ pieces => Piece.renderAll pieces

end

/-- Statements with a semicolon and a space between them. -/
def renderStatements (statements : List Statement) : String :=
  "; ".intercalate (statements.map Statement.render)

end RowAccess.Sql
