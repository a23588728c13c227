import BoundSql.Sql.Condition
import BoundSql.Sql.Write
import BoundSql.Sql.Selection

/-!
Statements as trees, and their text. Rendering decides nothing but spelling: what a
statement contains is settled by whoever builds the tree.
-/

namespace BoundSql.Sql

inductive StatementKind where
  | select
  | insert
  | update
  | delete
  | count
  deriving DecidableEq

inductive Paging where
  | top (size : UInt64)
  | page (offset size : UInt64)
  deriving DecidableEq

inductive Statement where
  | select (selection : Selection) (table : String) (conditions : List Condition)
      (ordering : List SortKey) (paging : Option Paging)
  | count (table : String) (conditions : List Condition)
  | insert (table : String) (writes : List Write)
  | update (table : String) (writes : List Write) (conditions : List Condition)
  | delete (table : String) (conditions : List Condition)

def wordText (n : UInt64) : String := String.ofList (Number.digits n.toNat)

namespace Paging

def render : Paging → String
  | .top size => " LIMIT " ++ wordText size
  | .page offset size => " LIMIT " ++ wordText offset ++ "," ++ wordText size

end Paging

namespace Statement

def renderWhere : List Condition → String
  | [] => ""
  | conditions => " WHERE " ++ Condition.renderAll conditions

def renderOrdering : List SortKey → String
  | [] => ""
  | keys => " ORDER BY " ++ ",".intercalate (keys.map SortKey.render)

def renderPaging : Option Paging → String
  | none => ""
  | some paging => paging.render

def render : Statement → String
  | .select selection table conditions ordering paging =>
      "SELECT " ++ selection.render ++ " FROM " ++ quoteIdentifier table ++
        renderWhere conditions ++ renderOrdering ordering ++ renderPaging paging
  | .count table conditions =>
      "SELECT COUNT(*) FROM " ++ quoteIdentifier table ++ renderWhere conditions
  | .insert table writes =>
      "INSERT INTO " ++ quoteIdentifier table ++ " (" ++
        ",".intercalate (writes.map Write.renderColumn) ++ ") VALUES (" ++
        ",".intercalate (writes.map Write.renderValue) ++ ")"
  | .update table writes conditions =>
      "UPDATE " ++ quoteIdentifier table ++ " SET " ++
        ",".intercalate (writes.map Write.render) ++ renderWhere conditions
  | .delete table conditions =>
      "DELETE FROM " ++ quoteIdentifier table ++ renderWhere conditions

end Statement

end BoundSql.Sql
