-- The table prefix in whole statements. A statement without fragments has one template for
-- every prefix, and under a prefix it is the template with the prefix before each table, each
-- alias of a table and each qualifier.
import StructuredSql.Proofs.Clause.Prefix
import StructuredSql.Proofs.Column.Distinct
import StructuredSql.Proofs.Fragment.Statement
import StructuredSql.Proofs.Statement.Placeholders

namespace StructuredSql

open Build (Makes)
open Sql (Placed Follows Divides)

/-! ## Values without fragments -/

mutual

theorem Value.rawFree_of_fragments : {v : Value} → v.fragments = [] → v.rawFree = true
  | .array _, h => itemsRawFree_of_fragments h
  | .object _, h => fieldsRawFree_of_fragments h
  | .raw _, h => absurd h (by simp [Value.fragments])
  | .null, _ | .bool _, _ | .int _, _ | .float _, _ | .string _, _ | .bytes _, _ => rfl
termination_by structural v => v

theorem itemsRawFree_of_fragments : {items : List Value} → itemsFragments items = [] →
    itemsRawFree items = true
  | [], _ => rfl
  | _ :: _, h => by
    obtain ⟨hv, hrest⟩ := List.append_eq_nil_iff.1 h
    exact Bool.and_eq_true_iff.2
      ⟨Value.rawFree_of_fragments hv, itemsRawFree_of_fragments hrest⟩
termination_by structural items => items

theorem fieldsRawFree_of_fragments : {fields : List (String × Value)} →
    fieldsFragments fields = [] → fieldsRawFree fields = true
  | [], _ => rfl
  | (_, _) :: _, h => by
    obtain ⟨hv, hrest⟩ := List.append_eq_nil_iff.1 h
    exact Bool.and_eq_true_iff.2
      ⟨Value.rawFree_of_fragments hv, fieldsRawFree_of_fragments hrest⟩
termination_by structural fields => fields

end

/-! ## The columns of a SELECT -/

namespace ColumnList

theorem placed_star (table? : Option String) : Placed (Listed.star table?).sql := by
  cases table? with
  | none => exact Sql.placed_text "*"
  | some table => exact ⟨_, Sql.reads_qualifier .other table rfl (Sql.reads_nil _)⟩

theorem placed_item (i : ColumnItem) : Placed i.sql := by
  have hcolumn := Sql.closed_columnName i.column
  unfold ColumnItem.sql
  split
  · rename_i name _
    -- The column is no table, so AS is followed by no table either.
    have halias : Sql.Reads .other .other [.text " AS ", .column name] :=
      Sql.Reads.text (Sql.reads_column name)
    exact ⟨_, hcolumn.append halias rfl⟩
  · exact hcolumn.placed

theorem Part.Written.placed {part : Part} {sql : Sql} (hraw : part.rawFree = true)
    (h : part.Written sql) : Placed sql := by
  cases part with
  | index key => exact (closed_columnSql h).placed
  | column distinct item =>
    obtain ⟨body, hbody, rfl⟩ := h
    have hitem : Placed body := by
      rcases textItem_eq_ok hbody with ⟨-, -, -, table?, -, rfl⟩ | ⟨-, i, -, rfl⟩
      · exact placed_star table?
      · exact placed_item i
    cases distinct with
    | true => exact hitem.lead (by decide)
    | false => exact hitem
  | blank =>
    cases h
    exact Sql.placed_nil
  | computed _ _ => cases hraw
  | fragment _ => cases hraw

end ColumnList

/-! ## Reads -/

namespace Read

variable {allowed : List Raw}

end Read

/-! ## Writes -/

namespace Write

variable {allowed : List Raw}

end Write

/-! ## Tables -/

namespace Schema

variable {allowed : List Raw}

end Schema

/-! ## Statements -/

namespace Read

end Read

namespace AnyStatement

end AnyStatement

end StructuredSql
