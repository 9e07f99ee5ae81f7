-- Column lists make no placeholders. Whatever a spec without fragments selects is
-- written with names, and the first column marked as distinct may go to the front.
import StructuredSql.Proofs.Placeholder.Numbering
import StructuredSql.Proofs.Value.Everywhere
import StructuredSql.Column.List

namespace StructuredSql.ColumnList

open Build (Gives Numbered)

/-! ## Single items -/

theorem star_still {item : String} {sql : Sql} (h : star item = .ok sql) : sql.Still := by
  unfold star at h
  split at h
  · cases h
    exact Sql.still_text (by decide)
  · split at h
    · rename_i table _
      cases ht : tableSql table with
      | error fault => simp [ht, Except.map] at h
      | ok t =>
        simp only [ht, Except.map, Except.ok.injEq] at h
        subst h
        exact (tableSql_still ht).append (Sql.still_text (by decide))
    · cases h

theorem textItem_still {joining : Bool} {item : String} {r : Bool × Sql}
    (h : textItem joining item = .ok r) : r.2.Still := by
  unfold textItem at h
  split at h
  · split at h
    · cases h
    · cases hs : star item with
      | error fault => simp [hs, Except.map] at h
      | ok sql =>
        simp only [hs, Except.map, Except.ok.injEq] at h
        subst h
        exact star_still hs
  · cases hi : ColumnItem.parse item with
    | error fault => simp [hi, Except.map] at h
    | ok i =>
      simp only [hi, Except.map, Except.ok.injEq] at h
      subst h
      exact ColumnItem.parse_still hi

/-! ## Lists -/

/-- No item of the list makes a placeholder. -/
def Items.Still (items : Items) : Prop := ∀ sql ∈ items.all, sql.Still

theorem Items.still_nil : Items.Still ⟨none, []⟩ := by simp [Items.Still, Items.all]

theorem Items.Still.add {items : Items} (h : items.Still) {sql : Sql} (hs : sql.Still)
    (distinct : Bool) : (items.add distinct sql).Still := by
  intro s hm
  unfold Items.add at hm
  split at hm
  · simp only [Items.all, Option.toList_some, List.cons_append, List.nil_append,
      List.mem_cons] at hm
    rcases hm with rfl | hm
    · exact Sql.still_cons_text (by decide) hs
    · exact h s (List.mem_append_right _ hm)
  · simp only [Items.all, List.mem_append, List.mem_cons] at hm
    rcases hm with hm | rfl | hm
    · exact h s (List.mem_append_left _ hm)
    · exact hs
    · exact h s (List.mem_append_right _ hm)

theorem comma_still {parts : List Sql} (h : ∀ sql ∈ parts, Sql.Still sql) :
    Sql.Still (comma parts) :=
  Sql.still_joinWith (by decide) h

theorem textItem_gives (joining : Bool) (item : String) :
    Gives (textItem joining item : Build (Bool × Sql)) 0 fun _ r => r.2.Still :=
  Build.gives_liftM fun _ _ h => textItem_still h

/-- An item has been read, and the others are read behind it. -/
theorem add_gives {item : Build (Bool × Sql)} {others : Bool → Build Items}
    (hi : Gives item 0 fun _ r => r.2.Still)
    (ho : ∀ marked, Gives (others marked) 0 fun _ items => items.Still) (marked : Bool) :
    Gives (do
      let (distinct, sql) ← item
      let others ← others (marked || distinct)
      return others.add distinct sql) 0 fun _ items => items.Still := by
  refine Build.gives_bind (k := 0) (j := 0) hi
    (R := fun r _ items => r.2.Still → items.Still) (fun r => ?_) ?_
  · exact Build.gives_map (ho _) fun _ items h hr => h.add hr r.1
  · intro n r items hr h
    exact h hr

mutual

theorem spec_still (root joining : Bool) : (v : Value) → v.rawFree = true →
    Numbered 0 (spec root joining v)
  | .string s, _ => by
    unfold spec
    split
    · exact Build.numbered_pure (Sql.still_text (by decide))
    · exact Build.gives_map (textItem_gives joining s) fun n r h =>
        (comma_still (Items.still_nil.add h r.1)).numbers n
  | .array entries, h =>
    Build.gives_map (items_still joining false entries h) fun n items hi =>
      (comma_still hi).numbers n
  | .object [], _ => Build.gives_map Build.listNumbered_pure_nil fun n sqls hs =>
      hs "," (by decide)
  | .object [(key, nested)], h => by
    have hnested := spec_still false joining nested (fieldsRawFree_iff.1 h _ List.mem_cons_self)
    have hfields := fields_still joining [(key, nested)] h
    unfold spec
    split
    · refine Build.gives_read fun index hindex => ?_
      exact hnested.map fun n sql hs =>
        Sql.Numbers.prepend (columnSql_still hindex) (hs.cons_text (by decide))
    · exact hfields.map fun n sqls hs => hs "," (by decide)
  | .object (e :: f :: rest), h =>
    (fields_still joining (e :: f :: rest) h).map fun n sqls hs => hs "," (by decide)
  | .raw _, h => by cases h
  | .null, _ | .bool _, _ | .int _, _ | .float _, _ | .bytes _, _ => Build.numbered_fail
termination_by structural v => v

theorem items_still (joining marked : Bool) : (vs : List Value) → itemsRawFree vs = true →
    Gives (items joining marked vs) 0 fun _ items => items.Still
  | [], _ => Build.gives_pure fun _ => Items.still_nil
  | v :: rest, h => by
    obtain ⟨hv, hrest⟩ := Bool.and_eq_true_iff.1 h
    have hspec := Build.gives_map (spec_still false joining v hv)
      (f := fun sql => (false, sql)) (Q := fun _ r => r.2.Still) fun n sql hs => hs.still
    refine add_gives ?_ (fun marked => items_still joining marked rest hrest) marked
    split
    · exact Build.gives_map (textItem_gives joining _) fun _ _ hr => hr
    · cases hv
    · exact hspec
    · exact hspec
    · exact Build.gives_fail
termination_by structural vs => vs

theorem fields_still (joining : Bool) : (entries : List (String × Value)) →
    fieldsRawFree entries = true → Build.ListNumbered 0 (fields joining entries)
  | [], _ => Build.listNumbered_pure_nil
  | (key, v) :: rest, h => by
    obtain ⟨hv, hrest⟩ := Bool.and_eq_true_iff.1 h
    have hspec := spec_still false joining v hv
    refine Numbered.cons ?_ (fields_still joining rest hrest)
    split
    · exact hspec
    · exact hspec
    · cases hv
    · exact Build.numbered_fail
termination_by structural entries => entries

end

end StructuredSql.ColumnList
