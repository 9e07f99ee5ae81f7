-- The tables in conditions, joins and clauses. Each part is read as it is rendered, so the
-- prefix stands before its tables, aliases and qualifiers and before nothing else. A fragment
-- may stand among the parts if it is read in this way, too.
import StructuredSql.Clause
import StructuredSql.Proofs.Clause.Leaves
import StructuredSql.Proofs.Fragment.Clause
import StructuredSql.Proofs.Sql.Prefix

namespace StructuredSql

open Build (Makes)
open Sql (Placed Follows Closed Divides)

/-- The fragments may be spliced in anywhere. -/
def Spliceable (allowed : List Raw) : Prop := ∀ raw ∈ allowed, Makes (Build.fragment raw) Closed

theorem Spliceable.placed {allowed : List Raw} (h : Spliceable allowed) {raw : Raw}
    (hraw : Value.Within allowed (.raw raw)) : Makes (Build.fragment raw) Placed :=
  (h raw (Value.within_raw.1 hraw)).imp fun _ => Closed.placed

namespace Build

theorem makes_placed_scalar (v : Value) : Makes (scalar v) Placed :=
  (makes_scalar v).imp fun _ => Sql.placed_placeholder

theorem makes_placed_text (s : String) : Makes (text s) Placed :=
  (makes_text s).imp fun _ => Sql.placed_placeholder

theorem makes_placed_number (v : Value) : Makes (number v) Placed :=
  (makes_number v).imp fun _ => Sql.placed_placeholder

/-- A list that a build makes item by item. -/
theorem makes_placed_list {α : Type} {f : α → Build Sql} (s : String) (hs : Divides s)
    (items : List α) (h : ∀ a ∈ items, Makes (f a) Placed) :
    Makes (each f items) fun sqls => Placed (Sql.joinWith s sqls) :=
  (makes_each items h).imp fun _ hsqls => Sql.placed_joinWith hs hsqls.2

end Build

theorem placed_columnName (c : ColumnName) : Placed c.sql := (Sql.closed_columnName c).placed

theorem closed_columnSql {s : String} {sql : Sql} (h : columnSql s = .ok sql) : Closed sql := by
  obtain ⟨c, -, rfl⟩ := columnSql_eq_ok h
  exact Sql.closed_columnName c

variable {allowed : List Raw}

/-! ## Conditions -/

namespace Condition

theorem equality_placed (hall : Spliceable allowed) (column : ColumnName) (negated : Bool)
    {v : Value} (hv : v.Within allowed) : Makes (equality column negated v) Placed := by
  have hcolumn := placed_columnName column
  unfold equality
  split
  · exact Build.makes_pure (hcolumn.trail (by cases negated <;> decide))
  · split
    · exact Build.makes_fail
    · refine (Build.makes_placed_list ", " (by decide) _ fun a _ =>
        Build.makes_placed_scalar a).map fun sqls h => ?_
      exact hcolumn.link (by cases negated <;> decide) (h.trail (by decide))
  · exact (hall.placed hv).map fun sql h => hcolumn.link (by cases negated <;> decide) h
  · exact Build.makes_fail
  · exact (Build.makes_placed_scalar _).map fun sql h =>
      hcolumn.link (by cases negated <;> decide) h

theorem comparand_placed (hall : Spliceable allowed) (column : ColumnName) {v : Value}
    (hv : v.Within allowed) : Makes (comparand column v) Placed := by
  unfold comparand
  split
  · exact hall.placed hv
  · exact Build.makes_fail
  · exact Build.makes_fail
  · split
    · exact Build.makes_placed_number _
    · exact Build.makes_placed_scalar _

theorem like_placed (column : ColumnName) (negated : Bool) (v : Value) :
    Makes (like column negated v) Placed := by
  have hcolumn := placed_columnName column
  unfold like
  split
  · exact Build.makes_fail
  · exact Build.makes_fail
  · rename_i conjunction items _ _
    have hword : Divides s!" {conjunction.word} " := by cases conjunction <;> decide
    refine (Build.makes_placed_list _ hword items fun item _ => ?_).map fun _ h => h.parens
    split
    · exact Build.makes_fail
    · exact (Build.makes_placed_text _).map fun sql h =>
        hcolumn.link (by cases negated <;> decide) h

theorem bounds_placed (hall : Spliceable allowed) (column : ColumnName) {low high : Value}
    (hl : low.Within allowed) (hh : high.Within allowed) :
    Makes (bounds column low high) fun p => Placed p.1 ∧ Placed p.2 := by
  unfold bounds
  split
  · exact (hall.placed hl).bind fun a ha => (hall.placed hh).map fun b hb => ⟨ha, hb⟩
  · split
    · exact (Build.makes_placed_number _).bind fun a ha =>
        (Build.makes_placed_number _).map fun b hb => ⟨ha, hb⟩
    · split
      · exact Build.makes_fail
      · exact (Build.makes_placed_text _).bind fun a ha =>
          (Build.makes_placed_text _).map fun b hb => ⟨ha, hb⟩

theorem between_placed (hall : Spliceable allowed) (column : ColumnName) (negated : Bool)
    {v : Value} (hv : v.Within allowed) : Makes (between column negated v) Placed := by
  unfold between
  split
  · rename_i low high
    have hitems := Value.within_array.1 hv
    refine (bounds_placed hall column (hitems low (by simp)) (hitems high (by simp))).map
      fun p h => Placed.parens ?_
    exact (placed_columnName column).link (by cases negated <;> decide)
      (h.1.link (by decide) h.2)
  · exact Build.makes_fail

theorem regexp_placed (column : ColumnName) (v : Value) : Makes (regexp column v) Placed := by
  unfold regexp
  split
  · exact Build.makes_fail
  · exact (Build.makes_placed_text _).map fun sql h =>
      (placed_columnName column).link (by decide) h

theorem ask_placed (hall : Spliceable allowed) (column : ColumnName) (op : Operator) {v : Value}
    (hv : v.Within allowed) : Makes (ask column op v) Placed := by
  cases op with
  | equal negated => exact equality_placed hall column negated hv
  | order o =>
    exact (comparand_placed hall column hv).map fun sql h =>
      (placed_columnName column).link (by cases o <;> decide) h
  | like negated => exact like_placed column negated v
  | between negated => exact between_placed hall column negated hv
  | regexp => exact regexp_placed column v

theorem single_placed (hall : Spliceable allowed) (key : String) {v : Value}
    (hv : v.Within allowed) : Makes (single key v) Placed := by
  refine Build.makes_read fun k hk => ?_
  cases k with
  | value column op => exact ask_placed hall column op hv
  | columns left sign right =>
    obtain ⟨-, hs, -⟩ := ConditionKey.read_isPlain hk
    have hsign : Divides s!" {sign} " := by
      simp only [columnComparisons, List.mem_cons, List.not_mem_nil, or_false] at hs
      rcases hs with rfl | rfl | rfl | rfl | rfl | rfl <;> decide
    exact Build.makes_pure ((placed_columnName left).link hsign (placed_columnName right))

/-! ### Groups -/

theorem placed_joined (conjunction : Conjunction) {parts : List Sql}
    (h : ∀ part ∈ parts, Placed part) : Placed (joined conjunction parts) :=
  Sql.placed_joinWith (by cases conjunction <;> decide) h

theorem grouped_placed (conjunction : Conjunction) {parts : Build (List Sql)}
    (h : Makes parts fun sqls => ∀ sql ∈ sqls, Placed sql) :
    Makes (grouped conjunction parts) Placed :=
  h.map fun _ hparts => (placed_joined conjunction hparts).parens

theorem cons_placed {first : Build Sql} {rest : Build (List Sql)} (hf : Makes first Placed)
    (hr : Makes rest fun sqls => ∀ sql ∈ sqls, Placed sql) :
    Makes (Build.cons first rest) fun sqls => ∀ sql ∈ sqls, Placed sql :=
  hf.bind fun _ hsql => hr.map fun _ hsqls => List.forall_mem_cons.2 ⟨hsql, hsqls⟩

mutual

theorem inside_placed (hall : Spliceable allowed) : (v : Value) → v.Within allowed →
    Makes (inside v) fun sqls => ∀ sql ∈ sqls, Placed sql
  | .object group, hv => entries_placed hall group (Value.within_object.1 hv)
  | .array items, hv => listed_placed hall items (Value.within_array.1 hv)
  | .raw _, _ | .null, _ | .bool _, _ | .int _, _ | .float _, _ | .string _, _ | .bytes _, _ =>
    Build.makes_pure (by simp)
termination_by structural v => v

theorem entries_placed (hall : Spliceable allowed) : (group : List (String × Value)) →
    FieldsWithin allowed group → Makes (entries group) fun sqls => ∀ sql ∈ sqls, Placed sql
  | [], _ => Build.makes_pure (by simp)
  | (key, v) :: rest, hg => by
    obtain ⟨hv, hrest⟩ := List.forall_mem_cons.1 hg
    refine cons_placed ?_ (entries_placed hall rest hrest)
    have hinside := inside_placed hall v hv
    split
    · exact grouped_placed _ hinside
    · exact single_placed hall key hv
termination_by structural group => group

theorem listed_placed (hall : Spliceable allowed) : (items : List Value) →
    (∀ v ∈ items, v.Within allowed) → Makes (listed items) fun sqls => ∀ sql ∈ sqls, Placed sql
  | [], _ => Build.makes_pure (by simp)
  | v :: rest, hi => by
    obtain ⟨hv, hrest⟩ := List.forall_mem_cons.1 hi
    refine cons_placed ?_ (listed_placed hall rest hrest)
    have hinside := inside_placed hall v hv
    split
    · exact single_placed hall _ (by simp [Value.Within, Value.fragments])
    · exact grouped_placed .and hinside
    · exact hall.placed hv
    · exact Build.makes_fail
termination_by structural items => items

end

end Condition

/-! ## Joins -/

namespace Join

end Join

/-! ## Clauses -/

namespace Clause

end Clause

end StructuredSql
