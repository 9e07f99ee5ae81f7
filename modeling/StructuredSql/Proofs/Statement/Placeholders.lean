-- The placeholders of whole statements. A statement without fragments carries its
-- placeholders in the order of its bindings, one for each leaf of its descriptor.
-- The leaves of a statement that reads are those of its joins, which come first in the build,
-- and those of its clauses.
import StructuredSql.Proofs.Build.Params
import StructuredSql.Proofs.Clause.Leaves
import StructuredSql.Proofs.Column.Still
import StructuredSql.Proofs.Statement.Basic
import StructuredSql.Proofs.Statement.Writes
import StructuredSql.Statement.Read

namespace StructuredSql

open Build (Gives Numbered Trails)

namespace Leaves

def ofJoin (join : Option Fields) : Nat := (join.map ofJoins).getD 0

def ofQuery (d : Dialect) (q : Query) : Nat := ofJoin q.join + ofConditions d q.conditions

end Leaves

namespace Read

theorem joins_gives {main : String} (hm : Name.IsPlain main.toList) {join : Option Fields}
    (hj : join.all fieldsRawFree = true) :
    Gives (joins main join) (Leaves.ofJoin join) fun n r =>
      r.1.Trailing n (Leaves.ofJoin join) := by
  cases join with
  | none => exact Build.gives_pure Sql.trailing_nil
  | some fields =>
    cases fields with
    | nil => exact Build.gives_pure Sql.trailing_nil
    | cons e rest =>
      exact Build.gives_map (Join.clauses_numbered hm hj) fun n sql h => h.trailing (by decide)

theorem aggregated_numbered {columns : Option Value} (h : columns.all Value.rawFree = true) :
    Numbered 0 (aggregated columns) := by
  unfold aggregated
  split
  · exact Build.numbered_pure (Sql.still_text (by decide))
  · exact Build.numbered_pure (Sql.still_text (by decide))
  · exact ColumnList.spec_still true false _ h

theorem head_numbered {q : Query} (h : q.columns.all Value.rawFree = true) (joining : Bool)
    (kind : Head) : Numbered 0 (head q joining kind) := by
  cases kind with
  | columns =>
    refine ColumnList.spec_still true joining _ ?_
    unfold Query.columnSpec
    cases hc : q.columns with
    | none => rfl
    | some v => simpa [hc] using h
  | function a =>
    refine (aggregated_numbered h).map fun n sql hs => ?_
    refine (Sql.Numbers.cons_text ?_ hs).append_text (by decide)
    cases a <;> decide
  | one => exact Build.numbered_pure (Sql.still_text (by decide))
  | top => exact Build.numbered_pure (Sql.still_text (by decide))

theorem spelled_of_tableRef {s : String} {table : TableRef} (h : tableRef s = .ok table) :
    table.Spelled s.toList := by
  unfold tableRef at h
  split at h
  · rename_i t hread
    cases h
    exact TableRef.spelled_of_ofText? hread
  · cases h

/-- The placeholders of the joins stand before those of the clauses, though the
columns stand before both. -/
theorem statement_numbered {d : Dialect} {q : Query} (hj : q.join.all fieldsRawFree = true)
    (hs : q.columns.all Value.rawFree = true)
    (hc : Clause.CountableConditions d q.conditions) (kind : Head) :
    Numbered (Leaves.ofQuery d q) (statement d q kind) := by
  refine Build.gives_read fun table htable => ?_
  have ht := (spelled_of_tableRef htable).isPlain
  refine Build.gives_bind (joins_gives ht.exposed hj)
    (R := fun r m sql => ∃ selected clauses : Sql, selected.Still ∧
      clauses.Trailing m (Leaves.ofConditions d q.conditions) ∧
      sql = .text "SELECT " :: (selected ++ .text " FROM " :: (table.sql ++ r.1 ++ clauses)))
    (fun r => ?_) ?_
  · rw [← Nat.zero_add (Leaves.ofConditions d q.conditions)]
    refine Build.gives_bind (head_numbered hs r.2 kind)
      (R := fun selected m sql => ∃ clauses : Sql,
        clauses.Trailing m (Leaves.ofConditions d q.conditions) ∧
        sql = .text "SELECT " :: (selected ++ .text " FROM " :: (table.sql ++ r.1 ++ clauses)))
      (fun selected => Build.gives_map (Clause.all_trails hc) fun m clauses hclauses =>
        ⟨clauses, hclauses, rfl⟩) ?_
    rintro m selected sql hselected ⟨clauses, hclauses, rfl⟩
    exact ⟨selected, clauses, hselected.still, by simpa using hclauses, rfl⟩
  · rintro n r sql hr ⟨selected, clauses, hselected, hclauses, rfl⟩
    refine Sql.Numbers.cons_text (by decide) (Sql.Numbers.prepend hselected ?_)
    refine Sql.Numbers.cons_text (by decide) ?_
    rw [List.append_assoc]
    exact Sql.Numbers.prepend ht.still (hr.append hclauses).numbers

end Read

/-! ## What a descriptor holds -/

/-- The leaves of a descriptor, each of which is bound. -/
def Leaves.ofStatement (d : Dialect) : Statement → Nat
  | .select q => ofQuery d q
  | .get q => ofQuery d q
  | .rand q => ofQuery d q
  | .probe q => ofQuery d q
  | .aggregate _ q => ofQuery d q
  | .insert _ rows => ofRows rows
  | .update _ data conditions => (data.map ofAssignment).sum + ofConditions d conditions
  | .delete _ conditions => ofConditions d conditions
  | .replace _ columns conditions =>
    (columns.map ofSubstitutions).sum + ofConditions d conditions

def Query.rawFree (q : Query) : Bool :=
  q.join.all fieldsRawFree && q.columns.all Value.rawFree && q.conditions.all Value.rawFree

namespace Statement

/-- No fragment stands anywhere in the descriptor. -/
def rawFree : Statement → Bool
  | select q => q.rawFree
  | get q => q.rawFree
  | rand q => q.rawFree
  | probe q => q.rawFree
  | aggregate _ q => q.rawFree
  | insert _ rows => rows.rawFree
  | update _ data conditions => fieldsRawFree data && conditions.all Value.rawFree
  | delete _ conditions => conditions.all Value.rawFree
  | replace _ columns conditions => fieldsRawFree columns && conditions.all Value.rawFree

def conditions? : Statement → Option Value
  | select q => q.conditions
  | get q => q.conditions
  | rand q => q.conditions
  | probe q => q.conditions
  | aggregate _ q => q.conditions
  | insert _ _ => none
  | update _ _ conditions => conditions
  | delete _ conditions => conditions
  | replace _ _ conditions => conditions

/-- The rows are ordered by columns, not by a list of values that stands in the text. -/
def ordersByColumns (s : Statement) : Bool :=
  match s.conditions? with
  | some (.object tree) => (Entries.get? tree "ORDER").all Clause.namesOnly
  | _ => true

end Statement

/-! ## Trees with one more modifier -/

namespace Clause

theorem plain_insert (tree : Fields) {key : String} (hk : isModifier key = true) (v : Value) :
    plain (Entries.insert tree key v) = plain tree := by
  induction tree with
  | nil => simp [Entries.insert, plain, hk]
  | cons e rest ih =>
    obtain ⟨k, w⟩ := e
    unfold plain at ih ⊢
    by_cases he : k = key
    · subst he
      simp [Entries.insert, hk]
    · simp only [Entries.insert, if_neg he, List.filter_cons, ih]

/-- A modifier that holds no leaf changes no count. -/
theorem ofTree_insert (d : Dialect) (tree : Fields) {key : String} (hk : isModifier key = true)
    (hm : key ≠ "MATCH") (hh : key ≠ "HAVING") (v : Value) :
    Leaves.ofTree d (Entries.insert tree key v) = Leaves.ofTree d tree := by
  unfold Leaves.ofTree Leaves.ofSearch
  rw [plain_insert tree hk, Entries.get?_insert, Entries.get?_insert, if_neg hm, if_neg hh]

theorem countable_insert {d : Dialect} {tree : Fields} (h : Countable d tree) {key : String}
    (hk : isModifier key = true) (hg : key ≠ "GROUP") (hh : key ≠ "HAVING") {v : Value}
    (ho : key = "ORDER" → Numbered 0 (ordering d v)) :
    Countable d (Entries.insert tree key v) where
  plain := by
    rw [plain_insert tree hk]
    exact h.plain
  group w hw := h.group w (by rwa [Entries.get?_insert, if_neg hg] at hw)
  having w hw := h.having w (by rwa [Entries.get?_insert, if_neg hh] at hw)
  order w hw := by
    rw [Entries.get?_insert] at hw
    split at hw
    · rename_i hkey
      cases hw
      exact ho hkey
    · exact h.order w hw

theorem countable_nil (d : Dialect) : Countable d [] :=
  countable_of_rawFree d rfl fun _ hv => by cases hv

theorem countable_modified {d : Dialect} {conditions : Option Value}
    (h : CountableConditions d conditions) {key : String} (hk : isModifier key = true)
    (hg : key ≠ "GROUP") (hh : key ≠ "HAVING") {v : Value}
    (ho : key = "ORDER" → Numbered 0 (ordering d v)) :
    CountableConditions d (Query.modified conditions key v) := by
  cases conditions with
  | none => exact countable_insert (countable_nil d) hk hg hh ho
  | some w =>
    cases w with
    | object tree => exact countable_insert h hk hg hh ho
    | _ => exact h

theorem ofConditions_modified (d : Dialect) (conditions : Option Value) {key : String}
    (hk : isModifier key = true) (hm : key ≠ "MATCH") (hh : key ≠ "HAVING") (v : Value) :
    Leaves.ofConditions d (Query.modified conditions key v) =
      Leaves.ofConditions d conditions := by
  cases conditions with
  | none =>
    refine (ofTree_insert d [] hk hm hh v).trans ?_
    simp [Leaves.ofTree, Leaves.ofSearch, plain, Leaves.inEntries, Entries.get?,
      Leaves.ofConditions]
  | some w =>
    cases w with
    | object tree => exact ofTree_insert d tree hk hm hh v
    | _ => rfl

end Clause

/-! ## Statements -/

namespace Statement

theorem countable_conditions (d : Dialect) {s : Statement}
    (hr : s.conditions?.all Value.rawFree = true) (ho : s.ordersByColumns = true) :
    Clause.CountableConditions d s.conditions? := by
  unfold ordersByColumns at ho
  cases hc : s.conditions? with
  | none => trivial
  | some v =>
    rw [hc] at hr ho
    cases v with
    | object tree =>
      refine Clause.countable_of_rawFree d hr fun v hv => ?_
      simpa [hv] using ho
    | raw fragment => cases hr
    | _ => trivial

/-- A query whose parts hold no fragment, and whose clauses can be counted. -/
theorem query_numbered {d : Dialect} {q : Query} (hr : q.rawFree = true)
    (hc : Clause.CountableConditions d q.conditions) (kind : Head) :
    Numbered (Leaves.ofQuery d q) (Read.statement d q kind) := by
  simp only [Query.rawFree, Bool.and_eq_true] at hr
  exact Read.statement_numbered hr.1.1 hr.1.2 hc kind

/-- The same with one more modifier that holds no leaf. -/
theorem modified_numbered {d : Dialect} {q : Query} (hr : q.rawFree = true)
    (hc : Clause.CountableConditions d q.conditions) {key : String}
    (hk : Clause.isModifier key = true) (hm : key ≠ "MATCH") (hg : key ≠ "GROUP")
    (hh : key ≠ "HAVING") {v : Value} (ho : key = "ORDER" → Numbered 0 (Clause.ordering d v)) :
    Numbered (Leaves.ofQuery d q) (Read.statement d (q.setModifier key v) .columns) := by
  simp only [Query.rawFree, Bool.and_eq_true] at hr
  have hmodified := Read.statement_numbered (q := q.setModifier key v) hr.1.1 hr.1.2
    (Clause.countable_modified hc hk hg hh ho) .columns
  unfold Leaves.ofQuery at hmodified
  rwa [show (q.setModifier key v).conditions = Query.modified q.conditions key v from rfl,
    Clause.ofConditions_modified d q.conditions hk hm hh v] at hmodified

/-- Every statement makes one placeholder for each leaf. -/
theorem build_numbered (d : Dialect) {s : Statement} (hr : s.rawFree = true)
    (ho : s.ordersByColumns = true) : Numbered (Leaves.ofStatement d s) (s.build d) := by
  have hconditions : s.conditions?.all Value.rawFree = true := by
    cases s <;> simp_all [rawFree, conditions?, Query.rawFree]
  have hc := countable_conditions d hconditions ho
  cases s with
  | select q => exact query_numbered hr hc _
  | get q =>
    exact modified_numbered hr hc (by decide) (by decide) (by decide) (by decide)
      fun hkey => absurd hkey (by decide)
  | rand q =>
    exact modified_numbered hr hc (by decide) (by decide) (by decide) (by decide)
      fun _ => Clause.ordering_random d
  | probe q =>
    show Numbered (Leaves.ofQuery d q) (probeBuild d q)
    unfold probeBuild
    split
    · exact query_numbered hr hc .top
    · refine (query_numbered hr hc .one).map fun n sql h => ?_
      exact (h.cons_text (by decide)).append_text (by decide)
  | aggregate a q => exact query_numbered hr hc (.function a)
  | insert table rows => exact Write.insert_numbered table hr
  | update table data conditions =>
    exact Write.update_numbered table (Bool.and_eq_true_iff.1 hr).1 hc
  | delete table conditions => exact Write.delete_numbered table hc
  | replace table columns conditions => exact Write.replace_numbered table columns hc

/-- The placeholders of the text, read from left to right, are `:p0`, `:p1`, and so
on; the bindings have these keys in this order; and there are as many as the
descriptor has leaves. -/
theorem placeholders_are_the_leaves (c : Compiler) (hp : Name.IsPlain c.tablePrefix.toList)
    {s : Statement} (hr : s.rawFree = true) (ho : s.ordersByColumns = true) {out : Compiled}
    (h : s.compile c = .ok out) :
    Readable.keys out.sql = (List.range out.params.length).map placeholderKey ∧
      (Readable.keys out.sql).Nodup ∧
      out.sql.toList.count ':' = out.params.length ∧
      Entries.keys out.params = (List.range out.params.length).map placeholderKey ∧
      out.params.length = Leaves.ofStatement c.dialect s := by
  rw [compile_eq] at h
  obtain ⟨sql, bound, hrun, rfl⟩ := Compiler.compile_eq_ok.1 h
  obtain ⟨hfresh, hlength, hn⟩ := build_numbered c.dialect hr ho 0 sql bound hrun
  have hkeys := Binding.keys_params hfresh
  have hcount : (Binding.params bound).length = bound.length := by
    simpa [Entries.keys] using congrArg List.length hkeys
  have hplaceholders : sql.placeholders = List.range bound.length := by
    rw [hn.placeholders, hlength, List.range_eq_range']
  have hread : Readable.keys (sql.render c.tablePrefix) =
      (List.range bound.length).map placeholderKey := by
    rw [Sql.keys_render hp hn.avoids hn.spaced, hplaceholders]
  rw [hcount]
  refine ⟨hread, ?_, ?_, hkeys, hlength⟩
  · rw [hread]
    exact List.nodup_range.map placeholderKey_injective
  · rw [Sql.count_colon hp hn.avoids, hplaceholders, List.length_range]

/-- Entries of a log above a level, of two kinds or not seen yet. -/
def noisyEntries : Statement :=
  .delete "log" (some (.object [("level[>]", .int 3),
    ("OR", .object [("kind", .array [.string "a", .string "b"]), ("seen", .null)])]))

theorem noisyEntries_compile : noisyEntries.compile ⟨.sqlite, "x_"⟩ = .ok
    ⟨"DELETE FROM \"x_log\" WHERE \"level\" > :p0 AND (\"kind\" IN (:p1, :p2) OR \"seen\" IS NULL)",
      [(":p0", ⟨.int 3, .int⟩), (":p1", ⟨.string "a", .string⟩),
        (":p2", ⟨.string "b", .string⟩)]⟩ := by
  rfl

theorem noisyEntries_placeholders : ∃ out, noisyEntries.compile ⟨.sqlite, "x_"⟩ = .ok out ∧
    Readable.keys out.sql = (List.range 3).map placeholderKey ∧
    Entries.keys out.params = (List.range 3).map placeholderKey ∧
    Leaves.ofStatement .sqlite noisyEntries = 3 := by
  have hp : Name.IsPlain "x_".toList := by
    unfold Name.IsPlain
    decide
  obtain ⟨hread, -, -, hkeys, hleaves⟩ :=
    placeholders_are_the_leaves ⟨.sqlite, "x_"⟩ hp (s := noisyEntries) rfl rfl noisyEntries_compile
  exact ⟨_, noisyEntries_compile, hread, hkeys, hleaves.symm⟩

end Statement
end StructuredSql
