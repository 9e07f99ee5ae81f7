-- Computed columns, from the fragment under a key of the spec to the cell that the
-- projection reads. The SELECT list names the column by the whole key, the projection by
-- what stands behind the key's qualifier.
import StructuredSql.Proofs.Column.Parts
import StructuredSql.Proofs.Projection.Agreement

namespace StructuredSql

/-! ## The computed columns of a spec and of a shape -/

mutual

/-- The fragments under keys of maps, with their keys, in order. -/
def Value.computed : Value → List (String × Raw)
  | .array entries => itemsComputed entries
  | .object entries => entriesComputed entries
  | _ => []
termination_by structural v => v

def itemsComputed : List Value → List (String × Raw)
  | [] => []
  | v :: rest => v.computed ++ itemsComputed rest
termination_by structural entries => entries

def entriesComputed : List (String × Value) → List (String × Raw)
  | [] => []
  | (key, v) :: rest =>
    (match v with
    | .raw raw => [(key, raw)]
    | _ => v.computed) ++ entriesComputed rest
termination_by structural entries => entries

end

mutual

/-- The leaves that are computed by a fragment, in order. -/
def Node.computedLeaves : Node → List Leaf
  | .leaf l => if l.computed then [l] else []
  | .group _ children => computedLeavesOf children
  | .star => []
termination_by structural n => n

def computedLeavesOf : List Node → List Leaf
  | [] => []
  | n :: rest => n.computedLeaves ++ computedLeavesOf rest
termination_by structural nodes => nodes

end

def Shape.computedLeaves : Shape → List Leaf
  | .all => []
  | .single leaf => if leaf.computed then [leaf] else []
  | .rows nodes => computedLeavesOf nodes
  | .grouped _ nodes => computedLeavesOf nodes

theorem computedLeavesOf_append (a b : List Node) :
    computedLeavesOf (a ++ b) = computedLeavesOf a ++ computedLeavesOf b := by
  induction a with
  | nil => rfl
  | cons n a ih => simp [computedLeavesOf, ih]

namespace ColumnList

def Part.computed? : Part → Option (String × Raw)
  | computed key raw => some (key, raw)
  | _ => none

theorem frontParts_computed (marked : Bool) (entries : List Value) :
    (frontParts marked entries).filterMap Part.computed? = [] := by
  induction entries with
  | nil => rfl
  | cons v rest ih =>
    cases v with
    | string s =>
      rw [frontParts]
      split
      · rfl
      · exact ih
    | _ => exact ih

theorem filled_computed (ps : List Part) :
    (filled ps).filterMap Part.computed? = ps.filterMap Part.computed? := by
  cases ps <;> rfl

mutual

theorem parts_computed : (v : Value) → (parts v).filterMap Part.computed? = v.computed
  | .string s => rfl
  | .array entries => by
    rw [parts, Value.computed, filled_computed, List.filterMap_append, frontParts_computed,
      itemParts_computed false entries, List.nil_append]
  | .object entries => by
    rw [parts, Value.computed, filled_computed, entryParts_computed entries]
  | .null | .bool _ | .int _ | .float _ | .bytes _ | .raw _ => rfl
termination_by structural v => v

theorem itemParts_computed (marked : Bool) : (entries : List Value) →
    (itemParts marked entries).filterMap Part.computed? = itemsComputed entries
  | [] => rfl
  | v :: rest => by
    have hrest := fun marked => itemParts_computed marked rest
    have hnested : (parts v ++ itemParts marked rest).filterMap Part.computed? =
        v.computed ++ itemsComputed rest := by
      rw [List.filterMap_append, parts_computed v, hrest]
    cases v with
    | string s =>
      rw [itemParts, itemsComputed]
      split
      · exact hrest true
      · exact hrest marked
    | _ => exact hnested
termination_by structural entries => entries

theorem entryParts_computed : (entries : List (String × Value)) →
    (entryParts entries).filterMap Part.computed? = entriesComputed entries
  | [] => rfl
  | (key, v) :: rest => by
    have hrest := entryParts_computed rest
    have hnested : (parts v ++ entryParts rest).filterMap Part.computed? =
        v.computed ++ entriesComputed rest := by
      rw [List.filterMap_append, parts_computed v, hrest]
    cases v with
    | raw fragment => exact congrArg _ hrest
    | _ => exact hnested
termination_by structural entries => entries

end

theorem computed_of_group (key : String) {nested : Value} (h : nested.isContainer = true) :
    (Value.object [(key, nested)]).computed = nested.computed := by
  have hone : (Value.object [(key, nested)]).computed = nested.computed ++ [] := by
    cases nested with
    | raw fragment => cases h
    | _ => rfl
  rw [hone, List.append_nil]

theorem rootParts_computed (v : Value) :
    (rootParts v).filterMap Part.computed? = v.computed := by
  unfold rootParts
  split
  · rename_i key nested hgrouped
    obtain ⟨rfl, hcontainer⟩ := grouped?_eq_some hgrouped
    rw [computed_of_group key hcontainer]
    exact parts_computed nested
  · exact parts_computed v

/-! ## The projection of a spec that is written -/

/-- The leaf is that of the computed column under the key. -/
def Reads (entry : String × Raw) (leaf : Leaf) : Prop :=
  ∃ item, ColumnItem.parseKey entry.1 = .ok item ∧ leaf = .ofKey item

def Part.Writable (part : Part) : Prop := ∃ sql, part.Written sql

theorem ofSpec_of_textItem {s : String} {distinct : Bool} {sql : Sql}
    (h : textItem false s = .ok (distinct, sql)) :
    ∃ nodes, Node.ofSpec (.string s) = .ok nodes ∧ computedLeavesOf nodes = [] := by
  rcases textItem_eq_ok h with ⟨hstar, -⟩ | ⟨hstar, i, hi, -⟩
  · refine ⟨[.star], ?_, rfl⟩
    unfold Node.ofSpec
    exact if_pos hstar
  · refine ⟨[.leaf (.ofItem i)], ?_, rfl⟩
    have hno : s.toList.contains '*' ≠ true := by simpa [holdsStar] using hstar
    rw [Node.ofSpec, if_neg hno, hi]
    rfl

theorem writable_of_filled {ps : List Part} (h : ∀ p ∈ filled ps, p.Writable) :
    ∀ p ∈ ps, p.Writable := by
  intro p hp
  rw [filled_of_ne_nil (List.ne_nil_of_mem hp)] at h
  exact h p hp

/-- Whether the text goes to the front or stays, it is written, and so are the others. -/
theorem writable_rest {marked : Bool} {s : String} {rest : List Value}
    (h : ∀ p ∈ frontParts marked (.string s :: rest) ++ itemParts marked (.string s :: rest),
      p.Writable) : (∃ distinct, (Part.column distinct s).Writable) ∧
      ∃ marked', ∀ p ∈ frontParts marked' rest ++ itemParts marked' rest, p.Writable := by
  rw [frontParts, itemParts] at h
  cases hfirst : isMarked s && !marked with
  | true =>
    rw [hfirst, if_pos rfl, if_pos rfl] at h
    refine ⟨⟨true, h _ List.mem_cons_self⟩, true, ?_⟩
    rw [frontParts_marked]
    exact fun p hp => h p (List.mem_cons_of_mem _ hp)
  | false =>
    rw [hfirst, if_neg Bool.false_ne_true, if_neg Bool.false_ne_true] at h
    obtain ⟨hfront, hitems⟩ := List.forall_mem_append.1 h
    obtain ⟨hself, hrest⟩ := List.forall_mem_cons.1 hitems
    exact ⟨⟨false, hself⟩, marked, List.forall_mem_append.2 ⟨hfront, hrest⟩⟩

theorem ofItems_cons {v : Value} {rest : List Value} {nodes more : List Node}
    (hv : Node.ofSpec v = .ok nodes) (hrest : Node.ofItems rest = .ok more) :
    Node.ofItems (v :: rest) = .ok (nodes ++ more) := by
  simp [Node.ofItems, hv, hrest, bind, Except.bind, pure, Except.pure]

theorem reads_append {a b : List (String × Raw)} {nodes more : List Node}
    (ha : List.Forall₂ Reads a (computedLeavesOf nodes))
    (hb : List.Forall₂ Reads b (computedLeavesOf more)) :
    List.Forall₂ Reads (a ++ b) (computedLeavesOf (nodes ++ more)) := by
  rw [computedLeavesOf_append]
  exact List.rel_append ha hb

mutual

theorem spec_reads : (v : Value) → (∀ p ∈ parts v, p.Writable) →
    ∃ nodes, Node.ofSpec v = .ok nodes ∧
      List.Forall₂ Reads v.computed (computedLeavesOf nodes)
  | .string s, h => by
    obtain ⟨sql, body, hbody, -⟩ := h _ List.mem_cons_self
    obtain ⟨nodes, hnodes, hleaves⟩ := ofSpec_of_textItem hbody
    exact ⟨nodes, hnodes, hleaves ▸ .nil⟩
  | .array entries, h => items_read false entries (writable_of_filled h)
  | .object entries, h => entries_read entries (writable_of_filled h)
  | .null, _ | .bool _, _ | .int _, _ | .float _, _ | .bytes _, _ | .raw _, _ => ⟨[], rfl, .nil⟩
termination_by structural v => v

theorem items_read (marked : Bool) : (entries : List Value) →
    (∀ p ∈ frontParts marked entries ++ itemParts marked entries, p.Writable) →
    ∃ nodes, Node.ofItems entries = .ok nodes ∧
      List.Forall₂ Reads (itemsComputed entries) (computedLeavesOf nodes)
  | [], _ => ⟨[], rfl, .nil⟩
  | v :: rest, h => by
    have hothers := fun marked => items_read marked rest
    have hself := spec_reads v
    have hnested : (∀ p ∈ frontParts marked rest ++ (parts v ++ itemParts marked rest),
        p.Writable) → ∃ nodes, Node.ofItems (v :: rest) = .ok nodes ∧
          List.Forall₂ Reads (itemsComputed (v :: rest)) (computedLeavesOf nodes) := by
      intro hall
      obtain ⟨hfront, hall⟩ := List.forall_mem_append.1 hall
      obtain ⟨hparts, hitems⟩ := List.forall_mem_append.1 hall
      obtain ⟨nodes, hnodes, hreads⟩ := hself hparts
      obtain ⟨more, hmore, hreads'⟩ := hothers marked (List.forall_mem_append.2 ⟨hfront, hitems⟩)
      exact ⟨_, ofItems_cons hnodes hmore, reads_append hreads hreads'⟩
    cases v with
    | string s =>
      obtain ⟨⟨distinct, hwritable⟩, marked', hrest⟩ := writable_rest h
      obtain ⟨sql, body, hbody, -⟩ := hwritable
      obtain ⟨nodes, hnodes, hleaves⟩ := ofSpec_of_textItem hbody
      obtain ⟨more, hmore, hreads⟩ := hothers marked' hrest
      refine ⟨_, ofItems_cons hnodes hmore, ?_⟩
      rw [computedLeavesOf_append, hleaves]
      exact hreads
    | _ => exact hnested h
termination_by structural entries => entries

theorem entries_read : (entries : List (String × Value)) →
    (∀ p ∈ entryParts entries, p.Writable) →
    ∃ nodes, Node.ofFields entries = .ok nodes ∧
      List.Forall₂ Reads (entriesComputed entries) (computedLeavesOf nodes)
  | [], _ => ⟨[], rfl, .nil⟩
  | (key, v) :: rest, h => by
    have hothers := entries_read rest
    have hself := spec_reads v
    obtain ⟨hfirst, hrest⟩ := List.forall_mem_append.1 h
    obtain ⟨more, hmore, hreads'⟩ := hothers hrest
    have hgroup : v.isContainer = true → (∀ p ∈ parts v, p.Writable) →
        ∃ nodes, Node.ofFields ((key, v) :: rest) = .ok nodes ∧
          List.Forall₂ Reads (v.computed ++ entriesComputed rest) (computedLeavesOf nodes) := by
      intro hcontainer hparts
      obtain ⟨nodes, hnodes, hreads⟩ := hself hparts
      exact ⟨_, ofFields_cons key hcontainer rest hnodes hmore, List.rel_append hreads hreads'⟩
    cases v with
    | array entries => exact hgroup rfl hfirst
    | object entries => exact hgroup rfl hfirst
    | raw fragment =>
      obtain ⟨sql, item, body, hitem, -⟩ := hfirst _ List.mem_cons_self
      refine ⟨.leaf (.ofKey item) :: more, ?_, .cons ⟨item, hitem, rfl⟩ hreads'⟩
      simp [Node.ofFields, hitem, hmore, Except.map, bind, Except.bind, pure, Except.pure]
    | _ =>
      refine ⟨more, ?_, hreads'⟩
      simp [Node.ofFields, hmore, bind, Except.bind, pure, Except.pure]
termination_by structural entries => entries

end

theorem ofSpec_of_ungrouped {entries : Fields} (h : grouped? (.object entries) = none) :
    Shape.ofSpec (.object entries) = (Node.ofFields entries).map .rows := by
  match entries with
  | [] => rfl
  | e :: f :: rest => rfl
  | [(key, nested)] =>
    have hcontainer : ¬ nested.isContainer = true := fun hc => by simp [grouped?, hc] at h
    exact if_neg hcontainer

/-- A spec that is written has a projection, whose computed leaves are those of the spec. -/
theorem root_reads (v : Value) (h : ∀ p ∈ rootParts v, p.Writable) :
    ∃ shape, Shape.ofSpec v = .ok shape ∧ List.Forall₂ Reads v.computed shape.computedLeaves := by
  unfold rootParts at h
  cases hgrouped : grouped? v with
  | some e =>
    obtain ⟨key, nested⟩ := e
    obtain ⟨rfl, hcontainer⟩ := grouped?_eq_some hgrouped
    rw [hgrouped] at h
    obtain ⟨nodes, hnodes, hreads⟩ := spec_reads nested (List.forall_mem_cons.1 h).2
    have hshape : Shape.ofSpec (.object [(key, nested)]) =
        (Node.ofSpec nested).map (.grouped (afterLastPoint key)) := if_pos hcontainer
    refine ⟨.grouped (afterLastPoint key) nodes, by rw [hshape, hnodes]; rfl, ?_⟩
    rw [computed_of_group key hcontainer]
    exact hreads
  | none =>
    rw [hgrouped] at h
    cases v with
    | string s =>
      obtain ⟨sql, body, hbody, -⟩ := h _ List.mem_cons_self
      by_cases hstar : Shape.isStar s = true
      · exact ⟨.all, if_pos hstar, .nil⟩
      · rcases textItem_eq_ok hbody with ⟨-, -, hs, -⟩ | ⟨-, i, hi, -⟩
        · exact absurd hs hstar
        · exact ⟨.single (.ofItem i), by rw [Shape.ofSpec, if_neg hstar, hi]; rfl, .nil⟩
    | array entries =>
      obtain ⟨nodes, hnodes, hreads⟩ := spec_reads (.array entries) h
      have hitems : Node.ofItems entries = .ok nodes := hnodes
      exact ⟨.rows nodes, by rw [Shape.ofSpec, hitems]; rfl, hreads⟩
    | object entries =>
      obtain ⟨nodes, hnodes, hreads⟩ := spec_reads (.object entries) h
      have hfields : Node.ofFields entries = .ok nodes := hnodes
      exact ⟨.rows nodes, by rw [ofSpec_of_ungrouped hgrouped, hfields]; rfl, hreads⟩
    | _ => exact ⟨.all, rfl, .nil⟩

/-! ## What is written and what is read, column by column -/

/-- A computed column: the entry of the spec, the text of the SELECT list and the leaf of
the projection. -/
structure ComputedColumn where
  key : String
  raw : Raw
  sql : Sql
  leaf : Leaf

theorem parseKey_isPlain {key : String} {item : ColumnItem}
    (h : ColumnItem.parseKey key = .ok item) : item.column.IsPlain := by
  unfold ColumnItem.parseKey at h
  split at h
  · rename_i item' hitem
    cases h
    unfold ColumnItem.parseKey? at hitem
    dsimp only at hitem
    split at hitem
    · cases hitem
    · rename_i column rest hcolumn
      split at hitem
      · cases hitem
        exact ColumnName.take?_isPlain hcolumn
      · cases hitem
  · cases h

namespace ComputedColumn

/-- The column is the expanded fragment under a quoted name, which is the leaf's key. A key
with a qualifier gives a name of two parts. -/
def Agrees (tablePrefix : String) (column : ComputedColumn) : Prop :=
  ∃ item body, ColumnItem.parseKey column.key = .ok item ∧
    Marker.expand column.raw.sql = .ok body ∧ column.leaf = .ofKey item ∧
    Name.IsPlain column.leaf.key.toList ∧
    (item.column.qualifier = none → column.sql.render tablePrefix =
      body.render tablePrefix ++ " AS \"" ++ column.leaf.key ++ "\"") ∧
    ∀ table, item.column.qualifier = some table → column.sql.render tablePrefix =
      body.render tablePrefix ++ " AS \"" ++ tablePrefix ++ table ++ "\".\"" ++
        column.leaf.key ++ "\""

theorem agrees_of_written (tablePrefix : String) {key : String} {raw : Raw} {sql : Sql}
    {leaf : Leaf} (hwritten : (Part.computed key raw).Written sql)
    (hreads : Reads (key, raw) leaf) : Agrees tablePrefix ⟨key, raw, sql, leaf⟩ := by
  obtain ⟨item, body, hitem, hbody, rfl⟩ := hwritten
  obtain ⟨item', hitem', rfl⟩ := hreads
  cases hitem.symm.trans hitem'
  refine ⟨item, body, hitem, hbody, rfl, (parseKey_isPlain hitem).name, ?_, ?_⟩
  · intro hq
    refine String.toList_injective ?_
    simp [ColumnName.sql, hq, Sql.render, Piece.render, Leaf.ofKey]
  · intro table hq
    refine String.toList_injective ?_
    simp [ColumnName.sql, hq, Sql.render, Piece.render, Leaf.ofKey]

end ComputedColumn

/-- The computed columns of a list that is written and projected. -/
theorem computed_columns (tablePrefix : String) {ps : List Part} {sqls : List Sql}
    (h : List.Forall₂ Part.Written ps sqls) {leaves : List Leaf}
    (hreads : List.Forall₂ Reads (ps.filterMap Part.computed?) leaves) :
    ∃ columns : List ComputedColumn,
      columns.map (fun c => (c.key, c.raw)) = ps.filterMap Part.computed? ∧
      (columns.map ComputedColumn.sql).Sublist sqls ∧
      columns.map ComputedColumn.leaf = leaves ∧ ∀ c ∈ columns, c.Agrees tablePrefix := by
  induction h generalizing leaves with
  | nil =>
    cases hreads
    exact ⟨[], rfl, .slnil, rfl, by simp⟩
  | @cons part sql ps sqls hpart _ ih =>
    cases part with
    | computed key raw =>
      cases hreads with
      | @cons _ leaf _ leaves hread hreads =>
        obtain ⟨columns, hentries, hsqls, hleaves, hall⟩ := ih hreads
        refine ⟨⟨key, raw, sql, leaf⟩ :: columns, congrArg _ hentries, hsqls.cons_cons sql,
          congrArg _ hleaves, ?_⟩
        have hself := ComputedColumn.agrees_of_written tablePrefix hpart hread
        exact List.forall_mem_cons.2 ⟨hself, hall⟩
    | _ =>
      obtain ⟨columns, hentries, hsqls, hleaves, hall⟩ := ih hreads
      exact ⟨columns, hentries, hsqls.cons sql, hleaves, hall⟩

theorem writable_of_forall₂ {ps : List Part} {sqls : List Sql}
    (h : List.Forall₂ Part.Written ps sqls) : ∀ p ∈ ps, p.Writable := by
  induction h with
  | nil => simp
  | cons hpart _ ih => exact List.forall_mem_cons.2 ⟨⟨_, hpart⟩, ih⟩

end ColumnList

/-! ## The whole statement -/

namespace Read

open ColumnList

/-- A query that compiles has a projection, and its fragments under keys, the leaves that
the projection computes and the texts that the SELECT list has for them correspond one to
one: each text is the expanded fragment under the name that the leaf reads. That name is the
whole alias unless the key of the fragment is qualified. -/
theorem computed_columns_read_back (c : Compiler) {q : Query} {compiled : Compiled}
    (h : c.select q = .ok compiled) :
    ∃ shape, Shape.ofSpec (selected q) = .ok shape ∧ ∃ sqls : List Sql, ∃ rest : String,
      List.Forall₂ Part.Written (rootParts (selected q)) sqls ∧
      compiled.sql = "SELECT " ++ around q ((comma sqls).render c.tablePrefix) ++ " FROM " ++ rest ∧
      ∃ columns : List ComputedColumn,
        columns.map (fun column => (column.key, column.raw)) = (selected q).computed ∧
        (columns.map ComputedColumn.sql).Sublist sqls ∧
        columns.map ComputedColumn.leaf = shape.computedLeaves ∧
        ∀ column ∈ columns, column.Agrees c.tablePrefix := by
  obtain ⟨list, rest, ⟨-, sqls, hsqls, rfl⟩, hsql⟩ := select_writes h
  obtain ⟨shape, hshape, hreads⟩ := root_reads (selected q) (writable_of_forall₂ hsqls)
  rw [← rootParts_computed] at hreads
  obtain ⟨columns, hentries, hsublist, hleaves, hall⟩ :=
    computed_columns c.tablePrefix hsqls hreads
  rw [rootParts_computed] at hentries
  exact ⟨shape, hshape, sqls, rest, hsqls, hsql, columns, hentries, hsublist, hleaves, hall⟩

/-- A count beside a group that holds a sum. -/
def orderTotals : Query :=
  (Query.ofTable "order").withColumns (.array [.string "day",
    .object [("orders [Int]", .raw (Fragment.plain "COUNT(*)")),
      ("money", .object [("total", .raw (Fragment.plain "SUM(<price>)"))])]])

theorem orderTotals_select : Compiler.select ⟨.pgsql, "x_"⟩ orderTotals = .ok
    ⟨"SELECT \"day\",COUNT(*) AS \"orders\",SUM(\"price\") AS \"total\" FROM \"x_order\"", []⟩ := by
  rfl

theorem orderTotals_read_back : ∃ compiled,
    Compiler.select ⟨.pgsql, "x_"⟩ orderTotals = .ok compiled ∧ ∃ sqls : List Sql, ∃ rest : String,
      compiled.sql = "SELECT " ++ (comma sqls).render "x_" ++ " FROM " ++ rest ∧
      ∃ columns : List ComputedColumn, columns.map ComputedColumn.key = ["orders [Int]", "total"] ∧
        (columns.map ComputedColumn.sql).Sublist sqls ∧
        columns.map ComputedColumn.leaf =
          [⟨"orders", some .int, true⟩, ⟨"total", none, true⟩] ∧
        ∀ column ∈ columns, column.Agrees "x_" := by
  obtain ⟨shape, hshape, sqls, rest, -, hsql, columns, hentries, hsublist, hleaves, hall⟩ :=
    computed_columns_read_back ⟨.pgsql, "x_"⟩ orderTotals_select
  have hrows : Shape.ofSpec (selected orderTotals) = .ok (.rows [.leaf ⟨"day", none, false⟩,
      .leaf ⟨"orders", some .int, true⟩, .group "money" [.leaf ⟨"total", none, true⟩]]) := rfl
  rw [hrows] at hshape
  cases hshape
  refine ⟨_, orderTotals_select, sqls, rest, hsql, columns, ?_, hsublist, hleaves, hall⟩
  have hkeys := congrArg (List.map Prod.fst) hentries
  rw [List.map_map] at hkeys
  exact hkeys

/-- A qualified key gives an alias of two parts, and no one name. The projection reads the
last part. -/
theorem qualified_key_gives_two_part_alias :
    Compiler.select ⟨.sqlite, ""⟩ ((Query.ofTable "t").withColumns
        (.object [("t.total", .raw (Fragment.plain "COUNT(*)"))])) =
      .ok ⟨"SELECT COUNT(*) AS \"t\".\"total\" FROM \"t\"", []⟩ ∧
    Shape.ofSpec (.object [("t.total", .raw (Fragment.plain "COUNT(*)"))]) =
      .ok (.rows [.leaf ⟨"total", none, true⟩]) ∧
    ∀ name : String, Name.IsPlain name.toList →
      "COUNT(*) AS \"t\".\"total\"" ≠ "COUNT(*) AS \"" ++ name ++ "\"" := by
  refine ⟨rfl, rfl, fun name hplain heq => ?_⟩
  have hchars := congrArg String.toList heq
  rw [String.toList_append, String.toList_append, List.append_assoc] at hchars
  have halias : "COUNT(*) AS \"".toList ++ ("t\".\"total".toList ++ ['"']) =
      "COUNT(*) AS \"".toList ++ (name.toList ++ ['"']) := hchars
  have hquote : '"' ∈ name.toList := by
    rw [← List.append_cancel_right (List.append_cancel_left halias)]
    decide
  exact quote_notMem_of_isPlain hplain hquote

end Read
end StructuredSql
