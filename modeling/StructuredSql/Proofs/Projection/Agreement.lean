-- A SELECT and the projection of its rows are made from one column spec by two walks over
-- it. Whenever the first walk succeeds so does the second, and the names that the SELECT
-- lists are the keys that the projection reads, though a column marked as distinct may
-- have gone to the front.
import StructuredSql.Proofs.Build.Results
import StructuredSql.Proofs.Column.Listed
import StructuredSql.Proofs.Projection.Rows
import StructuredSql.Proofs.Statement.Basic
import StructuredSql.Proofs.Value.Everywhere

namespace StructuredSql.ColumnList

open Build (Makes)

/-! ## Lists and their names -/

/-- The text lists plain items, and their columns are reported under the names. -/
def Lists (sql : Sql) (names : List String) : Prop :=
  ∃ items : List Listed, items ≠ [] ∧ (∀ item ∈ items, item.IsPlain) ∧ sql = listed items ∧
    names.Perm (items.filterMap Listed.resultName?)

/-- Each of the texts lists items, and these are the names of all of them. -/
def ListsAll (sqls : List Sql) (names : List String) : Prop :=
  ∃ parts : List (List Listed), (∀ items ∈ parts, items ≠ []) ∧
    (∀ item ∈ parts.flatten, item.IsPlain) ∧ sqls = parts.map listed ∧
    names.Perm (parts.flatten.filterMap Listed.resultName?)

theorem lists_item (item : Listed) (h : item.IsPlain) :
    Lists item.sql item.resultName?.toList := by
  refine ⟨[item], by simp, by simpa using h, rfl, ?_⟩
  cases hname : item.resultName? with
  | none => simp [hname]
  | some name => simp [hname]

theorem Lists.append {first second : Sql} {a b : List String} (ha : Lists first a)
    (hb : Lists second b) : Lists (first ++ .text "," :: second) (a ++ b) := by
  obtain ⟨items, hne, hplain, rfl, hnames⟩ := ha
  obtain ⟨more, hne', hplain', rfl, hnames'⟩ := hb
  refine ⟨items ++ more, by simp [hne], ?_, (listed_append hne hne').symm, ?_⟩
  · exact List.forall_mem_append.2 ⟨hplain, hplain'⟩
  · rw [List.filterMap_append]
    exact hnames.append hnames'

theorem listsAll_nil : ListsAll [] [] := ⟨[], by simp, by simp, rfl, by simp⟩

/-- One more text, wherever it goes. -/
theorem ListsAll.insert (before : List Sql) {after : List Sql} {sql : Sql} {a b : List String}
    (ha : Lists sql a) (hb : ListsAll (before ++ after) b) :
    ListsAll (before ++ sql :: after) (a ++ b) := by
  obtain ⟨items, hne, hplain, rfl, hnames⟩ := ha
  obtain ⟨parts, hparts, hplains, hsqls, hall⟩ := hb
  obtain ⟨front, back, rfl, rfl, rfl⟩ := List.append_eq_map_iff.1 hsqls
  refine ⟨front ++ items :: back, ?_, ?_, by simp, ?_⟩
  · simp only [List.forall_mem_append, List.forall_mem_cons] at hparts ⊢
    exact ⟨hparts.1, hne, hparts.2⟩
  · simp only [List.flatten_append, List.flatten_cons, List.forall_mem_append] at hplains ⊢
    exact ⟨hplains.1, hplain, hplains.2⟩
  · have hmoved : (front ++ items :: back).Perm (items :: (front ++ back)) := List.perm_middle
    refine .trans ?_ (hmoved.symm.flatten.filterMap _)
    rw [List.flatten_cons, List.filterMap_append]
    exact hnames.append hall

/-- An empty list is one item with nothing in it. -/
theorem ListsAll.comma {sqls : List Sql} {names : List String} (h : ListsAll sqls names) :
    Lists (ColumnList.comma sqls) names := by
  obtain ⟨parts, hparts, hplain, rfl, hnames⟩ := h
  by_cases hempty : parts = []
  · subst hempty
    exact ⟨[.blank], by simp, by simp [Listed.IsPlain], rfl, hnames⟩
  · refine ⟨parts.flatten, ?_, hplain, comma_listed hempty hparts, hnames⟩
    obtain ⟨items, rest, rfl⟩ := List.exists_cons_of_ne_nil hempty
    simpa using fun hitems => absurd hitems (hparts items List.mem_cons_self)

/-! ## Items that are texts -/

theorem star_eq_ok {s : String} {sql : Sql} (h : star s = .ok sql) :
    ∃ table?, (Listed.star table?).IsPlain ∧ sql = (Listed.star table?).sql ∧
      Shape.isStar s = true := by
  unfold star at h
  split at h
  · rename_i hs
    cases h
    exact ⟨none, by simp [Listed.IsPlain], rfl, by simp [Shape.isStar, hs]⟩
  · split at h
    · rename_i table htable
      cases ht : tableSql table with
      | error fault => simp [ht, Except.map] at h
      | ok t =>
        simp only [ht, Except.map, Except.ok.injEq] at h
        obtain ⟨hname, rfl⟩ := tableSql_eq_ok ht
        refine ⟨some table, by simpa [Listed.IsPlain] using Name.isPlain_of_isName hname,
          h.symm, ?_⟩
        unfold starredTable? at htable
        split at htable
        · rename_i hreverse
          simp [Shape.isStar, hreverse]
        · cases htable
    · cases h

theorem parse_eq_ok {s : String} {i : ColumnItem} (h : ColumnItem.parse s = .ok i) :
    (Listed.column false i.column i.alias?).IsPlain := by
  unfold ColumnItem.parse at h
  split at h
  · rename_i i' hi
    cases h
    exact ColumnItem.parse?_isPlain hi
  · cases h

/-- An item is a star, which the projection takes for one too, or a column under the key
of its leaf. -/
theorem textItem_eq_ok {joining : Bool} {s : String} {distinct : Bool} {sql : Sql}
    (h : textItem joining s = .ok (distinct, sql)) :
    (holdsStar s = true ∧ distinct = false ∧ Shape.isStar s = true ∧
      ∃ table?, (Listed.star table?).IsPlain ∧ sql = (Listed.star table?).sql) ∨
    (holdsStar s = false ∧ ∃ i, ColumnItem.parse s = .ok i ∧ sql = i.sql) := by
  unfold textItem at h
  split at h
  · rename_i hstar
    split at h
    · cases h
    · cases hs : star s with
      | error fault => simp [hs, Except.map] at h
      | ok sql' =>
        simp only [hs, Except.map, Except.ok.injEq, Prod.mk.injEq] at h
        obtain ⟨rfl, rfl⟩ := h
        obtain ⟨table?, hplain, hsql, hisStar⟩ := star_eq_ok hs
        exact Or.inl ⟨hstar, rfl, hisStar, table?, hplain, hsql⟩
  · rename_i hstar
    cases hi : ColumnItem.parse s with
    | error fault => simp [hi, Except.map] at h
    | ok i =>
      simp only [hi, Except.map, Except.ok.injEq, Prod.mk.injEq] at h
      exact Or.inr ⟨by simpa using hstar, i, rfl, h.2.symm⟩

theorem lists_column {i : ColumnItem} (h : (Listed.column false i.column i.alias?).IsPlain) :
    Lists i.sql [i.resultKey] ∧ Lists (.text "DISTINCT " :: i.sql) [i.resultKey] := by
  have hsql : i.sql = i.column.sql ++ Listed.aliasSql i.alias? := by
    unfold ColumnItem.sql
    cases i.alias? with
    | none => simp [Listed.aliasSql]
    | some a => rfl
  rw [hsql]
  exact ⟨lists_item (.column false i.column i.alias?) h,
    lists_item (.column true i.column i.alias?) h⟩

/-- What the item is given as, with its mark and without, lists what its node reads. -/
theorem textItem_agrees {joining : Bool} {s : String} {distinct : Bool} {sql : Sql}
    (h : textItem joining s = .ok (distinct, sql)) :
    ∃ nodes, Node.ofSpec (.string s) = .ok nodes ∧ Lists sql (Node.keysAll nodes) ∧
      (distinct = true → Lists (.text "DISTINCT " :: sql) (Node.keysAll nodes)) := by
  rcases textItem_eq_ok h with ⟨hstar, rfl, -, table?, hplain, rfl⟩ | ⟨hstar, i, hi, rfl⟩
  · refine ⟨[.star], ?_, lists_item _ hplain, by simp⟩
    unfold Node.ofSpec
    exact if_pos hstar
  · obtain ⟨hlists, hdistinct⟩ := lists_column (parse_eq_ok hi)
    refine ⟨[.leaf (.ofItem i)], ?_, hlists, fun _ => hdistinct⟩
    have hno : s.toList.contains '*' ≠ true := by simpa [holdsStar] using hstar
    rw [Node.ofSpec, if_neg hno, hi]
    rfl

/-! ## The two walks -/

/-- The walk of the SELECT succeeds only if that of the projection does, and then lists
the keys of its nodes. -/
def Agrees (x : Build Sql) (nodes : Except Fault (List Node)) : Prop :=
  Makes x fun sql => ∃ ns, nodes = .ok ns ∧ Lists sql (Node.keysAll ns)

/-- As the first item marked as distinct goes to the front, no other may be there. -/
def ItemsAgree (marked : Bool) (x : Build Items) (nodes : Except Fault (List Node)) : Prop :=
  Makes x fun items => (marked = true → items.front = none) ∧
    ∃ ns, nodes = .ok ns ∧ ListsAll items.all (Node.keysAll ns)

theorem itemsAgree_cons {item : Build (Bool × Sql)} {others : Bool → Build Items}
    {marked : Bool} {first rest : Except Fault (List Node)}
    (hitem : Makes item fun r => ∃ ns, first = .ok ns ∧ Lists r.2 (Node.keysAll ns) ∧
      (r.1 = true → marked = false ∧ Lists (.text "DISTINCT " :: r.2) (Node.keysAll ns)))
    (hothers : ∀ marked, ItemsAgree marked (others marked) rest) :
    ItemsAgree marked (do
      let (distinct, sql) ← item
      let others ← others (marked || distinct)
      return others.add distinct sql) (do
      let nodes ← first
      return nodes ++ (← rest)) := by
  refine hitem.bind ?_
  rintro ⟨distinct, sql⟩ ⟨ns, rfl, hsql, hdistinct⟩
  refine (hothers (marked || distinct)).map ?_
  rintro items ⟨hfront, more, rfl, hitems⟩
  have hnodes : Node.keysAll ns ++ Node.keysAll more = Node.keysAll (ns ++ more) :=
    (Node.keysAll_append ns more).symm
  cases distinct with
  | true =>
    obtain ⟨rfl, hmarked⟩ := hdistinct rfl
    have hnone : items.front = none := hfront rfl
    rw [Items.all, hnone] at hitems
    exact ⟨by simp, ns ++ more, rfl, hnodes ▸ ListsAll.insert [] hmarked hitems⟩
  | false =>
    refine ⟨fun hm => hfront (by simpa using hm), ns ++ more, rfl, ?_⟩
    exact hnodes ▸ ListsAll.insert items.front.toList hsql hitems

theorem lists_alone {distinct : Bool} {sql : Sql} {names : List String} (h : Lists sql names)
    (hdistinct : distinct = true → Lists (.text "DISTINCT " :: sql) names) :
    Lists (comma (Items.add distinct sql ⟨none, []⟩).all) names := by
  cases distinct with
  | false => exact h
  | true => exact hdistinct rfl

/-- Below the root a map is the list of its entries, also when it has only one. -/
theorem spec_object (joining : Bool) (entries : Fields) :
    spec false joining (.object entries) = (do return comma (← fields joining entries)) := by
  match entries with
  | [] => rfl
  | [(key, nested)] => rfl
  | e :: f :: rest => rfl

/-- An entry of a map without fragments is a nested spec, or it is refused. -/
theorem fields_cons (joining : Bool) (key : String) {v : Value} (h : v.rawFree = true)
    (rest : Fields) : ∃ first : Build Sql,
      fields joining ((key, v) :: rest) = Build.cons first (fields joining rest) ∧
      (v.isContainer = true ∧ first = spec false joining v ∨
        ∃ fault, first = Build.fail fault) := by
  cases v with
  | array items => exact ⟨_, rfl, Or.inl ⟨rfl, rfl⟩⟩
  | object fields => exact ⟨_, rfl, Or.inl ⟨rfl, rfl⟩⟩
  | raw fragment => cases h
  | _ => exact ⟨_, rfl, Or.inr ⟨_, rfl⟩⟩

/-- Around a nested spec the projection makes a group. -/
theorem ofFields_cons (key : String) {v : Value} (h : v.isContainer = true) (rest : Fields)
    {children others : List Node} (hv : Node.ofSpec v = .ok children)
    (hrest : Node.ofFields rest = .ok others) :
    Node.ofFields ((key, v) :: rest) = .ok (.group key children :: others) := by
  cases v with
  | array items => simp [Node.ofFields, hv, hrest, bind, Except.bind, pure, Except.pure]
  | object fields => simp [Node.ofFields, hv, hrest, bind, Except.bind, pure, Except.pure]
  | _ => cases h

mutual

theorem spec_agrees (joining : Bool) : (v : Value) → v.rawFree = true →
    Agrees (spec false joining v) (Node.ofSpec v)
  | .string s, _ => by
    unfold spec
    split
    · rename_i hs
      subst hs
      exact Build.makes_pure ⟨[.star], rfl, lists_item (.star none) (by simp [Listed.IsPlain])⟩
    · refine Build.makes_read fun r hr => Build.makes_pure ?_
      obtain ⟨ns, hns, hlists, hdistinct⟩ := textItem_agrees hr
      exact ⟨ns, hns, lists_alone hlists hdistinct⟩
  | .array entries, h => by
    refine (items_agree joining false entries h).map ?_
    rintro items ⟨-, ns, hns, hitems⟩
    exact ⟨ns, hns, hitems.comma⟩
  | .object entries, h => by
    rw [spec_object]
    refine (fields_agree joining entries h).map ?_
    rintro sqls ⟨ns, hns, hsqls⟩
    exact ⟨ns, hns, hsqls.comma⟩
  | .raw _, h => by cases h
  | .null, _ | .bool _, _ | .int _, _ | .float _, _ | .bytes _, _ => Build.makes_fail
termination_by structural v => v

theorem items_agree (joining marked : Bool) : (vs : List Value) → itemsRawFree vs = true →
    ItemsAgree marked (items joining marked vs) (Node.ofItems vs)
  | [], _ => Build.makes_pure ⟨fun _ => rfl, [], rfl, listsAll_nil⟩
  | v :: rest, h => by
    obtain ⟨hv, hrest⟩ := Bool.and_eq_true_iff.1 h
    refine itemsAgree_cons ?_ fun marked => items_agree joining marked rest hrest
    have hspec := (spec_agrees joining v hv).map (f := fun sql => (false, sql))
      (Q := fun r => ∃ ns, Node.ofSpec v = .ok ns ∧ Lists r.2 (Node.keysAll ns) ∧
        (r.1 = true → marked = false ∧ Lists (.text "DISTINCT " :: r.2) (Node.keysAll ns)))
      fun sql ⟨ns, hns, hsql⟩ => ⟨ns, hns, hsql, by simp⟩
    split
    · refine Build.makes_read fun r hr => Build.makes_pure ?_
      obtain ⟨ns, hns, hlists, hdistinct⟩ := textItem_agrees hr
      refine ⟨ns, hns, hlists, fun hm => ?_⟩
      obtain ⟨hd, hmarked⟩ : r.1 = true ∧ marked = false := by simpa using hm
      exact ⟨hmarked, hdistinct hd⟩
    · cases hv
    · exact hspec
    · exact hspec
    · exact Build.makes_fail
termination_by structural vs => vs

theorem fields_agree (joining : Bool) : (entries : List (String × Value)) →
    fieldsRawFree entries = true → Makes (fields joining entries) fun sqls =>
      ∃ ns, Node.ofFields entries = .ok ns ∧ ListsAll sqls (Node.keysAll ns)
  | [], _ => Build.makes_pure ⟨[], rfl, listsAll_nil⟩
  | (key, v) :: rest, h => by
    obtain ⟨hv, hrest⟩ := Bool.and_eq_true_iff.1 h
    have hspec := spec_agrees joining v hv
    have hothers := fields_agree joining rest hrest
    obtain ⟨first, hfields, ⟨hcontainer, rfl⟩ | ⟨fault, rfl⟩⟩ := fields_cons joining key hv rest
    · rw [hfields]
      refine hspec.bind ?_
      rintro sql ⟨children, hchildren, hsql⟩
      refine hothers.map ?_
      rintro sqls ⟨more, hmore, hsqls⟩
      refine ⟨_, ofFields_cons key hcontainer rest hchildren hmore, ?_⟩
      exact ListsAll.insert [] hsql hsqls
    · rw [hfields]
      exact Build.Makes.bind Build.makes_fail fun _ h => False.elim h
termination_by structural entries => entries

end

/-! ## The root of a spec -/

/-- The key that rows are grouped by is listed first, under what stands behind its last
point. -/
theorem lists_index {key : String} {sql : Sql} (h : columnSql key = .ok sql) :
    Lists sql [afterLastPoint key] := by
  obtain ⟨column, hcolumn, rfl⟩ := columnSql_eq_ok h
  have hplain := columnName_isPlain hcolumn
  unfold columnName at hcolumn
  split at hcolumn
  · rename_i column' hread
    cases hcolumn
    obtain ⟨hnamed, rfl⟩ := ColumnName.ofText?_eq_some_iff.1 hread
    rw [ColumnName.afterLastPoint_text hnamed]
    simpa [Listed.sql, Listed.distinctSql, Listed.aliasSql, Listed.resultName?] using
      lists_item (.column false column none) ⟨hplain, by simp⟩
  · cases hcolumn

/-- The projection of the spec can be made, and unless it passes rows through, the text
lists its keys. -/
def RootAgrees (x : Build Sql) (v : Value) : Prop :=
  Makes x fun sql => ∃ s, Shape.ofSpec v = .ok s ∧ ∃ names, Lists sql names ∧
    (¬ v.PassesThrough → names = s.keys)

theorem holdsStar_of_isStar {s : String} (h : Shape.isStar s = true) : holdsStar s = true := by
  have hmem : '*' ∈ s.toList := by
    simp only [Shape.isStar, Bool.or_eq_true, decide_eq_true_eq] at h
    rcases h with rfl | h
    · decide
    · split at h
      · rename_i hreverse
        rw [← List.mem_reverse, hreverse]
        exact List.mem_cons_self
      · cases h
  simpa [holdsStar] using hmem

/-- At the root a column stands for itself, in each row one cell. -/
theorem textItem_root {joining : Bool} {s : String} {distinct : Bool} {sql : Sql}
    (h : textItem joining s = .ok (distinct, sql)) :
    ∃ shape, Shape.ofSpec (.string s) = .ok shape ∧
      ∃ names, Lists (comma (Items.add distinct sql ⟨none, []⟩).all) names ∧
        (¬ Value.PassesThrough (.string s) → names = shape.keys) := by
  rcases textItem_eq_ok h with ⟨-, rfl, hstar, table?, hplain, rfl⟩ | ⟨hno, i, hi, rfl⟩
  · exact ⟨.all, if_pos hstar, _, lists_item _ hplain,
      fun hnames => absurd (Shape.isStar_iff.1 hstar) hnames⟩
  · obtain ⟨hlists, hdistinct⟩ := lists_column (parse_eq_ok hi)
    have hstar : ¬ Shape.isStar s = true := fun hs => by
      rw [holdsStar_of_isStar hs] at hno
      cases hno
    refine ⟨.single (.ofItem i), ?_, _, lists_alone hlists fun _ => hdistinct, fun _ => rfl⟩
    rw [Shape.ofSpec, if_neg hstar, hi]
    rfl

theorem fields_root (joining : Bool) {entries : Fields} (h : fieldsRawFree entries = true)
    (hshape : Shape.ofSpec (.object entries) = (Node.ofFields entries).map .rows) :
    RootAgrees (do return comma (← fields joining entries)) (.object entries) := by
  refine (fields_agree joining entries h).map ?_
  rintro sqls ⟨ns, hns, hsqls⟩
  exact ⟨.rows ns, by rw [hshape, hns]; rfl, _, hsqls.comma, fun _ => rfl⟩

theorem root_agrees (joining : Bool) {v : Value} (h : v.rawFree = true) :
    RootAgrees (spec true joining v) v := by
  cases v with
  | string s =>
    unfold spec
    split
    · rename_i hs
      subst hs
      exact Build.makes_pure ⟨.all, rfl, _, lists_item (.star none) (by simp [Listed.IsPlain]),
        fun hnames => absurd (Or.inl rfl) hnames⟩
    · exact Build.makes_read fun r hr => Build.makes_pure (textItem_root hr)
  | array entries =>
    refine (items_agree joining false entries h).map ?_
    rintro items ⟨-, ns, hns, hitems⟩
    exact ⟨.rows ns, by rw [Shape.ofSpec, hns]; rfl, _, hitems.comma, fun _ => rfl⟩
  | object entries =>
    rcases entries with _ | ⟨⟨key, nested⟩, _ | ⟨f, rest⟩⟩
    · exact fields_root joining h rfl
    · unfold spec
      split
      · rename_i hcontainer
        have hshape : Shape.ofSpec (.object [(key, nested)]) =
            (Node.ofSpec nested).map (.grouped (afterLastPoint key)) := if_pos hcontainer
        refine Build.makes_read fun index hindex => ?_
        have hnested := spec_agrees joining nested (fieldsRawFree_iff.1 h _ List.mem_cons_self)
        refine hnested.map ?_
        rintro sql ⟨ns, hns, hsql⟩
        refine ⟨.grouped (afterLastPoint key) ns, ?_, _, (lists_index hindex).append hsql,
          fun _ => rfl⟩
        rw [hshape, hns]
        rfl
      · rename_i hcontainer
        exact fields_root joining h (if_neg hcontainer)
    · exact fields_root joining h rfl
  | raw fragment => cases h
  | _ => exact Build.makes_fail

end StructuredSql.ColumnList

/-! ## The whole statement -/

namespace StructuredSql.Read

open ColumnList (Listed listed)

/-- What a query without aggregate selects stands between SELECT and FROM. -/
theorem statement_columns {d : Dialect} {q : Query} {n : Nat} {sql : Sql}
    {bound : List Binding} (h : statement d q .columns n = .ok (sql, bound)) :
    ∃ joining selected, ∃ rest : Sql, ∃ m more,
      ColumnList.spec true joining q.columnSpec m = .ok (selected, more) ∧
      sql = .text "SELECT " :: (selected ++ .text " FROM " :: rest) := by
  obtain ⟨table, _, _, _, hjoins, _⟩ := Build.bind_eq_ok.1 h
  obtain ⟨⟨joined, joining⟩, _, _, _, hhead, _⟩ := Build.bind_eq_ok.1 hjoins
  obtain ⟨selected, _, _, hselected, hclauses, _⟩ := Build.bind_eq_ok.1 hhead
  obtain ⟨clauses, _, _, _, hsql, _⟩ := Build.bind_eq_ok.1 hclauses
  obtain ⟨rfl, _⟩ := Build.pure_eq_ok.1 hsql
  exact ⟨joining, selected, _, _, _, hselected, rfl⟩

/-- A query without aggregate whose column spec holds no fragment: when it compiles, its
rows have a projection, which gives them as they come exactly when the spec names no column
of its own. What stands between SELECT and FROM is a list of items with plain names. If the
spec names columns, the items report them under the keys that the projection reads, each as
often; but for stars, the projection reads nothing else. The names can be read off the text
when the prefix holds no double quote. -/
theorem selection_and_projection_agree (c : Compiler) {q : Query} {compiled : Compiled}
    (haggregate : q.aggregate = none) (hraw : q.columnSpec.rawFree = true)
    (h : c.select q = .ok compiled) :
    ∃ shape, Shape.ofSpec q.columnSpec = .ok shape ∧
      (shape.isPassThrough = true ↔ q.columnSpec.PassesThrough) ∧
      (shape.starFree = true → ∀ table table', List.Forall₂ (AgreeOn shape.keys) table table' →
        shape.result table = shape.result table') ∧
      ∃ items : List Listed, ∃ rest : String,
        compiled.sql = "SELECT " ++ (listed items).render c.tablePrefix ++ " FROM " ++ rest ∧
        (∀ item ∈ items, item.IsPlain) ∧
        (¬ q.columnSpec.PassesThrough →
          shape.keys.Perm (items.filterMap Listed.resultName?)) ∧
        ('"' ∉ c.tablePrefix.toList →
          ColumnList.resultNames ((listed items).render c.tablePrefix) =
            items.filterMap Listed.resultName?) := by
  have hhead : selectHead q = .columns := by rw [selectHead, haggregate]
  unfold Compiler.select at h
  rw [hhead] at h
  obtain ⟨sql, bound, hrun, rfl⟩ := Compiler.compile_eq_ok.1 h
  obtain ⟨joining, selected, rest, m, more, hselected, rfl⟩ := statement_columns hrun
  obtain ⟨shape, hshape, names, ⟨items, hne, hplain, rfl, hnames⟩, hkeys⟩ :=
    ColumnList.root_agrees joining hraw m selected more hselected
  refine ⟨shape, hshape, Shape.isPassThrough_iff hshape,
    fun hstars table table' hagree => Shape.result_congr hstars hagree,
    items, Sql.render c.tablePrefix rest, ?_, hplain, ?_, ?_⟩
  · have hchars : Sql.chars c.tablePrefix
        (.text "SELECT " :: (listed items ++ .text " FROM " :: rest)) =
          "SELECT ".toList ++ (Sql.chars c.tablePrefix (listed items) ++
            (" FROM ".toList ++ Sql.chars c.tablePrefix rest)) := by simp
    refine String.toList_injective (hchars.trans ?_)
    simp [Sql.chars]
  · intro hnamed
    exact hkeys hnamed ▸ hnames
  · exact fun hpre => ColumnList.resultNames_listed hpre hne hplain

/-- Two columns and a group of two more. The column marked as distinct comes second. -/
def postTexts : Query :=
  { Query.ofTable "post" with columns := some (.array [.string "id [Int]",
      .string "@user.name (author)",
      .object [("text", .array [.string "title", .string "post.body [JSON]"])]]) }

theorem postTexts_select : Compiler.select ⟨.mysql, "x_"⟩ postTexts = .ok
    ⟨"SELECT DISTINCT \"x_user\".\"name\" AS \"author\",\"id\",\"title\",\"x_post\".\"body\" " ++
      "FROM \"x_post\"", []⟩ := by
  rfl

/-- The leaves of the projection, in the order of the spec. -/
def postShape : Shape :=
  .rows [.leaf ⟨"id", some .int, false⟩, .leaf ⟨"author", none, false⟩,
    .group "text" [.leaf ⟨"title", none, false⟩, .leaf ⟨"body", some .json, false⟩]]

theorem postTexts_agree : postTexts.aggregate = none ∧ postTexts.columnSpec.rawFree = true ∧
    Shape.ofSpec postTexts.columnSpec = .ok postShape ∧
    ∃ compiled, Compiler.select ⟨.mysql, "x_"⟩ postTexts = .ok compiled ∧
      ∃ items : List Listed, ∃ rest : String,
        compiled.sql = "SELECT " ++ (listed items).render "x_" ++ " FROM " ++ rest ∧
        ["id", "author", "title", "body"].Perm (items.filterMap Listed.resultName?) ∧
        ColumnList.resultNames ((listed items).render "x_") =
          items.filterMap Listed.resultName? := by
  obtain ⟨shape, hshape, -, -, items, rest, hsql, -, hkeys, hread⟩ :=
    selection_and_projection_agree ⟨.mysql, "x_"⟩ (q := postTexts) rfl rfl postTexts_select
  have hpost : Shape.ofSpec postTexts.columnSpec = .ok postShape := rfl
  cases hshape.symm.trans hpost
  exact ⟨rfl, rfl, hpost, _, postTexts_select, items, rest, hsql, hkeys id, hread (by decide)⟩

end StructuredSql.Read
