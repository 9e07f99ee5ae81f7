-- The rows of an insert: under which columns they are written, in which order, and what
-- every one of their cells is bound to.
import StructuredSql.Proofs.Build.Params
import StructuredSql.Proofs.Stored.Cell
import StructuredSql.Proofs.Statement.Writes
import Mathlib.Data.List.Nodup

namespace StructuredSql

namespace Write

/-! ## What is inserted -/

/-- The keys of the rows, each of them where it is first seen. -/
def keysOf (rs : List Fields) : List String := (rs.flatMap Entries.keys).eraseDups

/-- The key spells a column, and this is the quoted name of the column. -/
def Names (c : Compiler) (key quoted : String) : Prop :=
  ∃ name, Cell.Spells key name ∧ c.quoteColumn name = .ok quoted

/-- What the cell of a row under a key is bound to. -/
def cell (row : Fields) (key : String) : Param :=
  match Entries.get? row key with
  | some v => Cell.param key v
  | none => ⟨.null, .null⟩

/-- The VALUES group of the row with this number, when rows have so many cells. -/
def group (width row : Nat) : String :=
  "(" ++ ", ".intercalate ((List.range width).map fun i => placeholderKey (row * width + i)) ++ ")"

/-- Of the keys that come, those are new that are not there already, each of them once. -/
theorem foldl_addKey_eq (more keys : List String) :
    more.foldl addKey keys = keys ++ (more.filter fun k => !keys.contains k).eraseDups := by
  induction more generalizing keys with
  | nil => simp
  | cons k rest ih =>
    rw [List.foldl_cons, ih]
    unfold addKey
    by_cases hk : keys.contains k
    · rw [if_pos hk, List.filter_cons_of_neg (by simpa using hk)]
    · rw [if_neg hk, List.filter_cons_of_pos (by simpa using hk), List.eraseDups_cons,
        List.append_assoc, List.filter_filter]
      have hnew : (fun j => !(keys ++ [k]).contains j) = fun j => !j == k && !keys.contains j := by
        funext j
        by_cases hj : j = k <;> simp [hj]
      rw [hnew]
      rfl

theorem unionKeys_eq (rs : List Fields) : unionKeys rs = keysOf rs := by
  unfold unionKeys keysOf
  rw [foldl_addKey_eq]
  simp

/-! ## The columns -/

section Columns

variable {c : Compiler}

theorem names_iff {key quoted : String} :
    Names c key quoted ↔ c.quoteColumn (Cell.column key) = .ok quoted := by
  constructor
  · rintro ⟨name, hspells, hquoted⟩
    rwa [(Cell.spells_iff (Compiler.isReference_of_quoteColumn hquoted)).1 hspells]
  · intro h
    exact ⟨_, (Cell.spells_iff (Compiler.isReference_of_quoteColumn h)).2 rfl, h⟩

theorem columns_named {keys : List String} {sqls : List Sql} (h : columns keys = .ok sqls) :
    List.Forall₂ (Names c) keys (sqls.map (Sql.render c.tablePrefix)) := by
  rw [List.forall₂_map_right_iff]
  refine (mapM_eq_ok h).imp fun key sql hsql => names_iff.2 ?_
  exact Compiler.finish_eq_ok.2 ⟨sql, hsql, rfl⟩

/-- Columns that are named by keys differ exactly when no two of the keys meet. -/
theorem nodup_columns_iff {keys quoted : List String} (h : List.Forall₂ (Names c) keys quoted) :
    quoted.Nodup ↔ keys.Pairwise fun key other => ¬ Cell.Meet key other := by
  have hquoted : quoted.map Except.ok = keys.map fun key => c.quoteColumn (Cell.column key) := by
    induction h with
    | nil => rfl
    | cons hname _ ih => exact congrArg₂ List.cons (names_iff.1 hname).symm ih
  have hinj : Function.Injective (Except.ok : String → Except Error String) := by
    intro a b hab
    cases hab
    rfl
  rw [← List.nodup_map_iff hinj, hquoted, List.Nodup, List.pairwise_map]
  refine List.Pairwise.iff_of_mem fun {key other} hkey hother => not_congr ?_
  have hok : ∀ k ∈ keys, ∃ q, c.quoteColumn (Cell.column k) = .ok q := by
    intro k hk
    obtain ⟨q, -, hq⟩ := List.mem_map.1 (hquoted ▸ List.mem_map_of_mem hk)
    exact ⟨q, hq.symm⟩
  obtain ⟨q, hq⟩ := hok key hkey
  obtain ⟨q', hq'⟩ := hok other hother
  rw [Cell.meet_iff (Compiler.isReference_of_quoteColumn hq)]
  constructor
  · intro heq
    rw [hq, hq', Except.ok.injEq] at heq
    exact Compiler.quoteColumn_inj hq (heq ▸ hq')
  · intro heq
    rw [heq]

end Columns

/-! ## The cells -/

theorem cell_run {row : Fields} (hr : fieldsRawFree row = true) (key : String) (n : Nat) :
    Cell.store key ((Entries.get? row key).getD .null) n =
      .ok ([.placeholder n], [.fresh (cell row key)]) := by
  unfold cell
  cases hv : Entries.get? row key with
  | none => rfl
  | some v =>
    have hraw : v.isRaw = false := by
      have hfree := rawFree_of_get? hr hv
      cases v with
      | raw fragment => cases hfree
      | _ => rfl
    rw [Option.getD_some, Cell.store_eq key hraw]
    rfl

/-- A row without fragments is one placeholder for each key. -/
theorem cells_run {row : Fields} (hr : fieldsRawFree row = true) (keys : List String) (n : Nat) :
    cells keys row n =
      .ok (Sql.parens (Sql.joinWith ", "
          ((List.range keys.length).map fun i => [.placeholder (n + i)])),
        (keys.map (cell row)).map .fresh) := by
  have hwidth : ∀ key ∈ keys, Binding.countFresh [.fresh (cell row key)] = 1 := fun _ _ => rfl
  have heach := Build.each_uniform keys (fun key _ n => cell_run hr key n) hwidth n
  refine Build.bind_eq_ok.2 ⟨_, _, [], heach, Build.pure_eq_ok.2 ⟨?_, rfl⟩, ?_⟩
  · simp
  · rw [List.append_nil, List.map_map, List.map_eq_flatMap]
    rfl

theorem render_group (tablePrefix : String) (width row : Nat) :
    Sql.render tablePrefix (Sql.parens (Sql.joinWith ", "
      ((List.range width).map fun i => [.placeholder (row * width + i)]))) = group width row := by
  unfold group
  rw [Sql.render_parens, Sql.render_joinWith, List.map_map]
  simp [Function.comp_def, Sql.render_cons, Sql.render_nil, Piece.render]

/-- A place in a list of parts that are equally long. -/
theorem getElem?_flatMap_uniform {α β : Type} {f : α → List β} {width : Nat}
    (hf : ∀ a, (f a).length = width) {items : List α} {row i : Nat} {a : α}
    (ha : items[row]? = some a) (hi : i < width) :
    (items.flatMap f)[row * width + i]? = (f a)[i]? := by
  induction items generalizing row with
  | nil => cases ha
  | cons b rest ih =>
    rw [List.flatMap_cons]
    cases row with
    | zero =>
      cases ha
      rw [List.getElem?_append_left (by rw [hf]; omega)]
      simp
    | succ row =>
      have hplace : (row + 1) * width + i = (f b).length + (row * width + i) := by
        rw [hf, Nat.succ_mul]
        omega
      rw [hplace, List.getElem?_append_right (Nat.le_add_right _ _), Nat.add_sub_cancel_left]
      exact ih ha

/-! ## The whole statement -/

/-- What an insert is made of, whatever its cells hold. -/
theorem insert_parts {table : String} {v : Value} {sql : Sql} {bound : List Binding}
    (hrun : insert table v 0 = .ok (sql, bound)) :
    ∃ rs target names groups, HasRows v rs ∧ tableSql table = .ok target ∧
      columns (keysOf rs) = .ok names ∧
      Build.each (cells (keysOf rs)) rs 0 = .ok (groups, bound) ∧
      sql = .text "INSERT INTO " :: (target ++ .text " (" ::
        (Sql.joinWith ", " names ++ .text ") VALUES " :: Sql.joinWith ", " groups)) := by
  obtain ⟨rs, hrows, hbody⟩ := Build.read_eq_ok.1 hrun
  simp only [← unionKeys_eq]
  split at hbody
  · exact absurd hbody Build.fail_ne_ok
  · obtain ⟨target, htarget, hlisted⟩ := Build.read_eq_ok.1 hbody
    obtain ⟨names, hnames, hgrouped⟩ := Build.read_eq_ok.1 hlisted
    obtain ⟨groups, first, more, hgroups, hmade, rfl⟩ := Build.bind_eq_ok.1 hgrouped
    obtain ⟨rfl, rfl⟩ := Build.pure_eq_ok.1 hmade
    exact ⟨rs, target, names, groups, hasRows_of_rows hrows, htarget, hnames,
      by simpa using hgroups, rfl⟩

theorem render_insert (tablePrefix : String) (target : Sql) (names groups : List Sql) :
    Sql.render tablePrefix (.text "INSERT INTO " :: (target ++ .text " (" ::
        (Sql.joinWith ", " names ++ .text ") VALUES " :: Sql.joinWith ", " groups))) =
      "INSERT INTO " ++ target.render tablePrefix ++ " (" ++
        ", ".intercalate (names.map (Sql.render tablePrefix)) ++ ") VALUES " ++
        ", ".intercalate (groups.map (Sql.render tablePrefix)) := by
  rw [Sql.render_cons, Sql.render_append, Sql.render_cons, Sql.render_append, Sql.render_cons,
    Sql.render_joinWith, Sql.render_joinWith]
  simp only [Piece.render_text, String.append_assoc]

/-- The groups of rows without fragments, and the bindings of all their cells. -/
theorem groups_run {rs : List Fields} (hr : ∀ row ∈ rs, fieldsRawFree row = true)
    (keys : List String) :
    Build.each (cells keys) rs 0 =
      .ok ((List.range rs.length).map fun row => Sql.parens (Sql.joinWith ", "
          ((List.range keys.length).map fun i => [.placeholder (row * keys.length + i)])),
        (rs.flatMap fun row => keys.map (cell row)).map .fresh) := by
  have hwidth : ∀ row ∈ rs,
      Binding.countFresh ((keys.map (cell row)).map .fresh) = keys.length := by
    intro row _
    rw [Build.countFresh_of_all (by simp [Binding.isFresh]), List.length_map, List.length_map]
  rw [Build.each_uniform rs (fun row hrow n => cells_run (hr row hrow) keys n) hwidth 0,
    List.map_flatMap]
  simp only [Nat.zero_add]

/-- An insert without fragments puts every cell where its row and its key tell: the column
list has the keys of all rows as they are first seen, every row is one group of as many
placeholders, numbered from row to row, and each is bound to what the row has under the key. -/
theorem insert_places_every_cell (c : Compiler) {table : String} {v : Value}
    (hraw : v.rawFree = true) {out : Compiled} (h : c.insert table v = .ok out) :
    ∃ (rs : List Fields) (target : String) (columns : List String),
      HasRows v rs ∧ c.quoteTable table = .ok target ∧
      List.Forall₂ (Names c) (keysOf rs) columns ∧
      out.sql = "INSERT INTO " ++ target ++ " (" ++ ", ".intercalate columns ++ ") VALUES " ++
        ", ".intercalate ((List.range rs.length).map (group (keysOf rs).length)) ∧
      Entries.keys out.params =
        (List.range (rs.length * (keysOf rs).length)).map placeholderKey ∧
      ∀ r row i key, rs[r]? = some row → (keysOf rs)[i]? = some key →
        Entries.get? out.params (placeholderKey (r * (keysOf rs).length + i)) =
          some (cell row key) := by
  obtain ⟨sql, bound, hrun, rfl⟩ := Compiler.compile_eq_ok.1 h
  obtain ⟨rs, target, names, groups, hrows, htarget, hnames, hgroups, rfl⟩ := insert_parts hrun
  have hfree : ∀ row ∈ rs, fieldsRawFree row = true := by
    rw [hrows.eq_insertedRows]
    exact insertedRows_rawFree hraw
  rw [groups_run hfree] at hgroups
  cases hgroups
  refine ⟨rs, target.render c.tablePrefix, names.map (Sql.render c.tablePrefix), hrows,
    Compiler.finish_eq_ok.2 ⟨target, htarget, rfl⟩, columns_named hnames, ?_, ?_, ?_⟩
  · rw [render_insert, List.map_map]
    simp only [Function.comp_def, render_group]
  · rw [Binding.keys_params_fresh]
    simp [List.length_flatMap]
  · intro r row i key hrow hkey
    apply Binding.get?_params_fresh
    obtain ⟨hi, -⟩ := List.getElem?_eq_some_iff.1 hkey
    rw [getElem?_flatMap_uniform (fun row => List.length_map (cell row)) hrow hi,
      List.getElem?_map, hkey]
    rfl

/-- Two rows with one key in common: the first has tags as JSON, the second has a place and
no title. -/
def raggedRows : List Fields :=
  [[("title", .string "Up"), ("tags [JSON]", .array [.int 1])],
    [("at", .object [("x", .int 2)]), ("title", .null)]]

theorem raggedRows_insert :
    Compiler.insert ⟨.pgsql, "x_"⟩ "post" (.array (raggedRows.map .object)) = .ok
      ⟨"INSERT INTO \"x_post\" (\"title\", \"tags\", \"at\") VALUES (:p0, :p1, :p2), (:p3, :p4, :p5)",
        [(":p0", ⟨.string "Up", .string⟩), (":p1", ⟨.string "[1]", .string⟩),
          (":p2", ⟨.null, .null⟩), (":p3", ⟨.null, .null⟩), (":p4", ⟨.null, .null⟩),
          (":p5", ⟨.string "a:1:\x7bs:1:\"x\";i:2;\x7d", .string⟩)]⟩ := by
  rfl

theorem raggedRows_placed : ∃ out,
    Compiler.insert ⟨.pgsql, "x_"⟩ "post" (.array (raggedRows.map .object)) = .ok out ∧
      keysOf raggedRows = ["title", "tags [JSON]", "at"] ∧
      (∃ columns, List.Forall₂ (Names ⟨.pgsql, "x_"⟩) ["title", "tags [JSON]", "at"] columns ∧
        out.sql = "INSERT INTO \"x_post\" (" ++ ", ".intercalate columns ++
          ") VALUES " ++ "(:p0, :p1, :p2), (:p3, :p4, :p5)") ∧
      Entries.get? out.params ":p1" = some ⟨.string "[1]", .string⟩ ∧
      Entries.get? out.params ":p2" = some ⟨.null, .null⟩ ∧
      Entries.get? out.params ":p5" = some ⟨.string "a:1:\x7bs:1:\"x\";i:2;\x7d", .string⟩ := by
  obtain ⟨rs, target, columns, hrows, htarget, hcolumns, hsql, -, hcells⟩ :=
    insert_places_every_cell ⟨.pgsql, "x_"⟩ (by rfl) raggedRows_insert
  have hrs : rs = raggedRows := hrows.eq_insertedRows
  subst hrs
  cases htarget
  exact ⟨_, raggedRows_insert, by rfl, ⟨columns, hcolumns, hsql⟩, hcells 0 _ 1 _ rfl rfl,
    hcells 0 _ 2 _ rfl rfl, hcells 1 _ 2 _ rfl rfl⟩

/-- An insert lists a column twice exactly when two different keys of its rows meet in one
column: keys are told apart as they are written, with their marks. -/
theorem columns_differ_unless_keys_meet (c : Compiler) {table : String} {v : Value}
    {out : Compiled} (h : c.insert table v = .ok out) :
    ∃ (rs : List Fields) (target : String) (columns : List String) (groups : String),
      HasRows v rs ∧ c.quoteTable table = .ok target ∧
      List.Forall₂ (Names c) (keysOf rs) columns ∧
      out.sql = "INSERT INTO " ++ target ++ " (" ++ ", ".intercalate columns ++ ") VALUES " ++
        groups ∧
      (columns.Nodup ↔ (keysOf rs).Pairwise fun key other => ¬ Cell.Meet key other) := by
  obtain ⟨sql, bound, hrun, rfl⟩ := Compiler.compile_eq_ok.1 h
  obtain ⟨rs, target, names, groups, hrows, htarget, hnames, -, rfl⟩ := insert_parts hrun
  have hcolumns := columns_named (c := c) hnames
  refine ⟨rs, target.render c.tablePrefix, names.map (Sql.render c.tablePrefix),
    ", ".intercalate (groups.map (Sql.render c.tablePrefix)), hrows,
    Compiler.finish_eq_ok.2 ⟨target, htarget, rfl⟩, hcolumns, ?_, nodup_columns_iff hcolumns⟩
  rw [render_insert]

/-- A row with a fragment and a marked key. -/
def stampedRow : Fields :=
  [("at", .raw (Fragment.plain "NOW()")), ("tags[JSON]", .array [.int 1])]

theorem stampedRow_insert : Compiler.insert ⟨.mysql, "x_"⟩ "post" (.object stampedRow) = .ok
    ⟨"INSERT INTO \"x_post\" (\"at\", \"tags\") VALUES (NOW(), :p0)",
      [(":p0", ⟨.string "[1]", .string⟩)]⟩ := by
  rfl

theorem stampedRow_columns_differ : ∃ out,
    Compiler.insert ⟨.mysql, "x_"⟩ "post" (.object stampedRow) = .ok out ∧
      ∃ columns groups, out.sql = "INSERT INTO \"x_post\" (" ++ ", ".intercalate columns ++
          ") VALUES " ++ groups ∧ columns.length = 2 ∧ columns.Nodup := by
  obtain ⟨rs, target, columns, groups, hrows, htarget, hcolumns, hsql, hdiffer⟩ :=
    columns_differ_unless_keys_meet ⟨.mysql, "x_"⟩ stampedRow_insert
  have hrs : rs = [stampedRow] := hrows.eq_insertedRows
  subst hrs
  cases htarget
  refine ⟨_, stampedRow_insert, columns, groups, hsql, hcolumns.length_eq.symm, hdiffer.2 ?_⟩
  refine .cons (fun other hother => ?_) (List.pairwise_singleton _ _)
  rw [List.mem_singleton.1 hother]
  rintro ⟨name, hname, hkey, hother⟩
  have hcolumn := ((Cell.spells_iff hname).1 hkey).trans ((Cell.spells_iff hname).1 hother).symm
  exact absurd hcolumn (by decide)

/-- Two rows that mark one column for JSON, once with a blank before the mark. -/
def spacedRows : List Fields :=
  [[("a[JSON]", .array [.int 1])], [("a [JSON]", .array [.int 2])]]

/-- The two keys of these rows name one column, and the statement lists it twice. -/
theorem spaced_mark_repeats_the_column : ∃ params,
    Compiler.insert ⟨.sqlite, ""⟩ "t" (.array (spacedRows.map .object)) =
      .ok ⟨"INSERT INTO \"t\" (\"a\", \"a\") VALUES (:p0, :p1), (:p2, :p3)", params⟩ ∧
    keysOf spacedRows = ["a[JSON]", "a [JSON]"] ∧
    List.Forall₂ (Names ⟨.sqlite, ""⟩) (keysOf spacedRows) ["\"a\"", "\"a\""] ∧
    ¬ ["\"a\"", "\"a\""].Nodup := by
  refine ⟨_, rfl, rfl, ?_, by decide⟩
  exact .cons (names_iff.2 rfl) (.cons (names_iff.2 rfl) .nil)

end Write
end StructuredSql
