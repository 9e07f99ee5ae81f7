-- Joins as they are written: one clause for each entry, and in an ON map equalities of
-- columns. The left column stands behind its own table or the main one. The right column
-- stands behind the joined table, and a table of its own comes in between.
import StructuredSql.Proofs.Build.Results
import StructuredSql.Proofs.Clause.Leaves
import StructuredSql.Proofs.Quote
import StructuredSql.Proofs.Statement.Basic
import StructuredSql.Proofs.Statement.Placeholders

namespace StructuredSql

/-! ## Columns of tables -/

namespace Compiler

variable (c : Compiler)

/-- A table as it is written. -/
def quoted (table : String) : String := "\"" ++ c.tablePrefix ++ table ++ "\""

/-- A table with its alias as it is written. -/
def target (t : TableRef) : String :=
  match t.alias? with
  | some a => c.quoted t.name ++ " AS " ++ c.quoted a
  | none => c.quoted t.name

/-- A column of a table as it is written: two names, of which the first takes the prefix. -/
def reference (table column : String) : String := c.quoted table ++ ".\"" ++ column ++ "\""

/-- The text is one column of one table. -/
def IsReference (text : String) : Prop :=
  ∃ table column : String, Name.isName table.toList = true ∧ Name.isName column.toList = true ∧
    text = c.reference table column

theorem toList_reference (table column : String) : (c.reference table column).toList =
    '"' :: (c.tablePrefix.toList ++
      (table.toList ++ '"' :: '.' :: '"' :: (column.toList ++ ['"']))) := by
  simp [reference, quoted]

theorem render_reference (table column : String) :
    Sql.render c.tablePrefix [.table table, .text ".", .column column] =
      c.reference table column := by
  refine String.toList_injective ?_
  rw [toList_reference, Sql.toList_render]
  simp

theorem render_table (table : String) :
    (Piece.table table).render c.tablePrefix = c.quoted table := rfl

theorem render_target (t : TableRef) : t.sql.render c.tablePrefix = c.target t := by
  unfold TableRef.sql target
  cases t.alias? with
  | none => simp [Sql.render_cons, Sql.render_nil, render_table]
  | some a =>
    simp [Sql.render_cons, Sql.render_nil, render_table, Piece.render_text, String.append_assoc]

/-- What begins with a quoted table is a reference only if one point and one quoted name
follow, and nothing else. -/
theorem IsReference.column {c : Compiler} {text : String} (h : c.IsReference text) {table : String}
    {rest : List Char} (ht : Name.isName table.toList = true)
    (hs : text.toList = '"' :: (c.tablePrefix.toList ++ (table.toList ++ '"' :: rest))) :
    ∃ column : String, Name.isName column.toList = true ∧
      rest = '.' :: '"' :: (column.toList ++ ['"']) := by
  obtain ⟨table', column, ht', hcolumn, rfl⟩ := h
  rw [toList_reference] at hs
  have htail := List.append_cancel_left (List.cons.inj hs).2
  obtain ⟨-, hrest⟩ :=
    (Name.isPlain_of_isName ht').quote_inj (Name.isPlain_of_isName ht) htail
  exact ⟨column, hcolumn, hrest.symm⟩

/-- Behind equal references stand equal texts. -/
theorem IsReference.tail {c : Compiler} {text : String} (h : c.IsReference text)
    {table column : String} (ht : Name.isName table.toList = true)
    (hc : Name.isName column.toList = true) {s t : List Char}
    (hs : text.toList ++ s = (c.reference table column).toList ++ t) : s = t := by
  obtain ⟨table', column', ht', hc', rfl⟩ := h
  simp only [toList_reference, List.cons_append, List.append_assoc, List.nil_append] at hs
  have htables := List.append_cancel_left (List.cons.inj hs).2
  obtain ⟨-, hcolumns⟩ :=
    (Name.isPlain_of_isName ht').quote_inj (Name.isPlain_of_isName ht) htables
  obtain ⟨-, hcolumns⟩ := List.cons.inj hcolumns
  obtain ⟨-, hcolumns⟩ := List.cons.inj hcolumns
  exact ((Name.isPlain_of_isName hc').quote_inj (Name.isPlain_of_isName hc) hcolumns).2

end Compiler

namespace Join

variable (c : Compiler)

/-- The right column of an equality as it is written. -/
def rightColumn (joined : String) (right : ColumnName) : String :=
  match right.qualifier with
  | some table => c.quoted joined ++ "." ++ c.reference table right.name
  | none => c.reference joined right.name

/-- The right column is one column of one table exactly when it has no table of its own. -/
theorem rightColumn_isReference_iff {joined : String} (hj : Name.isName joined.toList = true)
    {right : ColumnName} (hr : right.IsNamed) :
    c.IsReference (rightColumn c joined right) ↔ right.qualifier = none := by
  unfold rightColumn
  cases hq : right.qualifier with
  | none =>
    simp only [iff_true]
    exact ⟨joined, right.name, hj, hr.1, rfl⟩
  | some table =>
    simp only [reduceCtorEq, iff_false]
    intro h
    -- Behind the joined table stands one more quoted name, and no name holds a quote.
    have htext : (c.quoted joined ++ "." ++ c.reference table right.name).toList =
        '"' :: (c.tablePrefix.toList ++
          (joined.toList ++ '"' :: '.' :: (c.reference table right.name).toList)) := by
      simp [Compiler.quoted]
    obtain ⟨column, hcolumn, hrest⟩ := h.column hj htext
    rw [Compiler.toList_reference] at hrest
    refine (Name.isPlain_of_isName hcolumn).ne_two_parts (c.tablePrefix.toList ++ table.toList)
      ('.' :: '"' :: right.name.toList) ?_
    simpa using hrest.symm

/-! ## Clauses -/

/-- The text is that of the conditions of a group, side by side. -/
def IsGroup (group : Fields) (text : String) : Prop :=
  ∃ n sql bound, Condition.tree .and group n = .ok (sql, bound) ∧ text = sql.render c.tablePrefix

/-- How an entry of an ON map is written: a group as its conditions, and an equality between
two columns. The left one stands behind its own table or else the main one. -/
inductive OnWritten (main joined : String) : String × Value → String → Prop
  | group {group : Fields} {text : String} :
      IsGroup c group text → OnWritten main joined ("AND", .object group) text
  | equality {left right : ColumnName} : left.IsNamed → right.IsNamed →
      c.IsReference (c.reference (left.qualifier.getD main) left.name) →
      (c.IsReference (rightColumn c joined right) ↔ right.qualifier = none) →
      OnWritten main joined (left.text, .string right.text)
        (c.reference (left.qualifier.getD main) left.name ++ " = " ++ rightColumn c joined right)

/-- How the relation of a join is written. -/
inductive RelationWritten (main joined : String) : Value → String → Prop
  | column {name quoted : String} : c.quoteColumn name = .ok quoted →
      RelationWritten main joined (.string name) ("USING (" ++ quoted ++ ")")
  | columns {names quoted : List String} :
      List.Forall₂ (fun name q => c.quoteColumn name = .ok q) names quoted →
      RelationWritten main joined (.array (names.map .string))
        ("USING (" ++ ", ".intercalate quoted ++ ")")
  | map {entries : Fields} {parts : List String} :
      List.Forall₂ (OnWritten c main joined) entries parts →
      RelationWritten main joined (.object entries) ("ON " ++ " AND ".intercalate parts)
  | fragment {raw : Raw} {sql : Sql} : Marker.expand raw.sql = .ok sql →
      RelationWritten main joined (.raw raw) (sql.render c.tablePrefix)

/-- How an entry of a join map is written: the kind of the join, the table with its alias,
and the relation. -/
inductive ClauseWritten (main : String) : String × Value → String → Prop
  | clause {key : String} {k : JoinKey} {v : Value} {relation : String} : k.Spelled key →
      RelationWritten c main k.table.exposed v relation →
      ClauseWritten main (key, v)
        (k.kind.word ++ " JOIN " ++ c.target k.table ++ " " ++ relation)

theorem columnSql_reference {s : String} {sql : Sql} (h : columnSql s = .ok sql) :
    ∃ column : ColumnName, column.IsNamed ∧ s = column.text ∧ sql = column.sql := by
  obtain ⟨column, hcolumn, rfl⟩ := columnSql_eq_ok h
  unfold columnName at hcolumn
  split at hcolumn
  · rename_i column' hread
    cases hcolumn
    obtain ⟨hnamed, hs⟩ := ColumnName.ofText?_eq_some_iff.1 hread
    exact ⟨column, hnamed, hs, rfl⟩
  · cases hcolumn

variable {c}

/-- The left column stands behind its own table, or else behind the main one. -/
theorem leftColumn_reference {main left : String} {sql : Sql} (h : leftColumn main left = .ok sql) :
    ∃ column : ColumnName, column.IsNamed ∧ left = column.text ∧
      sql.render c.tablePrefix = c.reference (column.qualifier.getD main) column.name := by
  unfold leftColumn at h
  split at h
  · rename_i hpoint
    obtain ⟨⟨qualifier, name⟩, hnamed, rfl, rfl⟩ := columnSql_reference h
    cases qualifier with
    | none =>
      -- A name holds no point.
      have hmem : '.' ∈ name.toList := by simpa [ColumnName.toList_text] using hpoint
      exact absurd hmem ((Name.isPlain_of_isName hnamed.1).notMem (by decide))
    | some table => exact ⟨_, hnamed, rfl, c.render_reference _ _⟩
  · rename_i hpoint
    cases hc : columnSql left with
    | error fault => simp [hc, Except.map] at h
    | ok column =>
      simp only [hc, Except.map, Except.ok.injEq] at h
      subst h
      obtain ⟨⟨qualifier, name⟩, hnamed, rfl, rfl⟩ := columnSql_reference hc
      cases qualifier with
      | none => exact ⟨_, hnamed, rfl, c.render_reference _ _⟩
      | some table => exact absurd (by simp [ColumnName.toList_text]) hpoint

theorem rightColumn_rendered (joined : String) (right : ColumnName) :
    Sql.render c.tablePrefix (.table joined :: .text "." :: right.sql) =
      rightColumn c joined right := by
  unfold rightColumn ColumnName.sql
  cases right.qualifier with
  | none => exact c.render_reference joined right.name
  | some table =>
    rw [Sql.render_cons, Sql.render_cons, c.render_reference, c.render_table, Piece.render_text,
      ← String.append_assoc]

theorem usingColumns_rendered (sqls : List Sql) : (usingColumns sqls).render c.tablePrefix =
    "USING (" ++ ", ".intercalate (sqls.map (Sql.render c.tablePrefix)) ++ ")" := by
  unfold usingColumns
  rw [Sql.render_cons, Sql.render_append, Sql.render_text, Sql.render_joinWith, String.append_assoc]
  rfl

/-- The columns of a list, each of them quoted. -/
theorem columnNames_named {wrongShape : Fault} {columns : List Value} {sqls : List Sql}
    (h : columnNames wrongShape columns = .ok sqls) :
    ∃ names, columns = names.map .string ∧ List.Forall₂
      (fun name q => c.quoteColumn name = .ok q) names (sqls.map (Sql.render c.tablePrefix)) := by
  have hall := columnNames_eq_ok h
  clear h
  induction hall with
  | nil => exact ⟨[], rfl, .nil⟩
  | cons hcolumn _ ih =>
    obtain ⟨s, rfl, hs⟩ := hcolumn
    obtain ⟨names, rfl, hnames⟩ := ih
    exact ⟨s :: names, rfl, .cons (Compiler.finish_eq_ok.2 ⟨_, hs, rfl⟩) hnames⟩

/-! ## Builds of joins -/

section Builds

variable {main : String} (hm : Name.isName main.toList = true)

include hm

theorem onEntry_written {joined : String} (hj : Name.isName joined.toList = true) (key : String)
    (entry : String × Value) : Build.Makes (onEntry main joined key entry) fun sql =>
      OnWritten c main joined entry (sql.render c.tablePrefix) := by
  unfold onEntry
  split
  · intro n sql bound hrun
    exact .group ⟨n, sql, bound, hrun, rfl⟩
  · rename_i left right
    apply Build.makes_read
    intro l hl
    apply Build.makes_read
    intro r hr
    apply Build.makes_pure
    obtain ⟨column, hnamed, rfl, htext⟩ := leftColumn_reference (c := c) hl
    obtain ⟨column', hnamed', rfl, rfl⟩ := columnSql_reference hr
    have htable : Name.isName (column.qualifier.getD main).toList = true := by
      cases hq : column.qualifier with
      | none => exact hm
      | some table => exact hnamed.2 table hq
    have hrender : Sql.render c.tablePrefix
        (l ++ .text " = " :: .table joined :: .text "." :: column'.sql) =
        c.reference (column.qualifier.getD main) column.name ++ " = " ++
          rightColumn c joined column' := by
      rw [Sql.render_append, Sql.render_cons, rightColumn_rendered, htext]
      simp [Piece.render, String.append_assoc]
    rw [hrender]
    exact .equality hnamed hnamed' ⟨_, _, htable, hnamed.1, rfl⟩
      (rightColumn_isReference_iff c hj hnamed')
  · exact Build.makes_fail

theorem relation_written {joined : String} (hj : Name.isName joined.toList = true) (key : String)
    (v : Value) : Build.Makes (relation main joined key v) fun sql =>
      RelationWritten c main joined v (sql.render c.tablePrefix) := by
  unfold relation
  split
  · apply Build.makes_read
    intro sql hsql
    apply Build.makes_pure
    rw [usingColumns_rendered, List.map_singleton, String.intercalate_singleton]
    exact .column (Compiler.finish_eq_ok.2 ⟨sql, hsql, rfl⟩)
  · rename_i columns
    apply Build.makes_read
    intro sqls hsqls
    apply Build.makes_pure
    rw [usingColumns_rendered]
    obtain ⟨names, rfl, hnames⟩ := columnNames_named (c := c) hsqls
    exact .columns hnames
  · rename_i pairs
    have hparts := Build.makes_forall₂ pairs fun entry _ => onEntry_written (c := c) hm hj key entry
    refine hparts.map fun sqls hsqls => ?_
    rw [Sql.render_cons, Sql.render_joinWith]
    exact .map (List.forall₂_map_right_iff.2 hsqls)
  · rename_i raw
    exact fun n sql bound hrun => .fragment (Build.makes_fragment raw n sql bound hrun)
  · exact Build.makes_fail

theorem clause_written (entry : String × Value) : Build.Makes (clause main entry) fun sql =>
    ClauseWritten c main entry (sql.render c.tablePrefix) := by
  obtain ⟨key, v⟩ := entry
  apply Build.makes_read
  intro k hk
  have hkey := JoinKey.spelled_of_read hk
  have hj : Name.isName k.table.exposed.toList = true := by
    obtain ⟨table, -, htable⟩ := hkey
    exact htable.exposed
  refine (relation_written (c := c) hm hj key v).map fun sql hsql => ?_
  have hrender : Sql.render c.tablePrefix
      (.text s!"{k.kind.word} JOIN " :: (k.table.sql ++ .text " " :: sql)) =
      k.kind.word ++ " JOIN " ++ c.target k.table ++ " " ++ sql.render c.tablePrefix := by
    rw [Sql.render_cons, Sql.render_append, Sql.render_cons, c.render_target]
    simp only [Piece.render_text, String.append_assoc]
    rfl
  rw [hrender]
  exact .clause hkey hsql

theorem clauses_written (joins : Fields) : Build.Makes (clauses main joins) fun sql =>
    ∃ texts, List.Forall₂ (ClauseWritten c main) joins texts ∧
      sql.render c.tablePrefix = " ".intercalate texts := by
  have hclauses := Build.makes_forall₂ joins fun entry _ => clause_written (c := c) hm entry
  refine hclauses.map fun sqls hsqls => ?_
  exact ⟨_, List.forall₂_map_right_iff.2 hsqls, Sql.render_joinWith _ _ _⟩

end Builds

end Join

/-! ## Statements that read -/

namespace Read

variable (c : Compiler)

/-- What stands behind FROM: the table, and one clause for each join, in order. -/
def FromWritten (q : Query) (text : String) : Prop :=
  ∃ (table : TableRef) (clauses : List String), table.Spelled q.table.toList ∧
    List.Forall₂ (Join.ClauseWritten c table.exposed) (q.join.getD []) clauses ∧
    text = c.target table ++ String.join (clauses.map (" " ++ ·))

theorem blank_intercalate {text : String} (texts : List String) :
    " " ++ " ".intercalate (text :: texts) = String.join ((text :: texts).map (" " ++ ·)) := by
  induction texts generalizing text with
  | nil => simp
  | cons next rest ih =>
    rw [String.intercalate_cons_cons, List.map_cons, String.join_cons, ← ih]
    simp [String.append_assoc]

theorem joins_written {main : String} (hm : Name.isName main.toList = true)
    (join : Option Fields) : Build.Makes (joins main join) fun r =>
      ∃ clauses, List.Forall₂ (Join.ClauseWritten c main) (join.getD []) clauses ∧
        Sql.render c.tablePrefix r.1 = String.join (clauses.map (" " ++ ·)) := by
  cases join with
  | none => exact Build.makes_pure ⟨[], .nil, rfl⟩
  | some fields =>
    cases fields with
    | nil => exact Build.makes_pure ⟨[], .nil, rfl⟩
    | cons entry rest =>
      refine (Join.clauses_written (c := c) hm (entry :: rest)).map fun sql hsql => ?_
      obtain ⟨texts, htexts, hrender⟩ := hsql
      refine ⟨texts, htexts, ?_⟩
      rw [Sql.render_cons, hrender]
      cases htexts with
      | cons _ _ => exact blank_intercalate _

theorem statement_from_written (d : Dialect) (q : Query) (h : Head) :
    Build.Makes (statement d q h) fun sql => ∃ before joined after, FromWritten c q joined ∧
      sql.render c.tablePrefix = before ++ " FROM " ++ joined ++ after := by
  apply Build.makes_read
  intro table htable
  have hspelled := spelled_of_tableRef htable
  refine (joins_written c hspelled.exposed q.join).bind fun r hr => ?_
  obtain ⟨joined, joining⟩ := r
  obtain ⟨texts, htexts, hrender⟩ := hr
  refine Build.Makes.bind (fun _ _ _ _ => trivial) fun selected (_ : True) => ?_
  refine Build.Makes.map (fun _ _ _ _ => trivial) fun clauses (_ : True) => ?_
  refine ⟨"SELECT " ++ selected.render c.tablePrefix, _, clauses.render c.tablePrefix,
    ⟨table, texts, hspelled, htexts, rfl⟩, ?_⟩
  rw [Sql.render_cons, Sql.render_append, Sql.render_cons, Sql.render_append, Sql.render_append,
    c.render_target, hrender]
  simp [Piece.render_text, String.append_assoc]

end Read

namespace Statement

/-- The query of a statement that reads. -/
def query? : Statement → Option Query
  | select q => some q
  | get q => some q
  | rand q => some q
  | probe q => some q
  | aggregate _ q => some q
  | _ => none

theorem from_written (c : Compiler) {s : Statement} {q : Query} (hs : s.query? = some q) :
    Build.Makes (s.build c.dialect) fun sql => ∃ before joined after, Read.FromWritten c q joined ∧
      sql.render c.tablePrefix = before ++ " FROM " ++ joined ++ after := by
  have hread := fun q h => Read.statement_from_written c c.dialect q h
  cases s with
  | select q =>
    cases hs
    exact hread q _
  | get q =>
    cases hs
    exact hread (Read.limited q) _
  | rand q =>
    cases hs
    exact hread (Read.shuffled c.dialect q) _
  | probe q =>
    cases hs
    show Build.Makes (probeBuild c.dialect q) _
    unfold probeBuild
    split
    · exact hread q _
    · refine (hread q .one).map fun sql hsql => ?_
      obtain ⟨before, joined, after, hjoined, hrender⟩ := hsql
      refine ⟨"SELECT EXISTS(" ++ before, joined, after ++ ")", hjoined, ?_⟩
      rw [Sql.render_append, Sql.render_cons, hrender, Sql.render_text]
      simp [Piece.render_text, String.append_assoc]
  | aggregate a q =>
    cases hs
    exact hread q _
  | _ => cases hs

/-- The joins of a statement stand behind its table, one clause for each entry. In an ON map
the left column of an equality is one column of its own table or else of the main one; the
right column is one column of the joined table exactly when it names no table itself. -/
theorem joins_stand_behind_the_table (c : Compiler) {s : Statement} {q : Query}
    (hs : s.query? = some q) {out : Compiled} (h : s.compile c = .ok out) :
    ∃ (table : TableRef) (clauses : List String) (before after : String),
      table.Spelled q.table.toList ∧
      List.Forall₂ (Join.ClauseWritten c table.exposed) (q.join.getD []) clauses ∧
      out.sql = before ++ " FROM " ++ c.target table ++ String.join (clauses.map (" " ++ ·)) ++
        after := by
  rw [compile_eq] at h
  obtain ⟨sql, bound, hrun, rfl⟩ := Compiler.compile_eq_ok.1 h
  obtain ⟨before, joined, after, ⟨table, clauses, htable, hclauses, rfl⟩, hrender⟩ :=
    from_written c hs 0 sql bound hrun
  refine ⟨table, clauses, before, after, htable, hclauses, ?_⟩
  rw [hrender, ← String.append_assoc]

/-- Posts with their authors, who are joined under an alias, and their tags. -/
def signedPosts : Query :=
  { Query.ofTable "post (p)" with
    columns := some (.string "id")
    join := some
      [("[>]user (a)", .object [("author", .string "id"), ("p.site", .string "site"),
        ("AND", .object [("a.level[>]", .int 2)])]),
      ("[><]tag", .array [.string "id"])] }

set_option maxRecDepth 2048 in
theorem signedPosts_select : Statement.compile ⟨.sqlite, "x_"⟩ (.select signedPosts) = .ok
    ⟨"SELECT \"id\" FROM \"x_post\" AS \"x_p\" LEFT JOIN \"x_user\" AS \"x_a\" " ++
        "ON \"x_p\".\"author\" = \"x_a\".\"id\" AND \"x_p\".\"site\" = \"x_a\".\"site\" " ++
        "AND \"x_a\".\"level\" > :p0 INNER JOIN \"x_tag\" USING (\"id\")",
      [(":p0", ⟨.int 2, .int⟩)]⟩ := by
  rfl

theorem signedPosts_joined : ∃ out,
    Statement.compile ⟨.sqlite, "x_"⟩ (.select signedPosts) = .ok out ∧
    ∃ (table : TableRef) (clauses : List String) (before after : String),
      table.Spelled "post (p)".toList ∧ clauses.length = 2 ∧
      List.Forall₂ (Join.ClauseWritten ⟨.sqlite, "x_"⟩ table.exposed)
        (signedPosts.join.getD []) clauses ∧
      out.sql = before ++ " FROM " ++ Compiler.target ⟨.sqlite, "x_"⟩ table ++
        String.join (clauses.map (" " ++ ·)) ++ after := by
  obtain ⟨table, clauses, before, after, htable, hclauses, hsql⟩ :=
    joins_stand_behind_the_table ⟨.sqlite, "x_"⟩ rfl signedPosts_select
  exact ⟨_, signedPosts_select, table, clauses, before, after, htable, hclauses.length_eq.symm,
    hclauses, hsql⟩

/-- A right column that names the joined table itself is written behind that table twice, and
the text behind ON compares no two columns of tables. -/
theorem qualified_right_column_has_three_parts :
    Statement.compile ⟨.sqlite, ""⟩ (.select { Query.ofTable "post" with
        columns := some (.string "post.id")
        join := some [("[>]account", .object [("author_id", .string "account.user_id")])] }) =
      .ok ⟨"SELECT \"post\".\"id\" FROM \"post\" LEFT JOIN \"account\" ON " ++
        "\"post\".\"author_id\" = \"account\".\"account\".\"user_id\"", []⟩ ∧
    ∀ left right, Compiler.IsReference ⟨.sqlite, ""⟩ left →
      Compiler.IsReference ⟨.sqlite, ""⟩ right →
      "\"post\".\"author_id\" = \"account\".\"account\".\"user_id\"" ≠ left ++ " = " ++ right := by
  refine ⟨rfl, ?_⟩
  intro left right hleft hright heq
  have hchars := congrArg String.toList heq
  rw [String.toList_append, String.toList_append, List.append_assoc] at hchars
  -- The left column takes its part of the text, and the sign takes the next.
  have hpost : Name.isName "post".toList = true := rfl
  have hauthor : Name.isName "author_id".toList = true := rfl
  have hsign : " = ".toList ++ right.toList =
      " = ".toList ++ "\"account\".\"account\".\"user_id\"".toList :=
    hleft.tail hpost hauthor hchars.symm
  have haccount : Name.isName "account".toList = true := rfl
  obtain ⟨column, hcolumn, hrest⟩ := hright.column haccount (List.append_cancel_left hsign)
  -- What is left would be one quoted name, but a quote stands inside.
  refine (Name.isPlain_of_isName hcolumn).ne_two_parts "account".toList ".\"user_id".toList ?_
  exact ((List.cons.inj (List.cons.inj hrest).2).2).symm

end Statement
end StructuredSql
