-- What a statement tells about the values that it binds: nothing. Two descriptors that
-- differ only in bound values are both compiled or both refused, and then into one text
-- with one list of keys.
import StructuredSql.Proofs.Clause.Blank
import StructuredSql.Proofs.Statement.Basic

namespace StructuredSql

open Build (Agree)

/-! ## Blank descriptors -/

namespace Blank

def query (q : Query) : Query :=
  { q with join := q.join.map joins, conditions := conditions q.conditions }

/-- A cell is bound, whatever it is, unless it is a fragment. -/
def cell : Value → Value
  | .raw fragment => .raw fragment
  | _ => .null

def row (fields : Fields) : Fields := Entries.alter (fun _ => cell) fields

def insertedRow : Value → Value
  | .object fields => .object (row fields)
  | v => v

def inserted : Value → Value
  | .object fields => .object (row fields)
  | .array items => .array (items.map insertedRow)
  | v => v

/-- The operand of a calculation stands in the text; other contents are bound. -/
def assigned (key : String) (v : Value) : Value :=
  match (Write.updateKey key).2 with
  | some (.arithmetic _) => v
  | _ => cell v

/-- Of replacements only their number shows. -/
def substitutions : Value → Value
  | .object pairs => .object (pairs.map fun _ => ("", .null))
  | v => v

end Blank

/-- The descriptor with every bound value blanked out. What is left is all that may
show in the text. -/
def Statement.blank : Statement → Statement
  | .select q => .select (Blank.query q)
  | .get q => .get (Blank.query q)
  | .rand q => .rand (Blank.query q)
  | .probe q => .probe (Blank.query q)
  | .aggregate a q => .aggregate a (Blank.query q)
  | .insert table rows => .insert table (Blank.inserted rows)
  | .update table data conditions =>
    .update table (Entries.alter Blank.assigned data) (Blank.conditions conditions)
  | .delete table conditions => .delete table (Blank.conditions conditions)
  | .replace table columns conditions =>
    .replace table (Entries.alter (fun _ => Blank.substitutions) columns)
      (Blank.conditions conditions)

/-! ## Reads that agree -/

namespace Read

theorem joins_agree (main : String) (join : Option Fields) :
    Agree (joins main join) (joins main (join.map Blank.joins)) := by
  cases join with
  | none => exact .refl _
  | some fields =>
    cases fields with
    | nil => exact .refl _
    | cons e rest => exact (Join.clauses_agree main (e :: rest)).map _

theorem statement_agree (d : Dialect) (q : Query) (kind : Head) :
    Agree (statement d q kind) (statement d (Blank.query q) kind) := by
  have hhead : ∀ joining, head (Blank.query q) joining kind = head q joining kind := by
    intro joining
    cases kind <;> rfl
  refine (Agree.refl _).bind fun table => (joins_agree table.exposed q.join).bind fun r => ?_
  dsimp only
  rw [hhead]
  exact (Agree.refl _).bind fun _ => (Clause.all_agree d q.conditions).bind fun _ => .refl _

/-- A modifier that binds nothing may be set before or after. -/
theorem modified_agree (d : Dialect) (q : Query) {key : String}
    (hk : Clause.isModifier key = true) {v : Value} (hv : Blank.modifier key v = v)
    (kind : Head) :
    Agree (statement d (q.setModifier key v) kind)
      (statement d ((Blank.query q).setModifier key v) kind) := by
  have hq : (Blank.query q).setModifier key v = Blank.query (q.setModifier key v) := by
    unfold Query.setModifier Blank.query
    simp only [Blank.conditions_modified q.conditions hk hv]
  rw [hq]
  exact statement_agree d _ kind

end Read

/-! ## Writes that agree -/

namespace Write

theorem store_agree (key : String) (v : Value) :
    Agree (Cell.store key v) (Cell.store key (Blank.cell v)) := by
  cases v with
  | raw fragment => exact .refl _
  | _ => exact Build.agree_placeholder _ _

theorem cells_agree (keys : List String) (row : Fields) :
    Agree (cells keys row) (cells keys (Blank.row row)) := by
  have hcell : ∀ k, Blank.cell ((Entries.get? row k).getD .null) =
      (Entries.get? (Blank.row row) k).getD .null := by
    intro k
    unfold Blank.row
    rw [Entries.get?_alter]
    cases Entries.get? row k <;> rfl
  have heach := Build.agree_each (f := fun k => Cell.store k ((Entries.get? row k).getD .null))
    (g := fun k => Cell.store k ((Entries.get? (Blank.row row) k).getD .null)) id keys
    fun k _ => by
      rw [id_eq, ← hcell]
      exact store_agree k _
  rw [List.map_id] at heach
  exact heach.map _

theorem row_blank (item : Value) : row (Blank.insertedRow item) = (row item).map Blank.row := by
  cases item <;> rfl

theorem rows_blank (v : Value) :
    rows (Blank.inserted v) = (rows v).map (List.map Blank.row) := by
  cases v with
  | array items =>
    show (items.map Blank.insertedRow).mapM row = (items.mapM row).map (List.map Blank.row)
    induction items with
    | nil => rfl
    | cons item rest ih =>
      rw [List.map_cons, List.mapM_cons, List.mapM_cons, ih, row_blank]
      cases row item with
      | error fault => rfl
      | ok fields => cases rest.mapM row <;> rfl
  | _ => rfl

theorem unionKeys_blank (rs : List Fields) : unionKeys (rs.map Blank.row) = unionKeys rs := by
  have hkeys : ∀ row, Entries.keys (Blank.row row) = Entries.keys row := fun row =>
    Entries.keys_alter _ row
  simp only [unionKeys, List.flatMap_map, hkeys]

theorem insert_agree (table : String) (v : Value) :
    Agree (insert table v) (insert table (Blank.inserted v)) := by
  unfold insert
  rw [rows_blank]
  cases rows v with
  | error fault => exact Agree.refl (Build.fail fault)
  | ok rs =>
    refine Agree.ok_bind ?_
    rw [unionKeys_blank]
    dsimp only
    split
    · exact .refl _
    · refine (Agree.refl _).bind fun target => (Agree.refl _).bind fun columns => ?_
      exact (Build.agree_each _ rs fun row _ => cells_agree _ row).map _

theorem assignment_agree (entry : String × Value) :
    Agree (assignment entry) (assignment (entry.1, Blank.assigned entry.1 entry.2)) := by
  obtain ⟨key, v⟩ := entry
  unfold assignment Blank.assigned
  cases hkey : updateKey key with
  | mk name mark? =>
    dsimp only
    refine (Agree.refl _).bind fun column => ?_
    have hstore := (store_agree key v).map fun sql => column ++ .text " = " :: sql
    cases mark? with
    | some mark =>
      cases mark with
      | arithmetic sign => exact .refl _
      | json => cases v <;> exact hstore
    | none => cases v <;> exact hstore

theorem updateWith_agree (d : Dialect) (target : Sql) (assignments : List Sql)
    (conditions : Option Value) :
    Agree (updateWith d target assignments conditions)
      (updateWith d target assignments (Blank.conditions conditions)) :=
  (Clause.all_agree d conditions).map _

theorem update_agree (d : Dialect) (table : String) (data : Fields) (conditions : Option Value) :
    Agree (update d table data conditions)
      (update d table (Entries.alter Blank.assigned data) (Blank.conditions conditions)) := by
  cases data with
  | nil => exact .refl _
  | cons e rest =>
    refine (Agree.refl _).bind fun target => Agree.bind ?_ fun assignments =>
      updateWith_agree d target assignments conditions
    exact Build.agree_each _ (e :: rest) fun e _ => assignment_agree e

theorem substitution_agree (column : Sql) (pair other : String × Value) :
    Agree (substitution column pair) (substitution column other) :=
  (Build.agree_placeholder _ _).bind fun _ => (Build.agree_placeholder _ _).map _

theorem substitutions_agree (entry : String × Value) :
    Agree (substitutions entry) (substitutions (entry.1, Blank.substitutions entry.2)) := by
  obtain ⟨key, v⟩ := entry
  cases v with
  | object pairs =>
    exact (Agree.refl _).bind fun column =>
      Build.agree_each _ pairs fun pair _ => substitution_agree column pair _
  | _ => exact .refl _

theorem allSubstitutions_agree (columns : Fields) :
    Agree (allSubstitutions columns)
      (allSubstitutions (Entries.alter (fun _ => Blank.substitutions) columns)) := by
  induction columns with
  | nil => exact .refl _
  | cons entry rest ih => exact (substitutions_agree entry).bind fun sqls => ih.map _

theorem replace_agree (d : Dialect) (table : String) (columns : Fields)
    (conditions : Option Value) :
    Agree (replace d table columns conditions)
      (replace d table (Entries.alter (fun _ => Blank.substitutions) columns)
        (Blank.conditions conditions)) := by
  refine (Agree.refl _).bind fun target => (allSubstitutions_agree columns).bind fun sqls => ?_
  split
  · exact .refl _
  · exact updateWith_agree d target sqls conditions

end Write

/-! ## Statements that agree -/

namespace Statement

/-- A statement and its blank one are told apart by bound values only. -/
theorem build_agree (d : Dialect) (s : Statement) : Agree (s.build d) (s.blank.build d) := by
  cases s with
  | select q => exact Read.statement_agree d q _
  | get q => exact Read.modified_agree d q (by decide) rfl .columns
  | rand q => exact Read.modified_agree d q (by decide) rfl .columns
  | probe q =>
    show Agree (probeBuild d q) (probeBuild d (Blank.query q))
    unfold probeBuild
    split
    · exact Read.statement_agree d q .top
    · exact (Read.statement_agree d q .one).map _
  | aggregate a q => exact Read.statement_agree d q (.function a)
  | insert table rows => exact Write.insert_agree table rows
  | update table data conditions => exact Write.update_agree d table data conditions
  | delete table conditions =>
    exact (Agree.refl _).bind fun _ => (Clause.all_agree d conditions).map _
  | replace table columns conditions => exact Write.replace_agree d table columns conditions

/-- Of two builds that agree, what one is compiled into the other is compiled into but
for the bound values. -/
theorem compile_matched {c : Compiler} {s t : Statement}
    (h : Build.MatchedBy (s.build c.dialect) (t.build c.dialect)) {a : Compiled}
    (ha : s.compile c = .ok a) : ∃ b, t.compile c = .ok b ∧ a.sql = b.sql ∧
      Entries.keys a.params = Entries.keys b.params := by
  rw [compile_eq] at ha
  obtain ⟨sql, bound, hrun, rfl⟩ := Compiler.compile_eq_ok.1 ha
  obtain ⟨more, hrun', hsame⟩ := h 0 sql bound hrun
  refine ⟨⟨sql.render c.tablePrefix, Binding.params more⟩, ?_, rfl, hsame.keys_params⟩
  rw [compile_eq]
  exact Compiler.compile_eq_ok.2 ⟨sql, more, hrun', rfl⟩

/-- Descriptors that differ only in bound values are both compiled or both refused,
and then into the same text with the same keys. -/
theorem text_hides_bound_values (c : Compiler) {s t : Statement} (h : s.blank = t.blank) :
    ((∃ a, s.compile c = .ok a) ↔ ∃ b, t.compile c = .ok b) ∧
      ∀ a b, s.compile c = .ok a → t.compile c = .ok b →
        a.sql = b.sql ∧ Entries.keys a.params = Entries.keys b.params := by
  have hagree : Agree (s.build c.dialect) (t.build c.dialect) :=
    (build_agree c.dialect s).trans (h ▸ (build_agree c.dialect t).symm)
  refine ⟨⟨fun ⟨a, ha⟩ => ?_, fun ⟨b, hb⟩ => ?_⟩, fun a b ha hb => ?_⟩
  · obtain ⟨b, hb, -⟩ := compile_matched hagree.1 ha
    exact ⟨b, hb⟩
  · obtain ⟨a, ha, -⟩ := compile_matched hagree.2 hb
    exact ⟨a, ha⟩
  · obtain ⟨b', hb', hsql, hkeys⟩ := compile_matched hagree.1 ha
    cases hb.symm.trans hb'
    exact ⟨hsql, hkeys⟩

/-- A new name under an identifier. -/
def newName (name id : Value) : Statement :=
  .update "account" [("name", name), ("visits[+]", .int 1)]
    (some (.object [("id", id), ("state", .array [id, .null])]))

theorem newName_compile : (newName (.string "ann") (.int 7)).compile ⟨.pgsql, ""⟩ = .ok
    ⟨"UPDATE \"account\" SET \"name\" = :p0, \"visits\" = \"visits\" + 1 WHERE \"id\" = :p1 " ++
        "AND \"state\" IN (:p2, :p3)",
      [(":p0", ⟨.string "ann", .string⟩), (":p1", ⟨.int 7, .int⟩), (":p2", ⟨.int 7, .int⟩),
        (":p3", ⟨.null, .null⟩)]⟩ := by
  rfl

theorem newName_hides_values : ∃ a b,
    (newName (.string "ann") (.int 7)).compile ⟨.pgsql, ""⟩ = .ok a ∧
    (newName (.array [.null]) (.string "7 OR 1 = 1")).compile ⟨.pgsql, ""⟩ = .ok b ∧
    a.sql = b.sql ∧ Entries.keys a.params = Entries.keys b.params := by
  have hblank : (newName (.string "ann") (.int 7)).blank =
      (newName (.array [.null]) (.string "7 OR 1 = 1")).blank := by
    rfl
  obtain ⟨hiff, hsame⟩ := text_hides_bound_values ⟨.pgsql, ""⟩ hblank
  obtain ⟨b, hb⟩ := hiff.1 ⟨_, newName_compile⟩
  exact ⟨_, b, newName_compile, hb, hsame _ b newName_compile hb⟩

end Statement
end StructuredSql
