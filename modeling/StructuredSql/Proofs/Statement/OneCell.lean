-- One cell under one key. An insert takes the mark for JSON off the end of the key, an update
-- reads a name of one line with a mark behind it. The two name the same column, and they bind
-- the same value.
import StructuredSql.Proofs.Build.Results
import StructuredSql.Proofs.Sql.Text
import StructuredSql.Proofs.Statement.Writes
import StructuredSql.Proofs.Stored.Cell

namespace StructuredSql

/-! ## Names that are refused -/

/-- A line break stands in no reference. -/
theorem Name.IsReference.lineBreak_notMem {name : List Char} (h : IsReference name) :
    '\n' ∉ name := by
  have hpart : isPart '\n' = false := by decide
  rcases h with h | ⟨table, column, rfl, htable, hcolumn⟩
  · exact (isPlain_of_isName h).notMem hpart
  · simp only [List.mem_append, List.mem_cons, not_or]
    exact ⟨(isPlain_of_isName htable).notMem hpart, by decide,
      (isPlain_of_isName hcolumn).notMem hpart⟩

theorem columnSql_of_not_isReference {s : String} (h : ¬ Name.IsReference s.toList) :
    columnSql s = .error (.columnName s) := by
  unfold columnSql columnName
  cases hs : ColumnName.ofText? s with
  | none => rfl
  | some column => exact absurd (ColumnName.ofText?_isSome_iff.1 ⟨column, hs⟩) h

/-- What refuses a column is a fault of names. -/
theorem columnSql_error {s : String} {fault : Fault} (h : columnSql s = .error fault) :
    fault.isValidation = true := by
  unfold columnSql columnName at h
  cases hs : ColumnName.ofText? s with
  | some column => simp [hs, Except.map] at h
  | none =>
    simp only [hs, Except.map, Except.error.injEq] at h
    rw [← h]
    rfl

theorem tableSql_error {s : String} {fault : Fault} (h : tableSql s = .error fault) :
    fault.isValidation = true := by
  unfold tableSql at h
  split at h <;> cases h
  rfl

namespace Write

/-! ## The column of a key -/

/-- The key ends in none of the marks that calculate. -/
def Unmarked (key : String) : Prop :=
  ∀ sign ∈ ['+', '-', '*', '/'], ¬ ['[', sign, ']'] <:+ key.toList

instance (key : String) : Decidable (Unmarked key) :=
  inferInstanceAs <| Decidable <|
    ∀ sign ∈ ['+', '-', '*', '/'], ¬ ['[', sign, ']'] <:+ key.toList

theorem updateKey_mark {key : String} (h : Unmarked key) (sign : Char) :
    (updateKey key).2 ≠ some (.arithmetic sign) := by
  intro hmark
  have hread : updateKey key = ((updateKey key).1, some (.arithmetic sign)) :=
    Prod.ext rfl hmark
  have hsign := updateKey_sign hread
  unfold updateKey at hmark
  split at hmark
  · cases hmark
  · rename_i mark s htake
    dsimp only at hmark
    split at hmark
    · cases hmark
    · cases hmark
      exact h sign hsign ⟨s.reverse, (takeMark?_key htake).2.symm⟩

/-- Both statements read one column off the key, or neither reads any. -/
theorem updateKey_column {key : String} (h : Unmarked key) :
    (updateKey key).1 = Cell.column key ∨
      ¬ Name.IsReference (updateKey key).1.toList ∧
        ¬ Name.IsReference (Cell.column key).toList := by
  unfold updateKey
  cases htake : takeMark? key.toList.reverse with
  | none =>
    refine Or.inl ?_
    unfold Cell.column
    cases htail : Cell.beforeTail? Cell.jsonMarker.toList key.toList with
    | none => rfl
    | some before =>
      have hkey := Cell.beforeTail?_eq_some.1 htail
      have hjson : takeMark? key.toList.reverse = some (.json, before.reverse) :=
        takeMark?_eq_some_iff.2 ⟨trivial, by rw [hkey, List.reverse_append]; rfl⟩
      rw [htake] at hjson
      cases hjson
  | some read =>
    obtain ⟨mark, s⟩ := read
    obtain ⟨hknown, hkey⟩ := takeMark?_key htake
    cases mark with
    | arithmetic sign => exact absurd ⟨s.reverse, hkey.symm⟩ (h sign hknown)
    | json =>
      have hcolumn : Cell.column key = String.ofList (s.dropWhile Unicode.isBlank).reverse := by
        have htail : Cell.beforeTail? Cell.jsonMarker.toList key.toList = some s.reverse :=
          Cell.beforeTail?_eq_some.2 hkey
        simp [Cell.column, htail, Text.trimEnd]
      dsimp only
      split
      · rename_i hlines
        -- The update reads the key as it stands, and that ends in a bracket.
        refine Or.inr ⟨fun hreference => ?_, fun hreference => ?_⟩
        · have hlast := hreference.isPart_last ']' (by rw [hkey]; simp [Mark.text_last])
          exact absurd hlast (by decide)
        · refine hreference.lineBreak_notMem ?_
          rw [hcolumn]
          simpa using hlines
      · exact Or.inl hcolumn.symm

/-- The columns are quoted alike, or both are refused. -/
theorem columnSql_updateKey {key : String} (h : Unmarked key) :
    columnSql (updateKey key).1 = columnSql (Cell.column key) ∨
      (∃ fault, columnSql (updateKey key).1 = .error fault) ∧
        ∃ fault, columnSql (Cell.column key) = .error fault := by
  rcases updateKey_column h with heq | ⟨hupdate, hinsert⟩
  · exact Or.inl (congrArg columnSql heq)
  · exact Or.inr ⟨⟨_, columnSql_of_not_isReference hupdate⟩,
      ⟨_, columnSql_of_not_isReference hinsert⟩⟩

/-! ## The two statements -/

section

variable {table key : String} {v : Value} {target column : Sql}

theorem cells_one (hv : v.isRaw = false) :
    cells [key] [(key, v)] = (do
      return Sql.parens (← Build.placeholder (Cell.param key v))) := by
  have hcell : (Entries.get? [(key, v)] key).getD .null = v := by simp [Entries.get?]
  simp only [cells, Build.each, Build.cons, hcell, Cell.store_eq key hv, bind_assoc, pure_bind,
    Sql.joinWith]

theorem insert_cell (hv : v.isRaw = false)  :
    insert table (.object [(key, v)]) = (do
      let target ← tableSql table
      let column ← columnSql (Cell.column key)
      let bound ← Build.placeholder (Cell.param key v)
      return .text "INSERT INTO " :: (target ++ .text " (" ::
        (column ++ .text ") VALUES " :: Sql.parens bound))) := by
  have hrows : rows (.object [(key, v)]) = .ok [[(key, v)]] := rfl
  have hkeys : unionKeys [[(key, v)]] = [key] := rfl
  unfold insert
  rw [hrows, Build.read_ok, hkeys]
  refine bind_congr fun target => ?_
  have hcolumns : columns [key] = (columnSql (Cell.column key)).map ([·]) := by
    unfold columns
    rw [List.mapM_cons, List.mapM_nil]
    cases columnSql (Cell.column key) <;> rfl
  rw [hcolumns]
  cases columnSql (Cell.column key) with
  | error fault => rfl
  | ok column =>
    rw [Except.map, Build.read_ok, Build.read_ok]
    simp only [Build.each, Build.cons, cells_one hv, bind_assoc, pure_bind, Sql.joinWith]

theorem update_cell (d : Dialect) (hkey : Unmarked key) (hv : v.isRaw = false)
    (conditions : Option Value) :
    update d table [(key, v)] conditions = (do
      let target ← tableSql table
      let column ← columnSql (updateKey key).1
      let bound ← Build.placeholder (Cell.param key v)
      updateWith d target [column ++ .text " = " :: bound] conditions) := by
  have hassignment : assignment (key, v) = (do
      let column ← columnSql (updateKey key).1
      return column ++ .text " = " :: (← Build.placeholder (Cell.param key v))) := by
    have hmark := updateKey_mark hkey
    unfold assignment
    cases hread : updateKey key with
    | mk name mark? =>
      rw [hread] at hmark
      refine bind_congr fun column => ?_
      dsimp only
      split
      · cases hv
      · exact absurd rfl (hmark _)
      · rw [Cell.store_eq key hv]
  unfold update
  simp [hassignment, Build.each, Build.cons]

/-! ## What is compiled -/

/-- A name or a key is refused, and nothing is compiled. -/
def Refused (result : Except Error Compiled) : Prop :=
  ∃ message, result = .error (.validation message)

theorem refused_of_run {c : Compiler} {build : Build Sql} {fault : Fault}
    (h : build 0 = .error fault) (hfault : fault.isValidation = true) :
    Refused (c.compile build.template) := by
  refine ⟨fault.message c.tablePrefix, ?_⟩
  simp [Compiler.compile, Build.template, h, Fault.error, hfault]

/-- A statement that quotes a table and then a column is refused with either of them. -/
theorem refused_of_names (c : Compiler) {name : String} {fault : Fault}
    (rest : Sql → Sql → Build Sql)
    (h : tableSql table = .error fault ∨ columnSql name = .error fault) :
    Refused (c.compile (do
      let target ← tableSql table
      let column ← columnSql name
      rest target column : Build Sql).template) := by
  cases htable : tableSql table with
  | error wrong => exact refused_of_run rfl (tableSql_error htable)
  | ok target =>
    rw [htable] at h
    have hcolumn := h.resolve_left nofun
    rw [Build.read_ok, hcolumn]
    exact refused_of_run rfl (columnSql_error hcolumn)

theorem insert_refused (c : Compiler) {fault : Fault} (hv : v.isRaw = false)
    (h : tableSql table = .error fault ∨ columnSql (Cell.column key) = .error fault) :
    Refused (c.insert table (.object [(key, v)])) := by
  unfold Compiler.insert
  rw [insert_cell hv]
  exact refused_of_names c _ h

theorem update_refused (c : Compiler) {fault : Fault} (hkey : Unmarked key)
    (hv : v.isRaw = false)
    (h : tableSql table = .error fault ∨ columnSql (updateKey key).1 = .error fault)
    (conditions : Option Value) : Refused (c.update table [(key, v)] conditions) := by
  unfold Compiler.update
  rw [update_cell c.dialect hkey hv]
  exact refused_of_names c _ h

theorem insert_compiled (c : Compiler) (hv : v.isRaw = false) (htable : tableSql table = .ok target)
    (hcolumn : columnSql (Cell.column key) = .ok column) :
    c.insert table (.object [(key, v)]) = .ok
      ⟨"INSERT INTO " ++ target.render c.tablePrefix ++ " (" ++ column.render c.tablePrefix ++
        ") VALUES (:p0)", [(":p0", Cell.param key v)]⟩ := by
  unfold Compiler.insert
  rw [insert_cell hv, htable, Build.read_ok, hcolumn, Build.read_ok]
  refine Compiler.compile_eq_ok.2 ⟨_, _, rfl, ?_⟩
  have htail : ") VALUES " ++ ("(" ++ (placeholderKey 0 ++ ("" ++ ")"))) = ") VALUES (:p0)" := rfl
  simp only [Sql.render_cons, Sql.render_append, Sql.render_parens, Sql.render_nil, Piece.render,
    String.append_assoc, htail]
  rfl

theorem update_compiled (c : Compiler) (hkey : Unmarked key) (hv : v.isRaw = false)
    (htable : tableSql table = .ok target) (hcolumn : columnSql (updateKey key).1 = .ok column)
    {conditions : Option Value} {clauses : Sql} {bound : List Binding}
    (hclauses : Clause.all c.dialect conditions 1 = .ok (clauses, bound)) :
    c.update table [(key, v)] conditions = .ok
      ⟨"UPDATE " ++ target.render c.tablePrefix ++ " SET " ++ column.render c.tablePrefix ++
        " = :p0" ++ clauses.render c.tablePrefix,
        Binding.params (.fresh (Cell.param key v) :: bound)⟩ := by
  unfold Compiler.update
  rw [update_cell c.dialect hkey hv, htable, Build.read_ok, hcolumn, Build.read_ok]
  refine Compiler.compile_eq_ok.2 ⟨_, _, Build.bind_eq_ok.2 ⟨_, _, _, rfl,
    Build.bind_eq_ok.2 ⟨_, _, _, hclauses, rfl, rfl⟩, rfl⟩, ?_⟩
  have hbound : " = " ++ placeholderKey 0 = " = :p0" := rfl
  rw [← hbound]
  simp only [Sql.joinWith, Sql.render_cons, Sql.render_append, Sql.render_nil, Piece.render,
    String.append_assoc, String.empty_append, List.append_nil, List.singleton_append]

end

/-- A row of one cell and an assignment under the same key, which does not calculate, are
refused together. Else both write the one column that the key names, and both bind the value
in the same way: the update, when it has conditions, before all that these bind. -/
theorem insert_and_update_agree_on_keys (c : Compiler) (table : String) {key : String} {v : Value}
    (hkey : Unmarked key) (hv : v.isRaw = false) :
    (Refused (c.insert table (.object [(key, v)])) ∧
      ∀ conditions, Refused (c.update table [(key, v)] conditions)) ∨
    ∃ target column, c.quoteTable table = .ok target ∧
      c.quoteColumn (Cell.column key) = .ok column ∧
      c.insert table (.object [(key, v)]) = .ok
        ⟨"INSERT INTO " ++ target ++ " (" ++ column ++ ") VALUES (:p0)",
          [(":p0", Cell.param key v)]⟩ ∧
      c.update table [(key, v)] none = .ok
        ⟨"UPDATE " ++ target ++ " SET " ++ column ++ " = :p0", [(":p0", Cell.param key v)]⟩ ∧
      ∀ conditions clauses bound, Clause.all c.dialect conditions 1 = .ok (clauses, bound) →
        c.update table [(key, v)] conditions = .ok
          ⟨"UPDATE " ++ target ++ " SET " ++ column ++ " = :p0" ++ clauses.render c.tablePrefix,
            Binding.params (.fresh (Cell.param key v) :: bound)⟩ := by
  cases htable : tableSql table with
  | error fault =>
    exact Or.inl ⟨insert_refused c hv (Or.inl htable), update_refused c hkey hv (Or.inl htable)⟩
  | ok target =>
    rcases columnSql_updateKey hkey with hsame | ⟨⟨_, hupdate⟩, ⟨_, hinsert⟩⟩
    · cases hcolumn : columnSql (Cell.column key) with
      | error fault =>
        exact Or.inl ⟨insert_refused c hv (Or.inr hcolumn),
          update_refused c hkey hv (Or.inr (hsame.trans hcolumn))⟩
      | ok column =>
        have hall := @update_compiled table key v target column c hkey hv htable
          (hsame.trans hcolumn)
        refine Or.inr ⟨target.render c.tablePrefix, column.render c.tablePrefix,
          Compiler.finish_eq_ok.2 ⟨target, htable, rfl⟩,
          Compiler.finish_eq_ok.2 ⟨column, hcolumn, rfl⟩, insert_compiled c hv htable hcolumn,
          ?_, fun conditions clauses bound hclauses => hall hclauses⟩
        have hnone := hall (show Clause.all c.dialect none 1 = .ok ([], []) from rfl)
        rwa [Sql.render_nil, String.append_empty] at hnone
    · exact Or.inl ⟨insert_refused c hv (Or.inr hinsert),
        update_refused c hkey hv (Or.inr hupdate)⟩

/-- The tags of a post, stored as JSON. -/
def postTags : Value := .array [.string "a", .int 1]

theorem postTags_written_alike : Unmarked "tags [JSON]" ∧ postTags.isRaw = false ∧
    ∃ target column, Compiler.quoteTable ⟨.pgsql, "x_"⟩ "post" = .ok target ∧
      Compiler.quoteColumn ⟨.pgsql, "x_"⟩ (Cell.column "tags [JSON]") = .ok column ∧
      Compiler.insert ⟨.pgsql, "x_"⟩ "post" (.object [("tags [JSON]", postTags)]) = .ok
        ⟨"INSERT INTO " ++ target ++ " (" ++ column ++ ") VALUES (:p0)",
          [(":p0", ⟨.string "[\"a\",1]", .string⟩)]⟩ ∧
      Compiler.update ⟨.pgsql, "x_"⟩ "post" [("tags [JSON]", postTags)] none = .ok
        ⟨"UPDATE " ++ target ++ " SET " ++ column ++ " = :p0",
          [(":p0", ⟨.string "[\"a\",1]", .string⟩)]⟩ := by
  have hkey : Unmarked "tags [JSON]" := by decide
  refine ⟨hkey, rfl, ?_⟩
  rcases insert_and_update_agree_on_keys ⟨.pgsql, "x_"⟩ "post" hkey (v := postTags) rfl with
    ⟨⟨message, hrefused⟩, -⟩ | ⟨target, column, htable, hcolumn, hinsert, hupdate, -⟩
  · cases hrefused
  · exact ⟨target, column, htable, hcolumn, hinsert, hupdate⟩

end Write
end StructuredSql
