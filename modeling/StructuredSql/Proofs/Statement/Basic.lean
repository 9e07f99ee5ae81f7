-- The statements that read and write rows, as one kind of thing. Each one is compiled
-- by a build, and the outcome depends on the run of that build alone.
import StructuredSql.Statement.Read
import StructuredSql.Statement.Write
import Mathlib.Data.List.Forall2

namespace StructuredSql

/-- A statement that reads or writes rows, by its descriptor. -/
inductive Statement
  | select (q : Query)
  | get (q : Query)
  | rand (q : Query)
  | probe (q : Query)
  | aggregate (a : Aggregate) (q : Query)
  | insert (table : String) (rows : Value)
  | update (table : String) (data : Fields) (conditions : Option Value)
  | delete (table : String) (conditions : Option Value)
  | replace (table : String) (columns : Fields) (conditions : Option Value)

namespace Statement

def compile (c : Compiler) : Statement → Except Error Compiled
  | select q => c.select q
  | get q => c.get q
  | rand q => c.rand q
  | probe q => c.exists? q
  | aggregate a q => c.aggregate a q
  | insert table rows => c.insert table rows
  | update table data conditions => c.update table data conditions
  | delete table conditions => c.delete table conditions
  | replace table columns conditions => c.replace table columns conditions

/-- The probe for any row; one dialect has no EXISTS at this place. -/
def probeBuild (d : Dialect) (q : Query) : Build Sql :=
  if d = .mssql then Read.statement d q .top
  else return .text "SELECT EXISTS(" :: (← Read.statement d q .one) ++ Sql.text ")"

/-- The build that makes the statement. -/
def build (d : Dialect) : Statement → Build Sql
  | select q => Read.statement d q (Read.selectHead q)
  | get q => Read.statement d (Read.limited q) .columns
  | rand q => Read.statement d (Read.shuffled d q) .columns
  | probe q => probeBuild d q
  | aggregate a q => Read.statement d q (.function a)
  | insert table rows => Write.insert table rows
  | update table data conditions => Write.update d table data conditions
  | delete table conditions => Write.delete d table conditions
  | replace table columns conditions => Write.replace d table columns conditions

theorem existence_eq (d : Dialect) (q : Query) :
    Read.existence d q = (probeBuild d q).template := by
  unfold Read.existence probeBuild
  split
  · rfl
  · show Except.map _ (Build.template _) = Build.template (Build.andThen _ _)
    unfold Build.template Build.andThen
    cases Read.statement d q .one 0 with
    | error fault => rfl
    | ok r => simp [Except.map, pure, Build.ready]

theorem compile_eq (c : Compiler) (s : Statement) :
    s.compile c = c.compile (s.build c.dialect).template := by
  cases s with
  | probe q => exact congrArg c.compile (existence_eq c.dialect q)
  | _ => rfl

end Statement

/-- A build is compiled when its run succeeds, and then into its text under the
prefix and its bindings. -/
theorem Compiler.compile_eq_ok {c : Compiler} {build : Build Sql} {out : Compiled} :
    c.compile build.template = .ok out ↔ ∃ sql bound, build 0 = .ok (sql, bound) ∧
      out = ⟨sql.render c.tablePrefix, Binding.params bound⟩ := by
  unfold Compiler.compile Build.template
  cases build 0 with
  | error fault => simp
  | ok r =>
    simp only [Template.compiled, Except.ok.injEq]
    constructor
    · rintro rfl
      exact ⟨r.1, r.2, rfl, rfl⟩
    · rintro ⟨sql, bound, rfl, rfl⟩
      rfl

/-! ## The rows of an insert -/

namespace Write

/-- The rows of an insert, one map or several. -/
def insertedRows : Value → List Fields
  | .object row => [row]
  | .array items => items.filterMap Value.object?
  | _ => []

/-- A row is the whole descriptor or one item of it. -/
theorem mem_insertedRows {v : Value} {row : Fields} (h : row ∈ insertedRows v) :
    v = .object row ∨ ∃ items, v = .array items ∧ .object row ∈ items := by
  cases v with
  | object fields =>
    rw [List.mem_singleton.1 h]
    exact Or.inl rfl
  | array items =>
    obtain ⟨item, hi, ho⟩ := List.mem_filterMap.1 h
    cases item with
    | object fields =>
      cases ho
      exact Or.inr ⟨items, rfl, hi⟩
    | _ => cases ho
  | _ => cases h

theorem mapM_eq_ok {α β : Type} {f : α → Except Fault β} {as : List α} {bs : List β}
    (h : as.mapM f = .ok bs) : List.Forall₂ (fun a b => f a = .ok b) as bs := by
  induction as generalizing bs with
  | nil =>
    cases h
    exact .nil
  | cons a rest ih =>
    rw [List.mapM_cons] at h
    cases ha : f a with
    | error fault => simp [ha, bind, Except.bind] at h
    | ok b =>
      cases hr : rest.mapM f with
      | error fault => simp [ha, hr, bind, Except.bind] at h
      | ok more =>
        simp only [ha, hr, bind, Except.bind, pure, Except.pure, Except.ok.injEq] at h
        subst h
        exact .cons ha (ih hr)

/-- The rows that a value holds: it is one map, or a list of maps. -/
inductive HasRows : Value → List Fields → Prop
  | one (row : Fields) : HasRows (.object row) [row]
  | several (rs : List Fields) : HasRows (.array (rs.map .object)) rs

theorem HasRows.eq_insertedRows {v : Value} {rs : List Fields} (h : HasRows v rs) :
    rs = insertedRows v := by
  cases h with
  | one row => rfl
  | several => simp [insertedRows, List.filterMap_map, Function.comp_def, Value.object?]

theorem hasRows_of_rows {v : Value} {rs : List Fields} (h : rows v = .ok rs) : HasRows v rs := by
  unfold rows at h
  split at h
  · cases h
    exact .one _
  · rename_i items
    have hitems : items = rs.map .object := by
      have hall := mapM_eq_ok h
      clear h
      induction hall with
      | nil => rfl
      | @cons item row rest more hrow _ ih =>
        cases item with
        | object fields =>
          cases hrow
          exact congrArg (.object row :: ·) ih
        | _ => cases hrow
    rw [hitems]
    exact .several rs
  · cases h

theorem rows_eq_ok {v : Value} {rs : List Fields} (h : rows v = .ok rs) :
    rs = insertedRows v :=
  (hasRows_of_rows h).eq_insertedRows

end Write
end StructuredSql
