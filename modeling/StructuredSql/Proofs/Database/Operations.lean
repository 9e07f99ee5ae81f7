-- The operations that run a statement or a script: what each asks of its input before, and
-- what it gives when nothing comes back. An operation is rejected before the engine hears of
-- it and leaves the database alone, or it runs one statement, or one script, or finds none.
import StructuredSql.Proofs.Database.Serving
import StructuredSql.Proofs.Engine.Watched

namespace StructuredSql

/-! ## Operations -/

/-- An operation that runs a statement or a script, by what it gives. -/
inductive Operation : Type → Type
  | select (q : Query) : Operation Value
  | selectEach (q : Query) : Operation (List Value)
  | get (q : Query) : Operation Value
  | rand (q : Query) : Operation Value
  | has (q : Query) : Operation Bool
  | aggregate (f : Aggregate) (q : Query) : Operation (Option Value)
  | count (q : Query) : Operation Int64
  | insert (table : String) (rows : Value) : Operation (Option Executed)
  | update (table : String) (data : Fields) (conditions : Option Value) :
      Operation (Option Executed)
  | delete (table : String) (conditions : Option Value) : Operation (Option Executed)
  | replace (table : String) (columns : Fields) (conditions : Option Value) :
      Operation (Option Executed)
  | create (table : String) (columns : Value) (options : Option Value) :
      Operation (Option Executed)
  | drop (table : String) : Operation (Option Executed)
  | query (raw : Raw) : Operation (Option Executed)
  | importFile (path : String) : Operation Bool

namespace Operation

variable {σ α : Type}

def perform (E : Engine σ) (files : FileTree) : Operation α → Database.Op σ (Except Error α)
  | select q => Database.select E q
  | selectEach q => Database.selectEach E q
  | get q => Database.get E q
  | rand q => Database.rand E q
  | has q => Database.has E q
  | aggregate f q => Database.aggregate E f q
  | count q => Database.count E q
  | insert table rows => Database.insert E table rows
  | update table data conditions => Database.update E table data conditions
  | delete table conditions => Database.delete E table conditions
  | replace table columns conditions => Database.replace E table columns conditions
  | create table columns options => Database.create E table columns options
  | drop table => Database.drop E table
  | query raw => Database.query E raw
  | importFile path => Database.importFile E files path

/-- What is given when the engine fails, or is not asked. -/
def nothing : Operation α → α
  | select q => if q.aggregate.isSome then .null else .array []
  | selectEach _ => []
  | get _ => .null
  | rand _ => .array []
  | has _ => false
  | aggregate _ _ => none
  | count _ => 0
  | insert _ _ | update _ _ _ | delete _ _ | replace _ _ _ | create _ _ _ | drop _ | query _ => none
  | importFile _ => false

/-! ## Input -/

/-- What the compiler makes of the input. A script is not compiled. -/
def compiled (c : Compiler) : Operation α → Option (Except Error Compiled)
  | select q =>
    match q.aggregate with
    | some f => some (c.aggregate f q)
    | none => some (c.select q)
  | selectEach q => some (c.select q)
  | get q => some (c.get q)
  | rand q => some (c.rand q)
  | has q => some (c.exists? q)
  | aggregate f q => some (c.aggregate f q)
  | count q => some (c.aggregate .count q)
  | insert table rows => some (c.insert table rows)
  | update table data conditions => some (c.update table data conditions)
  | delete table conditions => some (c.delete table conditions)
  | replace table columns conditions => some (c.replace table columns conditions)
  | create table columns options => some (c.create table columns options)
  | drop table => some (c.drop table)
  | query raw => some (c.fragment raw)
  | importFile _ => none

/-- What the projector makes of the input, where rows are to be put into a shape. -/
def shaped : Operation α → Option (Except Error Shape)
  | select q => if q.aggregate.isSome then none else some (Database.shapeOf q)
  | selectEach q | get q | rand q => some (Database.shapeOf q)
  | _ => none

/-- The script that is read, unless none is there. -/
def script (files : FileTree) : Operation α → Option (Except Error String)
  | importFile path =>
    match files.readText path with
    | .ok sql => some (.ok sql)
    | .error .notFound => none
    | .error e => some (.error (.validation s!"cannot read {path}: {e.message}"))
  | _ => none

/-- The compiler or the projector rejects the input, or the script cannot be read. -/
def Rejected (files : FileTree) (c : Compiler) (op : Operation α) (e : Error) : Prop :=
  op.compiled c = some (.error e) ∨ op.shaped = some (.error e) ∨
    op.script files = some (.error e)

/-- The statement that the input asks for: the compiled one, or the script as it is. -/
def Asks (files : FileTree) (c : Compiler) (op : Operation α) (statement : Compiled) : Prop :=
  op.compiled c = some (.ok statement) ∨
    ∃ sql, op.script files = some (.ok sql) ∧ statement = ⟨sql, []⟩

/-- There is a script to be run that is not there. -/
def Misses (files : FileTree) (c : Compiler) (op : Operation α) : Prop :=
  op.compiled c = none ∧ op.script files = none

/-- Nothing rejects the input. -/
def Accepted (files : FileTree) (c : Compiler) (op : Operation α) : Prop :=
  ∀ e, ¬ op.Rejected files c e

/-! ## What an operation comes to -/

/-- The operation is rejected, runs the statement that was compiled, runs the script that was
read, or has no script to run. -/
inductive Outcome (E : Engine σ) (files : FileTree) (db : Database σ) (op : Operation α) :
    Except Error α × Database σ → Prop
  | rejected {e : Error} (h : op.Rejected files db.compiler e) :
      Outcome E files db op (.error e, db)
  | ran (h : op.Accepted files db.compiler) {c : Compiled}
      (hc : op.compiled db.compiler = some (.ok c)) (present : Option RowSet → α)
      (hnothing : present none = op.nothing) :
      Outcome E files db op
        (.ok (present (Database.run E c db).1), (Database.run E c db).2)
  | script (h : op.Accepted files db.compiler) {sql : String}
      (hsql : op.script files = some (.ok sql)) (present : Bool → α)
      (hnothing : present false = op.nothing) :
      Outcome E files db op
        (.ok (present (Database.runScript E sql db).1), (Database.runScript E sql db).2)
  | missing (h : op.Accepted files db.compiler) (hmisses : op.Misses files db.compiler) :
      Outcome E files db op (.ok op.nothing, db)

section
variable {E : Engine σ} {files : FileTree} {db : Database σ}

/-- An operation that only the compiler can reject. -/
theorem outcome_compiled (op : Operation α) {r : Except Error Compiled}
    (hr : op.compiled db.compiler = some r)
    (hshape : op.shaped = none) (hscript : op.script files = none)
    {next : Compiled → Database.Op σ (Except Error α)} (present : Compiled → Option RowSet → α)
    (hnext : ∀ c, next c db = (.ok (present c (Database.run E c db).1), (Database.run E c db).2))
    (hnothing : ∀ c, present c none = op.nothing) :
    Outcome E files db op (Database.onOk r next db) := by
  cases r with
  | error e => exact .rejected (.inl hr)
  | ok c =>
    have haccepted : op.Accepted files db.compiler := by
      rintro e (h | h | h)
      · simp [hr] at h
      · simp [hshape] at h
      · simp [hscript] at h
    unfold Database.onOk
    dsimp only
    rw [hnext c]
    exact .ran haccepted hr (present c) (hnothing c)

/-- An operation that has its rows put into a shape, and compiles first. -/
theorem outcome_shaped (op : Operation α) {r : Except Error Compiled}
    (hr : op.compiled db.compiler = some r)
    {p : Except Error Shape} (hp : op.shaped = some p) (hscript : op.script files = none)
    {next : Compiled → Shape → Database.Op σ (Except Error α)}
    (present : Shape → Option RowSet → α)
    (hnext : ∀ c shape, next c shape db =
      (.ok (present shape (Database.run E c db).1), (Database.run E c db).2))
    (hnothing : ∀ shape, present shape none = op.nothing) :
    Outcome E files db op
        (Database.onOk r (fun c => Database.onOk p (next c)) db) ∧
      Outcome E files db op
        (Database.onOk p (fun shape => Database.onOk r fun c => next c shape) db) := by
  rcases r with e | c
  · rcases p with e' | shape
    · exact ⟨.rejected (.inl hr), .rejected (.inr (.inl hp))⟩
    · exact ⟨.rejected (.inl hr), .rejected (.inl hr)⟩
  · rcases p with e | shape
    · exact ⟨.rejected (.inr (.inl hp)), .rejected (.inr (.inl hp))⟩
    · have haccepted : op.Accepted files db.compiler := by
        rintro e (h | h | h)
        · simp [hr] at h
        · simp [hp] at h
        · simp [hscript] at h
      have hran := Outcome.ran (E := E) haccepted hr (present shape) (hnothing shape)
      unfold Database.onOk
      dsimp only
      rw [hnext c shape]
      exact ⟨hran, hran⟩

/-- A value made from an aggregate. -/
theorem outcome_aggregate (op : Operation α) {f : Aggregate} {q : Query}
    (hc : op.compiled db.compiler = some (db.compiler.aggregate f q)) (hshape : op.shaped = none)
    (hscript : op.script files = none) (g : Option Value → α) (hnothing : g none = op.nothing) :
    Outcome E files db op
      ((Database.aggregate E f q db).1.map g, (Database.aggregate E f q db).2) := by
  have hmap : ((Database.aggregate E f q db).1.map g, (Database.aggregate E f q db).2) =
      Database.onOk (db.compiler.aggregate f q) (fun c db =>
        (.ok (g ((Database.run E c db).1.bind RowSet.first?)), (Database.run E c db).2)) db := by
    unfold Database.aggregate Database.onOk
    cases db.compiler.aggregate f q <;> rfl
  rw [hmap]
  exact outcome_compiled op hc hshape hscript (fun _ r => g (r.bind RowSet.first?)) (fun _ => rfl)
    fun _ => hnothing

/-- A statement that is answered with its text. -/
theorem outcome_write (op : Operation (Option Executed)) {r : Except Error Compiled}
    (hr : op.compiled db.compiler = some r) (hshape : op.shaped = none)
    (hscript : op.script files = none) (hnothing : op.nothing = none) :
    Outcome E files db op (Database.write E r db) :=
  outcome_compiled op hr hshape hscript (fun c r => r.map (Executed.ofRowSet c.sql)) (fun _ => rfl)
    fun _ => hnothing.symm

theorem outcome_importFile (path : String) :
    Outcome E files db (.importFile path) (Database.importFile E files path db) := by
  unfold Database.importFile
  rcases hread : files.readText path with e | sql
  · cases e with
    | notFound =>
      refine .missing ?_ ⟨rfl, by simp [script, hread]⟩
      rintro e (h | h | h)
      · cases h
      · cases h
      · simp [script, hread] at h
    | _ => exact .rejected (.inr (.inr (by simp [script, hread])))
  · have hsql : (importFile path).script files = some (.ok sql) := by simp [script, hread]
    refine .script ?_ hsql (fun b => b) rfl
    rintro e (h | h | h)
    · cases h
    · cases h
    · simp [script, hread] at h

end

/-- What is made of the rows, if there are any. -/
def madeOf (nothing : α) (f : RowSet → α) : Option RowSet → α
  | some r => f r
  | none => nothing

theorem outcome (E : Engine σ) (files : FileTree) (op : Operation α) (db : Database σ) :
    Outcome E files db op (op.perform E files db) := by
  cases op with
  | select q =>
    show Outcome E files db (select q) (Database.select E q db)
    unfold Database.select
    rcases hq : q.aggregate with _ | f
    · have hc : (select q).compiled db.compiler = some (db.compiler.select q) := by
        simp [compiled, hq]
      have hp : (select q).shaped = some (Database.shapeOf q) := by simp [shaped, hq]
      have hnothing : (select q).nothing = .array [] := by simp [nothing, hq]
      exact (outcome_shaped (select q) hc hp rfl
        (fun shape => madeOf (.array []) fun r => shape.result r.rows)
        (fun _ _ => rfl) fun _ => hnothing.symm).1
    · have hc : (select q).compiled db.compiler = some (db.compiler.aggregate f q) := by
        simp [compiled, hq]
      have hp : (select q).shaped = none := by simp [shaped, hq]
      have hnothing : (select q).nothing = .null := by simp [nothing, hq]
      exact outcome_aggregate (select q) hc hp rfl (fun v => v.getD .null) hnothing.symm
  | selectEach q =>
    exact (outcome_shaped (selectEach q) rfl rfl rfl
      (fun shape => madeOf [] fun r => r.rows.map fun row => shape.row? (some row))
      (fun _ _ => rfl) fun _ => rfl).2
  | get q =>
    exact (outcome_shaped (get q) rfl rfl rfl
      (fun shape => madeOf .null fun r => shape.row? r.rows.head?) (fun _ _ => rfl) fun _ => rfl).2
  | rand q =>
    exact (outcome_shaped (rand q) rfl rfl rfl
      (fun shape => madeOf (.array []) fun r => shape.result r.rows)
      (fun _ _ => rfl) fun _ => rfl).1
  | has q =>
    show Outcome E files db (has q) (Database.has E q db)
    unfold Database.has
    exact outcome_compiled (has q) rfl rfl rfl
      (fun _ r => Database.saysYes (r.bind RowSet.first?)) (fun _ => rfl) fun _ => rfl
  | aggregate f q =>
    show Outcome E files db (aggregate f q) (Database.aggregate E f q db)
    unfold Database.aggregate
    exact outcome_compiled (aggregate f q) rfl rfl rfl
      (fun _ r => r.bind RowSet.first?) (fun _ => rfl) fun _ => rfl
  | count q =>
    exact outcome_aggregate (count q) rfl rfl rfl
      (fun v => (v.bind Value.toInt64?).getD 0) rfl
  | insert table rows => exact outcome_write _ rfl rfl rfl rfl
  | update table data conditions => exact outcome_write _ rfl rfl rfl rfl
  | delete table conditions => exact outcome_write _ rfl rfl rfl rfl
  | replace table columns conditions => exact outcome_write _ rfl rfl rfl rfl
  | create table columns options => exact outcome_write _ rfl rfl rfl rfl
  | drop table => exact outcome_write _ rfl rfl rfl rfl
  | query raw => exact outcome_write _ rfl rfl rfl rfl
  | importFile path => exact outcome_importFile path

end Operation
end StructuredSql
