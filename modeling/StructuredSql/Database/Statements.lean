-- What a database does with descriptors: compile, run, and put the rows into the
-- shape that was asked for.
import StructuredSql.Database.Basic
import StructuredSql.Statement.Read
import StructuredSql.Statement.Write
import StructuredSql.Statement.Schema
import StructuredSql.Projection
import StructuredSql.Value.View
import StructuredSql.FileTree

namespace StructuredSql.Database

variable {σ : Type}

/-! ## Reads -/

/-- The shape of the rows that a query asks for. -/
def shapeOf (q : Query) : Except Error Shape :=
  (Shape.ofSpec q.columnSpec).mapError fun f => f.error ""

/-- The first column of an aggregate. -/
def aggregate (E : Engine σ) (f : Aggregate) (q : Query) : Op σ (Except Error (Option Value)) :=
  fun db =>
    onOk (db.compiler.aggregate f q) (fun c db =>
      let (r, db) := run E c db
      (.ok (r.bind RowSet.first?), db)) db

/-- All rows of a compiled query; an empty list when there are none to be had. -/
def allRows (E : Engine σ) (q : Query) (c : Compiled) : Op σ (Except Error Value) :=
  onOk (shapeOf q) fun shape db =>
    let (r, db) := run E c db
    (.ok (match r with
      | some r => shape.result r.rows
      | none => .array []), db)

/-- The rows of a query. One that is tagged with an aggregate gives its value, or
null. -/
def select (E : Engine σ) (q : Query) : Op σ (Except Error Value) := fun db =>
  match q.aggregate with
  | some f =>
    let (r, db) := aggregate E f q db
    (r.map fun v => v.getD .null, db)
  | none => onOk (db.compiler.select q) (allRows E q) db

/-- The rows of a query, one by one. -/
def selectEach (E : Engine σ) (q : Query) : Op σ (Except Error (List Value)) := fun db =>
  onOk (shapeOf q) (fun shape =>
    onOk (db.compiler.select q) fun c db =>
      let (r, db) := run E c db
      (.ok (match r with
        | some r => r.rows.map fun row => shape.row? (some row)
        | none => []), db)) db

/-- The first row of a query, or null. -/
def get (E : Engine σ) (q : Query) : Op σ (Except Error Value) := fun db =>
  onOk (shapeOf q) (fun shape =>
    onOk (db.compiler.get q) fun c db =>
      let (r, db) := run E c db
      (.ok (match r with
        | some r => shape.row? r.rows.head?
        | none => .null), db)) db

/-- The rows of a query in random order. -/
def rand (E : Engine σ) (q : Query) : Op σ (Except Error Value) := fun db =>
  onOk (db.compiler.rand q) (allRows E q) db

/-- The answer of a query for existence. -/
def saysYes : Option Value → Bool
  | some (.int i) => i == 1
  | some (.bool b) => b
  | some (.string s) => s == "1"
  | _ => false

/-- Some row matches. -/
def has (E : Engine σ) (q : Query) : Op σ (Except Error Bool) := fun db =>
  onOk (db.compiler.exists? q) (fun c db =>
    let (r, db) := run E c db
    (.ok (saysYes (r.bind RowSet.first?)), db)) db

/-- How many rows match; zero when that cannot be told. -/
def count (E : Engine σ) (q : Query) : Op σ (Except Error Int64) := fun db =>
  let (r, db) := aggregate E .count q db
  (r.map fun v => (v.bind Value.toInt64?).getD 0, db)

/-! ## Writes and schema -/

/-- A compiled statement, answered with its text. -/
def write (E : Engine σ) (r : Except Error Compiled) : Op σ (Except Error (Option Executed)) :=
  onOk r fun c => always (runExecuted E c)

def insert (E : Engine σ) (table : String) (rows : Value) :
    Op σ (Except Error (Option Executed)) := fun db =>
  write E (db.compiler.insert table rows) db

def update (E : Engine σ) (table : String) (data : Fields) (conditions : Option Value) :
    Op σ (Except Error (Option Executed)) := fun db =>
  write E (db.compiler.update table data conditions) db

def delete (E : Engine σ) (table : String) (conditions : Option Value) :
    Op σ (Except Error (Option Executed)) := fun db =>
  write E (db.compiler.delete table conditions) db

def replace (E : Engine σ) (table : String) (columns : Fields) (conditions : Option Value) :
    Op σ (Except Error (Option Executed)) := fun db =>
  write E (db.compiler.replace table columns conditions) db

def create (E : Engine σ) (table : String) (columns : Value) (options : Option Value) :
    Op σ (Except Error (Option Executed)) := fun db =>
  write E (db.compiler.create table columns options) db

def drop (E : Engine σ) (table : String) : Op σ (Except Error (Option Executed)) := fun db =>
  write E (db.compiler.drop table) db

/-- A fragment of the caller's, its markers expanded. -/
def query (E : Engine σ) (raw : Raw) : Op σ (Except Error (Option Executed)) := fun db =>
  write E (db.compiler.fragment raw) db

/-! ## Scripts -/

/-- The script in a file. One that is not there is no failure. -/
def importFile (E : Engine σ) (files : FileTree) (path : String) : Op σ (Except Error Bool) :=
  match files.readText path with
  | .ok script => always (runScript E script)
  | .error .notFound => fun db => (.ok false, db)
  | .error e => fun db => (.error (.validation s!"cannot read {path}: {e.message}"), db)

end StructuredSql.Database
