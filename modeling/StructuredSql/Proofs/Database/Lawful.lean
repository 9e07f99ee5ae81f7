-- Answers of a database: over an engine whose rows name each column once and whose counts
-- have 64 bits, every answer names each key once and counts in 64 bits, whatever the shape
-- that was asked for.
import StructuredSql.Engine.Memory
import StructuredSql.Session
import StructuredSql.Proofs.Output.ReadBack
import StructuredSql.Proofs.Projection.Rows
import StructuredSql.Proofs.Value.Keyed

namespace StructuredSql

/-! ## What an engine gives -/

/-- Each row names a column once, and the count has 64 bits. -/
structure RowSet.Lawful (r : RowSet) : Prop where
  rows : ∀ row ∈ r.rows, Fields.Keyed row
  affected : r.affected < Nat.pow 2 64

/-- What the engine gives is of that kind. -/
structure Engine.Lawful {σ : Type} (E : Engine σ) : Prop where
  execute : ∀ sql params s r, (E.execute sql params s).1 = .ok r → r.Lawful
  lastId : ∀ sequence s v, (E.lastId sequence s).1 = .ok v → v.Keyed

/-- The bundled engine has nothing stored. -/
theorem Engine.memory_lawful : memory.Lawful := by
  refine ⟨fun sql params m r hr => ?_, fun sequence m v hv => ?_⟩
  · cases hr
    exact ⟨nofun, by decide⟩
  · cases hv
    exact trivial

theorem RowSet.Lawful.first? {r : RowSet} (h : r.Lawful) {v : Value} (hv : r.first? = some v) :
    v.Keyed := by
  unfold RowSet.first? at hv
  split at hv
  · rename_i key w cells rows hrows
    cases hv
    have hrow := h.rows _ (hrows ▸ List.mem_cons_self)
    exact hrow.2.1
  · cases hv

/-! ## Rows in their shape -/

theorem Leaf.keyed_castBy {v : Value} (h : v.Keyed) (floats : Json.FloatReader)
    (type : ColumnType) : (castBy floats type v).Keyed := by
  cases type with
  | string => exact h
  | number => exact trivial
  | int => exact trivial
  | bool => exact trivial
  | object =>
    unfold castBy
    rcases hparse : Structured.parse? v.toText with _ | w
    · exact trivial
    · exact Structured.keyed_parse? hparse
  | json =>
    unfold castBy
    rcases Json.parseBy? floats Json.maxDepth v.toText with _ | j
    · exact trivial
    · exact Value.keyed_ofJson j

theorem Fields.Keyed.getD {row : Fields} (h : Fields.Keyed row) (key : String) :
    ((Entries.get? row key).getD .null).Keyed := by
  rcases hcell : Entries.get? row key with _ | v
  · exact trivial
  · exact h.get? hcell

theorem Leaf.keyed_read? {l : Leaf} {row : Fields} (h : Fields.Keyed row) {v : Value}
    (hv : l.read? row = some v) : v.Keyed := by
  have hcell := h.getD l.key
  unfold read? readBy? at hv
  dsimp only at hv
  split at hv
  · cases hv
    exact hcell
  · split at hv
    · cases hv
    · split at hv
      · cases hv
        exact trivial
      · cases hv
        exact keyed_castBy hcell _ _

theorem Fields.keyed_star {row out : Fields} (hrow : FieldsKeyed row) (hout : Fields.Keyed out) :
    Fields.Keyed (row.foldl (fun out e =>
      if Entries.contains out e.1 then out else Entries.insert out e.1 e.2) out) := by
  induction row generalizing out with
  | nil => exact hout
  | cons e row ih =>
    rw [List.foldl_cons]
    refine ih hrow.2 ?_
    split
    · exact hout
    · exact hout.insert e.1 hrow.1

mutual

theorem Node.keyed_add {row : Fields} (hrow : Fields.Keyed row) : ∀ {out : Fields} (n : Node),
    Fields.Keyed out → Fields.Keyed (add row out n)
  | out, .leaf l, hout => by
    unfold add
    rcases hcell : l.read? row with _ | v
    · exact hout
    · exact hout.insert l.key (Leaf.keyed_read? hrow hcell)
  | _, .group name children, hout =>
    hout.insert name (Node.keyed_addAll hrow children Fields.keyed_nil)
  | _, .star, hout => Fields.keyed_star hrow.2 hout
termination_by structural _ n => n

theorem Node.keyed_addAll {row : Fields} (hrow : Fields.Keyed row) : ∀ {out : Fields}
    (nodes : List Node), Fields.Keyed out → Fields.Keyed (addAll row out nodes)
  | _, [], hout => hout
  | _, n :: rest, hout => Node.keyed_addAll hrow rest (Node.keyed_add hrow n hout)
termination_by structural _ nodes => nodes

end

namespace Shape

theorem keyed_row {row : Fields} (h : Fields.Keyed row) (shape : Shape) :
    (shape.row row).Keyed := by
  cases shape with
  | all => exact h
  | single leaf =>
    show ((leaf.read? row).getD .null).Keyed
    rcases hcell : leaf.read? row with _ | v
    · exact trivial
    · exact Leaf.keyed_read? h hcell
  | rows nodes => exact Node.keyed_addAll h nodes Fields.keyed_nil
  | grouped index nodes => exact Node.keyed_addAll h nodes Fields.keyed_nil

theorem keyed_row? {row : Option Fields} (h : ∀ r ∈ row, Fields.Keyed r) (shape : Shape) :
    (shape.row? row).Keyed := by
  cases row with
  | none => exact trivial
  | some r => exact keyed_row (h r rfl) shape

theorem keyed_table {rows : List Fields} (h : ∀ row ∈ rows, Fields.Keyed row) (shape : Shape) :
    (Value.array (rows.map shape.row)).Keyed := by
  refine itemsKeyed_iff.mpr fun v hv => ?_
  obtain ⟨row, hrow, rfl⟩ := List.mem_map.mp hv
  exact keyed_row (h row hrow) shape

theorem keyed_result {rows : List Fields} (h : ∀ row ∈ rows, Fields.Keyed row) (shape : Shape) :
    (shape.result rows).Keyed := by
  cases shape with
  | all => exact keyed_table h .all
  | single leaf => exact keyed_table h (.single leaf)
  | rows nodes => exact keyed_table h (.rows nodes)
  | grouped index nodes =>
    rw [result_grouped]
    refine Fields.keyed_ofPairs fun e he => ?_
    obtain ⟨row, hrow, rfl⟩ := List.mem_map.mp he
    exact Node.keyed_addAll (h row hrow) nodes Fields.keyed_nil

end Shape
/-! ## Operations -/

/-- A good result is of that kind. -/
def Yields {ε α : Type} (p : α → Prop) (r : Except ε α) : Prop := ∀ a, r = .ok a → p a

theorem SoftError.keyed_value (e : SoftError) : e.value.Keyed := by
  refine ⟨show ["code", "message"].Nodup by decide, ?_, trivial, trivial⟩
  cases e.code <;> exact trivial

namespace Database

variable {σ α β : Type} {E : Engine σ}

theorem yields_ok {ε : Type} {p : α → Prop} {a : α} (h : p a) :
    Yields p (Except.ok a : Except ε α) := by
  intro b hb
  cases hb
  exact h

theorem yields_onOk {p : β → Prop} {r : Except Error α} {next : α → Op σ (Except Error β)}
    {db : Database σ} (h : ∀ a, Yields p (next a db).1) : Yields p (onOk r next db).1 := by
  cases r with
  | ok a => exact h a
  | error e => exact nofun

theorem yields_map {ε : Type} {p : α → Prop} {q : β → Prop} {r : Except ε α} {f : α → β}
    (h : Yields p r) (hf : ∀ a, p a → q (f a)) : Yields q (r.map f) := by
  cases r with
  | ok a => exact yields_ok (hf a (h a rfl))
  | error e => exact nofun

/-- The rows of a statement that was run. -/
theorem lawful_run (hE : E.Lawful) (c : Compiled) (db : Database σ) :
    ∀ r ∈ (run E c db).1, r.Lawful := by
  intro r hr
  unfold run attempt at hr
  dsimp only at hr
  by_cases hdry : db.options.dryRun
  · rw [if_pos hdry] at hr
    cases hr
  rw [if_neg hdry] at hr
  by_cases hdebug : db.options.debugLog
  · rw [if_pos hdebug] at hr
    cases hr
  rw [if_neg hdebug] at hr
  unfold ask at hr
  rcases hengine : db.engine with _ | s
  · rw [hengine] at hr
    cases hr
  · rw [hengine] at hr
    have hanswer := hE.execute c.sql c.params s
    dsimp only at hr
    rcases hcall : (E.execute c.sql c.params s).1 with e | r'
    · rw [hcall] at hr
      cases hr
    · rw [hcall] at hr
      cases hr
      exact hanswer r hcall

theorem lawful_runExecuted (hE : E.Lawful) (c : Compiled) (db : Database σ) :
    ∀ e ∈ (runExecuted E c db).1, e.Lawful := by
  intro e he
  obtain ⟨r, hr, rfl⟩ := Option.map_eq_some_iff.mp he
  have hrows := lawful_run hE c db r hr
  exact ⟨hrows.rows, hrows.affected⟩

theorem keyed_first (hE : E.Lawful) (c : Compiled) (db : Database σ) :
    ∀ v ∈ (run E c db).1.bind RowSet.first?, v.Keyed := by
  intro v hv
  obtain ⟨r, hr, hfirst⟩ := Option.bind_eq_some_iff.mp hv
  exact (lawful_run hE c db r hr).first? hfirst

theorem yields_aggregate (hE : E.Lawful) (f : Aggregate) (q : Query) (db : Database σ) :
    Yields (fun v => ∀ w ∈ v, w.Keyed) (aggregate E f q db).1 :=
  yields_onOk fun c => yields_ok (keyed_first hE c db)

theorem yields_allRows (hE : E.Lawful) (q : Query) (c : Compiled) (db : Database σ) :
    Yields Value.Keyed (allRows E q c db).1 := by
  refine yields_onOk fun shape => yields_ok ?_
  rcases hrun : (run E c db).1 with _ | r
  · exact trivial
  · exact shape.keyed_result (lawful_run hE c db r hrun).rows

theorem yields_select (hE : E.Lawful) (q : Query) (db : Database σ) :
    Yields Value.Keyed (select E q db).1 := by
  unfold select
  split
  · refine yields_map (yields_aggregate hE _ q db) fun v hv => ?_
    cases v with
    | none => exact trivial
    | some v => exact hv v rfl
  · exact yields_onOk fun c => yields_allRows hE q c db

theorem yields_get (hE : E.Lawful) (q : Query) (db : Database σ) :
    Yields Value.Keyed (get E q db).1 := by
  refine yields_onOk fun shape => yields_onOk fun c => yields_ok ?_
  rcases hrun : (run E c db).1 with _ | r
  · exact trivial
  · refine shape.keyed_row? fun row hrow => ?_
    exact (lawful_run hE c db r hrun).rows row (List.mem_of_head? hrow)

theorem yields_write (hE : E.Lawful) (r : Except Error Compiled) (db : Database σ) :
    Yields (fun e => ∀ x ∈ e, x.Lawful) (write E r db).1 :=
  yields_onOk fun c => yields_ok (lawful_runExecuted hE c db)

theorem yields_id (hE : E.Lawful) (sequence : Option String) (db : Database σ) :
    Yields (fun v => ∀ w ∈ v, w.Keyed) (id E sequence db).1 := by
  unfold id
  rcases db.engine with _ | s
  · exact yields_ok nofun
  · refine yields_map (hE.lastId sequence s) fun v hv w hw => ?_
    cases hw
    exact hv

theorem keyed_property (db : Database σ) (p : Property) : ∀ v ∈ db.property p, v.Keyed := by
  have hscalar {α : Type} (part : Option α) {f : α → Value} (h : ∀ a, (f a).Keyed) :
      ∀ v ∈ part.map f, v.Keyed := by
    intro v hv
    obtain ⟨a, -, rfl⟩ := Option.map_eq_some_iff.mp hv
    exact h a
  cases p with
  | engine => exact hscalar (some db.options.engine.name) fun _ => trivial
  | tablePrefix => exact hscalar (some db.options.tablePrefix) fun _ => trivial
  | error => exact hscalar _ fun _ => trivial
  | errorInfo => exact hscalar _ SoftError.keyed_value
  | queryString => exact hscalar _ fun _ => trivial
  | logging => exact hscalar (some db.options.logging) fun _ => trivial
  | dryRun => exact hscalar (some db.options.dryRun) fun _ => trivial
  | debugLog => exact hscalar (some db.options.debugLog) fun _ => trivial

/-! ## Commands -/

theorem yields_answering {wrap : α → Output} {op : Op σ (Except Error α)} {db : Database σ}
    {p : α → Prop} (h : Yields p (op db).1) (hwrap : ∀ a, p a → (wrap a).Lawful) :
    Yields Output.Lawful (answering wrap op db).1 := by
  unfold answering
  dsimp only
  rcases hop : (op db).1 with e | a
  · exact nofun
  · exact yields_ok (hwrap a (h a hop))

/-- An answer that says nothing of what the engine gave. -/
theorem yields_answering_of_forall {wrap : α → Output} {op : Op σ (Except Error α)}
    {db : Database σ} (h : ∀ a, (wrap a).Lawful) : Yields Output.Lawful (answering wrap op db).1 :=
  yields_answering (fun _ _ => trivial) fun a _ => h a

theorem yields_answer (hE : E.Lawful) (files : FileTree) (cmd : Command) (db : Database σ) :
    Yields Output.Lawful (answer E files cmd db).1 := by
  cases cmd with
  | select q => exact yields_answering (yields_select hE q db) fun _ h => h
  | get q => exact yields_answering (yields_get hE q db) fun _ h => h
  | rand q =>
    refine yields_answering (p := Value.Keyed) (yields_onOk fun c => ?_) fun _ h => h
    exact yields_allRows hE q c db
  | has q => exact yields_answering_of_forall fun _ => trivial
  | aggregate f q => exact yields_answering (yields_aggregate hE f q db) fun _ h => h
  | insert table rows => exact yields_answering (yields_write hE _ db) fun _ h => h
  | update table data v => exact yields_answering (yields_write hE _ db) fun _ h => h
  | delete table v => exact yields_answering (yields_write hE _ db) fun _ h => h
  | replace table columns v => exact yields_answering (yields_write hE _ db) fun _ h => h
  | create table columns v => exact yields_answering (yields_write hE _ db) fun _ h => h
  | drop table => exact yields_answering (yields_write hE _ db) fun _ h => h
  | query raw => exact yields_answering (yields_write hE _ db) fun _ h => h
  | exec sql params =>
    exact yields_answering (yields_ok (lawful_runExecuted hE ⟨sql, params⟩ db)) fun _ h => h
  | importFile path => exact yields_answering_of_forall fun _ => trivial
  | begin => exact yields_answering_of_forall fun _ => trivial
  | commit => exact yields_answering_of_forall fun _ => trivial
  | rollback => exact yields_answering_of_forall fun _ => trivial
  | id sequence => exact yields_answering (yields_id hE sequence db) fun _ h => h
  | info => exact yields_ok trivial
  | last => exact yields_ok trivial
  | log => exact yields_ok trivial
  | debugLog => exact yields_answering_of_forall fun _ => trivial
  | property p => exact yields_ok (keyed_property db p)
  | ping => exact yields_ok trivial

theorem yields_execute (hE : E.Lawful) (files : FileTree) (cmd : Command) (db : Database σ) :
    Yields Output.Lawful (execute E files cmd db).1 := by
  have hanswer := yields_answer hE files cmd db
  unfold execute
  generalize answer E files cmd db = answered at hanswer
  rcases answered with ⟨e | output, after⟩
  · exact nofun
  · dsimp only
    split
    · exact nofun
    · exact yields_ok (hanswer output rfl)

end Database

namespace Session

variable {σ : Type} {E : Engine σ}

theorem yields_pass (hE : E.Lawful) (files : FileTree) (cmd : Command) (s : Session σ) :
    Yields Output.Lawful (s.pass E files cmd).1 :=
  Database.yields_execute hE files cmd s.database

/-- What a session answers names each key once and counts in 64 bits. -/
theorem yields_execute (hE : E.Lawful) (files : FileTree) (cmd : Command) (s : Session σ) :
    Yields Output.Lawful (s.execute E files cmd).1 := by
  unfold execute
  split
  · have hbegin := yields_pass hE files .begin s
    split
    · exact nofun
    · generalize s.pass E files .begin = passed at hbegin
      rcases passed with ⟨e | output, after⟩
      · exact nofun
      · exact hbegin
  · split
    · exact yields_pass hE files .commit _
    · exact nofun
  · split
    · exact yields_pass hE files .rollback _
    · exact nofun
  · exact yields_pass hE files cmd s

end Session
end StructuredSql
