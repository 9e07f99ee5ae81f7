-- Commands read back from a message: each is read as it was written when the reader may open
-- as many lists and maps as its parts nest, and not read when it may open fewer.
import StructuredSql.Command.Datum
import StructuredSql.Proofs.Value.ReadBack

namespace StructuredSql

open Datum (within needed written)
open MessagePack (received)

/-! ## Parts of commands -/

def Fields.nesting (fields : Fields) : Nat := fieldsNesting fields + 1

/-- Each key once, here and further in. -/
def Fields.Keyed (fields : Fields) : Prop := Entries.Distinct fields ∧ FieldsKeyed fields

theorem Fields.ofDatum?_received {fields : Fields} (h : Fields.Keyed fields) (room : Nat) :
    ofDatum? .messagePack room (received (Fields.toDatum fields)) =
      within (Fields.nesting fields) room fields := by
  cases room with
  | zero => exact (Datum.within_succ_zero _ _).symm
  | succ inside =>
    show Value.fieldsOf? (Value.ofDatum? .messagePack inside) (received (Fields.toDatum fields)) =
      within (fieldsNesting fields + 1) (inside + 1) fields
    rw [Value.fieldsOf?_received h.1 (fieldsToData_received h.2 inside)]
    exact (Datum.within_succ_succ _ _ _).symm

def Params.nesting (params : Params) : Nat := paramsNesting params + 1

theorem Params.ofDatum?_received {params : Params} (h : ParamsKeyed params) (room : Nat) :
    ofDatum? .messagePack room (received (Params.toDatum params)) =
      within (Params.nesting params) room params := by
  refine Bound.listOfDatum?_received fun inside hroom => ?_
  refine paramsToData_received h inside fun more hinside => ?_
  rw [show room - 3 = more by omega]

def Raw.nesting (raw : Raw) : Nat := paramsNesting raw.params + 2

theorem Raw.ofDatum?_received {raw : Raw} (h : ParamsKeyed raw.params) (room : Nat) :
    ofDatum? .messagePack room (received (Raw.toDatum raw)) =
      within (Raw.nesting raw) room raw := by
  refine Fragment.ofDatum?_received fun inside hroom => ?_
  refine paramsToData_received h inside fun more hinside => ?_
  rw [show room - 4 = more by omega]

theorem Aggregate.ofDatum?_toDatum (a : Aggregate) :
    ofDatum? .messagePack (received a.toDatum) = some a := by
  cases a <;> rfl

theorem Property.ofDatum?_toDatum (p : Property) :
    ofDatum? .messagePack (received p.toDatum) = some p := by
  cases p <;> rfl

theorem Value.received_ne_null (v : Value) : received v.toDatum ≠ .null := by
  cases v <;> exact nofun

/-- A value that may be missing. -/
theorem Value.optional?_received {part : Option Value} (h : ∀ v ∈ part, v.Keyed) (room : Nat) :
    Datum.optional? (ofDatum? .messagePack room) ((part.map toDatum).map received) =
      within (needed nesting part) room part := by
  rw [Option.map_map]
  exact Datum.optional?_within received_ne_null fun v hv => ofDatum?_received (h v hv) room

/-! ## Queries -/

namespace Query

def nesting (q : Query) : Nat :=
  max (needed Fields.nesting q.join)
    (max (needed Value.nesting q.columns) (needed Value.nesting q.conditions)) + 1

/-- Each key once, in every part that is there. -/
structure Keyed (q : Query) : Prop where
  join : ∀ fields ∈ q.join, Fields.Keyed fields
  columns : ∀ v ∈ q.columns, v.Keyed
  conditions : ∀ v ∈ q.conditions, v.Keyed

def parts (q : Query) : List (String × Option Datum) :=
  [("table", some (.string q.table)), ("join", q.join.map Fields.toDatum),
    ("columns", q.columns.map Value.toDatum), ("conditions", q.conditions.map Value.toDatum),
    ("aggregate", q.aggregate.map Aggregate.toDatum)]

theorem toDatum_eq_written (q : Query) : q.toDatum = written q.parts := by
  unfold toDatum written parts
  simp only [List.flatMap_cons, List.flatMap_nil, List.append_nil, List.append_assoc]
  rfl

theorem ofDatum?_received {q : Query} (h : q.Keyed) (room : Nat) :
    ofDatum? .messagePack room (received q.toDatum) = within q.nesting room q := by
  rw [toDatum_eq_written, Datum.received_written]
  refine Datum.record?_bind_within true (by rfl) (by decide) fun inside _ => ?_
  have hjoin : Datum.optional? (Fields.ofDatum? .messagePack inside)
      ((q.join.map Fields.toDatum).map received) =
        within (needed Fields.nesting q.join) inside q.join := by
    rw [Option.map_map]
    exact Datum.optional?_within nofun fun f hf => Fields.ofDatum?_received (h.join f hf) inside
  have haggregate : Datum.optional? (Aggregate.ofDatum? .messagePack)
      ((q.aggregate.map Aggregate.toDatum).map received) = some q.aggregate := by
    rcases q.aggregate with _ | a
    · rfl
    · cases a <;> rfl
  show (Datum.optional? (Fields.ofDatum? .messagePack inside)
    ((q.join.map Fields.toDatum).map received)).bind (fun join =>
      (Datum.optional? (Value.ofDatum? .messagePack inside)
        ((q.columns.map Value.toDatum).map received)).bind fun columns =>
        (Datum.optional? (Value.ofDatum? .messagePack inside)
          ((q.conditions.map Value.toDatum).map received)).bind fun conditions =>
          (Datum.optional? (Aggregate.ofDatum? .messagePack)
            ((q.aggregate.map Aggregate.toDatum).map received)).bind fun aggregate =>
            some (Query.mk q.table join columns conditions aggregate)) = _
  rw [hjoin, Value.optional?_received h.columns, Value.optional?_received h.conditions,
    haggregate]
  exact Datum.within_bind (Datum.within_bind (Datum.within_bind_some _ _ _ _))

end Query

/-! ## Commands -/

namespace Command

/-- How many lists and maps a reader opens inside each other. -/
def nesting : Command → Nat
  | select q | get q | rand q | has q | aggregate _ q => q.nesting + 1
  | insert _ rows => rows.nesting + 1
  | update _ data v => max (Fields.nesting data) (needed Value.nesting v) + 1
  | delete _ v => needed Value.nesting v + 1
  | replace _ columns v => max (Fields.nesting columns) (needed Value.nesting v) + 1
  | create _ columns v => max columns.nesting (needed Value.nesting v) + 1
  | query raw => Raw.nesting raw + 1
  | exec _ params => Params.nesting params + 1
  | drop _ | importFile _ | id _ | property _ => 1
  | begin | commit | rollback | info | last | log | debugLog | ping => 0

/-- Every object in the command names each key once. -/
def Keyed : Command → Prop
  | select q | get q | rand q | has q | aggregate _ q => q.Keyed
  | insert _ rows => rows.Keyed
  | update _ data v => Fields.Keyed data ∧ ∀ w ∈ v, w.Keyed
  | delete _ v => ∀ w ∈ v, w.Keyed
  | replace _ columns v => Fields.Keyed columns ∧ ∀ w ∈ v, w.Keyed
  | create _ columns v => columns.Keyed ∧ ∀ w ∈ v, w.Keyed
  | query raw => ParamsKeyed raw.params
  | exec _ params => ParamsKeyed params
  | drop _ | importFile _ | id _ | property _ => True
  | begin | commit | rollback | info | last | log | debugLog | ping => True

variable {room : Nat}

/-- Commands that hold a query and nothing else. -/
theorem queryPart?_received {q : Query} (h : q.Keyed) (wrap : Query → Command) :
    (queryPart? .messagePack room (received (written [("query", some q.toDatum)]))).map wrap =
      within (q.nesting + 1) room (wrap q) := by
  have hpart : queryPart? .messagePack room (received (written [("query", some q.toDatum)])) =
      within (q.nesting + 1) room q := by
    rw [Datum.received_written]
    refine Datum.record?_bind_within true (by rfl) (by decide) fun inside _ => ?_
    exact Query.ofDatum?_received h inside
  rw [hpart]
  exact Datum.within_map _ _ _ _

/-- Commands that hold a text and nothing else. -/
theorem textPart?_received (name s : String) (wrap : String → Command) :
    (textPart? .messagePack name room
      (received (written [(name, some (.string s))]))).map wrap = within 1 room (wrap s) := by
  have hpart : textPart? .messagePack name room
      (received (written [(name, some (.string s))])) = within 1 room s := by
    rw [Datum.received_written]
    refine Datum.record?_bind_within true (by rfl) (List.nodup_singleton name) fun inside _ => ?_
    exact (Datum.within_zero _ _).symm
  rw [hpart]
  exact Datum.within_map _ _ _ _

/-- A table, something about it that takes room, and perhaps a value. -/
theorem tablePart?_received {α : Type} {names : List String} {read : Nat → Datum → Option α}
    {write : α → Datum} {size : α → Nat} {t second third : String} {a : α} {v : Option Value}
    (hnames : ["table", second, third] = names) (hnodup : names.Nodup)
    (hread : ∀ inside, read inside (received (write a)) = within (size a) inside a)
    (hv : ∀ w ∈ v, w.Keyed) :
    tablePart? .messagePack names read room (received (written
        [("table", some (.string t)), (second, some (write a)),
          (third, v.map Value.toDatum)])) =
      within (max (size a) (needed Value.nesting v) + 1) room (t, a, v) := by
  rw [Datum.received_written]
  refine Datum.record?_bind_within true (by exact hnames) hnodup fun inside _ => ?_
  show (read inside (received (write a))).bind (fun b =>
    (Datum.optional? (Value.ofDatum? .messagePack inside)
      ((v.map Value.toDatum).map received)).bind fun w => some (t, b, w)) = _
  rw [hread, Value.optional?_received hv]
  exact Datum.within_bind (Datum.within_bind_some _ _ _ _)

theorem aggregatePart?_received (f : Aggregate) {q : Query} (h : q.Keyed) :
    aggregatePart? .messagePack room (received (written
        [("function", some f.toDatum), ("query", some q.toDatum)])) =
      within (q.nesting + 1) room (aggregate f q) := by
  rw [Datum.received_written]
  refine Datum.record?_bind_within true (by rfl) (by decide) fun inside _ => ?_
  show (Aggregate.ofDatum? .messagePack (received f.toDatum)).bind (fun g =>
    (Query.ofDatum? .messagePack inside (received q.toDatum)).bind fun p =>
      some (aggregate g p)) = _
  rw [Aggregate.ofDatum?_toDatum, Query.ofDatum?_received h]
  exact Datum.within_bind_some _ _ _ _

theorem insertPart?_received (t : String) {rows : Value} (h : rows.Keyed) :
    insertPart? .messagePack room (received (written
        [("table", some (.string t)), ("rows", some rows.toDatum)])) =
      within (rows.nesting + 1) room (insert t rows) := by
  rw [Datum.received_written]
  refine Datum.record?_bind_within true (by rfl) (by decide) fun inside _ => ?_
  show (Value.ofDatum? .messagePack inside (received rows.toDatum)).bind (fun v =>
    some (insert t v)) = _
  rw [Value.ofDatum?_received h]
  exact Datum.within_bind_some _ _ _ _

theorem deletePart?_received (t : String) {v : Option Value} (h : ∀ w ∈ v, w.Keyed) :
    deletePart? .messagePack room (received (written
        [("table", some (.string t)), ("conditions", v.map Value.toDatum)])) =
      within (needed Value.nesting v + 1) room (delete t v) := by
  rw [Datum.received_written]
  refine Datum.record?_bind_within true (by rfl) (by decide) fun inside _ => ?_
  show (Datum.optional? (Value.ofDatum? .messagePack inside)
    ((v.map Value.toDatum).map received)).bind (fun w => some (delete t w)) = _
  rw [Value.optional?_received h]
  exact Datum.within_bind_some _ _ _ _

theorem queryRawPart?_received {raw : Raw} (h : ParamsKeyed raw.params) :
    queryRawPart? .messagePack room (received (written [("raw", some (Raw.toDatum raw))])) =
      within (Raw.nesting raw + 1) room (query raw) := by
  rw [Datum.received_written]
  refine Datum.record?_bind_within true (by rfl) (by decide) fun inside _ => ?_
  show (Raw.ofDatum? .messagePack inside (received (Raw.toDatum raw))).bind (fun r =>
    some (query r)) = _
  rw [Raw.ofDatum?_received h]
  exact Datum.within_bind_some _ _ _ _

theorem execPart?_received (sql : String) {params : Params} (h : ParamsKeyed params) :
    execPart? .messagePack room (received (written
        [("sql", some (.string sql)), ("params", some (Params.toDatum params))])) =
      within (Params.nesting params + 1) room (exec sql params) := by
  rw [Datum.received_written]
  refine Datum.record?_bind_within true (by rfl) (by decide) fun inside _ => ?_
  show (Params.ofDatum? .messagePack inside (received (Params.toDatum params))).bind (fun p =>
    some (exec sql p)) = _
  rw [Params.ofDatum?_received h]
  exact Datum.within_bind_some _ _ _ _

theorem idPart?_received (sequence : Option String) :
    idPart? .messagePack room (received (written [("name", sequence.map .string)])) =
      within 1 room (id sequence) := by
  rw [Datum.received_written]
  refine Datum.record?_bind_within true (by rfl) (by decide) fun inside _ => ?_
  rw [Datum.within_zero]
  cases sequence <;> rfl

theorem propertyPart?_received (p : Property) :
    propertyPart? .messagePack room (received (written [("name", some p.toDatum)])) =
      within 1 room (property p) := by
  rw [Datum.received_written]
  refine Datum.record?_bind_within true (by rfl) (by decide) fun inside _ => ?_
  rw [Datum.within_zero]
  show (Property.ofDatum? .messagePack (received p.toDatum)).bind (fun p =>
    some (property p)) = _
  rw [Property.ofDatum?_toDatum]
  rfl

/-! ## All of them -/

/-- A table, something about it, and perhaps a value, under the names of the fields. -/
theorem tagged_written (case second third t : String) (d : Datum) (v : Option Value) :
    parts case ([("table", .string t), (second, d)] ++ valuePart? third v) =
      .tagged case (written
        [("table", some (.string t)), (second, some d), (third, v.map Value.toDatum)]) :=
  congrArg (Datum.tagged case) (Datum.record_append_field? _ _ _)

/-- A command is read back by a reader that may open as many lists and maps as it nests, and
by no other. -/
theorem ofDatum?_received {cmd : Command} (h : cmd.Keyed) (room : Nat) :
    ofDatum? .messagePack room (received cmd.toDatum) = within cmd.nesting room cmd := by
  cases cmd with
  | select q => exact queryPart?_received h select
  | get q => exact queryPart?_received h get
  | rand q => exact queryPart?_received h rand
  | has q => exact queryPart?_received h has
  | aggregate f q => exact aggregatePart?_received f h
  | insert t rows => exact insertPart?_received t h
  | update t data v =>
    rw [toDatum, tagged_written]
    show (tablePart? .messagePack ["table", "data", "conditions"]
      (Fields.ofDatum? .messagePack) room (received (written _))).map _ = _
    rw [tablePart?_received rfl (by decide) (Fields.ofDatum?_received h.1) h.2]
    exact Datum.within_map _ _ _ _
  | delete t v =>
    rw [toDatum, textPart, valuePart?, parts, Datum.record_append_field?]
    exact deletePart?_received t h
  | replace t columns v =>
    rw [toDatum, tagged_written]
    show (tablePart? .messagePack ["table", "columns", "conditions"]
      (Fields.ofDatum? .messagePack) room (received (written _))).map _ = _
    rw [tablePart?_received rfl (by decide) (Fields.ofDatum?_received h.1) h.2]
    exact Datum.within_map _ _ _ _
  | create t columns v =>
    rw [toDatum, tagged_written]
    show (tablePart? .messagePack ["table", "columns", "options"]
      (Value.ofDatum? .messagePack) room (received (written _))).map _ = _
    rw [tablePart?_received rfl (by decide) (Value.ofDatum?_received h.1) h.2]
    exact Datum.within_map _ _ _ _
  | drop t => exact textPart?_received "table" t drop
  | query raw => exact queryRawPart?_received h
  | exec sql params => exact execPart?_received sql h
  | importFile path => exact textPart?_received "path" path importFile
  | id sequence =>
    have hwritten : Datum.record (Datum.field? "name" (sequence.map .string)) =
        written [("name", sequence.map .string)] :=
      Datum.record_append_field? [] "name" _
    rw [toDatum, parts, hwritten]
    exact idPart?_received sequence
  | property p => exact propertyPart?_received p
  | begin | commit | rollback | info | last | log | debugLog | ping =>
    exact (Datum.within_zero _ _).symm

end Command

/-! ## Numbers that messages hold -/

theorem Fields.inRange_toDatum (fields : Fields) : MessagePack.InRange (Fields.toDatum fields) :=
  Value.fieldsInRange fields

theorem Params.inRange_toDatum (params : Params) : MessagePack.InRange (Params.toDatum params) :=
  Value.paramsInRange params

theorem Raw.inRange_toDatum (raw : Raw) : MessagePack.InRange (Raw.toDatum raw) :=
  ⟨trivial, trivial, trivial, Params.inRange_toDatum raw.params, trivial⟩

theorem Query.inRange_toDatum (q : Query) : MessagePack.InRange q.toDatum := by
  rw [toDatum_eq_written]
  refine Datum.inRange_written fun p hp => ?_
  simp only [parts, List.mem_cons, List.not_mem_nil, or_false] at hp
  rcases hp with rfl | rfl | rfl | rfl | rfl
  · exact Datum.inRange_map Datum.inRange_string (some q.table)
  · exact Datum.inRange_map Fields.inRange_toDatum q.join
  · exact Datum.inRange_map Value.inRange_toDatum q.columns
  · exact Datum.inRange_map Value.inRange_toDatum q.conditions
  · exact Datum.inRange_map (fun a => Datum.inRange_string a.name) q.aggregate

namespace Command

theorem inRange_valuePart? (name : String) (v : Option Value) :
    ∀ f ∈ valuePart? name v, MessagePack.InRange f.2 :=
  Datum.inRange_field? (Datum.inRange_map Value.inRange_toDatum v)

/-- A table, something about it, and perhaps a value. -/
theorem inRange_tablePart (case second third t : String) {d : Datum}
    (hd : MessagePack.InRange d) (v : Option Value) :
    MessagePack.InRange (parts case
      ([("table", .string t), (second, d)] ++ valuePart? third v)) := by
  refine Datum.inRange_tagged ⟨trivial, trivial, trivial, hd, ?_⟩
  exact Datum.inRange_record (inRange_valuePart? third v)

theorem inRange_query (case : String) (q : Query) :
    MessagePack.InRange (parts case [("query", q.toDatum)]) :=
  Datum.inRange_tagged ⟨trivial, q.inRange_toDatum, trivial⟩

theorem inRange_toDatum (cmd : Command) : MessagePack.InRange cmd.toDatum := by
  cases cmd with
  | select q => exact inRange_query _ q
  | get q => exact inRange_query _ q
  | rand q => exact inRange_query _ q
  | has q => exact inRange_query _ q
  | aggregate f q =>
    exact Datum.inRange_tagged ⟨trivial, trivial, trivial, q.inRange_toDatum, trivial⟩
  | insert t rows =>
    exact Datum.inRange_tagged ⟨trivial, trivial, trivial, rows.inRange_toDatum, trivial⟩
  | update t data v =>
    exact inRange_tablePart _ _ _ _ (Fields.inRange_toDatum data) v
  | delete t v =>
    refine Datum.inRange_tagged ⟨trivial, trivial, ?_⟩
    exact Datum.inRange_record (inRange_valuePart? "conditions" v)
  | replace t columns v =>
    exact inRange_tablePart _ _ _ _ (Fields.inRange_toDatum columns) v
  | create t columns v =>
    exact inRange_tablePart _ _ _ _ columns.inRange_toDatum v
  | query raw => exact Datum.inRange_tagged ⟨trivial, Raw.inRange_toDatum raw, trivial⟩
  | exec sql params =>
    exact Datum.inRange_tagged ⟨trivial, trivial, trivial, Params.inRange_toDatum params, trivial⟩
  | id sequence =>
    exact Datum.inRange_tagged (Datum.inRange_record
      (Datum.inRange_field? (Datum.inRange_map Datum.inRange_string sequence)))
  | drop s | importFile s => exact Datum.inRange_tagged ⟨trivial, trivial, trivial⟩
  | property p => exact Datum.inRange_tagged ⟨trivial, trivial, trivial⟩
  | begin | commit | rollback | info | last | log | debugLog | ping => exact trivial

end Command
end StructuredSql
