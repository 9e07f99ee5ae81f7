-- The parts of a SELECT list, in the order in which they are written. A column spec tells
-- them before anything is built: a list has the first of its marked items in front, and
-- what is nested in it stands where it is nested.
import StructuredSql.Proofs.Build.Results
import StructuredSql.Proofs.Column.Listed
import StructuredSql.Proofs.Statement.Basic
import Mathlib.Data.List.Forall2

namespace StructuredSql.ColumnList

open Build (Makes)

/-! ## The parts of a spec -/

/-- One part of a SELECT list, as the spec gives it. -/
inductive Part
  /-- The key by which the results are grouped. -/
  | index (key : String)
  | column (distinct : Bool) (item : String)
  | computed (key : String) (raw : Raw)
  | fragment (raw : Raw)
  /-- What an empty list leaves. -/
  | blank

/-- The item begins with the marker of distinctness. -/
def isMarked (item : String) : Bool := (ColumnItem.takeDistinct item.toList).1

/-- The first marked item of a list stands in front, unless an earlier one does. -/
def frontParts (marked : Bool) : List Value → List Part
  | [] => []
  | .string s :: rest =>
    if isMarked s && !marked then [.column true s] else frontParts marked rest
  | _ :: rest => frontParts marked rest

/-- A list without parts leaves a blank. -/
def filled (parts : List Part) : List Part := if parts.isEmpty then [.blank] else parts

mutual

/-- The parts of a spec below the root. -/
def parts : Value → List Part
  | .string s => [.column (isMarked s) s]
  | .array entries => filled (frontParts false entries ++ itemParts false entries)
  | .object entries => filled (entryParts entries)
  | .raw raw => [.fragment raw]
  -- Nothing is written for what is no spec.
  | _ => [.blank]
termination_by structural v => v

/-- The parts of a list behind the one that stands in front. -/
def itemParts (marked : Bool) : List Value → List Part
  | [] => []
  | v :: rest =>
    match v with
    | .string s =>
      if isMarked s && !marked then itemParts true rest
      else .column false s :: itemParts marked rest
    | _ => parts v ++ itemParts marked rest
termination_by structural entries => entries

def entryParts : List (String × Value) → List Part
  | [] => []
  | (key, v) :: rest =>
    (match v with
    | .raw raw => [.computed key raw]
    | _ => parts v) ++ entryParts rest
termination_by structural entries => entries

end

/-- The key by which a whole spec groups the results, and the spec of the groups. -/
def grouped? : Value → Option (String × Value)
  | .object [(key, nested)] => if nested.isContainer then some (key, nested) else none
  | _ => none

/-- The parts of a whole spec. A key that groups the results is selected, too. -/
def rootParts (v : Value) : List Part :=
  match grouped? v with
  | some (key, nested) => .index key :: parts nested
  | none => parts v

theorem grouped?_eq_some {v : Value} {key : String} {nested : Value}
    (h : grouped? v = some (key, nested)) :
    v = .object [(key, nested)] ∧ nested.isContainer = true := by
  unfold grouped? at h
  split at h
  · split at h
    · rename_i hcontainer
      cases h
      exact ⟨rfl, hcontainer⟩
    · cases h
  · cases h

/-! ## What is written -/

/-- What the part is written as. -/
def Part.Written : Part → Sql → Prop
  | index key, sql => columnSql key = .ok sql
  | column distinct item, sql => ∃ body, textItem false item = .ok (isMarked item, body) ∧
      sql = Listed.distinctSql distinct ++ body
  | computed key raw, sql => ∃ item body, ColumnItem.parseKey key = .ok item ∧
      Marker.expand raw.sql = .ok body ∧ sql = body ++ .text " AS " :: item.column.sql
  | fragment raw, sql => Marker.expand raw.sql = .ok sql
  | blank, sql => sql = []

/-- The text is the list of the parts. -/
def Writes (parts : List Part) (sql : Sql) : Prop :=
  parts ≠ [] ∧ ∃ sqls, List.Forall₂ Part.Written parts sqls ∧ sql = comma sqls

/-- Each of the texts is a list, and together they hold the parts. -/
def WritesAll (parts : List Part) (sqls : List Sql) : Prop :=
  ∃ groups, groups.flatten = parts ∧ List.Forall₂ Writes groups sqls

theorem writes_part {p : Part} {sql : Sql} (h : p.Written sql) : Writes [p] sql :=
  ⟨by simp, [sql], .cons h .nil, rfl⟩

theorem comma_append {a b : List Sql} (ha : a ≠ []) (hb : b ≠ []) :
    comma (a ++ b) = comma a ++ .text "," :: comma b := joinWith_append ha hb

theorem Writes.append {first second : Sql} {a b : List Part} (ha : Writes a first)
    (hb : Writes b second) : Writes (a ++ b) (first ++ .text "," :: second) := by
  obtain ⟨hne, sqls, hsqls, rfl⟩ := ha
  obtain ⟨hne', sqls', hsqls', rfl⟩ := hb
  refine ⟨by simp [hne], sqls ++ sqls', List.rel_append hsqls hsqls', ?_⟩
  have hlen := hsqls.length_eq
  have hlen' := hsqls'.length_eq
  refine (comma_append ?_ ?_).symm
  · rintro rfl
    exact hne (List.length_eq_zero_iff.1 hlen)
  · rintro rfl
    exact hne' (List.length_eq_zero_iff.1 hlen')

theorem writesAll_nil : WritesAll [] [] := ⟨[], rfl, .nil⟩

theorem WritesAll.cons {a b : List Part} {sql : Sql} {sqls : List Sql} (ha : Writes a sql)
    (hb : WritesAll b sqls) : WritesAll (a ++ b) (sql :: sqls) := by
  obtain ⟨groups, rfl, hgroups⟩ := hb
  exact ⟨a :: groups, rfl, .cons ha hgroups⟩

theorem writesAll_parts {ps : List Part} {sqls : List Sql}
    (h : List.Forall₂ Part.Written ps sqls) : WritesAll ps sqls := by
  induction h with
  | nil => exact writesAll_nil
  | cons hpart _ ih => exact WritesAll.cons (writes_part hpart) ih

theorem WritesAll.append {a b : List Part} {sqls sqls' : List Sql} (ha : WritesAll a sqls)
    (hb : WritesAll b sqls') : WritesAll (a ++ b) (sqls ++ sqls') := by
  obtain ⟨groups, rfl, hgroups⟩ := ha
  obtain ⟨groups', rfl, hgroups'⟩ := hb
  exact ⟨groups ++ groups', by simp, List.rel_append hgroups hgroups'⟩

/-- Lists one behind the other are one list. -/
theorem writes_flatten {groups : List (List Part)} {sqls : List Sql}
    (h : List.Forall₂ Writes groups sqls) (hne : groups ≠ []) :
    Writes groups.flatten (comma sqls) := by
  induction h with
  | nil => exact absurd rfl hne
  | @cons group sql groups sqls hgroup hgroups ih =>
    cases hgroups with
    | nil => simpa [comma, Sql.joinWith] using hgroup
    | cons hnext hmore => exact hgroup.append (ih (by simp))

theorem filled_of_ne_nil {ps : List Part} (h : ps ≠ []) : filled ps = ps := by
  simp [filled, h]

theorem WritesAll.comma {ps : List Part} {sqls : List Sql} (h : WritesAll ps sqls) :
    Writes (filled ps) (comma sqls) := by
  obtain ⟨groups, rfl, hgroups⟩ := h
  by_cases hne : groups = []
  · subst hne
    cases hgroups
    exact writes_part (p := .blank) rfl
  · have hflat := writes_flatten hgroups hne
    rwa [filled_of_ne_nil hflat.1]

/-! ## Items that are texts -/

theorem isMarked_of_isName {s : String} {name rest : List Char} (h : Name.isName name = true)
    (hs : s.toList = name ++ rest) : isMarked s = false := by
  cases name with
  | nil => cases h
  | cons c name =>
    have hc : Name.isStart c = true := (Bool.and_eq_true_iff.1 h).1
    have hat : c ≠ '@' := by
      rintro rfl
      exact absurd hc (by decide)
    rw [isMarked, hs, List.cons_append, ColumnItem.takeDistinct]
    rintro rest' heq
    exact hat (List.cons.inj heq).1

/-- A star is not marked. -/
theorem star_unmarked {s : String} {sql : Sql} (h : star s = .ok sql) : isMarked s = false := by
  unfold star at h
  split at h
  · rename_i hs
    subst hs
    rfl
  · split at h
    · rename_i table htable
      cases ht : tableSql table with
      | error fault => simp [ht, Except.map] at h
      | ok t =>
        have hname := (tableSql_eq_ok ht).1
        unfold starredTable? at htable
        split at htable
        · rename_i r hreverse
          cases htable
          have hs : s.toList = r.reverse ++ ['.', '*'] := by
            rw [← List.reverse_reverse s.toList, hreverse]
            simp
          exact isMarked_of_isName (by simpa using hname) hs
        · cases htable
    · cases h

theorem parse_distinct {s : String} {i : ColumnItem} (h : ColumnItem.parse s = .ok i) :
    i.distinct = isMarked s := by
  unfold ColumnItem.parse at h
  split at h
  · rename_i i' hi
    cases h
    simp only [ColumnItem.parse?] at hi
    split at hi
    · cases hi
    · split at hi
      · cases hi
        rfl
      · cases hi
  · cases h

/-- What an item is written as does not depend on joins, and its mark can be seen. -/
theorem textItem_marked {joining : Bool} {s : String} {distinct : Bool} {sql : Sql}
    (h : textItem joining s = .ok (distinct, sql)) :
    distinct = isMarked s ∧ textItem false s = .ok (isMarked s, sql) := by
  unfold textItem at h ⊢
  split at h
  · rename_i hholds
    rw [if_pos hholds]
    split at h
    · cases h
    · cases hstar : star s with
      | error fault => simp [hstar, Except.map] at h
      | ok sql' =>
        simp only [hstar, Except.map, Except.ok.injEq, Prod.mk.injEq] at h
        obtain ⟨rfl, rfl⟩ := h
        simp [star_unmarked hstar, Except.map]
  · rename_i hholds
    rw [if_neg hholds]
    cases hi : ColumnItem.parse s with
    | error fault => simp [hi, Except.map] at h
    | ok i =>
      simp only [hi, Except.map, Except.ok.injEq, Prod.mk.injEq] at h
      obtain ⟨rfl, rfl⟩ := h
      simp [parse_distinct hi, Except.map]

/-! ## The walk over the spec -/

/-- As the walk writes the items of a list: the first marked one, if it is not written
yet, apart from the others. -/
def ItemsWritten (marked : Bool) (entries : List Value) (items : Items) : Prop :=
  List.Forall₂ Part.Written (frontParts marked entries) items.front.toList ∧
    WritesAll (itemParts marked entries) items.rest

theorem frontParts_marked (entries : List Value) : frontParts true entries = [] := by
  induction entries with
  | nil => rfl
  | cons v rest ih =>
    cases v with
    | string s =>
      rw [frontParts, if_neg (by simp), ih]
    | _ => exact ih

theorem ItemsWritten.all {entries : List Value} {items : Items}
    (h : ItemsWritten false entries items) : Writes (parts (.array entries)) (comma items.all) := by
  have hall : WritesAll (frontParts false entries ++ itemParts false entries) items.all :=
    (writesAll_parts h.1).append h.2
  exact hall.comma

/-- One more text before the others: it goes to the front if it is the first marked one. -/
theorem ItemsWritten.text {marked : Bool} {s : String} {sql : Sql} {rest : List Value}
    {others : Items} (hitem : textItem false s = .ok (isMarked s, sql))
    (h : ItemsWritten (marked || (isMarked s && !marked)) rest others) :
    ItemsWritten marked (.string s :: rest) (others.add (isMarked s && !marked) sql) := by
  have hwritten : ∀ mark, (Part.column mark s).Written (Listed.distinctSql mark ++ sql) :=
    fun mark => ⟨sql, hitem, rfl⟩
  unfold ItemsWritten
  rw [frontParts, itemParts]
  cases hdistinct : isMarked s && !marked with
  | true =>
    rw [hdistinct, Bool.or_true] at h
    exact ⟨.cons (hwritten true) .nil, h.2⟩
  | false =>
    rw [hdistinct, Bool.or_false] at h
    exact ⟨h.1, WritesAll.cons (writes_part (hwritten false)) h.2⟩

/-- One more list before the others, which stays in its place. -/
theorem ItemsWritten.nested {marked : Bool} {v : Value} {ps : List Part} {sql : Sql}
    {rest : List Value} {others : Items} (hsql : Writes ps sql)
    (hfront : frontParts marked (v :: rest) = frontParts marked rest)
    (hparts : itemParts marked (v :: rest) = ps ++ itemParts marked rest)
    (h : ItemsWritten (marked || false) rest others) :
    ItemsWritten marked (v :: rest) (others.add false sql) := by
  rw [Bool.or_false] at h
  unfold ItemsWritten
  rw [hfront, hparts]
  exact ⟨h.1, WritesAll.cons hsql h.2⟩

theorem comma_alone (distinct : Bool) (sql : Sql) :
    comma (Items.add distinct sql ⟨none, []⟩).all = Listed.distinctSql distinct ++ sql := by
  cases distinct <;> rfl

/-- Below the root a map is the list of its entries, also when it has only one. -/
theorem spec_of_object (joining : Bool) (entries : Fields) :
    spec false joining (.object entries) = (do return comma (← fields joining entries)) := by
  match entries with
  | [] => rfl
  | [(key, nested)] => rfl
  | e :: f :: rest => rfl

theorem makes_computed (key : String) (raw : Raw) :
    Makes (computed key raw) (Part.computed key raw).Written := by
  refine Build.makes_read fun item hitem => ?_
  exact (Build.makes_fragment raw).map fun body hbody => ⟨item, body, hitem, hbody, rfl⟩

mutual

theorem spec_writes (joining : Bool) : (v : Value) →
    Makes (spec false joining v) (Writes (parts v))
  | .string s => by
    unfold spec
    split
    · rename_i hs
      subst hs
      exact Build.makes_pure (writes_part ⟨Sql.text "*", rfl, rfl⟩)
    · refine Build.makes_read fun (distinct, sql) hitem => Build.makes_pure ?_
      obtain ⟨rfl, htext⟩ := textItem_marked hitem
      rw [comma_alone]
      exact writes_part ⟨sql, htext, rfl⟩
  | .array entries => (items_write joining false entries).map fun _ h => h.all
  | .object entries => by
    rw [spec_of_object]
    exact (fields_write joining entries).map fun _ h => h.comma
  | .raw raw => fun n sql bound h =>
    writes_part (p := .fragment raw) (Build.makes_fragment raw n sql bound h)
  | .null | .bool _ | .int _ | .float _ | .bytes _ => Build.makes_fail
termination_by structural v => v

theorem items_write (joining marked : Bool) : (entries : List Value) →
    Makes (items joining marked entries) (ItemsWritten marked entries)
  | [] => Build.makes_pure ⟨.nil, writesAll_nil⟩
  | v :: rest => by
    have hothers := fun marked => items_write joining marked rest
    -- What is no text is a list of its own, without a mark that counts here.
    have hlist : ∀ {x : Build Sql}, Makes x (Writes (parts v)) →
        frontParts marked (v :: rest) = frontParts marked rest →
        itemParts marked (v :: rest) = parts v ++ itemParts marked rest →
        Makes (do
          let (distinct, sql) ← (do return (false, ← x) : Build (Bool × Sql))
          let others ← items joining (marked || distinct) rest
          return others.add distinct sql) (ItemsWritten marked (v :: rest)) := by
      intro x hx hfront hparts
      refine (hx.map (f := fun sql => (false, sql)) (Q := fun r => r.1 = false ∧
        Writes (parts v) r.2) fun _ h => ⟨rfl, h⟩).bind ?_
      rintro ⟨_, sql⟩ ⟨rfl, hsql⟩
      exact (hothers _).map fun _ h => .nested hsql hfront hparts h
    cases v with
    | string s =>
      unfold items
      refine Build.Makes.bind (P := fun r : Bool × Sql => r.1 = (isMarked s && !marked) ∧
        textItem false s = .ok (isMarked s, r.2)) ?_ ?_
      · refine Build.makes_read fun (distinct, sql) hitem => Build.makes_pure ?_
        obtain ⟨rfl, htext⟩ := textItem_marked hitem
        exact ⟨rfl, htext⟩
      · rintro ⟨_, sql⟩ ⟨rfl, hitem⟩
        exact (hothers _).map fun others h => h.text hitem
    | raw fragment => exact hlist (spec_writes joining (.raw fragment)) rfl rfl
    | array entries => exact hlist (spec_writes joining (.array entries)) rfl rfl
    | object entries => exact hlist (spec_writes joining (.object entries)) rfl rfl
    | _ => exact Build.makes_fail.bind (P := fun _ => False) fun _ h => h.elim
termination_by structural entries => entries

theorem fields_write (joining : Bool) : (entries : List (String × Value)) →
    Makes (fields joining entries) (WritesAll (entryParts entries))
  | [] => Build.makes_pure writesAll_nil
  | (key, v) :: rest => by
    have hothers := fields_write joining rest
    have hlist : ∀ {x : Build Sql} {ps : List Part}, Makes x (Writes ps) →
        Makes (Build.cons x (fields joining rest)) (WritesAll (ps ++ entryParts rest)) :=
      fun hx => hx.bind fun _ hsql => hothers.map fun _ hsqls => WritesAll.cons hsql hsqls
    cases v with
    | raw fragment =>
      exact hlist fun n sql bound h => writes_part (makes_computed key fragment n sql bound h)
    | array entries => exact hlist (spec_writes joining (.array entries))
    | object entries => exact hlist (spec_writes joining (.object entries))
    | _ => exact Build.makes_fail.bind (P := fun _ => False) fun _ h => h.elim
termination_by structural entries => entries

end

/-- A whole spec that groups no results is written as below the root. -/
theorem spec_of_ungrouped (joining : Bool) {v : Value} (h : grouped? v = none) :
    spec true joining v = spec false joining v := by
  match v with
  | .object [(key, nested)] =>
    have hcontainer : ¬ nested.isContainer = true := fun hc => by simp [grouped?, hc] at h
    unfold spec
    simp [hcontainer]
  | .object [] => rfl
  | .object (e :: f :: rest) => rfl
  | .string s => rfl
  | .array entries => rfl
  | .raw raw => rfl
  | .null | .bool _ | .int _ | .float _ | .bytes _ => rfl

theorem root_writes (joining : Bool) (v : Value) :
    Makes (spec true joining v) (Writes (rootParts v)) := by
  unfold rootParts
  cases hgrouped : grouped? v with
  | none =>
    rw [spec_of_ungrouped joining hgrouped]
    exact spec_writes joining v
  | some e =>
    obtain ⟨key, nested⟩ := e
    obtain ⟨rfl, hcontainer⟩ := grouped?_eq_some hgrouped
    unfold spec
    rw [Bool.true_and, if_pos hcontainer]
    refine Build.makes_read fun index hindex => ?_
    refine (spec_writes joining nested).map fun sql hsql => ?_
    exact (writes_part (p := .index key) hindex).append hsql

end StructuredSql.ColumnList

/-! ## The list of a statement -/

namespace StructuredSql.Read

open ColumnList (Writes rootParts)

/-- The column spec of a query. An aggregate takes null for all columns. -/
def selected (q : Query) : Value :=
  if q.aggregate.isSome && q.columnSpec.isNull then .string "*" else q.columnSpec

/-- What stands around the list: an aggregate is a call. -/
def around (q : Query) (list : String) : String :=
  match q.aggregate with
  | some a => a.function ++ "(" ++ list ++ ")"
  | none => list

theorem aggregated_eq (q : Query) : aggregated q.columns =
    ColumnList.spec true false (if q.columnSpec.isNull then .string "*" else q.columnSpec) := by
  unfold Query.columnSpec
  cases q.columns with
  | none => rfl
  | some v => cases v <;> rfl

theorem head_writes (q : Query) (joining : Bool) :
    Build.Makes (head q joining (selectHead q)) fun sql => ∃ list,
      Writes (rootParts (selected q)) list ∧
      ∀ tablePrefix, sql.render tablePrefix = around q (list.render tablePrefix) := by
  unfold selectHead around selected
  cases q.aggregate with
  | none =>
    exact fun n sql bound h => ⟨sql, ColumnList.root_writes joining _ n sql bound h, fun _ => rfl⟩
  | some a =>
    have hlist := ColumnList.root_writes false
      (if q.columnSpec.isNull then .string "*" else q.columnSpec)
    rw [← aggregated_eq] at hlist
    refine hlist.map fun list hwrites => ⟨list, by simpa using hwrites, fun tablePrefix => ?_⟩
    simp [Sql.render, Sql.text, Piece.render, String.append_assoc]

/-- Between SELECT and FROM stands the list of the parts of the column spec. -/
theorem select_writes {c : Compiler} {q : Query} {compiled : Compiled}
    (h : c.select q = .ok compiled) : ∃ list, ∃ rest : String,
      Writes (rootParts (selected q)) list ∧
      compiled.sql = "SELECT " ++ around q (list.render c.tablePrefix) ++ " FROM " ++ rest := by
  obtain ⟨sql, _, hrun, rfl⟩ := Compiler.compile_eq_ok.1 h
  obtain ⟨table, _, _, _, hjoins, _⟩ := Build.bind_eq_ok.1 hrun
  obtain ⟨⟨joined, joining⟩, _, _, _, hhead, _⟩ := Build.bind_eq_ok.1 hjoins
  obtain ⟨head, _, _, hselected, hclauses, _⟩ := Build.bind_eq_ok.1 hhead
  obtain ⟨clauses, _, _, _, hsql, _⟩ := Build.bind_eq_ok.1 hclauses
  obtain ⟨rfl, _⟩ := Build.pure_eq_ok.1 hsql
  obtain ⟨list, hlist, htext⟩ := head_writes q joining _ _ _ hselected
  refine ⟨list, Sql.render c.tablePrefix (table.sql ++ joined ++ clauses), hlist, ?_⟩
  rw [← htext]
  simp [Sql.render, Piece.render, String.append_assoc]

end StructuredSql.Read
