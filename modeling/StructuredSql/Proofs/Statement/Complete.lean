-- Which statements are complete. A descriptor may hold empty groups and empty lists; those
-- that the program does not refuse leave a gap in the text, and nothing else does. Those that
-- it refuses are never compiled, and all but one are refused as a wrong shape.
import StructuredSql.Proofs.Clause.Complete
import StructuredSql.Proofs.Column.Distinct
import StructuredSql.Proofs.Condition.Signs
import StructuredSql.Proofs.Statement.Placeholders

namespace StructuredSql

open Build (Makes NeverRuns Faults)
open Condition (InTree AsksNothing OfShape)
open Sql (Fits IsOperand Closes)

variable {escapes : Bool}

/-! ## The columns of a SELECT -/

namespace ColumnList

/-- The part is what an empty list leaves. -/
def Part.isBlank : Part → Bool
  | blank => true
  | _ => false

/-- No list of the spec is empty. -/
def specFilled (v : Value) : Bool := (rootParts v).all fun part => !part.isBlank

theorem star_operand (escapes : Bool) {table? : Option String}
    (h : (Listed.star table?).IsPlain) : IsOperand escapes (Listed.star table?).sql := by
  cases table? with
  | none =>
    have hstar : Complete.Operand escapes ['*'] := Complete.operand_of_run fun _ => rfl
    exact fun p _ => by simpa [Listed.sql] using hstar
  | some table =>
    intro p hp
    simpa [Listed.sql] using (Sql.isNamed_table (h table rfl) p hp).starred

theorem item_operand (escapes : Bool) {i : ColumnItem}
    (h : (Listed.column false i.column i.alias?).IsPlain) : IsOperand escapes i.sql := by
  have hcolumn : IsOperand escapes i.column.sql := Sql.isOperand_column h.1
  unfold ColumnItem.sql
  split
  · rename_i a ha
    exact hcolumn.link (by decide) (Sql.isNamed_column (h.2 a ha)).operand
  · exact hcolumn

theorem Part.Written.fits (escapes : Bool) {part : Part} {sql : Sql}
    (hraw : part.rawFree = true) (h : part.Written sql) : Fits escapes (!part.isBlank) sql := by
  cases part with
  | index key => exact (Join.columnSql_named escapes h).operand.fits
  | column distinct item =>
    obtain ⟨body, hbody, rfl⟩ := h
    have hitem : Fits escapes true body := by
      rcases textItem_eq_ok hbody with ⟨-, -, -, table?, hplain, rfl⟩ | ⟨-, i, hi, rfl⟩
      · exact (star_operand escapes hplain).fits
      · exact (item_operand escapes (parse_eq_ok hi)).fits
    cases distinct with
    | true => exact hitem.after (by decide)
    | false => exact hitem
  | blank =>
    cases h
    exact Sql.fits_nil
  | computed _ _ => cases hraw
  | fragment _ => cases hraw

theorem Writes.fits (escapes : Bool) {v : Value} {sql : Sql} (hraw : v.rawFree = true)
    (h : Writes (rootParts v) sql) : Fits escapes (specFilled v) sql := by
  obtain ⟨hne, sqls, hsqls, rfl⟩ := h
  have hfits : List.Forall₂ (fun part sql => Fits escapes (!part.isBlank) sql)
      (rootParts v) sqls :=
    ((List.forall₂_and_left _ _).2 ⟨rootParts_rawFree hraw, hsqls⟩).imp
      fun _ _ hpart => hpart.2.fits escapes hpart.1
  have hnonempty : (rootParts v).isEmpty = false := by simpa using hne
  have hlist : Fits escapes _ (Sql.joinWith "," sqls) := Sql.fits_items (by decide) hfits
  rw [hnonempty, Bool.not_false, Bool.true_and] at hlist
  exact hlist

end ColumnList

/-! ## Reads -/

namespace Read

/-- No list of columns is empty; null stands for all columns. -/
def columnsFilled (q : Query) : Bool := q.columnSpec.isNull || ColumnList.specFilled q.columnSpec

/-- What stands between SELECT and FROM lacks nothing. -/
def headFilled (q : Query) : Head → Bool
  | .columns => columnsFilled q
  | .function _ => columnsFilled q
  | .one => true
  | .top => true

def joinsFilled (join : Option Fields) : Bool :=
  join.all fun fields => fields.all fun e => Join.relationFilled e.2

/-- Nothing is missing in the query. -/
def filled (d : Dialect) (q : Query) (kind : Head) : Bool :=
  headFilled q kind && (joinsFilled q.join && Clause.conditionsFilled d q.conditions)

theorem joins_closes (escapes : Bool) {main : String} (hm : Name.IsPlain main.toList)
    {join : Option Fields} (hj : join.all fieldsRawFree = true) :
    Makes (joins main join) fun r => Closes escapes (joinsFilled join) r.1 := by
  cases join with
  | none => exact Build.makes_pure Sql.closes_nil
  | some fields =>
    cases fields with
    | nil => exact Build.makes_pure Sql.closes_nil
    | cons e rest =>
      exact (Join.clauses_closes escapes hm hj (by simp)).map fun _ h => h

theorem spec_fits (escapes joining : Bool) {v : Value} (hraw : v.rawFree = true) :
    Makes (ColumnList.spec true joining v)
      (Fits escapes (v.isNull || ColumnList.specFilled v)) := by
  have hwrites := ColumnList.root_writes joining v
  cases v with
  | null => exact Build.makes_fail
  | _ => exact fun n sql bound h => (hwrites n sql bound h).fits escapes hraw

theorem aggregated_fits (escapes : Bool) {q : Query} (hraw : q.columnSpec.rawFree = true) :
    Makes (aggregated q.columns) (Fits escapes (columnsFilled q)) := by
  rw [aggregated_eq]
  unfold columnsFilled
  cases hnull : q.columnSpec.isNull with
  | true => exact spec_fits escapes false (v := .string "*") rfl
  | false =>
    have hspec := spec_fits escapes false hraw
    rwa [hnull] at hspec

theorem head_fits (escapes : Bool) {q : Query} (hraw : q.columnSpec.rawFree = true)
    (joining : Bool) (kind : Head) :
    Makes (head q joining kind) (Fits escapes (headFilled q kind)) := by
  have hone : Complete.Operand escapes ['1'] :=
    Complete.operand_figures ⟨by simp, by decide⟩
  cases kind with
  | columns => exact spec_fits escapes joining hraw
  | function a =>
    exact (aggregated_fits escapes hraw).map fun sql h => h.call (by cases a <;> decide)
  | one => exact Build.makes_pure fun p _ => by simpa [Sql.text, headFilled] using hone.fits
  | top =>
    have htop : Complete.Operand escapes "TOP".toList :=
      Complete.operand_word (by decide) (by decide) (by decide)
    have hends : Complete.Ends " 1 1".toList := by decide
    exact Build.makes_pure fun p _ => by
      simpa [Sql.text, headFilled] using (htop.trail hends).fits

theorem statement_fits {d : Dialect} {q : Query} (hraw : q.rawFree = true) (kind : Head) :
    Makes (statement d q kind) (Fits (d = .mysql) (filled d q kind)) := by
  simp only [Query.rawFree, Bool.and_eq_true] at hraw
  obtain ⟨⟨hjoin, hcolumns⟩, hconditions⟩ := hraw
  have hspec : q.columnSpec.rawFree = true := by
    unfold Query.columnSpec
    cases hc : q.columns with
    | none => rfl
    | some v => simpa [hc] using hcolumns
  unfold statement filled
  refine Build.makes_read fun table htable => ?_
  have ht := (spelled_of_tableRef htable).isPlain
  refine (joins_closes (d = .mysql) ht.exposed hjoin).bind ?_
  rintro ⟨joined, joining⟩ hjoined
  refine (head_fits (d = .mysql) hspec joining kind).bind fun selected hselected => ?_
  refine (Clause.all_closes hconditions).map fun clauses hclauses => ?_
  have htail := (Join.table_operand (d = .mysql) ht).fits.closing (hjoined.append hclauses)
  rw [Bool.true_and, ← List.append_assoc] at htail
  exact (hselected.join (by decide) htail).after (by decide)

end Read

/-! ## Writes -/

namespace Write

theorem target_operand (escapes : Bool) {s : String} {sql : Sql} (h : tableSql s = .ok sql) :
    IsOperand escapes sql := by
  obtain ⟨hname, rfl⟩ := tableSql_eq_ok h
  exact (Sql.isNamed_table (Name.isPlain_of_isName hname)).operand

theorem store_operand (escapes : Bool) (key : String) {v : Value} (hv : v.rawFree = true) :
    Makes (Cell.store key v) (IsOperand escapes) := by
  unfold Cell.store
  split
  · cases hv
  · exact Build.makes_operand_text escapes _
  · exact Build.makes_operand_text escapes _
  · exact Build.makes_operand_scalar escapes _

theorem cells_operand (escapes : Bool) {keys : List String} (hkeys : keys ≠ []) {row : Fields}
    (hr : fieldsRawFree row = true) : Makes (cells keys row) (Fits escapes true) := by
  refine (Build.makes_full_list ", " (by decide) hkeys fun k _ =>
    (store_operand escapes k ?_).fits).map fun _ => Fits.parens
  cases hk : Entries.get? row k with
  | none => rfl
  | some v => exact rawFree_of_get? hr hk

/-- An insert is complete: rows without any column are refused. -/
theorem insert_fits (escapes : Bool) (table : String) {v : Value} (hv : v.rawFree = true) :
    Makes (insert table v) (Fits escapes true) := by
  refine Build.makes_read fun rs hrows => ?_
  have hraw : ∀ row ∈ rs, fieldsRawFree row = true := by
    rw [rows_eq_ok hrows]
    exact insertedRows_rawFree hv
  dsimp only
  split
  · exact Build.makes_fail
  · rename_i hempty
    have hkeys : unionKeys rs ≠ [] := by simpa using hempty
    have hrs : rs ≠ [] := by
      rintro rfl
      exact hkeys rfl
    refine Build.makes_read fun target htarget => Build.makes_read fun names hnames => ?_
    refine (Build.makes_full_list ", " (by decide) hrs fun row hr =>
      cells_operand escapes hkeys (hraw row hr)).map fun groups hgroups => ?_
    have hcolumns : Fits escapes _ (Sql.joinWith ", " names) :=
      Sql.fits_full (by decide) <| (mapM_eq_ok hnames).imp fun _ _ hcolumn =>
        (Join.columnSql_named escapes hcolumn).operand.fits
    rw [Bool.eq_false_iff.2 hempty] at hcolumns
    have hbody := hcolumns.join (s := ") VALUES ") (by decide) hgroups
    exact ((target_operand escapes htarget).lead (by decide) hbody).after (by decide)

/-! ### Update -/

/-- The operand of a calculation is a word, and no keyword reads as a number. -/
theorem operand_operand (escapes : Bool) {v : Value} (h : v.isNumeric = true) :
    Complete.Operand escapes (operand v).toList := by
  cases v with
  | int i => exact Complete.operand_figures (Text.figures_intRepr i.toInt)
  | float x => exact Complete.operand_figures (Text.figures_toText x)
  | string s =>
    have hkeyword : ∀ k ∈ Complete.opening ++ Complete.following,
        (Text.readDouble? k).isNone = true := by decide
    cases hr : Text.readDouble? (Text.trim s.toList) with
    | none => simp [Value.isNumeric, Value.numericText?, hr] at h
    | some x =>
      have hword : Text.trim s.toList ∉ Complete.opening ++ Complete.following := fun hmem => by
        have hnone := hkeyword _ hmem
        rw [hr] at hnone
        cases hnone
      have hne : Text.trim s.toList ≠ [] := fun hnil => by
        rw [hnil] at hr
        cases hr
      simp only [operand, String.toList_ofList]
      exact Complete.operand_word (Text.numeral_of_readDouble hr) hne (by
        simpa [Complete.Ordinary] using hword)
  | _ => cases h

theorem assignment_operand (escapes : Bool) {entry : String × Value}
    (he : entry.2.rawFree = true) : Makes (assignment entry) (IsOperand escapes) := by
  unfold assignment
  cases hkey : updateKey entry.1 with
  | mk name mark? =>
    dsimp only
    refine Build.makes_read fun column hcolumn => ?_
    have hc := (Join.columnSql_named escapes hcolumn).operand
    split
    · rename_i hraw
      rw [hraw] at he
      cases he
    · rename_i sign _
      split
      · rename_i hv
        have hsign := updateKey_sign hkey
        have hleads : Complete.Leads (" ".toList ++ sign :: " ".toList) false := by
          simp only [List.mem_cons, List.not_mem_nil, or_false] at hsign
          rcases hsign with rfl | rfl | rfl | rfl <;> decide
        have hends := Complete.ends_operand hleads fun escapes => operand_operand escapes hv
        refine Build.makes_pure (hc.link (by decide) (hc.trail ?_))
        show Complete.Ends (" " ++ String.singleton sign ++ " " ++ operand entry.2).toList
        simpa using hends
      · exact Build.makes_fail
    · exact (store_operand escapes entry.1 he).map fun sql h => hc.link (by decide) h

theorem updateWith_fits {d : Dialect} {target : Sql} (ht : IsOperand (d = .mysql) target)
    {assignments : List Sql} (ha : Fits (d = .mysql) true (Sql.joinWith ", " assignments))
    {conditions : Option Value} (hc : conditions.all Value.rawFree = true) :
    Makes (updateWith d target assignments conditions)
      (Fits (d = .mysql) (Clause.conditionsFilled d conditions)) := by
  refine (Clause.all_closes hc).map fun clauses hclauses => ?_
  have hbody := ha.closing hclauses
  rw [Bool.true_and] at hbody
  exact (ht.lead (by decide) hbody).after (by decide)

theorem update_fits {d : Dialect} (table : String) {data : Fields}
    (hd : fieldsRawFree data = true) {conditions : Option Value}
    (hc : conditions.all Value.rawFree = true) :
    Makes (update d table data conditions)
      (Fits (d = .mysql) (Clause.conditionsFilled d conditions)) := by
  unfold update
  split
  · exact Build.makes_fail
  · rename_i hempty
    refine Build.makes_read fun target ht => ?_
    have hne : data ≠ [] := by simpa using hempty
    exact (Build.makes_full_list ", " (by decide) hne fun e he =>
      (assignment_operand _ (fieldsRawFree_iff.1 hd e he)).fits).bind
        fun assignments ha => updateWith_fits (target_operand _ ht) ha hc

/-! ### Delete and replacement -/

theorem delete_fits {d : Dialect} (table : String) {conditions : Option Value}
    (hc : conditions.all Value.rawFree = true) :
    Makes (delete d table conditions)
      (Fits (d = .mysql) (Clause.conditionsFilled d conditions)) := by
  refine Build.makes_read fun target ht => (Clause.all_closes hc).map fun clauses hclauses => ?_
  have hbody := (target_operand (d = .mysql) ht).fits.closing hclauses
  rw [Bool.true_and] at hbody
  exact hbody.after (by decide)

theorem substitution_operand (escapes : Bool) {column : Sql} (hc : IsOperand escapes column)
    (pair : String × Value) : Makes (substitution column pair) (IsOperand escapes) := by
  refine (Build.makes_operand_text escapes pair.1).bind fun old hold => ?_
  refine (Build.makes_operand_text escapes pair.2.toText).map fun new hnew => ?_
  have hcomma : Complete.Links ", ".toList := by decide
  have harguments := (hc.link hcomma (hold.link hcomma hnew)).fits
  have hcall := hc.call (s := " = REPLACE(") (by decide) harguments
  simpa using hcall

theorem allSubstitutions_operand (escapes : Bool) (columns : Fields) :
    Makes (allSubstitutions columns) fun sqls => ∀ sql ∈ sqls, IsOperand escapes sql := by
  have hone : ∀ entry, Makes (substitutions entry) fun sqls =>
      ∀ sql ∈ sqls, IsOperand escapes sql := by
    intro entry
    unfold substitutions
    split
    · refine Build.makes_read fun column hcolumn => ?_
      have hc := (Join.columnSql_named escapes hcolumn).operand
      exact fun n sqls bound hrun => (Build.makes_each _ (fun pair _ =>
        substitution_operand escapes hc pair) n sqls bound hrun).2
    · exact Build.makes_pure (by simp)
  induction columns with
  | nil => exact Build.makes_pure (by simp)
  | cons entry rest ih =>
    exact (hone entry).bind fun sqls hsqls => ih.map fun more hmore =>
      List.forall_mem_append.2 ⟨hsqls, hmore⟩

theorem replace_fits {d : Dialect} (table : String) (columns : Fields)
    {conditions : Option Value} (hc : conditions.all Value.rawFree = true) :
    Makes (replace d table columns conditions)
      (Fits (d = .mysql) (Clause.conditionsFilled d conditions)) := by
  refine Build.makes_read fun target ht => ?_
  refine (allSubstitutions_operand (d = .mysql) columns).bind fun assignments ha => ?_
  split
  · exact Build.makes_fail
  · rename_i hempty
    have hlist : Fits (d = .mysql) _ (Sql.joinWith ", " assignments) :=
      Sql.fits_operands (by decide) ha
    rw [Bool.eq_false_iff.2 hempty] at hlist
    exact updateWith_fits (target_operand _ ht) hlist hc

end Write
/-! ## Statements -/

/-- A modifier that asks nothing takes no part in what is filled. -/
theorem Clause.conditionsFilled_limited (d : Dialect) (conditions : Option Value) (v : Value) :
    conditionsFilled d (Query.modified conditions "LIMIT" v) = conditionsFilled d conditions := by
  have htree : ∀ tree, treeFilled d (Entries.insert tree "LIMIT" v) = treeFilled d tree := by
    intro tree
    unfold treeFilled
    rw [plain_insert tree (by decide)]
    simp [Entries.get?_insert]
  cases conditions with
  | none =>
    refine (htree []).trans ?_
    simp [treeFilled, plain, fieldsPopulated, Entries.get?, conditionsFilled]
  | some w =>
    cases w with
    | object tree => exact htree tree
    | _ => rfl

theorem Query.modified_rawFree {conditions : Option Value}
    (h : conditions.all Value.rawFree = true) (key : String) {v : Value} (hv : v.rawFree = true) :
    (Query.modified conditions key v).all Value.rawFree = true := by
  cases conditions with
  | none => exact Bool.and_eq_true_iff.2 ⟨hv, rfl⟩
  | some w =>
    cases w with
    | object tree =>
      refine fieldsRawFree_iff.2 fun e he => ?_
      rcases Entries.content_of_mem_insert he with he | he
      · exact fieldsRawFree_iff.1 h e he
      · rw [he]
        exact hv
    | _ => exact h

namespace Statement

/-- Nothing is missing in the statement: no group of conditions, no list of columns and no
map of them is empty where the program lets it pass. -/
def filled (d : Dialect) : Statement → Bool
  | select q => Read.filled d q .columns
  | get q => Read.filled d q .columns
  | rand q => Read.filled d q .columns
  | probe q => Read.filled d q .one
  | aggregate a q => Read.filled d q (.function a)
  | insert _ _ => true
  | update _ _ conditions => Clause.conditionsFilled d conditions
  | delete _ conditions => Clause.conditionsFilled d conditions
  | replace _ _ conditions => Clause.conditionsFilled d conditions

theorem probe_fits {d : Dialect} {q : Query} (hraw : q.rawFree = true) :
    Makes (probeBuild d q) (Fits (d = .mysql) (Read.filled d q .one)) := by
  unfold probeBuild
  split
  · exact Read.statement_fits hraw .top
  · refine (Read.statement_fits hraw .one).map fun sql h => ?_
    exact h.call (s := "SELECT EXISTS(") (by decide)

theorem build_fits (d : Dialect) {s : Statement} (hraw : s.rawFree = true)
    (hrand : ∀ q, s ≠ .rand q) : Makes (s.build d) (Fits (d = .mysql) (s.filled d)) := by
  cases s with
  | select q =>
    have hhead : Read.filled d q (Read.selectHead q) = Read.filled d q .columns := by
      unfold Read.selectHead
      cases q.aggregate <;> rfl
    show Makes _ (Fits _ (Read.filled d q .columns))
    rw [← hhead]
    exact Read.statement_fits hraw _
  | get q =>
    have hq : q.rawFree = true := hraw
    simp only [Query.rawFree, Bool.and_eq_true] at hq
    have hlimited : (Read.limited q).rawFree = true := by
      simp only [Query.rawFree, Bool.and_eq_true]
      exact ⟨hq.1, Query.modified_rawFree hq.2 "LIMIT" rfl⟩
    have hfilled : Read.filled d (Read.limited q) .columns = Read.filled d q .columns :=
      congrArg (fun b => _ && (_ && b)) (Clause.conditionsFilled_limited d q.conditions (.int 1))
    show Makes _ (Fits _ (Read.filled d q .columns))
    rw [← hfilled]
    exact Read.statement_fits hlimited .columns
  | rand q => exact absurd rfl (hrand q)
  | probe q => exact probe_fits hraw
  | aggregate a q => exact Read.statement_fits hraw (.function a)
  | insert table rows => exact Write.insert_fits _ table hraw
  | update table data conditions =>
    obtain ⟨hdata, hconditions⟩ := Bool.and_eq_true_iff.1 hraw
    exact Write.update_fits table hdata hconditions
  | delete table conditions => exact Write.delete_fits table hraw
  | replace table columns conditions =>
    exact Write.replace_fits table columns (Bool.and_eq_true_iff.1 hraw).2

/-- A statement without fragments that compiles lacks nothing in its text exactly when no
group, list or map that the program lets pass is empty in its descriptor. The call of the
random function takes nothing, so rows in random order are left out. -/
theorem complete_exactly_when_filled (c : Compiler) {s : Statement} {out : Compiled}
    (hraw : s.rawFree = true) (hrand : ∀ q, s ≠ .rand q) (hpre : '"' ∉ c.tablePrefix.toList)
    (h : s.compile c = .ok out) :
    Complete.isComplete c.dialect out.sql = s.filled c.dialect := by
  rw [compile_eq] at h
  obtain ⟨sql, bound, hrun, rfl⟩ := Compiler.compile_eq_ok.1 h
  exact (build_fits c.dialect hraw hrand 0 sql bound hrun c.tablePrefix hpre).reads

/-- Posts with their authors, in the order of their kinds. -/
def postsByKind : Query :=
  { (Query.ofTable "post").filter (.object [
      ("OR", .object [("draft", .null), ("rank", .array [.int 1, .int 5])]),
      ("ORDER", .object [("kind", .array [.string "it's", .int 2])])]) with
    join := some [("[>]author", .array [.string "name"])]
    columns := some (.array [.string "title"]) }

set_option maxRecDepth 2048 in
theorem postsByKind_select : Compiler.select ⟨.mysql, "x_"⟩ postsByKind = .ok
    ⟨"SELECT \"title\" FROM \"x_post\" LEFT JOIN \"x_author\" USING (\"name\") " ++
      "WHERE (\"draft\" IS NULL OR \"rank\" IN (:p0, :p1)) ORDER BY FIELD(\"kind\", 'it\\'s',2)",
      [(":p0", .natural (.int 1)), (":p1", .natural (.int 5))]⟩ := by
  rfl

theorem postsByKind_complete :
    (select postsByKind).rawFree = true ∧ (∀ q, select postsByKind ≠ rand q) ∧
    ∃ out, Compiler.select ⟨.mysql, "x_"⟩ postsByKind = .ok out ∧
      Complete.isComplete .mysql out.sql = true := by
  have hraw : (select postsByKind).rawFree = true := rfl
  have hrand : ∀ q, select postsByKind ≠ rand q := nofun
  have hcomplete := complete_exactly_when_filled ⟨.mysql, "x_"⟩ hraw hrand (by decide)
    postsByKind_select
  exact ⟨hraw, hrand, _, postsByKind_select, hcomplete.trans rfl⟩

/-- An empty group of conditions is written as a pair of parentheses. -/
theorem empty_group_leaves_a_gap :
    ∃ out, (Statement.delete "t" (some (.object [("OR", .object [])]))).compile ⟨.sqlite, ""⟩ =
        .ok out ∧ out.sql = "DELETE FROM \"t\" WHERE ()" ∧
      Complete.isComplete .sqlite out.sql = false := by
  refine ⟨⟨"DELETE FROM \"t\" WHERE ()", []⟩, rfl, rfl, ?_⟩
  decide

end Statement

/-! ## What is refused -/

/-- A build that fails with a fault of shape is refused as a wrong shape. -/
theorem Compiler.compile_error {c : Compiler} {build : Build Sql} (hnever : NeverRuns build)
    (hfaults : Faults build OfShape) :
    ∃ message, c.compile build.template = .error (.compile message) := by
  unfold Compiler.compile Build.template
  cases hrun : build 0 with
  | ok r => exact (hnever 0 r.1 r.2 hrun).elim
  | error fault =>
    have hshape : fault.isValidation = false := hfaults 0 fault hrun
    exact ⟨fault.message c.tablePrefix, by simp [Fault.error, hshape]⟩

namespace Clause

variable {tree : Fields} {key : String} {v : Value}

theorem conditions_eq_tree (h : InTree key v (.object (plain tree))) :
    conditions tree = (do return .text " WHERE " :: (← Condition.tree .and (plain tree))) := by
  have hne : plain tree ≠ [] := by
    intro hnil
    rw [hnil] at h
    rcases h with ⟨hmem, -⟩ | ⟨hmem, -, -⟩
    · cases hmem
    · cases hmem
  unfold conditions
  rw [if_neg (by simpa using hne)]

/-- Clauses with an empty list among their conditions are never compiled. -/
theorem all_neverRuns (d : Dialect) (h : InTree key v (.object (plain tree)))
    (hnothing : AsksNothing key v) : NeverRuns (all d (some (.object tree))) := by
  have htree : NeverRuns (Condition.inside (.object (plain tree))) := h.neverRuns hnothing.neverRuns
  show NeverRuns (ofTree d tree)
  unfold ofTree
  rw [conditions_eq_tree h]
  exact ((htree.bind _).bind _).bind _

/-- What stands behind conditions that are refused is not looked at. -/
theorem all_faults (d : Dialect) (h : InTree key v (.object (plain tree)))
    (hnothing : AsksNothing key v) (hraw : fieldsRawFree (plain tree) = true)
    (hkeys : ∀ k w, InTree k w (.object (plain tree)) → ∃ c, ConditionKey.read k = .ok c) :
    Faults (all d (some (.object tree))) OfShape := by
  have hnever : NeverRuns (Condition.inside (.object (plain tree))) :=
    h.neverRuns hnothing.neverRuns
  have hinside : Faults (Condition.inside (.object (plain tree))) OfShape := by
    refine Condition.inside_faults (fun _ => rfl) _ hraw fun k w hin => ?_
    obtain ⟨c, hread⟩ := hkeys k w hin
    exact Condition.single_faults hread (hin.rawFree hraw)
  have hconditions : Faults (conditions tree) OfShape := by
    rw [conditions_eq_tree h]
    exact hinside.map.map
  show Faults (ofTree d tree) OfShape
  unfold ofTree
  refine hconditions.before ?_ _
  rw [conditions_eq_tree h]
  exact (hnever.bind _).bind _

end Clause

namespace Write

theorem insert_nothing (table : String) {v : Value} {rs : List Fields} (hrows : rows v = .ok rs)
    (hkeys : unionKeys rs = []) : insert table v 0 = .error .insertNothing := by
  unfold insert
  rw [hrows, Build.read_ok, hkeys]
  rfl

theorem allSubstitutions_nothing {columns : Fields}
    (h : ∀ e ∈ columns, ∀ pairs, e.2 ≠ .object pairs) : allSubstitutions columns = pure [] := by
  induction columns with
  | nil => rfl
  | cons e rest ih =>
    obtain ⟨he, hrest⟩ := List.forall_mem_cons.1 h
    have hsubstitutions : substitutions e = pure [] := by
      unfold substitutions
      split
      · rename_i pairs hpairs
        exact absurd hpairs (he pairs)
      · rfl
    rw [allSubstitutions, hsubstitutions, ih hrest]
    rfl

theorem replace_nothing (d : Dialect) {table : String} (ht : Name.isName table.toList = true)
    {columns : Fields} (h : ∀ e ∈ columns, ∀ pairs, e.2 ≠ .object pairs)
    (conditions : Option Value) :
    replace d table columns conditions 0 = .error .nothingToReplace := by
  unfold replace
  rw [tableSql, if_pos ht, Build.read_ok, allSubstitutions_nothing h]
  rfl

end Write

namespace Statement

/-- The statement would write no column, and that is what it is refused with. A replacement is
refused in other words than the others, as a wrong name is. -/
inductive WritesNothing : Statement → Error → Prop
  | insert (table : String) {v : Value} {rs : List Fields} (hrows : Write.rows v = .ok rs)
      (hkeys : Write.unionKeys rs = []) :
      WritesNothing (.insert table v) (.compile "insert needs at least one column")
  | update (table : String) (conditions : Option Value) :
      WritesNothing (.update table [] conditions) (.compile "update needs at least one column")
  | replace {table : String} (ht : Name.isName table.toList = true) {columns : Fields}
      (hcolumns : ∀ e ∈ columns, ∀ pairs, e.2 ≠ .object pairs) (conditions : Option Value) :
      WritesNothing (.replace table columns conditions) (.validation "Invalid columns supplied")

/-- It is refused so under every compiler. -/
theorem WritesNothing.refused {s : Statement} {e : Error} (h : s.WritesNothing e)
    (c : Compiler) : s.compile c = .error e := by
  have hcompile : ∀ fault, s.build c.dialect 0 = .error fault →
      s.compile c = .error (fault.error c.tablePrefix) := by
    intro fault hrun
    rw [compile_eq, Build.template, hrun]
    rfl
  cases h with
  | insert table hrows hkeys => exact hcompile _ (Write.insert_nothing table hrows hkeys)
  | update table conditions => exact hcompile .updateNothing rfl
  | replace ht hcolumns conditions =>
    exact hcompile _ (Write.replace_nothing c.dialect ht hcolumns conditions)

variable {tree : Fields} {key : String} {v : Value}

/-- An empty list of values or of patterns among the conditions, at any depth, keeps a
statement of any kind from being compiled. -/
theorem empty_list_never_compiles (c : Compiler) {s : Statement}
    (hs : s.conditions? = some (.object tree)) (h : InTree key v (.object (Clause.plain tree)))
    (hnothing : AsksNothing key v) (out : Compiled) : s.compile c ≠ .ok out := by
  have hclauses : NeverRuns (Clause.all c.dialect s.conditions?) := by
    rw [hs]
    exact Clause.all_neverRuns c.dialect h hnothing
  -- One row and random order put one more modifier into the tree; its conditions stay.
  have hmodified : ∀ modifier w, Clause.isModifier modifier = true →
      NeverRuns (Clause.all c.dialect (some (.object (Entries.insert tree modifier w)))) := by
    intro modifier w hmodifier
    refine Clause.all_neverRuns c.dialect ?_ hnothing
    rwa [Clause.plain_insert tree hmodifier w]
  have hread : ∀ (q : Query) (kind : Head),
      NeverRuns (Clause.all c.dialect q.conditions) → NeverRuns (Read.statement c.dialect q kind) :=
    fun q kind hq => Build.neverRuns_bind _ fun _ => Build.neverRuns_bind _ fun _ =>
      Build.neverRuns_bind _ fun _ => hq.bind _
  have hnever : NeverRuns (s.build c.dialect) := by
    cases s with
    | select q => exact hread q _ hclauses
    | get q =>
      refine hread _ _ ?_
      have hq : q.conditions = some (.object tree) := hs
      show NeverRuns (Clause.all c.dialect (Query.modified q.conditions "LIMIT" (.int 1)))
      rw [hq]
      exact hmodified "LIMIT" (.int 1) (by decide)
    | rand q =>
      refine hread _ _ ?_
      have hq : q.conditions = some (.object tree) := hs
      show NeverRuns (Clause.all c.dialect (Query.modified q.conditions "ORDER" _))
      rw [hq]
      exact hmodified "ORDER" _ (by decide)
    | probe q =>
      have hall := fun kind => hread q kind hclauses
      show NeverRuns (probeBuild c.dialect q)
      unfold probeBuild
      split
      · exact hall _
      · exact (hall _).bind _
    | aggregate a q => exact hread q _ hclauses
    | insert table rows => cases hs
    | update table data conditions =>
      show NeverRuns (Write.update c.dialect table data _)
      unfold Write.update
      split
      · exact Build.makes_fail
      · exact Build.neverRuns_bind _ fun _ => Build.neverRuns_bind _ fun _ => hclauses.bind _
    | delete table conditions =>
      exact Build.neverRuns_bind _ fun _ => hclauses.bind _
    | replace table columns conditions =>
      refine Build.neverRuns_bind _ fun _ => Build.neverRuns_bind _ fun _ => ?_
      split
      · exact Build.makes_fail
      · exact hclauses.bind _
  intro hout
  rw [compile_eq] at hout
  obtain ⟨sql, bound, hrun, -⟩ := Compiler.compile_eq_ok.1 hout
  exact hnever 0 sql bound hrun

/-- Where the keys of the conditions read, the refusal is that of a wrong shape. -/
theorem delete_with_empty_list (c : Compiler) {table : String}
    (ht : Name.isName table.toList = true) (h : InTree key v (.object (Clause.plain tree)))
    (hnothing : AsksNothing key v) (hraw : fieldsRawFree (Clause.plain tree) = true)
    (hkeys : ∀ k w, InTree k w (.object (Clause.plain tree)) →
      ∃ k', ConditionKey.read k = .ok k') :
    ∃ message, c.delete table (some (.object tree)) = .error (.compile message) := by
  have hclauses := Clause.all_neverRuns c.dialect h hnothing
  have htable : tableSql table = .ok [.table table] := if_pos ht
  refine Compiler.compile_error (Build.neverRuns_bind _ fun _ => hclauses.bind _) ?_
  show Faults (Write.delete c.dialect table (some (.object tree))) OfShape
  unfold Write.delete
  rw [htable, Build.read_ok]
  exact (Clause.all_faults c.dialect h hnothing hraw hkeys).map

example : Compiler.delete ⟨.mysql, "x_"⟩ "post"
    (some (.object [("OR", .array [.object [("rank", .int 1), ("kind[!]", .array [])]])])) =
    .error (.compile "empty IN list for column \"kind\"") := by
  rfl

end Statement

end StructuredSql
