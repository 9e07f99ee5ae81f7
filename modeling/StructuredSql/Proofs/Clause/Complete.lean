-- Which clauses are complete. The program refuses an empty list of a condition, but neither
-- a group of conditions nor a list of columns that is empty.
import StructuredSql.Clause
import StructuredSql.Proofs.Clause.Leaves
import StructuredSql.Proofs.Condition.Grouping
import StructuredSql.Proofs.Sql.Complete
import StructuredSql.Proofs.Value.Everywhere

namespace StructuredSql

open Build (Makes)
open Sql (Fits IsNamed IsOperand Closes)

variable {escapes : Bool}

theorem Build.makes_operand_scalar (escapes : Bool) (v : Value) :
    Makes (scalar v) (IsOperand escapes) :=
  fun n sql bound h => Sql.isOperand_placeholder (makes_scalar v n sql bound h)

theorem Build.makes_operand_text (escapes : Bool) (s : String) :
    Makes (text s) (IsOperand escapes) :=
  fun n sql bound h => Sql.isOperand_placeholder (makes_text s n sql bound h)

theorem Build.Makes.fits {x : Build Sql} (h : Makes x (IsOperand escapes)) :
    Makes x (Fits escapes true) :=
  fun n sql bound hrun => (h n sql bound hrun).fits

/-- A list that a build makes item by item. -/
theorem Build.makes_list {α : Type} {f : α → Build Sql} {filled : α → Bool} (s : String)
    (hs : Complete.Joins s.toList) (items : List α)
    (h : ∀ a ∈ items, Makes (f a) (Fits escapes (filled a))) :
    Makes (each f items) fun sqls =>
      Fits escapes (!items.isEmpty && items.all filled) (Sql.joinWith s sqls) :=
  fun n sqls bound hrun => Sql.fits_items hs (makes_forall₂ items h n sqls bound hrun)

/-- A list that is not empty, of items that lack nothing. -/
theorem Build.makes_full_list {α : Type} {f : α → Build Sql} (s : String)
    (hs : Complete.Joins s.toList) {items : List α} (hne : items ≠ [])
    (h : ∀ a ∈ items, Makes (f a) (Fits escapes true)) :
    Makes (each f items) fun sqls => Fits escapes true (Sql.joinWith s sqls) := by
  intro n sqls bound hrun
  have hlist := Sql.fits_full hs (makes_forall₂ items h n sqls bound hrun)
  rw [List.isEmpty_eq_false_iff.2 hne] at hlist
  exact hlist

namespace Condition

/-! ## One condition -/

variable {column : ColumnName}

/-- Items under placeholders, with a separator between them. -/
theorem fits_marks {items : List Value} {marks : List Sql} (hsome : items ≠ [])
    (h : List.Forall₂ Marked items marks) {f : Sql → Sql}
    (hf : ∀ mark, Sql.IsPlaceholder mark → Fits escapes true (f mark)) {s : String}
    (hs : Complete.Joins s.toList) : Fits escapes true (Sql.joinWith s (marks.map f)) := by
  have hall : List.Forall₂ (fun _ sql => Fits escapes true sql) items (marks.map f) :=
    List.forall₂_map_right_iff.2 (h.imp fun _ mark hmark => hf mark hmark.placeholder)
  have hlist := Sql.fits_full hs hall
  rwa [List.isEmpty_eq_false_iff.2 hsome] at hlist

/-- What is asked lacks nothing. -/
theorem Asks.fits (hc : column.IsPlain) {op : Operator} {v : Value} {sql : Sql}
    (h : Asks column op v sql) : Fits escapes true sql := by
  have hcolumn : IsOperand escapes column.sql := Sql.isOperand_column hc
  have hbehind {mark : Sql} (hmark : Sql.IsPlaceholder mark) {words : String}
      (hwords : Complete.Links words.toList) :
      Fits escapes true (column.sql ++ .text words :: mark) :=
    (hcolumn.link hwords (Sql.isOperand_placeholder hmark)).fits
  cases h with
  | null h =>
    have hwords : ∀ e ∈ nullWords, Complete.Ends e.2.toList := by decide
    exact (hcolumn.trail (hwords _ h)).fits
  | @list _ _ _ marks h hsome hmarks =>
    have hwords : ∀ e ∈ listWords, Complete.Leads e.2.toList true := by decide
    have hlist : Fits escapes true (Sql.joinWith ", " (marks.map id)) :=
      fits_marks hsome hmarks (fun mark hmark => (Sql.isOperand_placeholder hmark).fits) (by decide)
    rw [List.map_id] at hlist
    exact (hcolumn.call (hwords _ h) hlist).fits
  | equal h _ hmark =>
    have hwords : ∀ e ∈ equalWords, Complete.Links e.2.toList := by decide
    exact hbehind hmark.placeholder (hwords _ h)
  | order h hmark =>
    have hwords : ∀ e ∈ orderWords, Complete.Links e.2.toList := by decide
    exact hbehind hmark.placeholder (hwords _ h)
  | @like _ _ _ conjunction _ _ h _ hsome hmarks =>
    have hwords : ∀ e ∈ patternWords, Complete.Links e.2.toList := by decide
    have hjoins : Complete.Joins s!" {conjunction.word} ".toList := by cases conjunction <;> decide
    exact (fits_marks hsome hmarks (fun mark hmark => hbehind hmark (hwords _ h)) hjoins).parens
  | @between _ _ _ _ least most h hleast hmost =>
    have hwords : ∀ e ∈ rangeWords, Complete.Links e.2.toList := by decide
    have hbounds : IsOperand escapes (least ++ .text " AND " :: most) :=
      (Sql.isOperand_placeholder hleast.placeholder).link (by decide)
        (Sql.isOperand_placeholder hmost.placeholder)
    exact (hcolumn.link (hwords _ h) hbounds).fits.parens
  | regexp _ hmark => exact hbehind hmark.placeholder (by decide)

theorem ask_fits (hc : column.IsPlain) (op : Operator) {v : Value} (hv : v.rawFree = true) :
    Makes (ask column op v) (Fits escapes true) :=
  (ask_asks op hv).imp fun _ h => h.fits hc

/-- A single condition is complete: its empty lists are refused. -/
theorem single_fits (escapes : Bool) (key : String) {v : Value} (hv : v.rawFree = true) :
    Makes (single key v) (Fits escapes true) := by
  refine Build.makes_read fun k hk => ?_
  have hplain := ConditionKey.read_isPlain hk
  cases k with
  | value column op => exact ask_fits hplain op hv
  | columns left sign right =>
    obtain ⟨hl, hs, hr⟩ := hplain
    refine Build.makes_pure ((Sql.isOperand_column hl).link ?_ (Sql.isOperand_column hr)).fits
    simp only [columnComparisons, List.mem_cons, List.not_mem_nil, or_false] at hs
    rcases hs with rfl | rfl | rfl | rfl | rfl | rfl <;> decide

/-! ## Groups -/

/-- Some of the texts may lack something; they are told by their number and by whether all
are complete. -/
def FitAll (escapes empty complete : Bool) (sqls : List Sql) : Prop :=
  ∃ bs, List.Forall₂ (Fits escapes) bs sqls ∧ bs.isEmpty = empty ∧ bs.all id = complete

theorem fitAll_nil : FitAll escapes true true [] := ⟨[], .nil, rfl, rfl⟩

theorem FitAll.cons {b c empty : Bool} {sql : Sql} {sqls : List Sql} (h : Fits escapes b sql)
    (hs : FitAll escapes empty c sqls) : FitAll escapes false (b && c) (sql :: sqls) := by
  obtain ⟨bs, hbs, -, rfl⟩ := hs
  exact ⟨b :: bs, .cons h hbs, rfl, rfl⟩

theorem makes_cons {b c empty : Bool} {x : Build Sql} {xs : Build (List Sql)}
    (hx : Makes x (Fits escapes b)) (hxs : Makes xs (FitAll escapes empty c)) :
    Makes (Build.cons x xs) (FitAll escapes false (b && c)) :=
  hx.bind fun _ h => hxs.map fun _ hs => .cons h hs

theorem FitAll.joined {empty c : Bool} {sqls : List Sql} (h : FitAll escapes empty c sqls)
    (conjunction : Conjunction) : Fits escapes (!empty && c) (joined conjunction sqls) := by
  obtain ⟨bs, hbs, rfl, rfl⟩ := h
  exact Sql.fits_joinWith (by cases conjunction <;> decide) hbs

theorem makes_grouped {empty c : Bool} {xs : Build (List Sql)}
    (hxs : Makes xs (FitAll escapes empty c)) (conjunction : Conjunction) :
    Makes (grouped conjunction xs) (Fits escapes (!empty && c)) :=
  hxs.map fun _ h => (h.joined conjunction).parens

mutual

/-- A group is complete when it is populated, and so are the groups in it. -/
theorem group_fits (escapes : Bool) (conjunction : Conjunction) : (v : Value) →
    v.rawFree = true → v.isContainer = true →
    Makes (grouped conjunction (inside v)) (Fits escapes v.populated)
  | .object group, hv, _ => makes_grouped (entries_fit escapes group hv) conjunction
  | .array items, hv, _ => makes_grouped (listed_fit escapes items hv) conjunction
  | .null, _, hc | .bool _, _, hc | .int _, _, hc | .float _, _, hc | .string _, _, hc
  | .bytes _, _, hc | .raw _, _, hc => by cases hc
termination_by structural v => v

theorem entries_fit (escapes : Bool) : (fields : List (String × Value)) →
    fieldsRawFree fields = true →
    Makes (entries fields) (FitAll escapes fields.isEmpty (fieldsPopulated fields))
  | [], _ => Build.makes_pure fitAll_nil
  | (key, v) :: rest, h => by
    obtain ⟨hv, hrest⟩ := Bool.and_eq_true_iff.1 h
    have hgroup := fun k => group_fits escapes k v hv
    refine makes_cons ?_ (entries_fit escapes rest hrest)
    have hsingle := single_fits escapes key hv
    cases ConditionKey.group? key with
    | none => exact hsingle
    | some k =>
      cases hc : v.isContainer with
      | true => exact hgroup k hc
      | false =>
        have hpopulated : v.populated = true := by
          cases v with
          | array items => cases hc
          | object fields => cases hc
          | _ => rfl
        rw [hpopulated]
        exact hsingle
termination_by structural fields => fields

theorem listed_fit (escapes : Bool) : (items : List Value) → itemsRawFree items = true →
    Makes (listed items) (FitAll escapes items.isEmpty (itemsPopulated items))
  | [], _ => Build.makes_pure fitAll_nil
  | v :: rest, h => by
    obtain ⟨hv, hrest⟩ := Bool.and_eq_true_iff.1 h
    have hgroup := group_fits escapes .and v hv
    refine makes_cons ?_ (listed_fit escapes rest hrest)
    cases v with
    | string key => exact single_fits escapes key rfl
    | object group => exact hgroup rfl
    | raw fragment => cases hv
    | _ => exact Build.makes_fail
termination_by structural items => items

end

theorem tree_fits (escapes : Bool) (conjunction : Conjunction) {fields : Fields}
    (h : fieldsRawFree fields = true) : Makes (tree conjunction fields)
      (Fits escapes (!fields.isEmpty && fieldsPopulated fields)) :=
  (entries_fit escapes fields h).map fun _ hs => hs.joined conjunction

end Condition

/-- What may be a list of columns is no empty one. -/
def listFilled : Value → Bool
  | .array items => !items.isEmpty
  | _ => true

/-! ## Joins -/

namespace Join

/-- The relation of a join lacks nothing. -/
def relationFilled : Value → Bool
  | .object pairs => !pairs.isEmpty && pairs.all fun e => e.2.populated
  | v => listFilled v

theorem columnSql_named (escapes : Bool) {s : String} {sql : Sql} (h : columnSql s = .ok sql) :
    IsNamed escapes sql := by
  obtain ⟨name, hname, rfl⟩ := columnSql_eq_ok h
  exact Sql.isNamed_columnName (columnName_isPlain hname)

/-- A list of columns is complete when it is not empty. -/
theorem columnNames_fits (escapes : Bool) (s : String) (hs : Complete.Joins s.toList)
    {wrongShape : Fault} {columns : List Value} {sqls : List Sql}
    (h : columnNames wrongShape columns = .ok sqls) :
    Fits escapes (!columns.isEmpty) (Sql.joinWith s sqls) :=
  Sql.fits_full hs <| (columnNames_eq_ok h).imp fun _ _ ⟨_, _, hcolumn⟩ =>
    (columnSql_named escapes hcolumn).operand.fits

theorem leftColumn_named (escapes : Bool) {main left : String} (hm : Name.IsPlain main.toList)
    {sql : Sql} (h : leftColumn main left = .ok sql) : IsNamed escapes sql := by
  obtain ⟨column, hcolumn, rfl | rfl⟩ := leftColumn_eq_ok h
  · exact columnSql_named escapes hcolumn
  · exact (columnSql_named escapes hcolumn).qualified hm

theorem onEntry_fits (escapes : Bool) {main joined : String} (hm : Name.IsPlain main.toList)
    (hj : Name.IsPlain joined.toList) (key : String) {entry : String × Value}
    (he : entry.2.rawFree = true) :
    Makes (onEntry main joined key entry) (Fits escapes entry.2.populated) := by
  unfold onEntry
  split
  · exact Condition.tree_fits escapes .and he
  · rename_i left right
    refine Build.makes_read fun l hl => Build.makes_read fun r hr => Build.makes_pure ?_
    have hleft := (leftColumn_named escapes hm hl).operand
    have hright := ((columnSql_named escapes hr).qualified hj).operand
    exact (hleft.link (by decide) hright).fits
  · exact Build.makes_fail

theorem closes_usingColumns {b : Bool} {columns : List Sql}
    (h : Fits escapes b (Sql.joinWith ", " columns)) :
    Closes escapes b (.text " " :: usingColumns columns) := by
  have hclause : Closes escapes b
      (.text " USING (" :: (Sql.joinWith ", " columns ++ Sql.text ")")) := h.callClause (by decide)
  exact hclause.congr fun p => by simp [usingColumns]

theorem relation_closes (escapes : Bool) {main joined : String} (hm : Name.IsPlain main.toList)
    (hj : Name.IsPlain joined.toList) (key : String) {v : Value} (hv : v.rawFree = true) :
    Makes (relation main joined key v) fun on =>
      Closes escapes (relationFilled v) (.text " " :: on) := by
  unfold relation
  split
  · refine Build.makes_read fun sql hs => Build.makes_pure (closes_usingColumns ?_)
    exact (columnSql_named escapes hs).operand.fits
  · refine Build.makes_read fun sqls hs => Build.makes_pure (closes_usingColumns ?_)
    exact columnNames_fits escapes ", " (by decide) hs
  · rename_i pairs
    refine (Build.makes_list " AND " (by decide) pairs fun e he =>
      onEntry_fits escapes hm hj key (fieldsRawFree_iff.1 hv e he)).map fun sqls h => ?_
    have hclause : Closes escapes _ (.text " ON " :: Sql.joinWith " AND " sqls) :=
      h.clause (by decide)
    exact hclause.congr fun p => by simp
  · cases hv
  · exact Build.makes_fail

theorem table_operand (escapes : Bool) {t : TableRef} (h : t.IsPlain) :
    IsOperand escapes t.sql := by
  have hname : IsOperand escapes [.table t.name] := (Sql.isNamed_table h.name).operand
  unfold TableRef.sql
  split
  · rename_i a ha
    exact hname.link (by decide) (Sql.isNamed_table (h.alias? a ha)).operand
  · exact hname

theorem clause_closes (escapes : Bool) {main : String} (hm : Name.IsPlain main.toList)
    {entry : String × Value} (he : entry.2.rawFree = true) :
    Makes (clause main entry) fun sql =>
      Closes escapes (relationFilled entry.2) (.text " " :: sql) := by
  refine Build.makes_read fun key hkey => ?_
  have ht := JoinKey.read_isPlain hkey
  refine (relation_closes escapes hm ht.exposed entry.1 he).map fun on hon => ?_
  have hkind : Complete.Joins (" " ++ s!"{key.kind.word} JOIN ").toList := by
    cases key.kind <;> decide
  have hclause := ((table_operand escapes ht).fits.closing hon).clause hkind
  rw [Bool.true_and] at hclause
  exact hclause.congr fun p => by simp

/-- The joins of a map, each behind a blank. -/
theorem clauses_closes (escapes : Bool) {main : String} (hm : Name.IsPlain main.toList)
    {joins : Fields} (hj : fieldsRawFree joins = true) (hne : joins ≠ []) :
    Makes (clauses main joins) fun sql =>
      Closes escapes (joins.all fun e => relationFilled e.2) (.text " " :: sql) :=
  (Build.makes_forall₂ joins fun e he =>
    clause_closes escapes hm (fieldsRawFree_iff.1 hj e he)).map fun _ h =>
      Sql.closes_joinWith hne h

end Join

/-! ## Clauses -/

namespace Clause

theorem optionally_closes {v? : Option Value} {f : Value → Build Sql} {filled : Value → Bool}
    (h : ∀ v, v? = some v → Makes (f v) (Closes escapes (filled v))) :
    Makes (optionally v? f) (Closes escapes (v?.all filled)) := by
  cases v? with
  | none => exact Build.makes_pure Sql.closes_nil
  | some v => exact h v rfl

theorem conditions_closes (escapes : Bool) {tree : Fields}
    (h : fieldsRawFree (plain tree) = true) :
    Makes (conditions tree) (Closes escapes (fieldsPopulated (plain tree))) := by
  unfold conditions
  split
  · rename_i hempty
    rw [List.isEmpty_iff.1 hempty]
    exact Build.makes_pure Sql.closes_nil
  · rename_i hempty
    have htree := Condition.tree_fits escapes .and h
    rw [Bool.eq_false_iff.2 hempty] at htree
    exact htree.map fun _ hs => hs.clause (by decide)

/-! ### Full-text search -/

/-- The columns of a search are no empty list. -/
def searchFilled (spec : Value) : Bool :=
  ((spec.object?.bind fun fields => Entries.get? fields "columns").map listFilled).getD true

theorem searchMode_ends (fields : Fields) :
    Complete.Ends (searchMode fields ++ ")").toList := by
  unfold searchMode
  split <;> decide

theorem search_closes (escapes alone : Bool) (spec : Value) :
    Makes (search alone spec) (Closes escapes (searchFilled spec)) := by
  unfold search searchFilled
  split
  · exact Build.makes_fail
  · rename_i fields hfields
    split
    · rename_i columns keyword hcolumns _
      refine Build.makes_read fun names hnames => ?_
      have hlist := Join.columnNames_fits escapes ", " (by decide) hnames
      refine (Build.makes_operand_text escapes keyword.toText).map fun bound hbound => ?_
      have hagainst : Complete.Joins ") AGAINST (".toList := by decide
      have hsearch := hlist.join hagainst (hbound.trail (searchMode_ends fields)).fits
      rw [Bool.and_true] at hsearch
      simp only [hfields, Option.bind_some, hcolumns, Option.map_some, Option.getD_some]
      exact hsearch.clause (by cases alone <;> decide)
    · exact Build.makes_fail

theorem searching_closes (escapes : Bool) (d : Dialect) (alone : Bool) (tree : Fields) :
    Makes (searching d alone tree) (Closes escapes
      (d ≠ .mysql || (Entries.get? tree "MATCH").all searchFilled)) := by
  unfold searching
  split
  · rename_i hd
    simp only [hd, ne_eq, not_true_eq_false, decide_false, Bool.false_or]
    exact optionally_closes fun v _ => search_closes escapes alone v
  · rename_i hd
    simp only [hd, ne_eq, not_false_eq_true, decide_true, Bool.true_or]
    exact Build.makes_pure Sql.closes_nil

/-! ### Grouping -/

theorem columns_fit (escapes : Bool) {wrongShape : Fault} (columns : List Value) :
    Makes (do return Sql.joinWith "," (← Join.columnNames wrongShape columns))
      (Fits escapes (listFilled (.array columns))) :=
  Build.makes_read fun _ hnames => Build.makes_pure
    (Join.columnNames_fits escapes "," (by decide) hnames)

theorem column_fits (escapes : Bool) (s : String) :
    Makes (columnSql s : Build Sql) (Fits escapes true) := by
  intro n sql bound h
  exact (Join.columnSql_named escapes (Build.liftM_eq_ok.1 h).1).operand.fits

theorem groupBy_closes (escapes : Bool) {group : Value} (h : group.rawFree = true) :
    Makes (groupBy group) (Closes escapes (listFilled group)) := by
  have hgroup : Makes (grouping group) (Fits escapes (listFilled group)) := by
    unfold grouping
    split
    · exact columns_fit escapes _
    · cases h
    · exact column_fits escapes _
    · exact Build.makes_fail
  unfold groupBy
  exact hgroup.map fun _ hs => hs.clause (by decide)

theorem having_closes (escapes : Bool) {v : Value} (h : v.rawFree = true) :
    Makes (having v) (Closes escapes v.populated) := by
  have htest : Makes (groupTest v) (Fits escapes v.populated) := by
    cases v with
    | raw fragment => cases h
    | object fields => exact Condition.tree_fits escapes .and h
    | _ => exact Build.makes_fail
  unfold having
  exact htest.map fun _ hs => hs.clause (by decide)

/-! ### Order -/

/-- Something is ordered by, and no list of values is empty. -/
def orderFilled : Value → Bool
  | .object fields => !fields.isEmpty && fields.all fun e => listFilled e.2
  | v => listFilled v

/-- A character in a literal is written so that the literal goes on behind it. -/
theorem run_escapeLiteral (d : Dialect) (c : Char) :
    Complete.run (d = .mysql) .literal (d.escapeLiteral c) = some .literal := by
  unfold Dialect.escapeLiteral
  by_cases hd : d = .mysql
  · subst hd
    simp only [if_true]
    split
    · rfl
    · rename_i hc
      obtain ⟨hquote, -, hslash⟩ := not_or.1 hc |>.imp_right not_or.1
      simp [Complete.run, Complete.step, hquote, hslash]
  · simp only [hd, if_false, decide_false]
    split
    · rfl
    · rename_i hquote
      simp [Complete.run, Complete.step, hquote]

theorem run_escaped (d : Dialect) (t : List Char) :
    Complete.run (d = .mysql) .literal (t.flatMap d.escapeLiteral) = some .literal := by
  induction t with
  | nil => rfl
  | cons c t ih =>
    rw [List.flatMap_cons, Complete.run_append, run_escapeLiteral, Option.bind_some, ih]

theorem quoteLiteral_operand (d : Dialect) (s : String) :
    Complete.Operand (d = .mysql) (d.quoteLiteral s).toList := by
  refine Complete.operand_of_run fun owed => ?_
  have hopen : Complete.run (d = .mysql) (.between owed) ['\''] = some .literal := rfl
  have hclose : Complete.run (d = .mysql) .literal ['\''] = some (.between false) := rfl
  rw [Dialect.quoteLiteral, String.toList_ofList, ← List.singleton_append, Complete.run_append,
    hopen, Option.bind_some, Complete.run_append, run_escaped, Option.bind_some, hclose]

theorem orderLiteral_operand (d : Dialect) (v : Value) :
    Complete.Operand (d = .mysql) (orderLiteral d v).toList := by
  cases v with
  | int i => exact Complete.operand_figures (Text.figures_intRepr i.toInt)
  | _ => exact quoteLiteral_operand d _

/-- The values of an ordered list. -/
theorem orderLiterals_fit (d : Dialect) (values : List Value) :
    Fits (d = .mysql) (!values.isEmpty)
      (Sql.joinWith "," (values.map fun v => Sql.text (orderLiteral d v))) := by
  have hliteral : ∀ v, IsOperand (d = .mysql) (Sql.text (orderLiteral d v)) := fun v p _ => by
    simpa [Sql.text] using orderLiteral_operand d v
  have hlist : Fits (d = .mysql) _
      (Sql.joinWith "," (values.map fun v => Sql.text (orderLiteral d v))) :=
    Sql.fits_operands (by decide) (List.forall_mem_map.2 fun v _ => hliteral v)
  rwa [List.isEmpty_map] at hlist

theorem orderEntry_fits {d : Dialect} {entry : String × Value} {sql : Sql}
    (h : orderEntry d entry = .ok sql) : Fits (d = .mysql) (listFilled entry.2) sql := by
  unfold orderEntry at h
  cases hc : columnSql entry.1 with
  | error fault => simp [hc, bind, Except.bind] at h
  | ok column =>
    have hcolumn := (Join.columnSql_named (d = .mysql) hc).operand
    simp only [hc, bind, Except.bind] at h
    split at h
    · rename_i values hv
      cases h
      have hcomma : Complete.Joins ", ".toList := by decide
      have hfield : Complete.Continues "FIELD(".toList := by decide
      have hcall := (hcolumn.fits.join hcomma (orderLiterals_fit d values)).call hfield
      rw [Bool.true_and] at hcall
      rw [hv]
      refine hcall.congr fun p => ?_
      simp [Sql.text, Sql.chars_joinWith, String.toList_intercalate, Function.comp_def]
    · rename_i hv
      cases h
      rw [hv]
      exact (hcolumn.trail (by decide)).fits
    · rename_i hv
      cases h
      rw [hv]
      exact (hcolumn.trail (by decide)).fits
    · cases h

theorem orderBy_closes {d : Dialect} {order : Value} (h : order.rawFree = true) :
    Makes (orderBy d order) (Closes (d = .mysql) (orderFilled order)) := by
  have hordering : Makes (ordering d order) (Fits (d = .mysql) (orderFilled order)) := by
    unfold ordering
    split
    · exact columns_fit _ _
    · rename_i fields
      refine (Build.makes_list "," (by decide) fields fun e _ => ?_).map fun _ hs => hs
      exact fun n sql bound hrun => orderEntry_fits (Build.liftM_eq_ok.1 hrun).1
    · cases h
    · exact column_fits _ _
    · exact Build.makes_fail
  unfold orderBy
  exact hordering.map fun _ hs => hs.clause (by decide)

/-! ### The limit -/

theorem limitText_closes (escapes : Bool) (d : Dialect) (ordered : Bool) (offset? : Option Nat)
    (rows : Nat) : Complete.Closes escapes true (limitText d ordered offset? rows).toList := by
  have hnat : ∀ n : Nat, Complete.Operand escapes (toString n).toList := fun n =>
    Complete.operand_figures (Text.figures_natRepr n)
  have hfetch : Complete.Closes escapes true
      (" OFFSET " ++ toString (offset?.getD 0) ++ " ROWS FETCH NEXT " ++ toString rows ++
        " ROWS ONLY").toList := by
    have hrows : Complete.Links " ROWS FETCH NEXT ".toList := by decide
    have honly : Complete.Ends " ROWS ONLY".toList := by decide
    have hoffset : Complete.Joins " OFFSET ".toList := by decide
    have hwindow := ((hnat (offset?.getD 0)).link hrows (hnat rows)).trail honly
    simpa using hwindow.fits.clause hoffset
  have hlimit : Complete.Joins " LIMIT ".toList := by decide
  unfold limitText
  split
  · split
    · have horder : Complete.Closes escapes true " ORDER BY (SELECT 0)".toList :=
        Complete.closes_text (by decide) (by decide)
      rw [String.toList_append]
      exact horder.append hfetch
    · rw [String.empty_append]
      exact hfetch
  · split
    · rename_i offset
      have hoffset : Complete.Links " OFFSET ".toList := by decide
      show Complete.Closes escapes true
        (" LIMIT " ++ toString rows ++ " OFFSET " ++ toString offset).toList
      simpa using ((hnat rows).link hoffset (hnat offset)).fits.clause hlimit
    · show Complete.Closes escapes true (" LIMIT " ++ toString rows).toList
      simpa using (hnat rows).fits.clause hlimit

theorem limit_closes (escapes : Bool) (d : Dialect) (ordered : Bool) (v : Value) :
    Makes (limit d ordered v) (Closes escapes true) :=
  Build.makes_read fun r _ => Build.makes_pure fun p _ => by
    simpa [Sql.text] using limitText_closes escapes d ordered r.1 r.2

/-! ### All clauses -/

/-- Nothing is missing in the clauses of the tree. -/
def treeFilled (d : Dialect) (tree : Fields) : Bool :=
  fieldsPopulated (plain tree) &&
    ((d ≠ .mysql || (Entries.get? tree "MATCH").all searchFilled) &&
      ((Entries.get? tree "GROUP").all listFilled &&
        ((Entries.get? tree "HAVING").all Value.populated &&
          (Entries.get? tree "ORDER").all orderFilled)))

/-- Nothing is missing in the clauses of a statement. -/
def conditionsFilled (d : Dialect) : Option Value → Bool
  | some (.object tree) => treeFilled d tree
  | _ => true

theorem ofTree_closes {d : Dialect} {tree : Fields} (h : fieldsRawFree tree = true) :
    Makes (ofTree d tree) (Closes (d = .mysql) (treeFilled d tree)) := by
  have hconditions := conditions_closes (d = .mysql)
    (fieldsRawFree_filter h fun e => !isModifier e.1)
  have hsearching := fun alone => searching_closes (d = .mysql) d alone tree
  have hgrouping : Makes (optionally (Entries.get? tree "GROUP") groupBy)
      (Closes (d = .mysql) ((Entries.get? tree "GROUP").all listFilled)) :=
    optionally_closes fun v hv => groupBy_closes _ (rawFree_of_get? h hv)
  have hhaving : Makes (optionally (Entries.get? tree "HAVING") having)
      (Closes (d = .mysql) ((Entries.get? tree "HAVING").all Value.populated)) :=
    optionally_closes fun v hv => having_closes _ (rawFree_of_get? h hv)
  have hordering : Makes (optionally (Entries.get? tree "ORDER") (orderBy d))
      (Closes (d = .mysql) ((Entries.get? tree "ORDER").all orderFilled)) :=
    optionally_closes fun v hv => orderBy_closes (rawFree_of_get? h hv)
  have hlimit : ∀ ordered, Makes (optionally (Entries.get? tree "LIMIT") (limit d ordered))
      (Closes (d = .mysql) ((Entries.get? tree "LIMIT").all fun _ => true)) :=
    fun ordered => optionally_closes fun v _ => limit_closes _ d ordered v
  refine hconditions.bind fun plainSql h₁ => (hsearching plainSql.isEmpty).bind fun _ h₂ =>
    hgrouping.bind fun _ h₃ => hhaving.bind fun _ h₄ => hordering.bind fun _ h₅ =>
    (hlimit _).map fun _ h₆ => ?_
  have hall := h₁.append (h₂.append (h₃.append (h₄.append (h₅.append h₆))))
  have hlast : ((Entries.get? tree "LIMIT").all fun _ => true) = true := by
    cases Entries.get? tree "LIMIT" <;> rfl
  rw [hlast, Bool.and_true] at hall
  simpa only [treeFilled, List.append_assoc] using hall

/-- The clauses of a statement without fragments. -/
theorem all_closes {d : Dialect} {conditions : Option Value}
    (h : conditions.all Value.rawFree = true) :
    Makes (all d conditions) (Closes (d = .mysql) (conditionsFilled d conditions)) := by
  cases conditions with
  | none => exact Build.makes_pure Sql.closes_nil
  | some v =>
    cases v with
    | null => exact Build.makes_pure Sql.closes_nil
    | raw fragment => cases h
    | object tree => exact ofTree_closes h
    | _ => exact Build.makes_fail

end Clause
end StructuredSql
