-- What a whole statement of any kind supplies to its bindings: the values that get a
-- placeholder and the fragments that are spliced in, in order. All of their bindings share one
-- map, in which the last binding of a key wins. Placeholders never meet each other there; a
-- fragment may meet a placeholder or another fragment.
import StructuredSql.Proofs.Build.Params
import StructuredSql.Proofs.Fragment.Clause
import StructuredSql.Proofs.Statement.Basic
import StructuredSql.Statement.Schema

namespace StructuredSql

open Build (Binds)

/-! ## Every kind of statement -/

/-- A statement of any kind: over rows, over tables, or written by the caller. -/
inductive AnyStatement
  | rows (s : Statement)
  | create (table : String) (columns : Value) (options : Option Value)
  | drop (table : String)
  | fragment (raw : Raw)

namespace AnyStatement

def compile (c : Compiler) : AnyStatement → Except Error Compiled
  | rows s => s.compile c
  | create table columns options => c.create table columns options
  | drop table => c.drop table
  | fragment raw => c.fragment raw

def build (d : Dialect) : AnyStatement → Build Sql
  | rows s => s.build d
  | create table columns options => Schema.create d table columns options
  | drop table => Schema.drop table
  | fragment raw => Build.fragment raw

theorem compile_eq (c : Compiler) (s : AnyStatement) :
    s.compile c = c.compile (s.build c.dialect).template := by
  cases s with
  | rows s => exact Statement.compile_eq c s
  | _ => rfl

end AnyStatement

/-! ## The fragments of a statement -/

def optionFragments (v? : Option Value) : List Raw := (v?.map Value.fragments).getD []

def Query.fragments (q : Query) : List Raw :=
  (q.join.map fieldsFragments).getD [] ++ (optionFragments q.columns ++
    optionFragments q.conditions)

def Statement.fragments : Statement → List Raw
  | select q => q.fragments
  | get q => q.fragments
  | rand q => q.fragments
  | probe q => q.fragments
  | aggregate _ q => q.fragments
  | insert _ rows => rows.fragments
  | update _ data conditions => fieldsFragments data ++ optionFragments conditions
  | delete _ conditions => optionFragments conditions
  | replace _ columns conditions => fieldsFragments columns ++ optionFragments conditions

/-- The fragments anywhere in the descriptor. -/
def AnyStatement.fragments : AnyStatement → List Raw
  | rows s => s.fragments
  | create _ columns _ => columns.fragments
  | drop _ => []
  | fragment raw => [raw]

/-! ## What statements supply -/

namespace Supplies

/-- What is selected is written out, with the fragments among it. -/
def ofHead (q : Query) : Head → List Supply
  | .columns | .function _ => (optionFragments q.columns).map .fragment
  | .one | .top => []

def ofQuery (d : Dialect) (q : Query) (kind : Head) : List Supply :=
  inJoins (q.join.getD []) ++ (ofHead q kind ++ inConditions d q.conditions)

/-- A container is stored as one text. -/
def ofCell (key : String) (v : Value) : List Supply :=
  match v with
  | .raw raw => [.fragment raw]
  | .array _ => [text (Cell.encode key v)]
  | .object _ => [text (Cell.encode key v)]
  | v => [scalar v]

/-- Every row fills the columns of all rows. -/
def ofRows (rows : List Fields) : List Supply :=
  rows.flatMap fun row =>
    (Write.unionKeys rows).flatMap fun k => ofCell k ((Entries.get? row k).getD .null)

/-- The operand of arithmetic is written out. -/
def ofAssignment (entry : String × Value) : List Supply :=
  match entry.2, (Write.updateKey entry.1).2 with
  | .raw raw, _ => [.fragment raw]
  | _, some (.arithmetic _) => []
  | v, _ => ofCell entry.1 v

/-- A replacement takes the old text and the new one. -/
def ofSubstitutions (entry : String × Value) : List Supply :=
  match entry.2 with
  | .object pairs => pairs.flatMap fun pair => [text pair.1, text pair.2.toText]
  | _ => []

/-- Definitions are written out, or fragments. -/
def ofDefinitions : Value → List Supply
  | .object fields => fields.flatMap fun e => whole e.2
  | .array items => items.flatMap whole
  | _ => []

end Supplies

/-- What the statement binds values and splices fragments for, in this order. -/
def Statement.supplies (d : Dialect) : Statement → List Supply
  | select q => Supplies.ofQuery d q (Read.selectHead q)
  | get q => Supplies.ofQuery d (Read.limited q) .columns
  | rand q => Supplies.ofQuery d (Read.shuffled d q) .columns
  | probe q => Supplies.ofQuery d q (if d = .mssql then .top else .one)
  | aggregate a q => Supplies.ofQuery d q (.function a)
  | insert _ rows => Supplies.ofRows (Write.insertedRows rows)
  | update _ data conditions =>
    data.flatMap Supplies.ofAssignment ++ Supplies.inConditions d conditions
  | delete _ conditions => Supplies.inConditions d conditions
  | replace _ columns conditions =>
    columns.flatMap Supplies.ofSubstitutions ++ Supplies.inConditions d conditions

def AnyStatement.supplies (d : Dialect) : AnyStatement → List Supply
  | rows s => s.supplies d
  | create _ columns _ => Supplies.ofDefinitions columns
  | drop _ => []
  | fragment raw => [.fragment raw]

/-! ## Fragments that a descriptor holds -/

section
variable {allowed : List Raw}

theorem fieldsWithin_of_subset {fields : Fields} (h : fieldsFragments fields ⊆ allowed) :
    FieldsWithin allowed fields := by
  rw [fieldsFragments_eq] at h
  exact flatMap_subset.1 h

theorem within_of_subset {v? : Option Value} (h : optionFragments v? ⊆ allowed) :
    Clause.ConditionsWithin allowed v? := by
  rintro v rfl
  exact h

namespace Read

/-- The parts of the query hold allowed fragments only. -/
structure QueryWithin (allowed : List Raw) (q : Query) : Prop where
  join : ∀ fields, q.join = some fields → FieldsWithin allowed fields
  columns : Clause.ConditionsWithin allowed q.columns
  conditions : Clause.ConditionsWithin allowed q.conditions

theorem queryWithin_fragments (q : Query) : QueryWithin q.fragments q where
  join fields h := fieldsWithin_of_subset fun raw hr => by
    unfold Query.fragments
    rw [h]
    exact List.mem_append_left _ hr
  columns := within_of_subset fun raw hr =>
    List.mem_append_right _ (List.mem_append_left _ hr)
  conditions := within_of_subset fun raw hr =>
    List.mem_append_right _ (List.mem_append_right _ hr)

theorem QueryWithin.mono {q : Query} (h : QueryWithin allowed q) {more : List Raw}
    (hmore : allowed ⊆ more) : QueryWithin more q where
  join fields hf e he := List.Subset.trans (h.join fields hf e he) hmore
  columns v hv := List.Subset.trans (h.columns v hv) hmore
  conditions v hv := List.Subset.trans (h.conditions v hv) hmore

/-- A modifier adds the fragments of its value. -/
theorem setModifier_within {q : Query} (h : QueryWithin allowed q) {key : String} {v : Value}
    (hv : v.Within allowed) : QueryWithin allowed (q.setModifier key v) where
  join := h.join
  columns := h.columns
  conditions := by
    intro w hw
    cases hc : q.conditions with
    | none =>
      simp only [Query.setModifier, Query.modified, hc, Option.some.injEq] at hw
      subst hw
      exact Value.within_object.2 (by simpa [FieldsWithin] using hv)
    | some conditions =>
      have hconditions := h.conditions _ hc
      cases conditions with
      | object tree =>
        simp only [Query.setModifier, Query.modified, hc, Option.some.injEq] at hw
        subst hw
        refine Value.within_object.2 fun e he => ?_
        rcases Entries.content_of_mem_insert he with he | he
        · exact Value.within_object.1 hconditions e he
        · rw [he]
          exact hv
      | _ =>
        simp only [Query.setModifier, Query.modified, hc, Option.some.injEq] at hw
        subst hw
        exact hconditions

end Read

theorem Write.insertedRows_within {v : Value} (hv : v.Within allowed) :
    ∀ row ∈ insertedRows v, FieldsWithin allowed row := by
  intro row hr
  rcases mem_insertedRows hr with rfl | ⟨items, rfl, hi⟩
  · exact Value.within_object.1 hv
  · exact Value.within_object.1 (Value.within_array.1 hv _ hi)

namespace Supplies

theorem within_ofQuery (d : Dialect) {q : Query} (h : Read.QueryWithin allowed q) (kind : Head) :
    Within allowed (ofQuery d q kind) := by
  refine within_append.2 ⟨?_, within_append.2 ⟨?_, within_inConditions d h.conditions⟩⟩
  · cases hj : q.join with
    | none => exact within_nil
    | some joins => exact within_inJoins (h.join joins hj)
  · have hcolumns : Within allowed ((optionFragments q.columns).map .fragment) := by
      cases hc : q.columns with
      | none => exact within_nil
      | some v => exact within_inColumns (h.columns v hc)
    cases kind with
    | columns => exact hcolumns
    | function a => exact hcolumns
    | one => exact within_nil
    | top => exact within_nil

theorem within_ofCell (key : String) {v : Value} (hv : v.Within allowed) :
    Within allowed (ofCell key v) := by
  cases v with
  | raw raw => exact within_fragment (Value.within_raw.1 hv)
  | _ => exact within_value _

theorem within_ofRows {rows : List Fields} (h : ∀ row ∈ rows, FieldsWithin allowed row) :
    Within allowed (ofRows rows) :=
  within_flatMap fun row hr => within_flatMap fun k _ => within_ofCell k <| by
    cases hk : Entries.get? row k with
    | none => exact List.nil_subset _
    | some v => exact Entries.get?_within (h row hr) hk

theorem within_ofAssignment {entry : String × Value} (h : entry.2.Within allowed) :
    Within allowed (ofAssignment entry) := by
  unfold ofAssignment
  split
  · rename_i hraw
    rw [hraw] at h
    exact within_fragment (Value.within_raw.1 h)
  · exact within_nil
  · exact within_ofCell _ h

theorem within_ofSubstitutions (entry : String × Value) :
    Within allowed (ofSubstitutions entry) := by
  unfold ofSubstitutions
  split
  · exact within_flatMap fun pair _ => within_append.2 ⟨within_value _, within_value _⟩
  · exact within_nil

theorem within_ofDefinitions {v : Value} (h : v.Within allowed) :
    Within allowed (ofDefinitions v) := by
  cases v with
  | object fields => exact within_flatMap fun e he => within_whole (Value.within_object.1 h e he)
  | array items => exact within_flatMap fun item hi => within_whole (Value.within_array.1 h item hi)
  | _ => exact within_nil

end Supplies
end

/-- Every fragment that is spliced in stands in the descriptor, apart from the function that
shuffles rows. -/
theorem Statement.within_supplies (d : Dialect) (s : Statement) :
    Supplies.Within (Fragment.plain d.randomFunction :: s.fragments) (s.supplies d) := by
  have hquery : ∀ q : Query, Read.QueryWithin (Fragment.plain d.randomFunction :: q.fragments) q :=
    fun q => (Read.queryWithin_fragments q).mono (List.subset_cons_self _ _)
  have hfields : ∀ fields (more : List Raw),
      FieldsWithin (Fragment.plain d.randomFunction :: (fieldsFragments fields ++ more)) fields :=
    fun fields more => fieldsWithin_of_subset
      (List.Subset.trans (List.subset_append_left _ more) (List.subset_cons_self _ _))
  have hconditions : ∀ (more : List Raw) conditions, Clause.ConditionsWithin
      (Fragment.plain d.randomFunction :: (more ++ optionFragments conditions)) conditions :=
    fun more conditions => within_of_subset
      (List.Subset.trans (List.subset_append_right more _) (List.subset_cons_self _ _))
  cases s with
  | select q => exact Supplies.within_ofQuery d (hquery q) _
  | get q =>
    exact Supplies.within_ofQuery d (Read.setModifier_within (hquery q) (List.nil_subset _)) _
  | rand q =>
    exact Supplies.within_ofQuery d (Read.setModifier_within (hquery q)
      (Value.within_raw.2 List.mem_cons_self)) _
  | probe q => exact Supplies.within_ofQuery d (hquery q) _
  | aggregate a q => exact Supplies.within_ofQuery d (hquery q) _
  | insert table rows =>
    exact Supplies.within_ofRows (Write.insertedRows_within (List.subset_cons_self _ _))
  | update table data conditions =>
    exact Supplies.within_append.2
      ⟨Supplies.within_flatMap fun e he => Supplies.within_ofAssignment (hfields data _ e he),
        Supplies.within_inConditions d (hconditions _ conditions)⟩
  | delete table conditions => exact Supplies.within_inConditions d (hconditions [] conditions)
  | replace table columns conditions =>
    exact Supplies.within_append.2
      ⟨Supplies.within_flatMap fun e _ => Supplies.within_ofSubstitutions e,
        Supplies.within_inConditions d (hconditions _ conditions)⟩

theorem AnyStatement.within_supplies (d : Dialect) (s : AnyStatement) :
    Supplies.Within (Fragment.plain d.randomFunction :: s.fragments) (s.supplies d) := by
  cases s with
  | rows s => exact Statement.within_supplies d s
  | create table columns options =>
    exact Supplies.within_ofDefinitions (List.subset_cons_self _ _)
  | drop table => exact Supplies.within_nil
  | fragment raw => exact Supplies.within_fragment (List.mem_cons_of_mem _ List.mem_cons_self)

/-! ## Statements bind what they are supplied with -/

namespace Read

theorem joins_binds (main : String) (join : Option Fields) :
    Binds (Supplies.inJoins (join.getD [])) (joins main join) := by
  cases join with
  | none => exact Build.binds_pure _
  | some fields =>
    cases fields with
    | nil => exact Build.binds_pure _
    | cons e rest => exact (Join.clauses_binds main (e :: rest)).map _

theorem aggregated_binds (columns : Option Value) :
    Binds ((optionFragments columns).map .fragment) (aggregated columns) := by
  unfold aggregated
  split
  · exact Build.binds_pure _
  · exact Build.binds_pure _
  · exact ColumnList.spec_binds true false _

theorem head_binds (q : Query) (joining : Bool) (kind : Head) :
    Binds (Supplies.ofHead q kind) (head q joining kind) := by
  cases kind with
  | columns =>
    have hspec := ColumnList.spec_binds true joining q.columnSpec
    have hsame : Supplies.inColumns q.columnSpec = (optionFragments q.columns).map .fragment := by
      unfold Query.columnSpec
      cases q.columns <;> rfl
    rwa [hsame] at hspec
  | function a => exact (aggregated_binds q.columns).map _
  | one => exact Build.binds_pure _
  | top => exact Build.binds_pure _

theorem statement_binds (d : Dialect) (q : Query) (kind : Head) :
    Binds (Supplies.ofQuery d q kind) (statement d q kind) :=
  Build.binds_read fun _ _ => (joins_binds _ q.join).bind fun _ =>
    (head_binds q _ kind).bind fun _ => (Clause.all_binds d q.conditions).map _

end Read

namespace Write

theorem store_binds (key : String) (v : Value) :
    Binds (Supplies.ofCell key v) (Cell.store key v) := by
  cases v with
  | raw raw => exact Build.binds_fragment raw
  | array items => exact Build.binds_placeholder _
  | object fields => exact Build.binds_placeholder _
  | _ => exact Build.binds_scalar _

theorem insert_binds (table : String) (v : Value) :
    Binds (Supplies.ofRows (insertedRows v)) (insert table v) := by
  refine Build.binds_read fun rs hrows => ?_
  rw [← rows_eq_ok hrows]
  dsimp only
  split
  · exact Build.binds_fail _
  · exact Build.binds_read fun _ _ => Build.binds_read fun _ _ =>
      (Build.binds_each fun row _ => (Build.binds_each fun k _ => store_binds k _).map _).map _

theorem assignment_binds (entry : String × Value) :
    Binds (Supplies.ofAssignment entry) (assignment entry) := by
  obtain ⟨key, v⟩ := entry
  unfold assignment Supplies.ofAssignment
  obtain ⟨name, mark?⟩ := updateKey key
  refine Build.binds_read fun column _ => ?_
  have harithmetic : ∀ result : Sql, Binds []
      (if v.isNumeric then pure result else Build.fail (.arithmeticOperand name v.type)) := by
    intro result
    split
    · exact Build.binds_pure _
    · exact Build.binds_fail _
  cases v with
  | raw raw => exact (Build.binds_fragment raw).map _
  | _ =>
    rcases mark? with _ | _ | sign
    · exact (store_binds key _).map _
    · exact (store_binds key _).map _
    · exact harithmetic _

theorem updateWith_binds (d : Dialect) (target : Sql) (assignments : List Sql)
    (conditions : Option Value) :
    Binds (Supplies.inConditions d conditions) (updateWith d target assignments conditions) :=
  (Clause.all_binds d conditions).map _

theorem update_binds (d : Dialect) (table : String) (data : Fields) (conditions : Option Value) :
    Binds (data.flatMap Supplies.ofAssignment ++ Supplies.inConditions d conditions)
      (update d table data conditions) := by
  unfold update
  split
  · exact Build.binds_fail _
  · exact Build.binds_read fun _ _ =>
      (Build.binds_each fun e _ => assignment_binds e).bind fun _ =>
        updateWith_binds d _ _ conditions

theorem substitution_binds (column : Sql) (pair : String × Value) :
    Binds [Supplies.text pair.1, Supplies.text pair.2.toText] (substitution column pair) :=
  (Build.binds_placeholder _).bind fun _ => (Build.binds_placeholder _).map _

theorem substitutions_binds (entry : String × Value) :
    Binds (Supplies.ofSubstitutions entry) (substitutions entry) := by
  obtain ⟨key, v⟩ := entry
  cases v with
  | object pairs =>
    exact Build.binds_read fun column _ => Build.binds_each fun pair _ =>
      substitution_binds column pair
  | _ => exact Build.binds_pure _

theorem allSubstitutions_binds (columns : Fields) :
    Binds (columns.flatMap Supplies.ofSubstitutions) (allSubstitutions columns) := by
  induction columns with
  | nil => exact Build.binds_pure _
  | cons entry rest ih => exact (substitutions_binds entry).bind fun _ => ih.map _

theorem replace_binds (d : Dialect) (table : String) (columns : Fields)
    (conditions : Option Value) :
    Binds (columns.flatMap Supplies.ofSubstitutions ++ Supplies.inConditions d conditions)
      (replace d table columns conditions) := by
  refine Build.binds_read fun _ _ => (allSubstitutions_binds columns).bind fun _ => ?_
  split
  · exact Build.binds_fail _
  · exact updateWith_binds d _ _ conditions

end Write

namespace Schema

theorem namedColumn_binds (entry : String × Value) :
    Binds (Supplies.whole entry.2) (namedColumn entry) := by
  refine Build.binds_read fun column _ => ?_
  cases entry.2 with
  | array parts => exact Build.binds_pure _
  | string s => exact Build.binds_pure _
  | raw raw => exact (Build.binds_fragment raw).map _
  | _ => exact Build.binds_fail _

theorem definition_binds (v : Value) : Binds (Supplies.whole v) (definition v) := by
  cases v with
  | string s => exact Build.binds_pure _
  | raw raw => exact Build.binds_fragment raw
  | _ => exact Build.binds_fail _

theorem definitions_binds (columns : Value) :
    Binds (Supplies.ofDefinitions columns) (definitions columns) := by
  cases columns with
  | object fields => exact Build.binds_each fun e _ => namedColumn_binds e
  | array items => exact Build.binds_each fun item _ => definition_binds item
  | _ => exact Build.binds_fail _

theorem create_binds (d : Dialect) (table : String) (columns : Value) (options? : Option Value) :
    Binds (Supplies.ofDefinitions columns) (create d table columns options?) := by
  refine Build.binds_read fun _ _ => ?_
  rw [← List.append_nil (Supplies.ofDefinitions columns)]
  refine (definitions_binds columns).bind fun parts => ?_
  split
  · exact Build.binds_fail _
  · exact (Build.binds_liftM _).map _

end Schema

/-- A statement of any kind binds exactly what its descriptor supplies. -/
theorem Statement.build_binds (d : Dialect) (s : Statement) :
    Binds (s.supplies d) (s.build d) := by
  cases s with
  | probe q =>
    show Binds (Supplies.ofQuery d q _) (probeBuild d q)
    unfold probeBuild
    split
    · exact Read.statement_binds d q _
    · exact (Read.statement_binds d q _).map _
  | insert table rows => exact Write.insert_binds table rows
  | update table data conditions => exact Write.update_binds d table data conditions
  | delete table conditions =>
    exact Build.binds_read fun _ _ => (Clause.all_binds d conditions).map _
  | replace table columns conditions => exact Write.replace_binds d table columns conditions
  | _ => exact Read.statement_binds d _ _

theorem AnyStatement.build_binds (d : Dialect) (s : AnyStatement) :
    Binds (s.supplies d) (s.build d) := by
  cases s with
  | rows s => exact Statement.build_binds d s
  | create table columns options => exact Schema.create_binds d table columns options
  | drop table => exact (Build.binds_liftM _).map _
  | fragment raw => exact Build.binds_fragment raw

/-! ## One map for all of them -/

namespace Supplies

/-- The values that get a placeholder, in the order of its numbers. -/
def values (supplies : List Supply) : List Param :=
  supplies.filterMap fun
    | .value param => some param
    | .fragment _ => none

/-- Every value is bound under its placeholder, and everything that a fragment binds is bound
as the fragment says. -/
structure Kept (supplies : List Supply) (params : Params) : Prop where
  placeholders : ∀ i param, (values supplies)[i]? = some param →
    Entries.get? params (placeholderKey i) = some param
  fragments : ∀ raw, .fragment raw ∈ supplies → ∀ e ∈ raw.params,
    Entries.get? params e.1 = some e.2

/-- No fragment disagrees with a placeholder or with another fragment. -/
structure NoConflict (supplies : List Supply) : Prop where
  placeholders : ∀ i param, (values supplies)[i]? = some param →
    ∀ raw, .fragment raw ∈ supplies → ∀ e ∈ raw.params, e.1 = placeholderKey i → e.2 = param
  fragments : ∀ raw, .fragment raw ∈ supplies → ∀ e ∈ raw.params,
    ∀ other, .fragment other ∈ supplies → ∀ f ∈ other.params, e.1 = f.1 → f.2 = e.2

variable {supplies : List Supply}

theorem placed_bindings (supplies : List Supply) :
    Binding.placed (bindings supplies) = values supplies := by
  induction supplies with
  | nil => rfl
  | cons supply rest ih =>
    have hcons : Binding.placed (bindings (supply :: rest)) =
        Binding.placed supply.bindings ++ Binding.placed (bindings rest) :=
      List.filterMap_append
    rw [hcons, ih]
    cases supply with
    | value param => rfl
    | fragment raw =>
      have hnone : Binding.placed (Supply.fragment raw).bindings = [] := by
        simp [Binding.placed, Supply.bindings]
      rw [hnone]
      rfl

theorem given_mem_bindings {key : String} {param : Param} :
    .given key param ∈ bindings supplies ↔
      ∃ raw, .fragment raw ∈ supplies ∧ (key, param) ∈ raw.params := by
  constructor
  · intro h
    obtain ⟨supply, hsupply, hmem⟩ := List.mem_flatMap.1 h
    cases supply with
    | value param => cases List.mem_singleton.1 hmem
    | fragment raw =>
      obtain ⟨e, he, heq⟩ := List.mem_map.1 hmem
      cases heq
      exact ⟨raw, hsupply, he⟩
  · rintro ⟨raw, hraw, he⟩
    exact List.mem_flatMap.2 ⟨_, hraw, List.mem_map.2 ⟨_, he, rfl⟩⟩

theorem kept_bindings {params : Params} :
    Binding.Kept (bindings supplies) params ↔ Kept supplies params := by
  constructor
  · intro h
    refine ⟨placed_bindings supplies ▸ h.placeholders, fun raw hraw e he => ?_⟩
    exact h.fragments e.1 e.2 (given_mem_bindings.2 ⟨raw, hraw, he⟩)
  · intro h
    refine ⟨(placed_bindings supplies).symm ▸ h.placeholders, fun key param hgiven => ?_⟩
    obtain ⟨raw, hraw, he⟩ := given_mem_bindings.1 hgiven
    exact h.fragments raw hraw _ he

theorem noConflict_bindings :
    Binding.NoConflict (bindings supplies) ↔ NoConflict supplies := by
  constructor
  · intro h
    constructor
    · intro i param hi raw hraw e he hkey
      rw [← placed_bindings] at hi
      exact h.placeholders i param e.2 hi (given_mem_bindings.2 ⟨raw, hraw, hkey ▸ he⟩)
    · intro raw hraw e he other hother f hf hkey
      exact h.fragments e.1 e.2 f.2 (given_mem_bindings.2 ⟨raw, hraw, he⟩)
        (given_mem_bindings.2 ⟨other, hother, hkey ▸ hf⟩)
  · intro h
    constructor
    · intro i param other hi hgiven
      rw [placed_bindings] at hi
      obtain ⟨raw, hraw, he⟩ := given_mem_bindings.1 hgiven
      exact h.placeholders i param hi raw hraw _ he rfl
    · intro key param other hgiven hgiven'
      obtain ⟨raw, hraw, he⟩ := given_mem_bindings.1 hgiven
      obtain ⟨raw', hraw', hf⟩ := given_mem_bindings.1 hgiven'
      exact h.fragments raw hraw _ he raw' hraw' _ hf rfl

/-- The one map keeps everything exactly when nothing disagrees in it. -/
theorem kept_params_bindings (supplies : List Supply) :
    Kept supplies (Binding.params (bindings supplies)) ↔ NoConflict supplies := by
  rw [← kept_bindings, Binding.kept_params_iff, noConflict_bindings]

end Supplies

namespace AnyStatement

/-- The fragments keep out of each other's way and of that of the placeholders. -/
structure FragmentsApart (s : AnyStatement) : Prop where
  placeholders : ∀ raw ∈ s.fragments, ∀ e ∈ raw.params, ∀ i, e.1 ≠ placeholderKey i
  fragments : ∀ raw ∈ s.fragments, ∀ e ∈ raw.params, ∀ other ∈ s.fragments,
    ∀ f ∈ other.params, e.1 = f.1 → f.2 = e.2

/-- A fragment that binds anything stands in the descriptor. -/
theorem mem_fragments_of_param {d : Dialect} {s : AnyStatement} {raw : Raw}
    (hraw : .fragment raw ∈ s.supplies d) {e : String × Param} (he : e ∈ raw.params) :
    raw ∈ s.fragments := by
  rcases List.mem_cons.1 (s.within_supplies d raw hraw) with rfl | hmem
  · cases he
  · exact hmem

theorem FragmentsApart.noConflict {s : AnyStatement} (h : s.FragmentsApart) (d : Dialect) :
    Supplies.NoConflict (s.supplies d) where
  placeholders i _ _ raw hraw e he hkey :=
    absurd hkey (h.placeholders raw (mem_fragments_of_param hraw he) e he i)
  fragments raw hraw e he other hother f hf :=
    h.fragments raw (mem_fragments_of_param hraw he) e he other
      (mem_fragments_of_param hother hf) f hf

/-- A statement binds exactly what its descriptor supplies: each of its values under the next
placeholder, and everything that each of its fragments binds. All of it keeps its value and
kind exactly when no fragment that is spliced in disagrees with a placeholder or with another
fragment under one key. No descriptor whose fragments keep apart loses a binding. -/
theorem bindings_are_kept_without_conflict (c : Compiler) {s : AnyStatement} {out : Compiled}
    (h : s.compile c = .ok out) :
    (∃ sql, s.build c.dialect 0 = .ok (sql, Supplies.bindings (s.supplies c.dialect)) ∧
      out = ⟨sql.render c.tablePrefix,
        Binding.params (Supplies.bindings (s.supplies c.dialect))⟩) ∧
      (∀ raw, .fragment raw ∈ s.supplies c.dialect →
        raw ∈ s.fragments ∨ raw = Fragment.plain c.dialect.randomFunction) ∧
      (Supplies.Kept (s.supplies c.dialect) out.params ↔
        Supplies.NoConflict (s.supplies c.dialect)) ∧
      (s.FragmentsApart → Supplies.Kept (s.supplies c.dialect) out.params) := by
  rw [compile_eq] at h
  obtain ⟨sql, bound, hrun, rfl⟩ := Compiler.compile_eq_ok.1 h
  -- What the build binds is what the descriptor supplies, so its map is the map of the supplies.
  obtain rfl := build_binds c.dialect s 0 sql bound hrun
  have hkept := Supplies.kept_params_bindings (s.supplies c.dialect)
  refine ⟨⟨sql, hrun, rfl⟩, fun raw hraw => ?_, hkept, fun ha => hkept.2 (ha.noConflict _)⟩
  exact (List.mem_cons.1 (s.within_supplies c.dialect raw hraw)).symm

/-- Entries of an owner above a bound that a fragment gives under the key. -/
def entriesAbove (key : String) : AnyStatement :=
  .rows (.delete "log" (some (.object [("owner", .int 1),
    ("level[>]", .raw ⟨key, [(key, ⟨.int 2, .int⟩)]⟩)])))

theorem entriesAbove_compile : (entriesAbove ":low").compile ⟨.sqlite, ""⟩ = .ok
    ⟨"DELETE FROM \"log\" WHERE \"owner\" = :p0 AND \"level\" > :low",
      [(":p0", ⟨.int 1, .int⟩), (":low", ⟨.int 2, .int⟩)]⟩ := by
  rfl

theorem entriesAbove_low_apart : (entriesAbove ":low").FragmentsApart := by
  have hfragments : (entriesAbove ":low").fragments = [⟨":low", [(":low", ⟨.int 2, .int⟩)]⟩] := by
    rfl
  constructor
  · intro raw hraw e he i hkey
    rw [hfragments, List.mem_singleton] at hraw
    subst hraw
    rw [List.mem_singleton.1 he] at hkey
    have hchars := congrArg String.toList hkey
    simp [placeholderKey] at hchars
  · intro raw hraw e he other hother f hf _
    rw [hfragments, List.mem_singleton] at hraw hother
    subst hraw hother
    rw [List.mem_singleton.1 he, List.mem_singleton.1 hf]

theorem entriesAbove_supplies (key : String) : (entriesAbove key).supplies .sqlite =
    [.value ⟨.int 1, .int⟩, .fragment ⟨key, [(key, ⟨.int 2, .int⟩)]⟩] := by
  rfl

theorem entriesAbove_low_kept :
    (entriesAbove ":low").compile ⟨.sqlite, ""⟩ = .ok
      ⟨"DELETE FROM \"log\" WHERE \"owner\" = :p0 AND \"level\" > :low",
        [(":p0", ⟨.int 1, .int⟩), (":low", ⟨.int 2, .int⟩)]⟩ ∧
    Supplies.Kept [.value ⟨.int 1, .int⟩, .fragment ⟨":low", [(":low", ⟨.int 2, .int⟩)]⟩]
      [(":p0", ⟨.int 1, .int⟩), (":low", ⟨.int 2, .int⟩)] := by
  obtain ⟨-, -, -, hkept⟩ :=
    bindings_are_kept_without_conflict ⟨.sqlite, ""⟩ entriesAbove_compile
  rw [← entriesAbove_supplies]
  exact ⟨entriesAbove_compile, hkept entriesAbove_low_apart⟩

/-- A fragment that binds the key of a placeholder takes the place of its value. -/
theorem entriesAbove_p0_not_kept : ¬ ∀ (c : Compiler) (s : AnyStatement) (out : Compiled),
    s.compile c = .ok out → Supplies.Kept (s.supplies c.dialect) out.params := by
  intro h
  have hcompile : (entriesAbove ":p0").compile ⟨.sqlite, ""⟩ = .ok
      ⟨"DELETE FROM \"log\" WHERE \"owner\" = :p0 AND \"level\" > :p0",
        [(":p0", ⟨.int 2, .int⟩)]⟩ := by
    rfl
  have hkept := (h _ _ _ hcompile).placeholders 0 ⟨.int 1, .int⟩ rfl
  have hvalues : (⟨.int 2, .int⟩ : Param) = ⟨.int 1, .int⟩ := Option.some.inj hkept
  simp at hvalues

end AnyStatement
end StructuredSql
