-- What a descriptor supplies to the bindings of its statement: values, each of which is bound
-- under a placeholder, and fragments, which bring bindings of their own. Conditions, columns,
-- joins and clauses bind what they were supplied with, in this order, and nothing else.
import StructuredSql.Clause
import StructuredSql.Column.List
import StructuredSql.Proofs.Build.Basic
import StructuredSql.Proofs.Entries

namespace StructuredSql

/-! ## Fragments inside a value -/

mutual

/-- The fragments anywhere in the value. -/
def Value.fragments : Value → List Raw
  | .array items => itemsFragments items
  | .object fields => fieldsFragments fields
  | .raw fragment => [fragment]
  | _ => []
termination_by structural v => v

def itemsFragments : List Value → List Raw
  | [] => []
  | v :: rest => v.fragments ++ itemsFragments rest
termination_by structural items => items

def fieldsFragments : List (String × Value) → List Raw
  | [] => []
  | (_, v) :: rest => v.fragments ++ fieldsFragments rest
termination_by structural fields => fields

end

theorem itemsFragments_eq (items : List Value) :
    itemsFragments items = items.flatMap Value.fragments := by
  induction items with
  | nil => rfl
  | cons v rest ih => rw [itemsFragments, ih, List.flatMap_cons]

theorem fieldsFragments_eq (fields : Fields) :
    fieldsFragments fields = fields.flatMap fun e => e.2.fragments := by
  induction fields with
  | nil => rfl
  | cons e rest ih => rw [fieldsFragments, ih, List.flatMap_cons]

/-- Every fragment of the value is one of those. -/
def Value.Within (allowed : List Raw) (v : Value) : Prop := v.fragments ⊆ allowed

def FieldsWithin (allowed : List Raw) (fields : Fields) : Prop :=
  ∀ e ∈ fields, e.2.Within allowed

section
variable {allowed : List Raw}

theorem flatMap_subset {α : Type} {items : List α} {f : α → List Raw} :
    items.flatMap f ⊆ allowed ↔ ∀ a ∈ items, f a ⊆ allowed := by
  constructor
  · intro h a ha raw hr
    exact h (List.mem_flatMap.2 ⟨a, ha, hr⟩)
  · intro h raw hr
    obtain ⟨a, ha, hm⟩ := List.mem_flatMap.1 hr
    exact h a ha hm

theorem Value.within_array {items : List Value} :
    Value.Within allowed (.array items) ↔ ∀ v ∈ items, v.Within allowed := by
  simp only [Within, fragments, itemsFragments_eq, flatMap_subset]

theorem Value.within_object {fields : Fields} :
    Value.Within allowed (.object fields) ↔ FieldsWithin allowed fields := by
  simp only [Within, FieldsWithin, fragments, fieldsFragments_eq, flatMap_subset]

theorem Value.within_raw {fragment : Raw} :
    Value.Within allowed (.raw fragment) ↔ fragment ∈ allowed := by
  simp [Within, fragments]

theorem Entries.get?_within {fields : Fields} (h : FieldsWithin allowed fields) {key : String}
    {v : Value} (hv : Entries.get? fields key = some v) : v.Within allowed :=
  h _ (Entries.mem_of_get? hv)

end

/-! ## What is supplied -/

/-- A value that gets a placeholder, or a fragment that is spliced in. -/
inductive Supply
  | value (param : Param)
  | fragment (raw : Raw)

/-- What is bound for it: the value, or all that the fragment binds. -/
def Supply.bindings : Supply → List Binding
  | value param => [.fresh param]
  | fragment raw => raw.params.map fun e => .given e.1 e.2

namespace Supplies

def bindings (supplies : List Supply) : List Binding := supplies.flatMap Supply.bindings

theorem bindings_append (supplies more : List Supply) :
    bindings (supplies ++ more) = bindings supplies ++ bindings more :=
  List.flatMap_append

/-! ### Conditions -/

def scalar (v : Value) : Supply := .value (.natural v)

def text (s : String) : Supply := .value ⟨.string s, .string⟩

/-- A numeric value, as a whole number if it is one. -/
def number : Value → Supply
  | .int i => .value ⟨.int i, .int⟩
  | .float x => .value ⟨.float x, .float⟩
  | v =>
    match Text.readInt64? (Text.trim v.toText.toList) with
    | some i => .value ⟨.int i, .int⟩
    | none => .value ⟨.float (v.toDouble?.getD (Double.zero false)), .float⟩

def pattern (v : Value) : Supply := text (Wildcard.around v.toText)

/-- What is bound for a value that a column is compared with. A null is written out, and of a
list every item is bound. -/
def underOperator : Operator → Value → List Supply
  | .equal _, .null => []
  | .equal _, .array items => items.map scalar
  | .equal _, .raw raw => [.fragment raw]
  | .equal _, v => [scalar v]
  | .order _, .raw raw => [.fragment raw]
  | .order _, v => [if v.isNumeric then number v else scalar v]
  | .like _, .array items => items.map pattern
  | .like _, .object [(_, .array items)] => items.map pattern
  | .like _, v => [pattern v]
  | .between _, .array [.raw low, .raw high] => [.fragment low, .fragment high]
  | .between _, .array [low, high] =>
    if low.isNumeric && high.isNumeric then [number low, number high]
    else [text low.toText, text high.toText]
  | .between _, _ => []
  | .regexp, v => [text v.toText]

/-- Two columns under one key are compared without a value. -/
def underKey (key : String) (v : Value) : List Supply :=
  match ConditionKey.read key with
  | .ok (.value _ op) => underOperator op v
  | _ => []

/-- What an item of a list is supplied with, next to what is inside it. A text is a key
without a value. -/
def inItem (v : Value) (inside : List Supply) : List Supply :=
  match v with
  | .string key => underKey key .null
  | .raw raw => [.fragment raw]
  | _ => inside

mutual

def inGroup : Value → List Supply
  | .object group => inEntries group
  | .array items => inItems items
  | _ => []
termination_by structural v => v

def inEntries : List (String × Value) → List Supply
  | [] => []
  | (key, v) :: rest =>
    (if (ConditionKey.group? key).isSome && v.isContainer then inGroup v else underKey key v)
      ++ inEntries rest
termination_by structural entries => entries

def inItems : List Value → List Supply
  | [] => []
  | v :: rest => inItem v (inGroup v) ++ inItems rest
termination_by structural items => items

end

/-! ### Columns, joins and clauses -/

/-- Columns are written out. All fragments among them are spliced in. -/
def inColumns (v : Value) : List Supply := v.fragments.map .fragment

/-- Of the entries of an ON map only a group of conditions binds anything. -/
def inOnEntry (entry : String × Value) : List Supply :=
  match entry.2 with
  | .object group => if entry.1 = "AND" then inEntries group else []
  | _ => []

def inRelation : Value → List Supply
  | .object pairs => pairs.flatMap inOnEntry
  | .raw raw => [.fragment raw]
  | _ => []

def inJoins (joins : Fields) : List Supply := joins.flatMap fun e => inRelation e.2

/-- A part that is either a fragment as a whole or written out. -/
def whole : Value → List Supply
  | .raw raw => [.fragment raw]
  | _ => []

def inGroupTest : Value → List Supply
  | .raw raw => [.fragment raw]
  | .object fields => inEntries fields
  | _ => []

/-- What a modifier of a tree supplies, if it is there. -/
def modifier (tree : Fields) (key : String) (f : Value → List Supply) : List Supply :=
  ((Entries.get? tree key).map f).getD []

/-- The keyword of a search. -/
def inSearch (spec : Value) : List Supply :=
  (((spec.object?.bind fun fields => Entries.get? fields "keyword").map
    fun v => [text v.toText])).getD []

/-- The clauses of a tree, in the order in which they are built. A limit is written out. -/
def inTree (d : Dialect) (tree : Fields) : List Supply :=
  inEntries (Clause.plain tree) ++
    ((if d = .mysql then modifier tree "MATCH" inSearch else []) ++
      (modifier tree "GROUP" whole ++
        (modifier tree "HAVING" inGroupTest ++ modifier tree "ORDER" whole)))

def inConditions (d : Dialect) : Option Value → List Supply
  | some (.raw raw) => [.fragment raw]
  | some (.object tree) => inTree d tree
  | _ => []

/-! ### Fragments that were supplied -/

/-- Every fragment that is spliced in is one of those. -/
def Within (allowed : List Raw) (supplies : List Supply) : Prop :=
  ∀ raw, .fragment raw ∈ supplies → raw ∈ allowed

section
variable {allowed : List Raw} {supplies more : List Supply}

theorem within_nil : Within allowed [] := fun _ h => absurd h List.not_mem_nil

theorem within_append :
    Within allowed (supplies ++ more) ↔ Within allowed supplies ∧ Within allowed more := by
  simp only [Within, List.mem_append]
  exact ⟨fun h => ⟨fun raw hr => h raw (.inl hr), fun raw hr => h raw (.inr hr)⟩,
    fun h raw hr => hr.elim (h.1 raw) (h.2 raw)⟩

theorem within_flatMap {α : Type} {items : List α} {f : α → List Supply}
    (h : ∀ a ∈ items, Within allowed (f a)) : Within allowed (items.flatMap f) := by
  intro raw hr
  obtain ⟨a, ha, hm⟩ := List.mem_flatMap.1 hr
  exact h a ha raw hm

theorem within_value (param : Param) : Within allowed [.value param] := by
  intro raw hr
  simp at hr

theorem within_values {α : Type} (items : List α) {f : α → Param} :
    Within allowed (items.map fun a => .value (f a)) := by
  intro raw hr
  simp at hr

theorem within_fragment {raw : Raw} (h : raw ∈ allowed) : Within allowed [.fragment raw] := by
  intro raw' hr
  cases List.mem_singleton.1 hr
  exact h

theorem within_number (v : Value) : Within allowed [number v] := by
  unfold number
  split
  · exact within_value _
  · exact within_value _
  · split <;> exact within_value _

theorem within_underOperator (op : Operator) {v : Value} (hv : v.Within allowed) :
    Within allowed (underOperator op v) := by
  unfold underOperator
  split
  · exact within_nil
  · exact within_values _
  · exact within_fragment (Value.within_raw.1 hv)
  · exact within_value _
  · exact within_fragment (Value.within_raw.1 hv)
  · split
    · exact within_number _
    · exact within_value _
  · exact within_values _
  · exact within_values _
  · exact within_value _
  · rename_i low high
    have hitems := Value.within_array.1 hv
    exact within_append.2 ⟨within_fragment (Value.within_raw.1 (hitems (.raw low) (by simp))),
      within_fragment (Value.within_raw.1 (hitems (.raw high) (by simp)))⟩
  · split
    · exact within_append.2 ⟨within_number _, within_number _⟩
    · exact within_append.2 ⟨within_value _, within_value _⟩
  · exact within_nil
  · exact within_value _

theorem within_underKey (key : String) {v : Value} (hv : v.Within allowed) :
    Within allowed (underKey key v) := by
  unfold underKey
  split
  · exact within_underOperator _ hv
  · exact within_nil

theorem within_inItem {v : Value} {inside : List Supply} (hv : v.Within allowed)
    (hinside : Within allowed inside) : Within allowed (inItem v inside) := by
  have hnull : Value.null.Within allowed := List.nil_subset _
  cases v with
  | string key => exact within_underKey key hnull
  | raw raw => exact within_fragment (Value.within_raw.1 hv)
  | _ => exact hinside

mutual

theorem within_inGroup : ∀ v : Value, v.Within allowed → Within allowed (inGroup v)
  | .object group, h => within_inEntries group (Value.within_object.1 h)
  | .array items, h => within_inItems items (Value.within_array.1 h)
  | .raw _, _ | .null, _ | .bool _, _ | .int _, _ | .float _, _ | .string _, _ | .bytes _, _ =>
    within_nil
termination_by structural v => v

theorem within_inEntries : ∀ fields : List (String × Value), FieldsWithin allowed fields →
    Within allowed (inEntries fields)
  | [], _ => within_nil
  | (key, v) :: rest, h => by
    obtain ⟨hv, hrest⟩ := List.forall_mem_cons.1 h
    have hinside := within_inGroup v hv
    refine within_append.2 ⟨?_, within_inEntries rest hrest⟩
    split
    · exact hinside
    · exact within_underKey key hv
termination_by structural fields => fields

theorem within_inItems : ∀ items : List Value, (∀ v ∈ items, v.Within allowed) →
    Within allowed (inItems items)
  | [], _ => within_nil
  | v :: rest, h =>
    have hv := h v List.mem_cons_self
    within_append.2 ⟨within_inItem hv (within_inGroup v hv),
      within_inItems rest fun w hw => h w (List.mem_cons_of_mem v hw)⟩
termination_by structural items => items

end

theorem within_inColumns {v : Value} (hv : v.Within allowed) : Within allowed (inColumns v) := by
  intro raw hr
  obtain ⟨raw', hmem, heq⟩ := List.mem_map.1 hr
  cases heq
  exact hv hmem

theorem within_whole {v : Value} (hv : v.Within allowed) : Within allowed (whole v) := by
  cases v with
  | raw raw => exact within_fragment (Value.within_raw.1 hv)
  | _ => exact within_nil

theorem within_inJoins {joins : Fields} (h : FieldsWithin allowed joins) :
    Within allowed (inJoins joins) := by
  refine within_flatMap fun e he => ?_
  have hv := h e he
  unfold inRelation
  split
  · rename_i hpairs
    rw [hpairs] at hv
    refine within_flatMap fun pair hp => ?_
    have hpair := Value.within_object.1 hv pair hp
    unfold inOnEntry
    split
    · rename_i hgroup
      rw [hgroup] at hpair
      split
      · exact within_inEntries _ (Value.within_object.1 hpair)
      · exact within_nil
    · exact within_nil
  · rename_i hraw
    rw [hraw] at hv
    exact within_fragment (Value.within_raw.1 hv)
  · exact within_nil

theorem within_modifier {tree : Fields} (h : FieldsWithin allowed tree) (key : String)
    {f : Value → List Supply} (hf : ∀ v, v.Within allowed → Within allowed (f v)) :
    Within allowed (modifier tree key f) := by
  unfold modifier
  cases hv : Entries.get? tree key with
  | none => exact within_nil
  | some v => exact hf v (Entries.get?_within h hv)

theorem within_inTree (d : Dialect) {tree : Fields} (h : FieldsWithin allowed tree) :
    Within allowed (inTree d tree) := by
  refine within_append.2 ⟨?_, within_append.2 ⟨?_, within_append.2 ⟨?_, within_append.2 ⟨?_, ?_⟩⟩⟩⟩
  · exact within_inEntries _ fun e he => h e (List.mem_filter.1 he).1
  · split
    · refine within_modifier h _ fun v _ => ?_
      unfold inSearch
      rcases v.object?.bind _ with _ | keyword
      · exact within_nil
      · exact within_value _
    · exact within_nil
  · exact within_modifier h _ fun v hv => within_whole hv
  · refine within_modifier h _ fun v hv => ?_
    cases v with
    | raw raw => exact within_fragment (Value.within_raw.1 hv)
    | object fields => exact within_inEntries fields (Value.within_object.1 hv)
    | _ => exact within_nil
  · exact within_modifier h _ fun v hv => within_whole hv

end

end Supplies

/-- The fragments of conditions that may be absent. -/
def Clause.ConditionsWithin (allowed : List Raw) (conditions : Option Value) : Prop :=
  ∀ v, conditions = some v → v.Within allowed

theorem Supplies.within_inConditions {allowed : List Raw} (d : Dialect)
    {conditions : Option Value} (h : Clause.ConditionsWithin allowed conditions) :
    Within allowed (inConditions d conditions) := by
  unfold inConditions
  split
  · exact within_fragment (Value.within_raw.1 (h _ rfl))
  · exact within_inTree d (Value.within_object.1 (h _ rfl))
  · exact within_nil

/-! ## Builds that bind what is supplied -/

namespace Build

variable {α β : Type} {supplies more : List Supply}

/-- A run that succeeds binds what is supplied, and nothing else. -/
def Binds (supplies : List Supply) (x : Build α) : Prop :=
  ∀ n a bound, x n = .ok (a, bound) → bound = Supplies.bindings supplies

theorem binds_pure (a : α) : Binds [] (pure a) :=
  fun _ _ _ h => (pure_eq_ok.1 h).2

theorem binds_liftM (result : Except Fault α) : Binds [] (liftM result) :=
  fun _ _ _ h => (liftM_eq_ok.1 h).2

theorem binds_fail (fault : Fault) : Binds supplies (fail fault : Build α) :=
  fun _ _ _ h => absurd h fail_ne_ok

theorem Binds.bind {x : Build α} {f : α → Build β} (hx : Binds supplies x)
    (hf : ∀ a, Binds more (f a)) : Binds (supplies ++ more) (x >>= f) := by
  intro n b bound h
  obtain ⟨a, first, rest, ha, hb, rfl⟩ := bind_eq_ok.1 h
  rw [hx n a first ha, hf a _ b rest hb, Supplies.bindings_append]

/-- What is read first binds nothing. -/
theorem binds_read {result : Except Fault α} {f : α → Build β}
    (h : ∀ a, result = .ok a → Binds supplies (f a)) :
    Binds supplies (liftM result >>= f) := by
  intro n b bound hrun
  obtain ⟨a, hresult, hf⟩ := read_eq_ok.1 hrun
  exact h a hresult n b bound hf

theorem Binds.map {x : Build α} (hx : Binds supplies x) (f : α → β) :
    Binds supplies (do return f (← x)) := by
  simpa using hx.bind fun a => binds_pure (f a)

theorem Binds.cons {x : Build Sql} {rest : Build (List Sql)} (hx : Binds supplies x)
    (hr : Binds more rest) : Binds (supplies ++ more) (Build.cons x rest) :=
  hx.bind fun sql => hr.map (sql :: ·)

theorem binds_each {f : α → Build Sql} {g : α → List Supply} {items : List α}
    (h : ∀ a ∈ items, Binds (g a) (f a)) : Binds (items.flatMap g) (each f items) := by
  induction items with
  | nil => exact binds_pure []
  | cons a rest ih =>
    exact (h a List.mem_cons_self).cons (ih fun b hb => h b (List.mem_cons_of_mem _ hb))

theorem binds_each_one {f : α → Build Sql} {g : α → Supply} {items : List α}
    (h : ∀ a, Binds [g a] (f a)) : Binds (items.map g) (each f items) := by
  rw [List.map_eq_flatMap]
  exact binds_each fun a _ => h a

theorem binds_placeholder (param : Param) : Binds [.value param] (placeholder param) := by
  intro n a bound h
  cases h
  rfl

theorem binds_scalar (v : Value) : Binds [Supplies.scalar v] (scalar v) := by
  unfold scalar
  split
  · exact binds_fail _
  · exact binds_fail _
  · exact binds_fail _
  · exact binds_placeholder _

theorem binds_number (v : Value) : Binds [Supplies.number v] (number v) := by
  -- What is no number by itself is read from its text.
  have hread : Binds
      [match Text.readInt64? (Text.trim v.toText.toList) with
        | some i => .value ⟨.int i, .int⟩
        | none => .value ⟨.float (v.toDouble?.getD (Double.zero false)), .float⟩]
      (match Text.readInt64? (Text.trim v.toText.toList) with
        | some i => placeholder ⟨.int i, .int⟩
        | none => placeholder ⟨.float (v.toDouble?.getD (Double.zero false)), .float⟩) := by
    cases Text.readInt64? (Text.trim v.toText.toList) with
    | some i => exact binds_placeholder _
    | none => exact binds_placeholder _
  cases v with
  | int i => exact binds_placeholder _
  | float x => exact binds_placeholder _
  | _ => exact hread

/-- A fragment that is spliced in brings all of its bindings. -/
theorem binds_fragment (raw : Raw) : Binds [.fragment raw] (fragment raw) := by
  refine binds_read fun sql _ => ?_
  have hmerge : Binds [.fragment raw] (merge raw.params) := by
    intro n a bound h
    cases h
    simp [Supplies.bindings, Supply.bindings]
  exact hmerge.map _

end Build

open Build (Binds)

/-! ## Conditions -/

namespace Condition

theorem equality_binds (column : ColumnName) (negated : Bool) (v : Value) :
    Binds (Supplies.underOperator (.equal negated) v) (equality column negated v) := by
  cases v with
  | null => exact Build.binds_pure _
  | array items =>
    simp only [equality]
    split
    · exact Build.binds_fail _
    · exact (Build.binds_each_one Build.binds_scalar).map _
  | raw raw => exact (Build.binds_fragment raw).map _
  | object fields => exact Build.binds_fail _
  | _ => exact (Build.binds_scalar _).map _

theorem comparison_binds (column : ColumnName) (o : Order) (v : Value) :
    Binds (Supplies.underOperator (.order o) v) (comparison column o v) := by
  have hscalar : ∀ v : Value,
      Binds [if v.isNumeric then Supplies.number v else Supplies.scalar v]
        (if v.isNumeric then Build.number v else Build.scalar v) := by
    intro v
    split
    · exact Build.binds_number v
    · exact Build.binds_scalar v
  refine Build.Binds.map ?_ _
  cases v with
  | raw raw => exact Build.binds_fragment raw
  | array items => exact Build.binds_fail _
  | object fields => exact Build.binds_fail _
  | _ => exact hscalar _

/-- The patterns of a LIKE, one by one. -/
theorem underOperator_like (negated : Bool) {v : Value} {conjunction : Conjunction}
    {items : List Value} (h : likePatterns? v = some (conjunction, items)) :
    Supplies.underOperator (.like negated) v = items.map Supplies.pattern := by
  cases v with
  | object fields =>
    unfold likePatterns? at h
    split at h
    · rename_i heq
      cases heq
    · rename_i heq
      cases heq
      cases h
      rfl
    · rename_i heq
      cases heq
      cases h
      rfl
    · cases h
    · rename_i hobject
      exact absurd rfl (hobject fields)
  | _ =>
    cases h
    rfl

theorem like_binds (column : ColumnName) (negated : Bool) (v : Value) :
    Binds (Supplies.underOperator (.like negated) v) (like column negated v) := by
  unfold like
  split
  · exact Build.binds_fail _
  · exact Build.binds_fail _
  · rename_i hpatterns
    rw [underOperator_like negated hpatterns]
    refine (Build.binds_each_one fun item => ?_).map _
    split
    · exact Build.binds_fail _
    · exact (Build.binds_placeholder _).map _

theorem between_binds (column : ColumnName) (negated : Bool) (v : Value) :
    Binds (Supplies.underOperator (.between negated) v) (between column negated v) := by
  unfold between
  split
  · rename_i low high
    refine Build.Binds.map ?_ _
    unfold bounds
    split
    · exact (Build.binds_fragment _).bind fun _ => (Build.binds_fragment _).map _
    · rename_i hraw
      have hsupplies : Supplies.underOperator (.between negated) (.array [low, high]) =
          if low.isNumeric && high.isNumeric then [Supplies.number low, Supplies.number high]
          else [Supplies.text low.toText, Supplies.text high.toText] := by
        unfold Supplies.underOperator
        split <;> simp_all
      rw [hsupplies]
      split
      · exact (Build.binds_number _).bind fun _ => (Build.binds_number _).map _
      · split
        · exact Build.binds_fail _
        · exact (Build.binds_placeholder _).bind fun _ => (Build.binds_placeholder _).map _
  · exact Build.binds_fail _

theorem regexp_binds (column : ColumnName) (v : Value) :
    Binds (Supplies.underOperator .regexp v) (regexp column v) := by
  unfold regexp
  split
  · exact Build.binds_fail _
  · exact (Build.binds_placeholder _).map _

theorem single_binds (key : String) (v : Value) :
    Binds (Supplies.underKey key v) (single key v) := by
  refine Build.binds_read fun k hk => ?_
  unfold Supplies.underKey
  rw [hk]
  cases k with
  | columns left sign right => exact Build.binds_pure _
  | value column op =>
    cases op with
    | equal negated => exact equality_binds column negated v
    | order o => exact comparison_binds column o v
    | like negated => exact like_binds column negated v
    | between negated => exact between_binds column negated v
    | regexp => exact regexp_binds column v

theorem entries_cons_binds (key : String) {v : Value} {rest : Fields}
    (hinside : Binds (Supplies.inGroup v) (inside v))
    (hrest : Binds (Supplies.inEntries rest) (entries rest)) :
    Binds (Supplies.inEntries ((key, v) :: rest)) (entries ((key, v) :: rest)) := by
  rw [Supplies.inEntries, entries]
  refine Build.Binds.cons ?_ hrest
  cases ConditionKey.group? key with
  | none => exact single_binds key v
  | some conjunction =>
    cases v.isContainer with
    | true => exact hinside.map _
    | false => exact single_binds key v

theorem listed_cons_binds {v : Value} {rest : List Value}
    (hinside : Binds (Supplies.inGroup v) (inside v))
    (hrest : Binds (Supplies.inItems rest) (listed rest)) :
    Binds (Supplies.inItems (v :: rest)) (listed (v :: rest)) := by
  rw [Supplies.inItems]
  -- An item that is no condition fails, so it does not matter what it supplies.
  cases v with
  | string key =>
    rw [listed]
    exact Build.Binds.cons (single_binds key .null) hrest
  | object fields =>
    rw [listed]
    exact Build.Binds.cons (hinside.map _) hrest
  | raw raw =>
    rw [listed]
    exact Build.Binds.cons (Build.binds_fragment raw) hrest
  | _ =>
    rw [listed]
    · exact Build.Binds.cons (Build.binds_fail _) hrest
    all_goals simp

mutual

theorem inside_binds : ∀ v : Value, Binds (Supplies.inGroup v) (inside v)
  | .object group => entries_binds group
  | .array items => listed_binds items
  | .raw _ | .null | .bool _ | .int _ | .float _ | .string _ | .bytes _ => Build.binds_pure _
termination_by structural v => v

theorem entries_binds : ∀ group : List (String × Value),
    Binds (Supplies.inEntries group) (entries group)
  | [] => Build.binds_pure _
  | (key, v) :: rest => entries_cons_binds key (inside_binds v) (entries_binds rest)
termination_by structural group => group

theorem listed_binds : ∀ items : List Value, Binds (Supplies.inItems items) (listed items)
  | [] => Build.binds_pure _
  | v :: rest => listed_cons_binds (inside_binds v) (listed_binds rest)
termination_by structural items => items

end

theorem tree_binds (conjunction : Conjunction) (fields : Fields) :
    Binds (Supplies.inEntries fields) (tree conjunction fields) :=
  (entries_binds fields).map _

end Condition

/-! ## Columns -/

namespace ColumnList

mutual

theorem spec_binds (root joining : Bool) : ∀ v : Value,
    Binds (Supplies.inColumns v) (spec root joining v)
  | .string s => by
    unfold spec
    split
    · exact Build.binds_pure _
    · exact (Build.binds_liftM _).map _
  | .array entries => (items_binds joining false entries).map _
  | .object [] => (Build.binds_pure _).map _
  | .object [(key, nested)] => by
    have hnested := spec_binds false joining nested
    have hall := fields_binds joining [(key, nested)]
    unfold spec
    split
    · have hsame : Supplies.inColumns (.object [(key, nested)]) = Supplies.inColumns nested := by
        simp [Supplies.inColumns, Value.fragments, fieldsFragments]
      rw [hsame]
      exact Build.binds_read fun _ _ => hnested.map _
    · exact hall.map _
  | .object (e :: f :: rest) => (fields_binds joining (e :: f :: rest)).map _
  | .raw raw => Build.binds_fragment raw
  | .null | .bool _ | .int _ | .float _ | .bytes _ => Build.binds_fail _
termination_by structural v => v

theorem items_binds (joining marked : Bool) : ∀ vs : List Value,
    Binds ((itemsFragments vs).map .fragment) (items joining marked vs)
  | [] => Build.binds_pure _
  | v :: rest => by
    have hspec := spec_binds false joining v
    have hothers := fun marked => items_binds joining marked rest
    rw [itemsFragments, List.map_append]
    refine Build.Binds.bind ?_ fun r => (hothers _).map _
    cases v with
    | string s => exact (Build.binds_liftM _).map _
    | raw raw => exact (Build.binds_fragment raw).map _
    | array items => exact hspec.map _
    | object fields => exact hspec.map _
    | _ => exact Build.binds_fail _
termination_by structural vs => vs

theorem fields_binds (joining : Bool) : ∀ entries : List (String × Value),
    Binds ((fieldsFragments entries).map .fragment) (fields joining entries)
  | [] => Build.binds_pure _
  | (key, v) :: rest => by
    have hspec := spec_binds false joining v
    rw [fieldsFragments, List.map_append]
    refine Build.Binds.cons ?_ (fields_binds joining rest)
    cases v with
    | array items => exact hspec
    | object fields => exact hspec
    | raw raw => exact Build.binds_read fun _ _ => (Build.binds_fragment raw).map _
    | _ => exact Build.binds_fail _
termination_by structural entries => entries

end

end ColumnList

/-! ## Joins -/

namespace Join

theorem onEntry_binds (main joined key : String) (entry : String × Value) :
    Binds (Supplies.inOnEntry entry) (onEntry main joined key entry) := by
  unfold onEntry
  split
  · exact Condition.tree_binds .and _
  · exact Build.binds_read fun _ _ => (Build.binds_liftM _).map _
  · exact Build.binds_fail _

theorem relation_binds (main joined key : String) (v : Value) :
    Binds (Supplies.inRelation v) (relation main joined key v) := by
  unfold relation
  split
  · exact (Build.binds_liftM _).map _
  · exact (Build.binds_liftM _).map _
  · exact (Build.binds_each fun e _ => onEntry_binds main joined key e).map _
  · exact Build.binds_fragment _
  · exact Build.binds_fail _

theorem clauses_binds (main : String) (joins : Fields) :
    Binds (Supplies.inJoins joins) (clauses main joins) :=
  (Build.binds_each fun e _ => Build.binds_read fun _ _ =>
    (relation_binds main _ e.1 e.2).map _).map _

end Join

/-! ## Clauses -/

namespace Clause

theorem optionally_binds (tree : Fields) (key : String) {supplies : Value → List Supply}
    {f : Value → Build Sql} (h : ∀ v, Binds (supplies v) (f v)) :
    Binds (Supplies.modifier tree key supplies) (optionally (Entries.get? tree key) f) := by
  unfold Supplies.modifier
  cases Entries.get? tree key with
  | none => exact Build.binds_pure _
  | some v => exact h v

theorem conditions_binds (tree : Fields) :
    Binds (Supplies.inEntries (plain tree)) (conditions tree) := by
  unfold conditions
  split
  · rename_i hempty
    rw [List.isEmpty_iff.1 hempty]
    exact Build.binds_pure _
  · exact (Condition.tree_binds .and _).map _

theorem search_binds (alone : Bool) (spec : Value) :
    Binds (Supplies.inSearch spec) (search alone spec) := by
  unfold search Supplies.inSearch
  cases spec.object? with
  | none => exact Build.binds_fail _
  | some fields =>
    dsimp only
    split
    · rename_i hkeyword
      simp only [Option.bind_some, hkeyword, Option.map_some, Option.getD_some]
      exact Build.binds_read fun _ _ => (Build.binds_placeholder _).map _
    · exact Build.binds_fail _

theorem searching_binds (d : Dialect) (alone : Bool) (tree : Fields) :
    Binds (if d = .mysql then Supplies.modifier tree "MATCH" Supplies.inSearch else [])
      (searching d alone tree) := by
  unfold searching
  split
  · exact optionally_binds tree _ (search_binds alone)
  · exact Build.binds_pure _

theorem groupBy_binds (v : Value) : Binds (Supplies.whole v) (groupBy v) := by
  refine Build.Binds.map ?_ _
  cases v with
  | array columns => exact (Build.binds_liftM _).map _
  | raw raw => exact Build.binds_fragment raw
  | string column => exact Build.binds_liftM _
  | _ => exact Build.binds_fail _

theorem having_binds (v : Value) : Binds (Supplies.inGroupTest v) (having v) := by
  refine Build.Binds.map ?_ _
  cases v with
  | raw raw => exact Build.binds_fragment raw
  | object fields => exact Condition.tree_binds .and fields
  | _ => exact Build.binds_fail _

theorem orderBy_binds (d : Dialect) (v : Value) : Binds (Supplies.whole v) (orderBy d v) := by
  refine Build.Binds.map ?_ _
  cases v with
  | array columns => exact (Build.binds_liftM _).map _
  | object fields =>
    have hnone : fields.flatMap (fun _ => ([] : List Supply)) = [] := by simp
    have heach : Binds (fields.flatMap fun _ => [])
        (Build.each (fun e => liftM (orderEntry d e)) fields) :=
      Build.binds_each fun e _ => Build.binds_liftM _
    rw [hnone] at heach
    exact heach.map _
  | raw raw => exact Build.binds_fragment raw
  | string column => exact Build.binds_liftM _
  | _ => exact Build.binds_fail _

/-- A limit is written out. -/
theorem limit_binds (d : Dialect) (ordered : Bool) (tree : Fields) :
    Binds [] (optionally (Entries.get? tree "LIMIT") (limit d ordered)) := by
  unfold optionally
  cases Entries.get? tree "LIMIT" with
  | none => exact Build.binds_pure _
  | some v => exact (Build.binds_liftM _).map _

theorem ofTree_binds (d : Dialect) (tree : Fields) :
    Binds (Supplies.inTree d tree) (ofTree d tree) := by
  refine (conditions_binds tree).bind fun _ => ?_
  refine (searching_binds d _ tree).bind fun _ => ?_
  refine (optionally_binds tree _ groupBy_binds).bind fun _ => ?_
  refine (optionally_binds tree _ having_binds).bind fun _ => ?_
  rw [← List.append_nil (Supplies.modifier tree "ORDER" Supplies.whole)]
  refine (optionally_binds tree _ (orderBy_binds d)).bind fun _ => ?_
  exact (limit_binds d _ tree).map _

theorem all_binds (d : Dialect) (conditions : Option Value) :
    Binds (Supplies.inConditions d conditions) (all d conditions) := by
  unfold all
  split
  · exact Build.binds_pure _
  · exact Build.binds_pure _
  · exact (Build.binds_fragment _).map _
  · exact ofTree_binds d _
  · exact Build.binds_fail _

end Clause
end StructuredSql
