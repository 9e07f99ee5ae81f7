-- What the signs of condition keys ask. A key that spells a reading is compiled to the SQL of its
-- sign around its columns, and to no other columns; whatever is then wrong with the value, the key
-- is not refused. A key that spells no reading is. A tree of conditions fails where one of them
-- does.
import StructuredSql.Proofs.Condition.Keys
import StructuredSql.Proofs.Condition.Plain

namespace StructuredSql

open Build (Makes Faults NeverRuns)
open Sql (IsPlaceholder)

/-! ## The columns of a statement -/

namespace Sql

/-- The columns in a statement, in order, each with the table before it when there is one. -/
def columns : Sql → List ColumnName
  | .table table :: .text "." :: .column name :: rest => ⟨some table, name⟩ :: columns rest
  | .column name :: rest => ⟨none, name⟩ :: columns rest
  | _ :: rest => columns rest
  | [] => []

/-- The statement has these columns, whatever stands behind it. -/
def Mentions (sql : Sql) (names : List ColumnName) : Prop :=
  ∀ rest, columns (sql ++ rest) = names ++ columns rest

theorem Mentions.columns_eq {sql : Sql} {names : List ColumnName} (h : Mentions sql names) :
    columns sql = names := by
  simpa [columns] using h []

theorem mentions_nil : Mentions [] [] := fun _ => rfl

theorem Mentions.append {sql more : Sql} {names others : List ColumnName} (h : Mentions sql names)
    (h' : Mentions more others) : Mentions (sql ++ more) (names ++ others) := by
  intro rest
  rw [List.append_assoc, h, h', List.append_assoc]

theorem Mentions.text_append {sql : Sql} {names : List ColumnName} (h : Mentions sql names)
    (s : String) : Mentions (.text s :: sql) names := fun rest => h rest

theorem IsPlaceholder.mentions {sql : Sql} (h : IsPlaceholder sql) : Mentions sql [] := by
  obtain ⟨n, rfl⟩ := h
  exact fun _ => rfl

theorem mentions_column (column : ColumnName) : Mentions column.sql [column] := by
  obtain ⟨qualifier, name⟩ := column
  cases qualifier <;> exact fun _ => rfl

theorem Mentions.parens {sql : Sql} {names : List ColumnName} (h : Mentions sql names) :
    Mentions (Sql.parens sql) names := by
  intro rest
  show columns ((sql ++ [.text ")"]) ++ rest) = _
  rw [List.append_assoc, h]
  rfl

theorem mentions_joinWith (separator : String) {parts : List Sql} {names : List ColumnName}
    (h : ∀ part ∈ parts, Mentions part names) :
    Mentions (joinWith separator parts) (parts.flatMap fun _ => names) := by
  induction parts with
  | nil => exact mentions_nil
  | cons part rest ih =>
    obtain ⟨hpart, hrest⟩ := List.forall_mem_cons.1 h
    cases rest with
    | nil => simpa [joinWith] using hpart
    | cons next rest => exact hpart.append ((ih hrest).text_append separator)

end Sql

namespace Condition

/-! ## The columns that are asked of -/

section
variable {column : ColumnName}

theorem mentions_behind {sql : Sql} (h : Sql.Mentions sql []) (words : String) :
    Sql.Mentions (column.sql ++ .text words :: sql) [column] :=
  (Sql.mentions_column column).append (h.text_append words)

theorem mentions_marks {marks : List Sql} (h : ∀ mark ∈ marks, IsPlaceholder mark) :
    Sql.Mentions (Sql.joinWith ", " marks) [] := by
  have hmarks := Sql.mentions_joinWith ", " fun mark hm => (h mark hm).mentions
  rwa [List.flatMap_eq_nil_iff.2 fun _ _ => rfl] at hmarks

theorem mentions_clauses (conjunction : Conjunction) (words : String) {marks : List Sql}
    (h : ∀ mark ∈ marks, IsPlaceholder mark) :
    Sql.Mentions (Sql.parens (joined conjunction
        (marks.map fun mark => column.sql ++ .text words :: mark)))
      (marks.flatMap fun _ => [column]) := by
  have hclauses : ∀ clause ∈ marks.map fun mark => column.sql ++ .text words :: mark,
      Sql.Mentions clause [column] :=
    List.forall_mem_map.2 fun mark hm => mentions_behind (h mark hm).mentions words
  have hjoined := (Sql.mentions_joinWith s!" {conjunction.word} " hclauses).parens
  rwa [List.flatMap_map] at hjoined

/-- It asks of this column alone. -/
theorem Asks.mem_columns {op : Operator} {v : Value} {sql : Sql} (h : Asks column op v sql)
    (c : ColumnName) : c ∈ sql.columns ↔ c = column := by
  have hone {sql : Sql} (h : Sql.Mentions sql [column]) : c ∈ sql.columns ↔ c = column := by
    rw [h.columns_eq, List.mem_singleton]
  cases h with
  | null _ => exact hone (mentions_behind Sql.mentions_nil _)
  | list _ _ hmarks =>
    have hinside :=
      (mentions_marks (marked_marks hmarks)).append (Sql.mentions_nil.text_append ")")
    exact hone (mentions_behind hinside _)
  | equal _ _ hmark => exact hone (mentions_behind hmark.placeholder.mentions _)
  | order _ hmark => exact hone (mentions_behind hmark.placeholder.mentions _)
  | like _ _ hsome hmarks =>
    rw [(mentions_clauses _ _ (marked_marks hmarks)).columns_eq]
    obtain ⟨mark, hmark⟩ := List.exists_mem_of_ne_nil _
      (List.ne_nil_of_length_pos (hmarks.length_eq ▸ List.length_pos_of_ne_nil hsome))
    simp only [List.mem_flatMap, List.mem_singleton]
    exact ⟨fun ⟨_, _, hc⟩ => hc, fun hc => ⟨mark, hmark, hc⟩⟩
  | between _ hleast hmost =>
    have hboth :=
      hleast.placeholder.mentions.append (hmost.placeholder.mentions.text_append " AND ")
    exact hone (mentions_behind hboth _).parens
  | regexp _ hmark => exact hone (mentions_behind hmark.placeholder.mentions _)

end

/-! ## What is refused -/

/-- The fault is one of shape: no name and no operator is refused. -/
def OfShape (fault : Fault) : Prop := fault.isValidation = false

theorem faults_scalar (v : Value) : Faults (Build.scalar v) OfShape := by
  cases v with
  | array items => exact Build.faults_fail rfl
  | object fields => exact Build.faults_fail rfl
  | raw fragment => exact Build.faults_fail rfl
  | _ => exact Build.faults_placeholder _

section
variable {column : ColumnName} {v : Value}

theorem equality_faults (negated : Bool) (hv : v.rawFree = true) :
    Faults (equality column negated v) OfShape := by
  have hscalar : Faults (do return column.sql ++ .text (equalSign negated) :: (← Build.scalar v))
      OfShape := (faults_scalar v).map
  cases v with
  | null => exact Build.faults_pure
  | array items =>
    simp only [equality]
    split
    · exact Build.faults_fail rfl
    · exact (Build.faults_each items fun a _ => faults_scalar a).map
  | object fields => exact Build.faults_fail rfl
  | raw fragment => cases hv
  | _ => exact hscalar

theorem comparison_faults (o : Order) (hv : v.rawFree = true) :
    Faults (comparison column o v) OfShape := by
  have hplaceholder : Faults (if v.isNumeric then Build.number v else Build.scalar v) OfShape := by
    split
    · exact (Build.isPlaceholder_number v).faults
    · exact faults_scalar v
  have hcomparand : Faults (comparand column v) OfShape := by
    cases v with
    | array items => exact Build.faults_fail rfl
    | object fields => exact Build.faults_fail rfl
    | raw fragment => cases hv
    | _ => exact hplaceholder
  exact hcomparand.map

theorem like_faults (negated : Bool) : Faults (like column negated v) OfShape := by
  unfold like
  split
  · exact Build.faults_fail rfl
  · exact Build.faults_fail rfl
  · refine (Build.faults_each _ fun item _ => ?_).map
    split
    · exact Build.faults_fail rfl
    · exact (Build.isPlaceholder_text _).faults.map

theorem bounds_faults {low high : Value} (hlow : low.rawFree = true) :
    Faults (bounds column low high) OfShape := by
  unfold bounds
  split
  · cases hlow
  · split
    · exact (Build.isPlaceholder_number _).faults.bind fun _ =>
        (Build.isPlaceholder_number _).faults.map
    · split
      · exact Build.faults_fail rfl
      · exact (Build.isPlaceholder_text _).faults.bind fun _ =>
          (Build.isPlaceholder_text _).faults.map

theorem between_faults (negated : Bool) (hv : v.rawFree = true) :
    Faults (between column negated v) OfShape := by
  unfold between
  split
  · rename_i low high
    simp only [Value.rawFree, itemsRawFree, Bool.and_eq_true] at hv
    exact (bounds_faults hv.1).map
  · exact Build.faults_fail rfl

theorem regexp_faults : Faults (regexp column v) OfShape := by
  unfold regexp
  split
  · exact Build.faults_fail rfl
  · exact (Build.isPlaceholder_text _).faults.map

theorem ask_faults (op : Operator) (hv : v.rawFree = true) : Faults (ask column op v) OfShape := by
  cases op with
  | equal negated => exact equality_faults negated hv
  | order o => exact comparison_faults o hv
  | like negated => exact like_faults negated
  | between negated => exact between_faults negated hv
  | regexp => exact regexp_faults

end

/-! ## What is made -/

section
variable {column : ColumnName} {op : Operator} {v : Value} {sql : Sql}

theorem bounds_faultless {low high : Value} {least most : Sql} (hlow : Marked low least)
    (hhigh : Marked high most) : Faults (bounds column low high) fun _ => False := by
  have hl := Bool.or_eq_false_iff.1 hlow.scalar
  have hh := Bool.or_eq_false_iff.1 hhigh.scalar
  unfold bounds
  split
  · cases hlow.scalar
  · split
    · exact (Build.isPlaceholder_number _).faults.bind fun _ =>
        (Build.isPlaceholder_number _).faults.map
    · rw [if_neg (by simp [hl, hh])]
      exact (Build.isPlaceholder_text _).faults.bind fun _ =>
        (Build.isPlaceholder_text _).faults.map

/-- What can be asked is asked. -/
theorem Asks.faultless (h : Asks column op v sql) : Faults (ask column op v) fun _ => False := by
  cases h with
  | null _ => exact Build.faults_pure
  | @list _ _ items _ _ hsome hmarks =>
    have hitems := Build.faults_each (P := fun _ => False) items fun item hm =>
      (Build.isPlaceholder_scalar (marked_items hmarks item hm)).faults
    simp only [ask, equality, List.isEmpty_eq_false_iff.2 hsome, Bool.false_eq_true, if_false]
    exact hitems.map
  | equal _ hthere hmark =>
    have hscalar := (Build.isPlaceholder_scalar hmark.scalar).faults (P := fun _ => False)
    cases v with
    | null => cases hthere
    | array items => cases hmark.scalar
    | object fields => cases hmark.scalar
    | raw fragment => cases hmark.scalar
    | _ => exact hscalar.map
  | order _ hmark =>
    have hscalar : Faults (if v.isNumeric then Build.number v else Build.scalar v)
        fun _ => False := by
      split
      · exact (Build.isPlaceholder_number v).faults
      · exact (Build.isPlaceholder_scalar hmark.scalar).faults
    cases v with
    | array items => cases hmark.scalar
    | object fields => cases hmark.scalar
    | raw fragment => cases hmark.scalar
    | _ => exact hscalar.map
  | @like _ _ _ _ items _ _ hpatterns hsome hmarks =>
    cases items with
    | nil => exact absurd rfl hsome
    | cons item rest =>
      simp only [ask, Condition.like, hpatterns]
      refine (Build.faults_each _ fun pattern hm => ?_).map
      rw [if_neg (by simp [marked_items hmarks pattern hm])]
      exact (Build.isPlaceholder_text _).faults.map
  | between _ hleast hmost => exact (bounds_faultless hleast hmost).map
  | regexp hthere hmark =>
    simp only [ask, Condition.regexp, hmark.scalar, hthere, Bool.or_false, Bool.false_eq_true,
      if_false]
    exact (Build.isPlaceholder_text _).faults.map

end

/-! ## Keys and what they say -/

open ConditionKey (Reading)

/-- The SQL of a reading: its sign between the two columns, or what the operator of its sign asks
of the one. -/
inductive Says (r : Reading) (v : Value) : Sql → Prop
  | asks {op : Operator} {sql : Sql} (hother : r.other? = none)
      (hop : (r.sign?, op) ∈ Operator.table) (h : Asks r.column op v sql) : Says r v sql
  | compares {other : ColumnName} {sign : String} (hother : r.other? = some other)
      (hsign : r.sign? = some sign) :
      Says r v (r.column.sql ++ .text s!" {sign} " :: other.sql)

theorem Says.mem_columns {r : Reading} {v : Value} {sql : Sql} (h : Says r v sql)
    (c : ColumnName) : c ∈ sql.columns ↔ c = r.column ∨ r.other? = some c := by
  cases h with
  | asks hother _ h => simp [h.mem_columns, hother]
  | @compares other sign hother _ =>
    have hright := (Sql.mentions_column other).text_append s!" {sign} "
    rw [((Sql.mentions_column r.column).append hright).columns_eq]
    simp [hother, eq_comm]

section
variable {r : Reading} {key : String} {v : Value}

theorem single_value {column : ColumnName} {op : Operator}
    (h : ConditionKey.read key = .ok (.value column op)) : single key v = ask column op v := by
  unfold single
  rw [h]
  exact Build.read_ok _ _

theorem single_columns {left right : ColumnName} {sign : String}
    (h : ConditionKey.read key = .ok (.columns left sign right)) :
    single key v = pure (left.sql ++ .text s!" {sign} " :: right.sql) := by
  unfold single
  rw [h]
  exact Build.read_ok _ _

theorem single_refused {fault : Fault} (h : ConditionKey.read key = .error fault) (n : Nat) :
    single key v n = .error fault := by
  unfold single
  rw [h]
  rfl

/-- A key that spells a reading makes what the reading says, or fails at the value. -/
theorem single_spelled (h : r.Lawful) (hkey : r.Spelled key) (hv : v.rawFree = true) :
    Makes (single key v) (Says r v) ∧ Faults (single key v) OfShape := by
  cases hother : r.other? with
  | none =>
    obtain ⟨op, hop, hread⟩ := h.read_value hkey hother
    rw [single_value hread]
    exact ⟨(ask_asks op hv).imp fun _ => .asks hother hop, ask_faults op hv⟩
  | some other =>
    obtain ⟨sign, hsign, hread⟩ := h.read_columns hkey hother
    rw [single_columns hread]
    exact ⟨Build.makes_pure (.compares hother hsign), Build.faults_pure⟩

/-- What a reading can say of the value is made. -/
theorem single_faultless (h : r.Lawful) (hkey : r.Spelled key) {sql : Sql} (hsaid : Says r v sql) :
    Faults (single key v) fun _ => False := by
  cases hsaid with
  | asks hother hop hasks =>
    obtain ⟨op, hop', hread⟩ := h.read_value hkey hother
    rw [← Operator.ofText?_eq_some_iff] at hop hop'
    obtain rfl := Option.some.inj (hop'.symm.trans hop)
    rw [single_value hread]
    exact hasks.faultless
  | compares hother hsign =>
    obtain ⟨sign, -, hread⟩ := h.read_columns hkey hother
    rw [single_columns hread]
    exact Build.faults_pure

end

/-- A fault of shape is no refusal of a name, a key or an operator. -/
theorem ofShape_iff {fault : Fault} (tablePrefix : String) :
    OfShape fault ↔ ∀ message, fault.error tablePrefix ≠ .validation message := by
  unfold OfShape Fault.error
  cases fault.isValidation with
  | true => exact ⟨nofun, fun h => absurd rfl (h _)⟩
  | false => exact ⟨fun _ => nofun, fun _ => rfl⟩

/-! ### Conditions in a tree -/

/-- The condition of the key on the value is in the tree, at any depth of its groups. A text in
a list is a key without a value. -/
inductive InTree (key : String) (v : Value) : Value → Prop
  | entry {group : Fields} (hmem : (key, v) ∈ group)
      (hgroup : ConditionKey.group? key = none ∨ v.isContainer = false) :
      InTree key v (.object group)
  | inside {group : Fields} {k : String} {w : Value} (hmem : (k, w) ∈ group)
      (hgroup : (ConditionKey.group? k).isSome = true) (h : InTree key v w) :
      InTree key v (.object group)
  | text {items : List Value} (hmem : .string key ∈ items) (hnull : v = .null) :
      InTree key v (.array items)
  | listed {items : List Value} {group : Fields} (hmem : .object group ∈ items)
      (h : InTree key v (.object group)) : InTree key v (.array items)

theorem InTree.container {key : String} {v w : Value} (h : InTree key v w) :
    w.isContainer = true := by
  cases h <;> rfl

theorem InTree.rawFree {key : String} {v w : Value} (h : InTree key v w)
    (hraw : w.rawFree = true) : v.rawFree = true := by
  induction h with
  | entry hmem _ => exact fieldsRawFree_iff.1 hraw _ hmem
  | inside hmem _ _ ih => exact ih (fieldsRawFree_iff.1 hraw _ hmem)
  | text _ hnull => rw [hnull]; rfl
  | listed hmem _ ih => exact ih (itemsRawFree_iff.1 hraw _ hmem)

/-- An entry is compiled as what it opens, or as a condition of its own. -/
theorem entries_cons (key : String) (v : Value) (rest : Fields) :
    (∃ conjunction, (ConditionKey.group? key).isSome = true ∧ v.isContainer = true ∧
      entries ((key, v) :: rest) =
        Build.cons (grouped conjunction (inside v)) (entries rest)) ∨
    ((ConditionKey.group? key = none ∨ v.isContainer = false) ∧
      entries ((key, v) :: rest) = Build.cons (single key v) (entries rest)) := by
  rw [entries]
  cases hgroup : ConditionKey.group? key with
  | none => exact .inr ⟨.inl rfl, rfl⟩
  | some conjunction =>
    cases hv : v.isContainer with
    | true => exact .inl ⟨conjunction, rfl, rfl, rfl⟩
    | false => exact .inr ⟨.inr rfl, rfl⟩

theorem listed_object (group rest) :
    listed (.object group :: rest) =
      Build.cons (grouped .and (entries group)) (listed rest) := by
  rw [listed, inside]

theorem listed_string (key : String) (rest : List Value) :
    listed (.string key :: rest) = Build.cons (single key .null) (listed rest) := by
  rw [listed]

theorem InTree.of_subset {key : String} {v : Value} {group more : Fields}
    (h : InTree key v (.object group)) (hmore : group ⊆ more) : InTree key v (.object more) := by
  cases h with
  | entry hmem hgroup => exact .entry (hmore hmem) hgroup
  | inside hmem hgroup h => exact .inside (hmore hmem) hgroup h

theorem InTree.of_items {key : String} {v : Value} {items more : List Value}
    (h : InTree key v (.array items)) (hmore : items ⊆ more) : InTree key v (.array more) := by
  cases h with
  | text hmem hnull => exact .text (hmore hmem) hnull
  | listed hmem h => exact .listed (hmore hmem) h

theorem entries_neverRuns {group : Fields} {key : String} {v : Value} (hmem : (key, v) ∈ group)
    (h : ∀ rest, NeverRuns (entries ((key, v) :: rest))) : NeverRuns (entries group) := by
  obtain ⟨before, rest, rfl⟩ := List.append_of_mem hmem
  clear hmem
  -- An entry before it may fail first, and then nothing is compiled either.
  induction before with
  | nil => exact h rest
  | cons e before ih =>
    rcases entries_cons e.1 e.2 (before ++ (key, v) :: rest) with ⟨_, -, -, heq⟩ | ⟨-, heq⟩
    · exact (congrArg NeverRuns heq).mpr (ih.behind _)
    · exact (congrArg NeverRuns heq).mpr (ih.behind _)

theorem listed_neverRuns {items : List Value} {v : Value} (hmem : v ∈ items)
    (h : ∀ rest, NeverRuns (listed (v :: rest))) : NeverRuns (listed items) := by
  obtain ⟨before, rest, rfl⟩ := List.append_of_mem hmem
  clear hmem
  induction before with
  | nil => exact h rest
  | cons w before ih =>
    show NeverRuns (listed (w :: (before ++ v :: rest)))
    unfold listed
    exact ih.behind _

/-- A condition that never compiles keeps every tree from compiling that it is in. -/
theorem InTree.neverRuns {key : String} {v w : Value} (h : InTree key v w)
    (hsingle : NeverRuns (single key v)) : NeverRuns (Condition.inside w) := by
  induction h with
  | entry hmem hgroup =>
    refine entries_neverRuns hmem fun rest => ?_
    rcases entries_cons key v rest with ⟨_, hsome, hv, -⟩ | ⟨-, heq⟩
    · rcases hgroup with hnone | hscalar
      · rw [hnone] at hsome
        cases hsome
      · rw [hscalar] at hv
        cases hv
    · rw [heq]
      exact hsingle.cons _
  | @inside group k w hmem hgroup h ih =>
    refine entries_neverRuns hmem fun rest => ?_
    rcases entries_cons k w rest with ⟨_, -, -, heq⟩ | ⟨hno, -⟩
    · rw [heq]
      exact (NeverRuns.bind ih _).cons _
    · rcases hno with hnone | hscalar
      · rw [hnone] at hgroup
        cases hgroup
      · rw [h.container] at hscalar
        cases hscalar
  | text hmem hnull =>
    refine listed_neverRuns hmem fun rest => ?_
    rw [listed_string, ← hnull]
    exact hsingle.cons _
  | listed hmem h ih =>
    refine listed_neverRuns hmem fun rest => ?_
    rw [listed_object]
    exact (NeverRuns.bind ih _).cons _

section
variable {P : Fault → Prop}

theorem faults_cons {x : Build Sql} {rest : Build (List Sql)} (hx : Faults x P)
    (hrest : Faults rest P) : Faults (Build.cons x rest) P :=
  hx.bind fun _ => hrest.map

theorem entries_cons_faults {key : String} {v : Value} {rest : Fields}
    (h : ∀ k w, InTree k w (.object ((key, v) :: rest)) → Faults (single k w) P)
    (hinside : (∀ k w, InTree k w v → Faults (single k w) P) → Faults (inside v) P)
    (hrest : Faults (entries rest) P) : Faults (entries ((key, v) :: rest)) P := by
  rcases entries_cons key v rest with ⟨_, hgroup, -, heq⟩ | ⟨hno, heq⟩
  · rw [heq]
    refine faults_cons (Faults.map (hinside fun k w hin => ?_)) hrest
    exact h k w (.inside List.mem_cons_self hgroup hin)
  · rw [heq]
    exact faults_cons (h key v (.entry List.mem_cons_self hno)) hrest

theorem listed_cons_faults (hshape : ∀ got, P (.groupEntry got)) {v : Value} {rest : List Value}
    (hraw : v.rawFree = true) (h : ∀ k w, InTree k w (.array (v :: rest)) → Faults (single k w) P)
    (hinside : (∀ k w, InTree k w v → Faults (single k w) P) → Faults (inside v) P)
    (hrest : Faults (listed rest) P) : Faults (listed (v :: rest)) P := by
  cases v with
  | string key =>
    rw [listed_string]
    exact faults_cons (h key .null (.text List.mem_cons_self rfl)) hrest
  | object group =>
    rw [listed_object]
    refine faults_cons (Faults.map (hinside fun k w hin => ?_)) hrest
    exact h k w (.listed List.mem_cons_self hin)
  | raw raw => cases hraw
  | _ =>
    rw [listed]
    · exact faults_cons (Build.faults_fail (hshape _)) hrest
    all_goals simp

mutual

/-- A tree without fragments fails where one of its conditions does, or at an item that is no
condition. -/
theorem inside_faults (hshape : ∀ got, P (.groupEntry got)) : ∀ v : Value, v.rawFree = true →
    (∀ k w, InTree k w v → Faults (single k w) P) → Faults (inside v) P
  | .object group, hraw, h => entries_faults hshape group hraw h
  | .array items, hraw, h => listed_faults hshape items hraw h
  | .raw _, _, _ | .null, _, _ | .bool _, _, _ | .int _, _, _ | .float _, _, _ | .string _, _, _
  | .bytes _, _, _ => Build.faults_pure
termination_by structural v => v

theorem entries_faults (hshape : ∀ got, P (.groupEntry got)) : ∀ group : List (String × Value),
    fieldsRawFree group = true →
    (∀ k w, InTree k w (.object group) → Faults (single k w) P) → Faults (entries group) P
  | [], _, _ => Build.faults_pure
  | (_, v) :: rest, hraw, h =>
    have hboth := Bool.and_eq_true_iff.1 hraw
    entries_cons_faults h (inside_faults hshape v hboth.1)
      (entries_faults hshape rest hboth.2 fun k w hin =>
        h k w (hin.of_subset (List.subset_cons_self _ _)))
termination_by structural group => group

theorem listed_faults (hshape : ∀ got, P (.groupEntry got)) : ∀ items : List Value,
    itemsRawFree items = true →
    (∀ k w, InTree k w (.array items) → Faults (single k w) P) → Faults (listed items) P
  | [], _, _ => Build.faults_pure
  | v :: rest, hraw, h =>
    have hboth := Bool.and_eq_true_iff.1 hraw
    listed_cons_faults hshape hboth.1 h (inside_faults hshape v hboth.1)
      (listed_faults hshape rest hboth.2 fun k w hin =>
        h k w (hin.of_items (List.subset_cons_self _ _)))
termination_by structural items => items

end

end

/-! ### Lists without an item -/

/-- The condition asks for one of no values, or for none of no patterns. -/
inductive AsksNothing (key : String) : Value → Prop
  | oneOf {column : ColumnName} {negated : Bool}
      (hread : ConditionKey.read key = .ok (.value column (.equal negated))) :
      AsksNothing key (.array [])
  | like {column : ColumnName} {negated : Bool} {v : Value} {conjunction : Conjunction}
      (hread : ConditionKey.read key = .ok (.value column (.like negated)))
      (hpatterns : likePatterns? v = some (conjunction, [])) : AsksNothing key v

theorem AsksNothing.neverRuns {key : String} {v : Value} (h : AsksNothing key v) :
    NeverRuns (single key v) := by
  cases h with
  | oneOf hread =>
    rw [single_value hread]
    exact Build.makes_fail
  | like hread hpatterns =>
    rw [single_value hread]
    simp only [ask, Condition.like, hpatterns]
    exact Build.makes_fail

/-- A condition whose key reads fails at its value only. -/
theorem single_faults {key : String} {v : Value} {k : ConditionKey}
    (hread : ConditionKey.read key = .ok k) (hv : v.rawFree = true) :
    Faults (single key v) OfShape := by
  cases k with
  | value column op =>
    rw [single_value hread]
    exact ask_faults op hv
  | columns left sign right =>
    rw [single_columns hread]
    exact Build.faults_pure

/-- With a value that holds no fragment, the key of a condition is refused exactly when it spells
no reading: a column, a column with a sign, or a column, a sign and another column. It spells one
at most. SQL is made for it exactly when its sign can be asked of the value; it is the SQL of this
sign then, and has these columns and no others. Keys that open no group are compiled so wherever
they stand in a tree. -/
theorem keys_have_one_reading (key : String) {v : Value} (hv : v.rawFree = true)
    (tablePrefix : String) (n : Nat) :
    ((∀ fault message, single key v n = .error fault →
        fault.error tablePrefix ≠ .validation message) ↔
      ∃ r : Reading, r.Lawful ∧ r.Spelled key) ∧
    (∀ r r' : Reading, r.Lawful → r.Spelled key → r'.Lawful → r'.Spelled key → r = r') ∧
    (∀ r : Reading, r.Lawful → r.Spelled key →
      ((∃ sql bound, single key v n = .ok (sql, bound)) ↔ ∃ sql, Says r v sql) ∧
      ∀ sql bound, single key v n = .ok (sql, bound) →
        Says r v sql ∧ ∀ c, c ∈ sql.columns ↔ c = r.column ∨ r.other? = some c) ∧
    ((ConditionKey.group? key = none ∨ v.isContainer = false) → ∀ rest,
      entries ((key, v) :: rest) = Build.cons (single key v) (entries rest)) := by
  refine ⟨⟨fun h => ?_, ?_⟩, ?_, fun r hr hkey => ?_, ?_⟩
  · cases hread : ConditionKey.read key with
    | ok k => exact ConditionKey.exists_reading hread
    | error fault =>
      have hshape := (ofShape_iff tablePrefix).2 fun message =>
        h fault message (single_refused hread n)
      rw [OfShape, ConditionKey.isValidation_of_read hread] at hshape
      cases hshape
  · rintro ⟨r, hr, hkey⟩ fault message hfault
    exact (ofShape_iff tablePrefix).1 ((single_spelled hr hkey hv).2 n fault hfault) message
  · exact fun r r' hr hkey hr' hkey' => hr.unique hkey hr' hkey'
  · have hmade := (single_spelled hr hkey hv).1 n
    refine ⟨⟨?_, ?_⟩, fun sql bound hrun => ?_⟩
    · rintro ⟨sql, bound, hrun⟩
      exact ⟨sql, hmade sql bound hrun⟩
    · rintro ⟨sql, hsaid⟩
      exact (single_faultless hr hkey hsaid).runs n
    · have hsaid := hmade sql bound hrun
      exact ⟨hsaid, hsaid.mem_columns⟩
  · intro hgroup rest
    rw [entries]
    rcases hgroup with hname | hscalar
    · rw [hname]
    · rw [hscalar]
      cases ConditionKey.group? key <;> rfl

/-- A key with blank space before and behind its sign, a table before its column, and another
column. -/
def spacedKey : String := "posts.age [>=]\tmin-age"

def spacedReading : Reading := ⟨⟨some "posts", "age"⟩, some ">=", some ⟨none, "min-age"⟩⟩

theorem spacedReading_lawful : spacedReading.Lawful := by
  have hcolumn : spacedReading.column.IsNamed := by
    refine ⟨by decide, fun table htable => ?_⟩
    cases htable
    decide
  have hother : ∀ other ∈ spacedReading.other?, other.IsNamed := by
    intro other hmem
    cases hmem
    exact ⟨by decide, nofun⟩
  exact ⟨hcolumn, hother, ">=", by decide, rfl⟩

theorem spaced_key_has_one_reading :
    let sql : Sql := [.table "posts", .text ".", .column "age", .text " >= ", .column "min-age"]
    Value.null.rawFree = true ∧ spacedReading.Spelled spacedKey ∧
      (∀ r : Reading, r.Lawful → r.Spelled spacedKey → spacedReading = r) ∧
      single spacedKey .null 0 = .ok (sql, []) ∧ Says spacedReading .null sql ∧
      ¬ ∃ r : Reading, r.Lawful ∧ r.Spelled "age[>]min[<]max" := by
  intro sql
  have hkey : spacedReading.Spelled spacedKey := ⟨[' '], ['\t'], by decide, by decide⟩
  have hrun : single spacedKey .null 0 = .ok (sql, []) := by rfl
  have hnull : Value.null.rawFree = true := rfl
  obtain ⟨-, hunique, hmade, -⟩ := keys_have_one_reading spacedKey hnull "" 0
  obtain ⟨-, hmeaning⟩ := hmade spacedReading spacedReading_lawful hkey
  obtain ⟨hrefused, -⟩ := keys_have_one_reading "age[>]min[<]max" hnull "" 0
  refine ⟨hnull, hkey, fun r hr hr' => hunique _ r spacedReading_lawful hkey hr hr', hrun,
    (hmeaning _ _ hrun).1, fun hreading => ?_⟩
  exact hrefused.2 hreading (.columnComparison "age[>]min[<]max") _ rfl rfl

end Condition
end StructuredSql
