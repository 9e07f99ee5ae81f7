-- The scalar leaves of a condition tree. A tree without fragments makes one
-- placeholder for each of its leaves, in the order in which they are written.
import StructuredSql.Proofs.Placeholder.Numbering
import StructuredSql.Proofs.Value.Everywhere
import StructuredSql.Condition.Tree

namespace StructuredSql

open Build (Numbered ListNumbered)

/-! ## Counting leaves -/

namespace Leaves

/-- A null that is asked for equality is no leaf. Of a list every item is one, and a
range has two bounds. -/
def underOperator : Operator → Value → Nat
  | .equal _, .null => 0
  | .equal _, .array items => items.length
  | .like _, .array items => items.length
  | .like _, .object [(_, .array items)] => items.length
  | .between _, _ => 2
  | _, _ => 1

/-- Two columns under one key have no leaf. -/
def underKey (key : String) (v : Value) : Nat :=
  match ConditionKey.read key with
  | .ok (.value _ op) => underOperator op v
  | _ => 0

mutual

/-- The leaves of a group, which is a map or a list. -/
def inGroup : Value → Nat
  | .object group => inEntries group
  | .array items => inItems items
  | _ => 0
termination_by structural v => v

def inEntries : List (String × Value) → Nat
  | [] => 0
  | (key, v) :: rest =>
    (if (ConditionKey.group? key).isSome && v.isContainer then inGroup v else underKey key v)
      + inEntries rest
termination_by structural entries => entries

/-- A text in a list is a key without a value. -/
def inItems : List Value → Nat
  | [] => 0
  | v :: rest =>
    (match v with
      | .string key => underKey key .null
      | v => inGroup v) + inItems rest
termination_by structural items => items

end

end Leaves

/-! ## One condition -/

namespace Condition

/-- A column, a text, and a numbered part behind them. -/
theorem numbers_behind {column : ColumnName} (hc : column.IsPlain) {s : String}
    (hs : Sql.Quiet s) {n k : Nat} {sql : Sql} (h : sql.Numbers n k) :
    Sql.Numbers n k (column.sql ++ .text s :: sql) :=
  Sql.Numbers.prepend hc.still (h.cons_text hs)

theorem equality_numbered {column : ColumnName} (hc : column.IsPlain) (negated : Bool) {v : Value}
    (hv : v.rawFree = true) :
    Numbered (Leaves.underOperator (.equal negated) v) (equality column negated v) := by
  have hsign : Sql.Quiet (equalSign negated) := by cases negated <;> decide
  have hscalar : Numbered 1 (do return column.sql ++ .text (equalSign negated) ::
      (← Build.scalar v)) :=
    (Build.numbered_scalar v).map fun _ _ h => numbers_behind hc hsign h
  cases v with
  | null =>
    refine Build.numbered_pure (hc.still.append (Sql.still_text ?_))
    cases negated <;> decide
  | array items =>
    simp only [equality]
    split
    · exact Build.numbered_fail
    · refine (Build.listNumbered_each_one items fun a _ => Build.numbered_scalar a).map ?_
      intro n sqls h
      refine numbers_behind hc ?_ ((h ", " (by decide)).append_text (by decide))
      cases negated <;> decide
  | raw fragment => cases hv
  | object fields => exact Build.numbered_fail
  | bool b => exact hscalar
  | int i => exact hscalar
  | float x => exact hscalar
  | string s => exact hscalar
  | bytes bs => exact hscalar

theorem comparand_numbered (column : ColumnName) {v : Value} (hv : v.rawFree = true) :
    Numbered 1 (comparand column v) := by
  unfold comparand
  split
  · cases hv
  · exact Build.numbered_fail
  · exact Build.numbered_fail
  · split
    · exact Build.numbered_number _
    · exact Build.numbered_scalar _

theorem comparison_numbered {column : ColumnName} (hc : column.IsPlain) (o : Order) {v : Value}
    (hv : v.rawFree = true) : Numbered 1 (comparison column o v) := by
  refine (comparand_numbered column hv).map fun n sql h => numbers_behind hc ?_ h
  cases o <;> decide

/-- Every pattern is one leaf. -/
theorem likePatterns?_length (negated : Bool) {v : Value} {conjunction : Conjunction}
    {items : List Value} (h : likePatterns? v = some (conjunction, items)) :
    items.length = Leaves.underOperator (.like negated) v := by
  cases v with
  | array vs =>
    cases h
    rfl
  | object fields =>
    unfold likePatterns? at h
    split at h
    · rename_i hv
      cases hv
    · rename_i hv
      cases hv
      cases h
      rfl
    · rename_i hv
      cases hv
      cases h
      rfl
    · cases h
    · rename_i hobject
      exact absurd rfl (hobject fields)
  | raw fragment => cases h; rfl
  | null => cases h; rfl
  | bool b => cases h; rfl
  | int i => cases h; rfl
  | float x => cases h; rfl
  | string s => cases h; rfl
  | bytes bs => cases h; rfl

theorem like_numbered {column : ColumnName} (hc : column.IsPlain) (negated : Bool) (v : Value) :
    Numbered (Leaves.underOperator (.like negated) v) (like column negated v) := by
  unfold like
  split
  · exact Build.numbered_fail
  · exact Build.numbered_fail
  · rename_i conjunction items hnonempty hpatterns
    rw [← likePatterns?_length negated hpatterns]
    refine (Build.listNumbered_each_one items fun item _ => ?_).map fun n sqls h =>
      (h s!" {conjunction.word} " ?_).parens
    · split
      · exact Build.numbered_fail
      · refine (Build.numbered_text _).map fun n sql h => numbers_behind hc ?_ h
        cases negated <;> decide
    · cases conjunction <;> decide

theorem bounds_numbered (column : ColumnName) {low high : Value} (hl : low.rawFree = true) :
    Build.Gives (bounds column low high) 2 fun n p =>
      p.1.Numbers n 1 ∧ p.2.Numbers (n + 1) 1 := by
  unfold bounds
  split
  · cases hl
  · split
    · exact (Build.numbered_number _).both (Build.numbered_number _) fun n a b ha hb => ⟨ha, hb⟩
    · split
      · exact Build.gives_fail
      · exact (Build.numbered_text _).both (Build.numbered_text _) fun n a b ha hb => ⟨ha, hb⟩

theorem between_numbered {column : ColumnName} (hc : column.IsPlain) (negated : Bool) {v : Value}
    (hv : v.rawFree = true) : Numbered 2 (between column negated v) := by
  unfold between
  split
  · rename_i low high
    simp only [Value.rawFree, itemsRawFree, Bool.and_eq_true] at hv
    refine Build.gives_map (bounds_numbered column hv.1) fun n p h =>
      (numbers_behind hc ?_ (h.1.between (by decide) h.2)).parens
    cases negated <;> decide
  · exact Build.numbered_fail

theorem regexp_numbered {column : ColumnName} (hc : column.IsPlain) (v : Value) :
    Numbered 1 (regexp column v) := by
  unfold regexp
  split
  · exact Build.numbered_fail
  · exact (Build.numbered_text _).map fun n sql h => numbers_behind hc (by decide) h

theorem ask_numbered {column : ColumnName} (hc : column.IsPlain) (op : Operator) {v : Value}
    (hv : v.rawFree = true) : Numbered (Leaves.underOperator op v) (ask column op v) := by
  cases op with
  | equal negated => exact equality_numbered hc negated hv
  | order o => exact comparison_numbered hc o hv
  | like negated => exact like_numbered hc negated v
  | between negated => exact between_numbered hc negated hv
  | regexp => exact regexp_numbered hc v

theorem single_numbered (key : String) {v : Value} (hv : v.rawFree = true) :
    Numbered (Leaves.underKey key v) (single key v) := by
  refine Build.gives_read fun k hk => ?_
  have hplain := ConditionKey.read_isPlain hk
  unfold Leaves.underKey
  rw [hk]
  cases k with
  | value column op => exact ask_numbered hplain op hv
  | columns left sign right =>
    obtain ⟨hl, hs, hr⟩ := hplain
    refine Build.numbered_pure (hl.still.append (Sql.still_cons_text ?_ hr.still))
    simp only [columnComparisons, List.mem_cons, List.not_mem_nil, or_false] at hs
    rcases hs with rfl | rfl | rfl | rfl | rfl | rfl <;> decide

/-! ## Groups -/

theorem grouped_numbered {k : Nat} (conjunction : Conjunction) {parts : Build (List Sql)}
    (h : ListNumbered k parts) : Numbered k (grouped conjunction parts) := by
  refine h.map fun n sqls hs => (hs s!" {conjunction.word} " ?_).parens
  cases conjunction <;> decide

mutual

/-- A group makes its placeholders whatever conjunction joins its parts. -/
theorem inside_numbered : (v : Value) → v.rawFree = true →
    ListNumbered (Leaves.inGroup v) (inside v)
  | .object group, hv => entries_numbered group hv
  | .array items, hv => listed_numbered items hv
  | .raw _, hv => by cases hv
  | .null, _ | .bool _, _ | .int _, _ | .float _, _ | .string _, _ | .bytes _, _ =>
    Build.listNumbered_pure_nil
termination_by structural v => v

theorem entries_numbered : (group : List (String × Value)) → fieldsRawFree group = true →
    ListNumbered (Leaves.inEntries group) (entries group)
  | [], _ => Build.listNumbered_pure_nil
  | (key, v) :: rest, hg => by
    obtain ⟨hv, hrest⟩ := Bool.and_eq_true_iff.1 hg
    refine Numbered.cons ?_ (entries_numbered rest hrest)
    have hinside := inside_numbered v hv
    cases ConditionKey.group? key with
    | none => exact single_numbered key hv
    | some conjunction =>
      cases v.isContainer with
      | false => exact single_numbered key hv
      | true => exact grouped_numbered conjunction hinside
termination_by structural group => group

theorem listed_numbered : (items : List Value) → itemsRawFree items = true →
    ListNumbered (Leaves.inItems items) (listed items)
  | [], _ => Build.listNumbered_pure_nil
  | .string key :: rest, hi =>
    Numbered.cons (single_numbered key rfl) (listed_numbered rest (Bool.and_eq_true_iff.1 hi).2)
  | .object group :: rest, hi =>
    Numbered.cons (grouped_numbered .and (entries_numbered group (Bool.and_eq_true_iff.1 hi).1))
      (listed_numbered rest (Bool.and_eq_true_iff.1 hi).2)
  | .raw _ :: _, hi => by cases hi
  | .array _ :: rest, hi | .null :: rest, hi | .bool _ :: rest, hi | .int _ :: rest, hi
  | .float _ :: rest, hi | .bytes _ :: rest, hi =>
    Numbered.cons Build.numbered_fail (listed_numbered rest (Bool.and_eq_true_iff.1 hi).2)
termination_by structural items => items

end

/-- The placeholders of a tree are its leaves, in order. -/
theorem tree_numbered (conjunction : Conjunction) {fields : Fields}
    (hf : fieldsRawFree fields = true) :
    Numbered (Leaves.inEntries fields) (tree conjunction fields) := by
  refine (entries_numbered fields hf).map fun n sqls hs => hs s!" {conjunction.word} " ?_
  cases conjunction <;> decide

end Condition
end StructuredSql
