-- The leaves of statements that write: a cell for each row and column of an insert,
-- the assignments of an update that bind, and two texts for each replacement.
import StructuredSql.Proofs.Clause.Leaves
import StructuredSql.Proofs.Statement.Basic
import StructuredSql.Statement.Write
import Mathlib.Data.List.Dedup

namespace StructuredSql

open Build (Gives Numbered ListNumbered Trails)

namespace Leaves

/-- Every row has a cell under every key that any row has. -/
def ofRows (v : Value) : Nat :=
  (Write.insertedRows v).length * ((Write.insertedRows v).flatMap Entries.keys).dedup.length

/-- An assignment binds its value unless it calculates. -/
def ofAssignment (entry : String × Value) : Nat :=
  match (Write.updateKey entry.1).2 with
  | some (.arithmetic _) => 0
  | _ => 1

/-- The old and the new text of every pair. -/
def ofSubstitutions (entry : String × Value) : Nat :=
  match entry.2 with
  | .object pairs => 2 * pairs.length
  | _ => 0

end Leaves

namespace Write

/-! ## Insert -/

theorem addKey_nodup {keys : List String} (h : keys.Nodup) (k : String) :
    (addKey keys k).Nodup := by
  unfold addKey
  split
  · exact h
  · rename_i hc
    have hk : k ∉ keys := fun hm => hc (List.contains_iff_mem.2 hm)
    exact (List.nodup_append.2 ⟨h, List.nodup_singleton k, by
      rintro a ha b hb rfl
      exact hk (List.mem_singleton.1 hb ▸ ha)⟩)

theorem mem_addKey {keys : List String} {k j : String} :
    j ∈ addKey keys k ↔ j ∈ keys ∨ j = k := by
  unfold addKey
  split
  · rename_i hc
    have hk := List.contains_iff_mem.1 hc
    constructor
    · exact Or.inl
    · rintro (hj | rfl)
      · exact hj
      · exact hk
  · simp

theorem foldl_addKey (more : List String) {keys : List String} (h : keys.Nodup) :
    (more.foldl addKey keys).Nodup ∧ ∀ k, k ∈ more.foldl addKey keys ↔ k ∈ keys ∨ k ∈ more := by
  induction more generalizing keys with
  | nil => exact ⟨h, by simp⟩
  | cons k rest ih =>
    obtain ⟨hn, hm⟩ := ih (addKey_nodup h k)
    refine ⟨hn, fun j => ?_⟩
    rw [List.foldl_cons, hm, mem_addKey, List.mem_cons, or_assoc]

/-- The keys of an insert are those of its rows, each of them once. -/
theorem unionKeys_perm (rs : List Fields) :
    (unionKeys rs).Perm (rs.flatMap Entries.keys).dedup := by
  obtain ⟨hn, hm⟩ := foldl_addKey (rs.flatMap Entries.keys) List.nodup_nil
  refine (List.perm_ext_iff_of_nodup hn (List.nodup_dedup _)).2 fun k => ?_
  rw [hm, List.mem_dedup]
  simp

theorem insertedRows_rawFree {v : Value} (hv : v.rawFree = true) :
    ∀ row ∈ insertedRows v, fieldsRawFree row = true := by
  intro row hr
  rcases mem_insertedRows hr with rfl | ⟨items, rfl, hi⟩
  · exact hv
  · exact itemsRawFree_iff.1 hv _ hi

theorem columns_still {keys : List String} {sqls : List Sql} (h : columns keys = .ok sqls) :
    ∀ sql ∈ sqls, sql.Still := by
  have hall := mapM_eq_ok h
  clear h
  induction hall with
  | nil => simp
  | cons hk _ ih => exact List.forall_mem_cons.2 ⟨columnSql_still hk, ih⟩

theorem store_numbered (key : String) {v : Value} (hv : v.rawFree = true) :
    Numbered 1 (Cell.store key v) := by
  unfold Cell.store
  split
  · cases hv
  · exact Build.numbered_text _
  · exact Build.numbered_text _
  · exact Build.numbered_scalar _

theorem cells_numbered (keys : List String) {row : Fields} (hr : fieldsRawFree row = true) :
    Numbered keys.length (cells keys row) := by
  refine (Build.listNumbered_each_one keys fun k _ => store_numbered k ?_).map fun n sqls h =>
    (h ", " (by decide)).parens
  cases hk : Entries.get? row k with
  | none => rfl
  | some v => exact rawFree_of_get? hr hk

theorem insert_numbered (table : String) {v : Value} (hv : v.rawFree = true) :
    Numbered (Leaves.ofRows v) (insert table v) := by
  refine Build.gives_read fun rs hrows => ?_
  have hraw : ∀ row ∈ rs, fieldsRawFree row = true := by
    rw [rows_eq_ok hrows]
    exact insertedRows_rawFree hv
  have hcount : Leaves.ofRows v = (rs.map fun _ => (unionKeys rs).length).sum := by
    rw [List.map_const', List.sum_replicate_nat, (unionKeys_perm rs).length_eq, rows_eq_ok hrows]
    rfl
  dsimp only
  split
  · exact Build.numbered_fail
  · refine Build.gives_read fun target htarget => Build.gives_read fun names hnames => ?_
    rw [hcount]
    refine (Build.listNumbered_each rs fun row hr => cells_numbered _ (hraw row hr)).map
      fun n sqls h => ?_
    have hjoined : (Sql.joinWith ", " names).Still :=
      Sql.still_joinWith (by decide) (columns_still hnames)
    refine Sql.Numbers.cons_text (by decide) (Sql.Numbers.prepend (tableSql_still htarget) ?_)
    refine Sql.Numbers.cons_text (by decide) (Sql.Numbers.prepend hjoined ?_)
    exact (h ", " (by decide)).cons_text (by decide)

/-! ## Update -/

namespace Mark

/-- The mark at the end of a key. -/
def text : Mark → List Char
  | json => "[JSON]".toList
  | arithmetic sign => ['[', sign, ']']

/-- The mark is one of those that keys may end in. -/
def Known : Mark → Prop
  | json => True
  | arithmetic sign => sign ∈ ['+', '-', '*', '/']

instance decidableKnown : (mark : Mark) → Decidable mark.Known
  | json => inferInstanceAs (Decidable True)
  | arithmetic sign => inferInstanceAs (Decidable (sign ∈ ['+', '-', '*', '/']))

theorem text_last (mark : Mark) : mark.text.getLast? = some ']' := by
  cases mark <;> rfl

end Mark

theorem takeMark?_eq_some_iff {s rest : List Char} {mark : Mark} :
    takeMark? s = some (mark, rest) ↔ mark.Known ∧ s = mark.text.reverse ++ rest := by
  constructor
  · intro h
    unfold takeMark? at h
    split at h <;> cases h
    · exact ⟨trivial, rfl⟩
    · exact ⟨by decide, rfl⟩
    · exact ⟨by decide, rfl⟩
    · exact ⟨by decide, rfl⟩
    · exact ⟨by decide, rfl⟩
  · rintro ⟨hknown, rfl⟩
    cases mark with
    | json => rfl
    | arithmetic sign =>
      simp only [Mark.Known, List.mem_cons, List.not_mem_nil, or_false] at hknown
      rcases hknown with rfl | rfl | rfl | rfl <;> rfl

/-- The mark stands at the end of the key. -/
theorem takeMark?_key {key : String} {mark : Mark} {s : List Char}
    (h : takeMark? key.toList.reverse = some (mark, s)) :
    mark.Known ∧ key.toList = s.reverse ++ mark.text := by
  obtain ⟨hknown, hreverse⟩ := takeMark?_eq_some_iff.1 h
  refine ⟨hknown, ?_⟩
  rw [← List.reverse_reverse key.toList, hreverse, List.reverse_append, List.reverse_reverse]

theorem updateKey_sign {key name : String} {sign : Char}
    (h : updateKey key = (name, some (.arithmetic sign))) : sign ∈ ['+', '-', '*', '/'] := by
  unfold updateKey at h
  split at h
  · cases h
  · rename_i mark s hmark
    dsimp only at h
    split at h
    · cases h
    · cases h
      exact (takeMark?_eq_some_iff.1 hmark).1

/-- The operand of a calculation is a numeral. -/
theorem operand_numeral {v : Value} (h : v.isNumeric = true) :
    Text.Numeral (operand v).toList := by
  cases v with
  | int i => exact Text.numeral_intRepr i.toInt
  | float x => exact Text.numeral_toText x
  | string s =>
    simp only [operand, String.toList_ofList]
    cases hr : Text.readDouble? (Text.trim s.toList) with
    | none => simp [Value.isNumeric, Value.numericText?, hr] at h
    | some x => exact Text.numeral_of_readDouble hr
  | _ => cases h

theorem assignment_numbered {entry : String × Value} (he : entry.2.rawFree = true) :
    Numbered (Leaves.ofAssignment entry) (assignment entry) := by
  unfold assignment Leaves.ofAssignment
  cases hkey : updateKey entry.1 with
  | mk name mark? =>
    dsimp only
    refine Build.gives_read fun column hcolumn => ?_
    have hc := columnSql_still hcolumn
    split
    · rename_i hraw
      rw [hraw] at he
      cases he
    · rename_i sign
      split
      · rename_i hv
        have hsign := updateKey_sign hkey
        refine Build.numbered_pure (hc.append (Sql.still_cons_text (by decide) (hc.append ?_)))
        refine Sql.still_text (Sql.quiet_append (Sql.quiet_append (Sql.quiet_append ?_ ?_) ?_)
          (Sql.quiet_of_numeral (operand_numeral hv)))
        · decide
        · simp only [List.mem_cons, List.not_mem_nil, or_false] at hsign
          rcases hsign with rfl | rfl | rfl | rfl <;> decide
        · decide
      · exact Build.numbered_fail
    · split
      · rename_i sign hnot
        exact absurd rfl (hnot sign)
      · exact (store_numbered entry.1 he).map fun n sql h =>
          Sql.Numbers.prepend hc (h.cons_text (by decide))

theorem updateWith_gives {d : Dialect} {target : Sql} (ht : target.Still)
    {conditions : Option Value} (hc : Clause.CountableConditions d conditions)
    (assignments : List Sql) :
    Gives (updateWith d target assignments conditions) (Leaves.ofConditions d conditions)
      fun m sql => ∀ n k, m = n + k → Sql.ListNumbers n k assignments →
        sql.Numbers n (k + Leaves.ofConditions d conditions) := by
  refine Build.gives_map (Clause.all_trails hc) ?_
  rintro m clauses hclauses n k rfl ha
  refine Sql.Numbers.cons_text (by decide) (Sql.Numbers.prepend ht ?_)
  exact ((ha ", " (by decide)).append hclauses.numbers hclauses.detached).cons_text (by decide)

theorem update_numbered {d : Dialect} (table : String) {data : Fields}
    (hd : fieldsRawFree data = true) {conditions : Option Value}
    (hc : Clause.CountableConditions d conditions) :
    Numbered ((data.map Leaves.ofAssignment).sum + Leaves.ofConditions d conditions)
      (update d table data conditions) := by
  unfold update
  split
  · exact Build.numbered_fail
  · refine Build.gives_read fun target ht => ?_
    refine Build.gives_bind (Build.listNumbered_each data fun e he =>
      assignment_numbered (fieldsRawFree_iff.1 hd e he))
      (fun assignments => updateWith_gives (tableSql_still ht) hc assignments) ?_
    exact fun n assignments sql ha h => h n _ rfl ha

/-! ## Delete and replacement -/

theorem delete_numbered {d : Dialect} (table : String) {conditions : Option Value}
    (hc : Clause.CountableConditions d conditions) :
    Numbered (Leaves.ofConditions d conditions) (delete d table conditions) := by
  refine Build.gives_read fun target ht => Build.gives_map (Clause.all_trails hc) fun n sql h => ?_
  exact (Sql.Numbers.prepend (tableSql_still ht) h.numbers).cons_text (by decide)

theorem substitution_numbered {column : Sql} (hc : column.Still) (pair : String × Value) :
    Numbered 2 (substitution column pair) := by
  refine Numbered.both (Build.numbered_text pair.1) (Build.numbered_text pair.2.toText)
    fun n old new ho hn => ?_
  refine Sql.Numbers.prepend hc (Sql.Numbers.cons_text (by decide) (Sql.Numbers.prepend hc ?_))
  exact (ho.between (by decide) (hn.append_text (by decide))).cons_text (by decide)

theorem substitutions_numbered (entry : String × Value) :
    ListNumbered (Leaves.ofSubstitutions entry) (substitutions entry) := by
  obtain ⟨key, v⟩ := entry
  cases v with
  | object pairs =>
    refine Build.gives_read fun column hc => ?_
    have := Build.listNumbered_each (c := fun _ => 2) pairs fun pair _ =>
      substitution_numbered (columnSql_still hc) pair
    rwa [List.map_const', List.sum_replicate_nat, Nat.mul_comm] at this
  | _ => exact Build.listNumbered_pure_nil

theorem allSubstitutions_numbered (columns : Fields) :
    ListNumbered (columns.map Leaves.ofSubstitutions).sum (allSubstitutions columns) := by
  induction columns with
  | nil => exact Build.listNumbered_pure_nil
  | cons entry rest ih =>
    refine Build.gives_bind (substitutions_numbered entry) (R := fun sqls m all =>
      ∃ more, all = sqls ++ more ∧ Sql.ListNumbers m _ more)
      (fun sqls => Build.gives_map ih fun m more hm => ⟨more, rfl, hm⟩) ?_
    rintro n sqls all hs ⟨more, rfl, hm⟩
    exact Sql.ListNumbers.append hs hm

theorem replace_numbered {d : Dialect} (table : String) (columns : Fields)
    {conditions : Option Value} (hc : Clause.CountableConditions d conditions) :
    Numbered ((columns.map Leaves.ofSubstitutions).sum + Leaves.ofConditions d conditions)
      (replace d table columns conditions) := by
  refine Build.gives_read fun target ht => ?_
  refine Build.gives_bind (allSubstitutions_numbered columns) (fun assignments => ?_)
    (R := fun assignments m sql => ∀ n k, m = n + k → Sql.ListNumbers n k assignments →
      sql.Numbers n (k + Leaves.ofConditions d conditions)) ?_
  · split
    · exact Build.gives_fail
    · exact updateWith_gives (tableSql_still ht) hc assignments
  · exact fun n assignments sql ha h => h n _ rfl ha

end Write
end StructuredSql
