-- Joins and clauses with their bound values blanked out: the conditions, the keyword
-- of a search, the conditions on groups and the AND maps of joins.
import StructuredSql.Proofs.Condition.Blank
import StructuredSql.Clause
import StructuredSql.Statement.Read

namespace StructuredSql

open Build (Agree)

namespace Blank

/-- An entry of a tree that is a condition. -/
def condition (key : String) (v : Value) : Value :=
  if (ConditionKey.group? key).isSome && v.isContainer then inGroup v else underKey v

theorem inEntries_eq (group : Fields) : inEntries group = Entries.alter condition group := by
  induction group with
  | nil => rfl
  | cons e rest ih =>
    unfold inEntries
    rw [ih]
    rfl

/-! ## Joins -/

/-- The entry of an ON map, of which only a group of conditions binds. -/
def joinPair (key : String) : Value → Value
  | .object group => if key = "AND" then .object (inEntries group) else .object group
  | v => v

def relation : Value → Value
  | .object pairs => .object (Entries.alter joinPair pairs)
  | v => v

def joins (join : Fields) : Fields := Entries.alter (fun _ => relation) join

/-! ## Clauses -/

/-- The keyword of a search is bound, whatever it is. -/
def search : Value → Value
  | .object fields =>
    .object (Entries.alter (fun key v => if key = "keyword" then .null else v) fields)
  | v => v

def groupTest : Value → Value
  | .object fields => .object (inEntries fields)
  | v => v

def modifier (key : String) (v : Value) : Value :=
  if key = "MATCH" then search v else if key = "HAVING" then groupTest v else v

/-- The conditions of a statement with their modifiers. -/
def tree (fields : Fields) : Fields :=
  Entries.alter (fun key v => if Clause.isModifier key then modifier key v else condition key v)
    fields

def conditions : Option Value → Option Value
  | some (.object fields) => some (.object (tree fields))
  | other => other

theorem get?_tree (fields : Fields) {key : String} (h : Clause.isModifier key = true) :
    Entries.get? (tree fields) key = (Entries.get? fields key).map (modifier key) := by
  unfold tree
  rw [Entries.get?_alter, h]
  rfl

theorem plain_tree (fields : Fields) :
    Clause.plain (tree fields) = inEntries (Clause.plain fields) := by
  rw [inEntries_eq]
  induction fields with
  | nil => rfl
  | cons e rest ih =>
    simp only [Clause.plain, tree, Entries.alter, List.map_cons, List.filter_cons] at ih ⊢
    cases h : Clause.isModifier e.1 with
    | true => simpa [h] using ih
    | false =>
      simp only [Bool.not_false, if_true, Bool.false_eq_true, if_false, List.map_cons]
      rw [ih]

/-- A modifier that binds nothing may be set before or after. -/
theorem conditions_modified (conditions : Option Value) {key : String}
    (h : Clause.isModifier key = true) {v : Value} (hv : modifier key v = v) :
    Query.modified (Blank.conditions conditions) key v =
      Blank.conditions (Query.modified conditions key v) := by
  have hcontent : (if Clause.isModifier key then modifier key v else condition key v) = v := by
    rw [h]
    exact hv
  cases conditions with
  | none =>
    show some (Value.object [(key, v)]) = some (Value.object (tree [(key, v)]))
    simp only [tree, Entries.alter, List.map_cons, List.map_nil, hcontent]
  | some w =>
    cases w with
    | object fields =>
      have := Entries.insert_alter (fun key v =>
        if Clause.isModifier key then modifier key v else condition key v) fields key v
      simp only [hcontent] at this
      exact congrArg (fun f => some (Value.object f)) this
    | _ => rfl

end Blank

/-! ## Joins that agree -/

namespace Join

theorem onEntry_agree (main joined key : String) (entry : String × Value) :
    Agree (onEntry main joined key entry)
      (onEntry main joined key (entry.1, Blank.joinPair entry.1 entry.2)) := by
  obtain ⟨left, v⟩ := entry
  cases v with
  | object group =>
    by_cases h : left = "AND"
    · subst h
      exact Condition.tree_agree .and group
    · simp only [Blank.joinPair, if_neg h]
      exact .refl _
  | _ => exact .refl _

theorem relation_agree (main joined key : String) (v : Value) :
    Agree (relation main joined key v) (relation main joined key (Blank.relation v)) := by
  cases v with
  | object pairs =>
    exact (Build.agree_each _ pairs fun e _ => onEntry_agree main joined key e).map _
  | _ => exact .refl _

theorem clause_agree (main : String) (entry : String × Value) :
    Agree (clause main entry) (clause main (entry.1, Blank.relation entry.2)) :=
  (Agree.refl _).bind fun key =>
    (relation_agree main key.table.exposed entry.1 entry.2).bind fun _ => .refl _

theorem clauses_agree (main : String) (join : Fields) :
    Agree (clauses main join) (clauses main (Blank.joins join)) := by
  have heach : Agree (Build.each (clause main) join)
      (Build.each (clause main) (join.map fun e => (e.1, Blank.relation e.2))) :=
    Build.agree_each _ join fun e _ => clause_agree main e
  exact heach.map _

end Join

/-! ## Clauses that agree -/

namespace Clause

theorem conditions_agree (tree : Fields) :
    Agree (conditions tree) (conditions (Blank.tree tree)) := by
  unfold conditions
  rw [Blank.plain_tree, Blank.inEntries_eq]
  cases h : plain tree with
  | nil => exact .refl _
  | cons e rest =>
    rw [← Blank.inEntries_eq]
    exact (Condition.tree_agree .and (e :: rest)).map _

theorem search_agree (alone : Bool) (spec : Value) :
    Agree (search alone spec) (search alone (Blank.search spec)) := by
  cases spec with
  | object fields =>
    have hcolumns := Entries.get?_alter
      (fun key v => if key = "keyword" then Value.null else v) fields "columns"
    have hkeyword := Entries.get?_alter
      (fun key v => if key = "keyword" then Value.null else v) fields "keyword"
    have hmode := Entries.get?_alter
      (fun key v => if key = "keyword" then Value.null else v) fields "mode"
    simp only [String.reduceEq, if_false, if_true, Option.map_id'] at hcolumns hkeyword hmode
    unfold search searchMode
    simp only [Blank.search, Value.object?, hcolumns, hkeyword, hmode]
    cases Entries.get? fields "columns" with
    | none => exact .refl _
    | some columns =>
      cases columns with
      | array names =>
        cases Entries.get? fields "keyword" with
        | none => exact .refl _
        | some keyword =>
          exact (Agree.refl _).bind fun _ => (Build.agree_placeholder _ _).bind fun _ => .refl _
      | _ => cases Entries.get? fields "keyword" <;> exact .refl _
  | _ => exact .refl _

theorem searching_agree (d : Dialect) (alone : Bool) (tree : Fields) :
    Agree (searching d alone tree) (searching d alone (Blank.tree tree)) := by
  unfold searching
  split
  · rw [Blank.get?_tree tree (by decide)]
    cases Entries.get? tree "MATCH" with
    | none => exact .refl _
    | some v => exact search_agree alone v
  · exact .refl _

theorem having_agree (v : Value) : Agree (having v) (having (Blank.groupTest v)) := by
  have htest : Agree (groupTest v) (groupTest (Blank.groupTest v)) := by
    cases v with
    | object fields => exact Condition.tree_agree .and fields
    | _ => exact .refl _
  exact htest.map _

theorem ofTree_agree (d : Dialect) (tree : Fields) :
    Agree (ofTree d tree) (ofTree d (Blank.tree tree)) := by
  have hsame : ∀ key, key ∈ ["GROUP", "ORDER", "LIMIT"] →
      Entries.get? (Blank.tree tree) key = Entries.get? tree key := by
    intro key hkey
    simp only [List.mem_cons, List.not_mem_nil, or_false] at hkey
    rcases hkey with rfl | rfl | rfl
    all_goals
      rw [Blank.get?_tree tree (by decide)]
      exact Option.map_id_apply
  have hhaving : Agree (optionally (Entries.get? tree "HAVING") having)
      (optionally (Entries.get? (Blank.tree tree) "HAVING") having) := by
    rw [Blank.get?_tree tree (by decide)]
    cases Entries.get? tree "HAVING" with
    | none => exact .refl _
    | some v => exact having_agree v
  unfold ofTree
  rw [hsame "GROUP" (by decide), hsame "ORDER" (by decide), hsame "LIMIT" (by decide)]
  exact (conditions_agree tree).bind fun plainSql =>
    (searching_agree d plainSql.isEmpty tree).bind fun _ => (Agree.refl _).bind fun _ =>
    hhaving.bind fun _ => .refl _

theorem all_agree (d : Dialect) (conditions : Option Value) :
    Agree (all d conditions) (all d (Blank.conditions conditions)) := by
  cases conditions with
  | none => exact .refl _
  | some v =>
    cases v with
    | object tree => exact ofTree_agree d tree
    | _ => exact .refl _

end Clause
end StructuredSql
