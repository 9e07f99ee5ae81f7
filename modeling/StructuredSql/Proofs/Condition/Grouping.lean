-- The AND and OR of a condition tree survive its rendering. A tree has a formula: an entry
-- whose key names a group is a group, and so is a map in a list; every other entry is a
-- single condition. The program writes this formula down, and its text reads as the formula.
import StructuredSql.Proofs.Condition.Plain

namespace StructuredSql

open Build (Makes)

/-! ## Groups that are not empty -/

mutual

/-- The group has an entry, and so has every group inside it. -/
def Value.populated : Value → Bool
  | .object group => !group.isEmpty && fieldsPopulated group
  | .array items => !items.isEmpty && itemsPopulated items
  | _ => true
termination_by structural v => v

/-- Every group among the entries is populated. A key that names no group opens none. -/
def fieldsPopulated : List (String × Value) → Bool
  | [] => true
  | (key, v) :: rest => ((ConditionKey.group? key).isNone || v.populated) && fieldsPopulated rest
termination_by structural fields => fields

def itemsPopulated : List Value → Bool
  | [] => true
  | v :: rest => v.populated && itemsPopulated rest
termination_by structural items => items

end

namespace Condition

/-! ## The formula of a tree -/

/-- The formula of a group. -/
def groupFormula (k : Conjunction) (parts : Build (List Formula)) : Build Formula :=
  return .group k (← parts)

/-- The formula of a condition that opens no group. -/
def singleFormula (condition : Build Sql) : Build Formula := return .single (← condition)

mutual

/-- The formulas inside a map or a list. -/
def formulasInside : Value → Build (List Formula)
  | .object group => formulas group
  | .array items => formulasListed items
  | _ => pure []
termination_by structural v => v

/-- The formulas of a map, entry by entry. -/
def formulas : List (String × Value) → Build (List Formula)
  | [] => pure []
  | (key, v) :: rest =>
    let first := match ConditionKey.group? key, v.isContainer with
      | some conjunction, true => groupFormula conjunction (formulasInside v)
      | _, _ => singleFormula (single key v)
    Build.cons first (formulas rest)
termination_by structural fields => fields

/-- The formulas of a list: its maps are groups under AND. -/
def formulasListed : List Value → Build (List Formula)
  | [] => pure []
  | v :: rest =>
    let first := match v with
      | .string key => singleFormula (single key .null)
      | .object _ => groupFormula .and (formulasInside v)
      | .raw raw => singleFormula (Build.fragment raw)
      | v => Build.fail (.groupEntry v.type)
    Build.cons first (formulasListed rest)
termination_by structural items => items

end

/-! ## The program writes the formula down -/

def written (f : Build Formula) : Build Sql := return (← f).sql

def allWritten (parts : Build (List Formula)) : Build (List Sql) := return Formula.sqls (← parts)

theorem cons_written {x : Build Sql} {others : Build (List Sql)} {first : Build Formula}
    {rest : Build (List Formula)} (hx : x = written first) (ho : others = allWritten rest) :
    Build.cons x others = allWritten (Build.cons first rest) := by
  rw [hx, ho]
  simp [Build.cons, written, allWritten, Formula.sqls]

theorem grouped_written (k : Conjunction) {x : Build (List Sql)} {parts : Build (List Formula)}
    (h : x = allWritten parts) : grouped k x = written (groupFormula k parts) := by
  rw [h]
  simp [grouped, groupFormula, written, allWritten, Formula.sql]

theorem single_written (condition : Build Sql) : condition = written (singleFormula condition) := by
  simp [singleFormula, written, Formula.sql]

theorem fail_written (fault : Fault) :
    (Build.fail fault : Build Sql) = written (Build.fail fault) := rfl

theorem nil_written : pure [] = allWritten (pure []) := by simp [allWritten, Formula.sqls]

mutual

theorem inside_written : (v : Value) → inside v = allWritten (formulasInside v)
  | .object group => entries_written group
  | .array items => listed_written items
  | .null | .bool _ | .int _ | .float _ | .string _ | .bytes _ | .raw _ => nil_written
termination_by structural v => v

/-- The conditions of a map are its formulas as they are written. -/
theorem entries_written : (fields : List (String × Value)) →
    entries fields = allWritten (formulas fields)
  | [] => nil_written
  | (key, v) :: rest => by
    have hinside := inside_written v
    refine cons_written ?_ (entries_written rest)
    cases ConditionKey.group? key with
    | none => exact single_written _
    | some k =>
      cases v.isContainer with
      | false => exact single_written _
      | true => exact grouped_written k hinside
termination_by structural fields => fields

theorem listed_written : (items : List Value) → listed items = allWritten (formulasListed items)
  | [] => nil_written
  | .string _ :: rest => cons_written (single_written _) (listed_written rest)
  | .object group :: rest =>
    cons_written (grouped_written .and (entries_written group)) (listed_written rest)
  | .raw _ :: rest => cons_written (single_written _) (listed_written rest)
  | .array _ :: rest | .null :: rest | .bool _ :: rest | .int _ :: rest | .float _ :: rest
  | .bytes _ :: rest => cons_written (fail_written _) (listed_written rest)
termination_by structural items => items

end

/-! ## The formula is sound -/

/-- There is one formula for each part, and all of them are sound. -/
def Describe (tablePrefix : String) (count : Nat) (parts : List Formula) : Prop :=
  parts.length = count ∧ Formula.AllSound tablePrefix parts

variable {tablePrefix : String}

theorem describe_nil : Makes (pure [] : Build (List Formula)) (Describe tablePrefix 0) :=
  Build.makes_pure ⟨rfl, trivial⟩

theorem describe_cons {first : Build Formula} {rest : Build (List Formula)} {count : Nat}
    (hf : Makes first (Formula.Sound tablePrefix)) (hr : Makes rest (Describe tablePrefix count)) :
    Makes (Build.cons first rest) (Describe tablePrefix (count + 1)) := by
  refine hf.bind fun f hsound => hr.map fun parts h => ?_
  exact ⟨congrArg Nat.succ h.1, hsound, h.2⟩

/-- A group is sound when it has a part. -/
theorem group_sound (k : Conjunction) {parts : Build (List Formula)} {count : Nat}
    (hne : count ≠ 0) (h : Makes parts (Describe tablePrefix count)) :
    Makes (groupFormula k parts) (Formula.Sound tablePrefix) := by
  refine h.map fun parts hparts => ⟨?_, hparts.2⟩
  intro hnil
  rw [Formula.sqls_eq_map] at hnil
  rw [List.map_eq_nil_iff.1 hnil] at hparts
  exact hne hparts.1.symm

theorem single_sound (hp : Name.IsPlain tablePrefix.toList) (key : String) {v : Value}
    (hv : v.rawFree = true) : Makes (singleFormula (single key v)) (Formula.Sound tablePrefix) :=
  (single_plain hp key hv).map fun _ h => h

mutual

/-- A group that is populated has formulas, and at least one. -/
theorem inside_sound (hp : Name.IsPlain tablePrefix.toList) : (v : Value) →
    v.isContainer = true → v.rawFree = true → v.populated = true →
    ∃ count, count ≠ 0 ∧ Makes (formulasInside v) (Describe tablePrefix count)
  | .object group, _, hv, hg => by
    obtain ⟨hne, hgroup⟩ := Bool.and_eq_true_iff.1 hg
    exact ⟨group.length, by simpa using hne, formulas_sound hp group hv hgroup⟩
  | .array items, _, hv, hi => by
    obtain ⟨hne, hitems⟩ := Bool.and_eq_true_iff.1 hi
    exact ⟨items.length, by simpa using hne, formulasListed_sound hp items hv hitems⟩
termination_by structural v => v

theorem formulas_sound (hp : Name.IsPlain tablePrefix.toList) :
    (fields : List (String × Value)) → fieldsRawFree fields = true →
    fieldsPopulated fields = true → Makes (formulas fields) (Describe tablePrefix fields.length)
  | [], _, _ => describe_nil
  | (key, v) :: rest, hf, hg => by
    obtain ⟨hv, hrest⟩ := Bool.and_eq_true_iff.1 hf
    obtain ⟨hgroup, hgroups⟩ := Bool.and_eq_true_iff.1 hg
    have hinside := inside_sound hp v
    refine describe_cons ?_ (formulas_sound hp rest hrest hgroups)
    cases hkey : ConditionKey.group? key with
    | none => exact single_sound hp key hv
    | some k =>
      rw [hkey, Option.isNone_some, Bool.false_or] at hgroup
      cases hcontainer : v.isContainer with
      | false => exact single_sound hp key hv
      | true =>
        obtain ⟨count, hne, hparts⟩ := hinside hcontainer hv hgroup
        exact group_sound k hne hparts
termination_by structural fields => fields

theorem formulasListed_sound (hp : Name.IsPlain tablePrefix.toList) :
    (items : List Value) → itemsRawFree items = true → itemsPopulated items = true →
    Makes (formulasListed items) (Describe tablePrefix items.length)
  | [], _, _ => describe_nil
  | .string key :: rest, hf, hg => describe_cons (single_sound hp key rfl)
    (formulasListed_sound hp rest (Bool.and_eq_true_iff.1 hf).2 (Bool.and_eq_true_iff.1 hg).2)
  | .object group :: rest, hf, hg => by
    obtain ⟨hv, hrest⟩ := Bool.and_eq_true_iff.1 hf
    obtain ⟨hgroup, hgroups⟩ := Bool.and_eq_true_iff.1 hg
    obtain ⟨hne, hentries⟩ := Bool.and_eq_true_iff.1 hgroup
    have hlength : group.length ≠ 0 := by simpa using hne
    exact describe_cons (group_sound .and hlength (formulas_sound hp group hv hentries))
      (formulasListed_sound hp rest hrest hgroups)
  | .raw _ :: _, hf, _ => by cases hf
  | .array _ :: rest, hf, hg | .null :: rest, hf, hg | .bool _ :: rest, hf, hg
  | .int _ :: rest, hf, hg | .float _ :: rest, hf, hg | .bytes _ :: rest, hf, hg =>
    describe_cons Build.makes_fail
      (formulasListed_sound hp rest (Bool.and_eq_true_iff.1 hf).2 (Bool.and_eq_true_iff.1 hg).2)
termination_by structural items => items

end

/-- The AND and OR of a condition tree survive its rendering. The text has one part for
each entry, in their order, and the conjunction of the tree between all of them. A group
is such a text in parentheses, at every depth, and a single condition has no parts. So the
text says what the formula of the tree says. -/
theorem a_tree_reads_as_its_formula (hp : Name.IsPlain tablePrefix.toList) (k : Conjunction)
    {fields : Fields} (hraw : fieldsRawFree fields = true)
    (hpopulated : (Value.object fields).populated = true) {n : Nat} {sql : Sql}
    {bound : List Binding} (h : tree k fields n = .ok (sql, bound)) :
    ∃ parts, formulas fields n = .ok (parts, bound) ∧ parts.length = fields.length ∧
      Precedence.pieces (sql.chars tablePrefix) = parts.map (fun f => f.sql.chars tablePrefix) ∧
      Precedence.separators (sql.chars tablePrefix) = List.replicate (fields.length - 1) k ∧
      Formula.AllFallApart tablePrefix parts ∧
      ∀ val, Precedence.truth val (sql.chars tablePrefix) =
        k.holds (Formula.truths (saidAlone tablePrefix val) parts) := by
  obtain ⟨hne, hgroups⟩ := Bool.and_eq_true_iff.1 hpopulated
  obtain ⟨sqls, first, more, hentries, hsql, rfl⟩ := Build.bind_eq_ok.1 h
  obtain ⟨rfl, rfl⟩ := Build.pure_eq_ok.1 hsql
  rw [entries_written] at hentries
  obtain ⟨parts, bound, rest, hparts, hwritten, rfl⟩ := Build.bind_eq_ok.1 hentries
  obtain ⟨rfl, rfl⟩ := Build.pure_eq_ok.1 hwritten
  obtain ⟨hlength, hsound⟩ := formulas_sound hp fields hraw hgroups n parts bound hparts
  have hplain := Formula.AllSound.plain parts hsound
  have hsqls : Formula.sqls parts ≠ [] := by
    rw [Formula.sqls_eq_map]
    intro hnil
    rw [List.map_eq_nil_iff.1 hnil] at hlength
    rw [List.eq_nil_of_length_eq_zero hlength.symm] at hne
    cases hne
  have hjoins := joins_joined k hsqls hplain
  refine ⟨parts, by rwa [List.append_nil, List.append_nil], hlength, ?_, ?_,
    Formula.AllSound.allFallApart parts hsound, fun val => ?_⟩
  · rw [hjoins.pieces, Formula.sqls_eq_map, List.map_map]
    rfl
  · rw [hjoins.separators, Formula.sqls_eq_map, List.length_map, hlength]
  · rw [truth_joined k hsqls hplain, Formula.AllSound.said parts hsound]

/-- Groups in both forms, with AND and OR in them and in what they ask. -/
def mixedTree : Fields :=
  [("AND # recent", .object [("title[~]", .object [("AND", .array [.string "a", .string "b"])]),
      ("year[<>]", .array [.int 1, .int 2])]),
    ("OR", .array [.string "low[<]high", .object [("seen", .null), ("level", .int 3)]])]

theorem mixedTree_text : ∃ sql bound, tree .or mixedTree 0 = .ok (sql, bound) ∧
    sql.render "app_" = "((\"title\" LIKE :p0 AND \"title\" LIKE :p1) AND " ++
      "(\"year\" BETWEEN :p2 AND :p3)) OR " ++
      "(\"low\" < \"high\" OR (\"seen\" IS NULL AND \"level\" = :p4))" := by
  have htext : (tree .or mixedTree 0).map (fun r => r.1.render "app_") =
      .ok ("((\"title\" LIKE :p0 AND \"title\" LIKE :p1) AND " ++
        "(\"year\" BETWEEN :p2 AND :p3)) OR " ++
        "(\"low\" < \"high\" OR (\"seen\" IS NULL AND \"level\" = :p4))") := by
    rfl
  cases h : tree .or mixedTree 0 with
  | error fault =>
    rw [h] at htext
    cases htext
  | ok r =>
    rw [h] at htext
    exact ⟨r.1, r.2, rfl, Except.ok.inj htext⟩

theorem mixedTree_reads : ∃ sql bound parts, tree .or mixedTree 0 = .ok (sql, bound) ∧
    formulas mixedTree 0 = .ok (parts, bound) ∧ parts.length = 2 ∧
    Precedence.pieces (sql.chars "app_") = parts.map (fun f => f.sql.chars "app_") ∧
    Precedence.separators (sql.chars "app_") = [.or] ∧ Formula.AllFallApart "app_" parts ∧
    ∀ val, Precedence.truth val (sql.chars "app_") =
      Conjunction.or.holds (Formula.truths (saidAlone "app_" val) parts) := by
  have hp : Name.IsPlain "app_".toList := by
    unfold Name.IsPlain
    decide
  obtain ⟨sql, bound, hrun, -⟩ := mixedTree_text
  obtain ⟨parts, h⟩ := @a_tree_reads_as_its_formula "app_" hp .or mixedTree rfl rfl 0 sql bound hrun
  exact ⟨sql, bound, parts, hrun, h⟩

end Condition
end StructuredSql
