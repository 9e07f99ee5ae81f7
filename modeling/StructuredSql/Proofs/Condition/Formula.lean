-- The boolean formula of a condition tree, as text and as truth. When every single
-- condition is a plain text and no group is empty, the text falls apart as the formula
-- does, and says what the formula says.
import StructuredSql.Proofs.Condition.Precedence
import StructuredSql.Proofs.Sql.Text
import StructuredSql.Condition.Tree

namespace StructuredSql

open Precedence (Plain Nested)

/-- What a condition says when it stands alone. -/
def saidAlone (tablePrefix : String) (val : List Char → Bool) (condition : Sql) : Bool :=
  Precedence.truth val (condition.chars tablePrefix)

/-- The conditions are the parts of their text when they stand side by side, and their
conjunction is between all of them. -/
structure Conjunction.Joins (tablePrefix : String) (k : Conjunction) (parts : List Sql) :
    Prop where
  pieces : Precedence.pieces ((Condition.joined k parts).chars tablePrefix) =
    parts.map (Sql.chars tablePrefix)
  separators : Precedence.separators ((Condition.joined k parts).chars tablePrefix) =
    List.replicate (parts.length - 1) k

/-! ## Plain conditions side by side -/

namespace Condition

variable {tablePrefix : String} {parts : List Sql}

theorem chars_joined (k : Conjunction) (parts : List Sql) :
    (joined k parts).chars tablePrefix =
      (s!" {k.word} ").toList.intercalate (parts.map (Sql.chars tablePrefix)) :=
  Sql.chars_joinWith tablePrefix _ _

theorem nested_joined (k : Conjunction) (h : ∀ sql ∈ parts, Plain (sql.chars tablePrefix)) :
    Nested ((joined k parts).chars tablePrefix) := by
  have hword : Nested (s!" {k.word} ").toList := by
    refine Precedence.nested_flat ?_
    cases k <;> decide
  rw [chars_joined]
  exact Precedence.nested_intercalate hword (List.forall_mem_map.2 fun sql hm => (h sql hm).nested)

/-- In parentheses the conditions are a plain text again. -/
theorem plain_grouped (k : Conjunction) (h : ∀ sql ∈ parts, Plain (sql.chars tablePrefix)) :
    Plain ((Sql.parens (joined k parts)).chars tablePrefix) := by
  rw [Sql.chars_parens]
  exact .group (nested_joined k h) .nil

theorem joins_joined (k : Conjunction) (hne : parts ≠ [])
    (h : ∀ sql ∈ parts, Plain (sql.chars tablePrefix)) : k.Joins tablePrefix parts := by
  have hne' : parts.map (Sql.chars tablePrefix) ≠ [] := fun hnil => hne (List.map_eq_nil_iff.1 hnil)
  have hplain := List.forall_mem_map.2 h
  constructor
  · rw [chars_joined]
    exact Precedence.pieces_intercalate k hne' hplain
  · rw [chars_joined, Precedence.separators_intercalate k hne' hplain, List.length_map]

variable {val : List Char → Bool}

theorem truth_joined (k : Conjunction) (hne : parts ≠ [])
    (h : ∀ sql ∈ parts, Plain (sql.chars tablePrefix)) :
    Precedence.truth val ((joined k parts).chars tablePrefix) =
      k.holds (parts.map (saidAlone tablePrefix val)) := by
  have hne' : parts.map (Sql.chars tablePrefix) ≠ [] := fun hnil => hne (List.map_eq_nil_iff.1 hnil)
  rw [chars_joined, Precedence.truth_intercalate k hne' (List.forall_mem_map.2 h), List.map_map]
  rfl

theorem truth_grouped (k : Conjunction) (hne : parts ≠ [])
    (h : ∀ sql ∈ parts, Plain (sql.chars tablePrefix)) :
    saidAlone tablePrefix val (Sql.parens (joined k parts)) =
      k.holds (parts.map (saidAlone tablePrefix val)) := by
  rw [saidAlone, Sql.chars_parens, Precedence.truth_parens (nested_joined k h),
    truth_joined k hne h]

end Condition

/-! ## Formulas -/

/-- Single conditions, and groups of formulas under one conjunction. -/
inductive Formula
  | single (sql : Sql)
  | group (conjunction : Conjunction) (parts : List Formula)

namespace Formula

mutual

/-- The formula as it is written: a group stands in parentheses. -/
def sql : Formula → Sql
  | single condition => condition
  | group k parts => Sql.parens (Condition.joined k (sqls parts))
termination_by structural f => f

def sqls : List Formula → List Sql
  | [] => []
  | f :: rest => f.sql :: sqls rest
termination_by structural parts => parts

end

mutual

/-- The truth of the formula, where `holds` gives that of its single conditions. -/
def truth (holds : Sql → Bool) : Formula → Bool
  | single condition => holds condition
  | group k parts => k.holds (truths holds parts)
termination_by structural f => f

def truths (holds : Sql → Bool) : List Formula → List Bool
  | [] => []
  | f :: rest => f.truth holds :: truths holds rest
termination_by structural parts => parts

end

mutual

/-- The text of the formula falls apart as the formula does: what stands in the
parentheses of a group has the parts of the group, and a single condition has none. -/
def FallsApart (tablePrefix : String) : Formula → Prop
  | single condition => Precedence.separators (condition.chars tablePrefix) = []
  | group k parts => k.Joins tablePrefix (sqls parts) ∧ AllFallApart tablePrefix parts
termination_by structural f => f

def AllFallApart (tablePrefix : String) : List Formula → Prop
  | [] => True
  | f :: rest => f.FallsApart tablePrefix ∧ AllFallApart tablePrefix rest
termination_by structural parts => parts

end

mutual

/-- Every single condition is plain under the prefix, and every group has a part. -/
def Sound (tablePrefix : String) : Formula → Prop
  | single condition => Plain (condition.chars tablePrefix)
  | group _ parts => sqls parts ≠ [] ∧ AllSound tablePrefix parts
termination_by structural f => f

def AllSound (tablePrefix : String) : List Formula → Prop
  | [] => True
  | f :: rest => f.Sound tablePrefix ∧ AllSound tablePrefix rest
termination_by structural parts => parts

end

theorem sqls_eq_map (parts : List Formula) : sqls parts = parts.map sql := by
  induction parts with
  | nil => rfl
  | cons f rest ih => rw [sqls, ih, List.map_cons]

variable {tablePrefix : String}

/-! ## Sound formulas -/

mutual

/-- A sound formula is written without a conjunction outside parentheses. -/
theorem Sound.plain : (f : Formula) → f.Sound tablePrefix → Plain (f.sql.chars tablePrefix)
  | single _, h => h
  | group k parts, h => Condition.plain_grouped k (AllSound.plain parts h.2)
termination_by structural f => f

theorem AllSound.plain : (parts : List Formula) → AllSound tablePrefix parts →
    ∀ sql ∈ sqls parts, Plain (sql.chars tablePrefix)
  | [], _ => by simp [sqls]
  | f :: rest, h => List.forall_mem_cons.2 ⟨Sound.plain f h.1, AllSound.plain rest h.2⟩
termination_by structural parts => parts

end

mutual

theorem Sound.fallsApart : (f : Formula) → f.Sound tablePrefix → f.FallsApart tablePrefix
  | single _, h => Precedence.separators_plain h
  | group k parts, h =>
    ⟨Condition.joins_joined k h.1 (AllSound.plain parts h.2), AllSound.allFallApart parts h.2⟩
termination_by structural f => f

theorem AllSound.allFallApart : (parts : List Formula) → AllSound tablePrefix parts →
    AllFallApart tablePrefix parts
  | [], _ => trivial
  | f :: rest, h => ⟨Sound.fallsApart f h.1, AllSound.allFallApart rest h.2⟩
termination_by structural parts => parts

end

variable {val : List Char → Bool}

mutual

/-- The text of a sound formula says what the formula says. -/
theorem Sound.said : (f : Formula) → f.Sound tablePrefix →
    saidAlone tablePrefix val f.sql = f.truth (saidAlone tablePrefix val)
  | single _, _ => rfl
  | group k parts, h => by
    rw [sql, Condition.truth_grouped k h.1 (AllSound.plain parts h.2), AllSound.said parts h.2]
    rfl
termination_by structural f => f

theorem AllSound.said : (parts : List Formula) → AllSound tablePrefix parts →
    (sqls parts).map (saidAlone tablePrefix val) = truths (saidAlone tablePrefix val) parts
  | [], _ => rfl
  | f :: rest, h => by
    rw [sqls, List.map_cons, Sound.said f h.1, AllSound.said rest h.2]
    rfl
termination_by structural parts => parts

end

end Formula
end StructuredSql
