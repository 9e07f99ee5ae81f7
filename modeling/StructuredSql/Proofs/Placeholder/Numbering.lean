-- Pieces of SQL that carry their placeholders in order: numbered on from a first
-- one without a gap, each apart from the text behind it.
import StructuredSql.Proofs.Build.Basic
import StructuredSql.Proofs.Placeholder.Reading
import StructuredSql.Proofs.Text.Numeral
import Mathlib.Algebra.GroupWithZero.Nat

namespace StructuredSql

open Readable (isOpener)

namespace Sql

/-- The placeholders are `n`, `n + 1`, … up to `k` of them, in this order. -/
structure Numbers (n k : Nat) (sql : Sql) : Prop where
  placeholders : sql.placeholders = List.range' n k
  avoids : sql.Avoids isOpener
  spaced : sql.Spaced

/-- A text in which nothing reads like a placeholder or opens a literal. -/
abbrev Quiet (s : String) : Prop := ∀ c ∈ s.toList, isOpener c = false

/-- A text that may stand between placeholders. -/
def Separates (s : String) : Prop :=
  Quiet s ∧ s.toList.head?.any (fun c => !Readable.isKeyPart c) = true

instance (s : String) : Decidable (Separates s) := inferInstanceAs (Decidable (_ ∧ _))

theorem quiet_append {s t : String} (hs : Quiet s) (ht : Quiet t) : Quiet (s ++ t) := by
  unfold Quiet
  rw [String.toList_append]
  exact List.forall_mem_append.2 ⟨hs, ht⟩

theorem quiet_of_numeral {s : String} (h : Text.Numeral s.toList) : Quiet s :=
  fun c hc => Text.contains_of_test (by decide) (h c hc)

/-! ## Two parts in a row -/

theorem placeholders_append (a b : Sql) :
    placeholders (a ++ b) = placeholders a ++ placeholders b := by
  simp [placeholders]

theorem spaced_append {a b : Sql} (ha : Spaced a) (hb : Spaced b)
    (h : Detached b ∨ placeholders a = []) : Spaced (a ++ b) := by
  induction a with
  | nil => exact hb
  | cons p rest ih =>
    cases p with
    | placeholder n =>
      have hd : Detached b := h.resolve_right (by simp [placeholders])
      refine ⟨?_, ih ha.2 (Or.inl hd)⟩
      cases rest with
      | nil => exact hd
      | cons q more => cases q <;> exact ha.1
    | text s => exact ih ha h
    | table name => exact ih ha h
    | column name => exact ih ha h

theorem detached_text {s : String} (h : Separates s) (rest : Sql) :
    Detached (.text s :: rest) := h.2

theorem Numbers.append {n k j : Nat} {a b : Sql} (ha : a.Numbers n k) (hb : b.Numbers (n + k) j)
    (h : Detached b) : Numbers n (k + j) (a ++ b) := by
  refine ⟨?_, ?_, spaced_append ha.spaced hb.spaced (Or.inl h)⟩
  · rw [placeholders_append, ha.placeholders, hb.placeholders, List.range'_append_1]
  · exact (avoids_append a b).2 ⟨ha.avoids, hb.avoids⟩

/-! ## Parts without placeholders -/

/-- Nothing in it is a placeholder or reads like one. -/
structure Still (sql : Sql) : Prop where
  placeholders : sql.placeholders = []
  avoids : sql.Avoids isOpener

theorem spaced_of_placeholders_nil {sql : Sql} (h : placeholders sql = []) : Spaced sql := by
  induction sql with
  | nil => trivial
  | cons p rest ih =>
    cases p with
    | placeholder n => simp [Sql.placeholders] at h
    | text s => exact ih h
    | table name => exact ih h
    | column name => exact ih h

theorem Still.numbers {sql : Sql} (h : Still sql) (n : Nat) : sql.Numbers n 0 :=
  ⟨h.placeholders, h.avoids, spaced_of_placeholders_nil h.placeholders⟩

theorem Numbers.still {sql : Sql} {n : Nat} (h : sql.Numbers n 0) : Still sql :=
  ⟨h.placeholders, h.avoids⟩

theorem still_nil : Still [] := ⟨rfl, avoids_nil⟩

theorem still_cons_text {s : String} (hs : Quiet s) {sql : Sql}
    (h : Still sql) : Still (.text s :: sql) :=
  ⟨h.placeholders, (avoids_cons _ _).2 ⟨hs, h.avoids⟩⟩

theorem still_text {s : String} (hs : Quiet s) : Still (text s) :=
  still_cons_text hs still_nil

theorem Still.append {a b : Sql} (ha : Still a) (hb : Still b) : Still (a ++ b) :=
  ⟨by rw [placeholders_append, ha.placeholders, hb.placeholders]; rfl,
    (avoids_append a b).2 ⟨ha.avoids, hb.avoids⟩⟩

theorem Numbers.prepend {n k : Nat} {a b : Sql} (ha : Still a) (hb : b.Numbers n k) :
    Numbers n k (a ++ b) := by
  refine ⟨?_, (avoids_append a b).2 ⟨ha.avoids, hb.avoids⟩, ?_⟩
  · rw [placeholders_append, ha.placeholders, hb.placeholders]
    rfl
  · exact spaced_append (spaced_of_placeholders_nil ha.placeholders) hb.spaced
      (Or.inr ha.placeholders)

theorem Numbers.cons_text {n k : Nat} {s : String} (hs : Quiet s)
    {sql : Sql} (h : sql.Numbers n k) : Numbers n k (.text s :: sql) :=
  Numbers.prepend (still_text hs) h

/-- A text between two parts keeps their placeholders apart. -/
theorem Numbers.between {n k j : Nat} {s : String} (hs : Separates s) {a b : Sql}
    (ha : a.Numbers n k) (hb : b.Numbers (n + k) j) : Numbers n (k + j) (a ++ .text s :: b) :=
  ha.append (hb.cons_text hs.1) (detached_text hs b)

theorem Numbers.append_text {n k : Nat} {s : String} (hs : Separates s) {sql : Sql}
    (h : sql.Numbers n k) : Numbers n k (sql ++ text s) :=
  h.between hs (still_nil.numbers _)

theorem Numbers.parens {n k : Nat} {sql : Sql} (h : sql.Numbers n k) : (parens sql).Numbers n k :=
  (h.append_text (by decide)).cons_text (by decide)

theorem numbers_placeholder (n : Nat) : Numbers n 1 [.placeholder n] :=
  ⟨rfl, by simp [Avoids, Piece.Avoids], ⟨trivial, trivial⟩⟩

/-! ## Lists of parts -/

theorem joinWith_append (separator : String) {as bs : List Sql} (ha : as ≠ []) (hb : bs ≠ []) :
    joinWith separator (as ++ bs) =
      joinWith separator as ++ .text separator :: joinWith separator bs := by
  induction as with
  | nil => exact absurd rfl ha
  | cons a rest ih =>
    cases rest with
    | nil =>
      cases bs with
      | nil => exact absurd rfl hb
      | cons b more => rfl
    | cons next more =>
      have := ih (by simp)
      simp only [List.cons_append, joinWith] at this ⊢
      rw [this, List.append_assoc, List.cons_append]

/-- The parts carry their placeholders in order, whatever text joins them. -/
def ListNumbers (n k : Nat) (sqls : List Sql) : Prop :=
  ∀ separator, Separates separator → (joinWith separator sqls).Numbers n k

theorem listNumbers_nil (n : Nat) : ListNumbers n 0 [] := fun _ _ => still_nil.numbers n

theorem ListNumbers.cons {n k j : Nat} {sql : Sql} {rest : List Sql} (h : sql.Numbers n k)
    (hr : ListNumbers (n + k) j rest) : ListNumbers n (k + j) (sql :: rest) := by
  intro separator hs
  cases rest with
  | nil =>
    have hj : [] = List.range' (n + k) j := (hr separator hs).placeholders
    have : j = 0 := by simpa using hj.symm
    subst this
    exact h
  | cons next more => exact h.between hs (hr separator hs)

theorem ListNumbers.append {n k j : Nat} {as bs : List Sql} (ha : ListNumbers n k as)
    (hb : ListNumbers (n + k) j bs) : ListNumbers n (k + j) (as ++ bs) := by
  intro separator hs
  by_cases hna : as = []
  · subst hna
    have hk : [] = List.range' n k := (ha separator hs).placeholders
    have : k = 0 := by simpa using hk.symm
    subst this
    simpa using hb separator hs
  · by_cases hnb : bs = []
    · subst hnb
      have hj : [] = List.range' (n + k) j := (hb separator hs).placeholders
      have : j = 0 := by simpa using hj.symm
      subst this
      simpa using ha separator hs
    · rw [joinWith_append separator hna hnb]
      exact (ha separator hs).between hs (hb separator hs)

theorem still_joinWith {separator : String} (hs : Quiet separator)
    {sqls : List Sql} (h : ∀ sql ∈ sqls, Still sql) : Still (joinWith separator sqls) := by
  refine ⟨?_, avoids_joinWith hs fun sql hm => (h sql hm).avoids⟩
  induction sqls with
  | nil => rfl
  | cons sql rest ih =>
    have hrest := ih fun s hm => h s (List.mem_cons_of_mem _ hm)
    have hsql := (h sql List.mem_cons_self).placeholders
    cases rest with
    | nil => exact hsql
    | cons next more =>
      simp only [joinWith, placeholders_append, hsql, List.nil_append]
      exact hrest

end Sql

/-! ## Names -/

theorem ColumnName.IsPlain.still {c : ColumnName} (h : c.IsPlain) : Sql.Still c.sql := by
  refine ⟨?_, h.avoids (by decide)⟩
  unfold ColumnName.sql
  split
  · rfl
  · rfl

theorem TableRef.IsPlain.still {t : TableRef} (h : t.IsPlain) : Sql.Still t.sql := by
  refine ⟨?_, h.avoids (by decide)⟩
  unfold TableRef.sql
  split
  · rfl
  · rfl

theorem columnSql_still {s : String} {sql : Sql} (h : columnSql s = .ok sql) : sql.Still := by
  obtain ⟨c, hc, rfl⟩ := columnSql_eq_ok h
  exact (columnName_isPlain hc).still

theorem tableSql_still {s : String} {sql : Sql} (h : tableSql s = .ok sql) : sql.Still := by
  refine ⟨?_, tableSql_avoids h⟩
  obtain ⟨-, rfl⟩ := tableSql_eq_ok h
  rfl

theorem ColumnItem.parse_still {item : String} {i : ColumnItem} (h : parse item = .ok i) :
    i.sql.Still := by
  refine ⟨?_, parse_avoids h (by decide) (by decide)⟩
  unfold ColumnItem.sql ColumnName.sql
  split <;> split <;> rfl

/-! ## Builds of such pieces -/

namespace Build

/-- The build makes `k` placeholders and gives SQL that carries them in order. -/
def Numbered (k : Nat) (x : Build Sql) : Prop := Gives x k fun n sql => sql.Numbers n k

/-- The same of a list of parts. -/
def ListNumbered (k : Nat) (x : Build (List Sql)) : Prop :=
  Gives x k fun n sqls => Sql.ListNumbers n k sqls

theorem numbered_fail {k : Nat} {fault : Fault} : Numbered k (fail fault) := gives_fail

theorem numbered_pure {sql : Sql} (h : sql.Still) : Numbered 0 (pure sql) :=
  gives_pure fun n => h.numbers n

theorem numbered_placeholder (param : Param) : Numbered 1 (placeholder param) := by
  intro n sql bound h
  cases h
  exact ⟨by simp [Binding.isFresh], rfl, Sql.numbers_placeholder n⟩

theorem numbered_text (s : String) : Numbered 1 (text s) := numbered_placeholder _

theorem numbered_number (v : Value) : Numbered 1 (number v) := by
  unfold number
  split
  · exact numbered_placeholder _
  · exact numbered_placeholder _
  · split
    · exact numbered_placeholder _
    · exact numbered_placeholder _

theorem numbered_scalar (v : Value) : Numbered 1 (scalar v) := by
  unfold scalar
  split
  · exact numbered_fail
  · exact numbered_fail
  · exact numbered_fail
  · exact numbered_placeholder _

/-- What is made of a numbered part carries the same placeholders. -/
theorem Numbered.map {k : Nat} {x : Build Sql} (h : Numbered k x) {f : Sql → Sql}
    (hf : ∀ n sql, sql.Numbers n k → (f sql).Numbers n k) : Numbered k (do return f (← x)) :=
  gives_map h hf

theorem listNumbered_pure_nil : ListNumbered 0 (pure []) :=
  gives_pure fun n => Sql.listNumbers_nil n

theorem ListNumbered.map {k : Nat} {x : Build (List Sql)} (h : ListNumbered k x)
    {f : List Sql → Sql} (hf : ∀ n sqls, Sql.ListNumbers n k sqls → (f sqls).Numbers n k) :
    Numbered k (do return f (← x)) :=
  gives_map h hf

/-- Two parts one after the other, and what is made of both. -/
theorem Numbered.both {k j : Nat} {x y : Build Sql} (hx : Numbered k x) (hy : Numbered j y)
    {α : Type} {f : Sql → Sql → α} {Q : Nat → α → Prop}
    (hf : ∀ n a b, a.Numbers n k → b.Numbers (n + k) j → Q n (f a b)) :
    Gives (do return f (← x) (← y)) (k + j) Q := by
  refine gives_bind hx (R := fun a m r => ∃ b, r = f a b ∧ b.Numbers m j) (fun a => ?_) ?_
  · exact gives_map hy fun m b hb => ⟨b, rfl, hb⟩
  · rintro n a r ha ⟨b, rfl, hb⟩
    exact hf n a b ha hb

/-- One part and the list of the others. -/
theorem Numbered.cons {k j : Nat} {x : Build Sql} {rest : Build (List Sql)} (hx : Numbered k x)
    (hr : ListNumbered j rest) : ListNumbered (k + j) (Build.cons x rest) := by
  refine gives_bind hx (R := fun sql m sqls => ∃ tail, sqls = sql :: tail ∧
    Sql.ListNumbers m j tail) (fun sql => ?_) ?_
  · exact gives_map hr fun m tail ht => ⟨tail, rfl, ht⟩
  · rintro n sql sqls hs ⟨tail, rfl, ht⟩
    exact Sql.ListNumbers.cons hs ht

theorem listNumbered_each {α : Type} {f : α → Build Sql} {c : α → Nat} (items : List α)
    (h : ∀ a ∈ items, Numbered (c a) (f a)) :
    ListNumbered (items.map c).sum (each f items) := by
  induction items with
  | nil => exact listNumbered_pure_nil
  | cons a rest ih =>
    exact (h a List.mem_cons_self).cons (ih fun b hb => h b (List.mem_cons_of_mem _ hb))

theorem listNumbered_each_one {α : Type} {f : α → Build Sql} (items : List α)
    (h : ∀ a ∈ items, Numbered 1 (f a)) : ListNumbered items.length (each f items) := by
  have : ListNumbered (items.map fun _ => 1).sum (each f items) := listNumbered_each items h
  rwa [List.map_const', List.sum_replicate_nat, Nat.mul_one] at this

end Build
end StructuredSql
