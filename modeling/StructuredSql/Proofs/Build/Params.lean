-- The bindings of a whole run, and what becomes of them when they are put into one map.
-- Placeholders have keys that differ. The last binding under a key wins, so a run keeps all
-- of them exactly when no two of them disagree.
import StructuredSql.Proofs.Build.Basic
import StructuredSql.Proofs.Entries
import StructuredSql.Proofs.Text.Numeral
import Mathlib.Data.List.Nodup
import Mathlib.Data.List.Range

namespace StructuredSql

/-! ## Keys of placeholders -/

theorem placeholderKey_injective : Function.Injective placeholderKey := by
  intro n m h
  have hchars := congrArg String.toList h
  simp only [placeholderKey, String.toList_append, List.append_cancel_left_eq] at hchars
  exact Text.natRepr_injective (String.toList_inj.1 hchars)

theorem nodup_placeholderKeys (n k : Nat) : ((List.range' n k).map placeholderKey).Nodup :=
  (List.nodup_range' ).map placeholderKey_injective

namespace Binding

theorem keys_entriesFrom {bound : List Binding} (h : ∀ b ∈ bound, b.isFresh = true) (n : Nat) :
    Entries.keys (entriesFrom n bound) = (List.range' n bound.length).map placeholderKey := by
  induction bound generalizing n with
  | nil => rfl
  | cons b rest ih =>
    have hrest := ih (fun c hc => h c (List.mem_cons_of_mem _ hc)) (n + 1)
    cases b with
    | given key param => exact absurd (h _ List.mem_cons_self) (by simp [isFresh])
    | fresh param =>
      simp only [entriesFrom, Entries.keys, List.map_cons, List.length_cons, List.range'_succ]
      exact congrArg (placeholderKey n :: ·) hrest

/-- A run without fragments binds its placeholders and nothing else. -/
theorem keys_params {bound : List Binding} (h : ∀ b ∈ bound, b.isFresh = true) :
    Entries.keys (params bound) = (List.range bound.length).map placeholderKey := by
  have hkeys := keys_entriesFrom h 0
  unfold params
  rw [Entries.ofPairs_of_nodup (hkeys ▸ nodup_placeholderKeys 0 _), hkeys, List.range_eq_range']

/-! ## The bindings of a run -/

/-- What the placeholders are bound to, in the order of their numbers. -/
def placed (bound : List Binding) : List Param :=
  bound.filterMap fun
    | fresh param => some param
    | given _ _ => none

/-- Every placeholder and every binding of a fragment has its own value and kind. -/
structure Kept (bound : List Binding) (params : Params) : Prop where
  placeholders : ∀ i param, (placed bound)[i]? = some param →
    Entries.get? params (placeholderKey i) = some param
  fragments : ∀ key param, given key param ∈ bound → Entries.get? params key = some param

/-- No fragment disagrees with a placeholder or with another fragment. -/
structure NoConflict (bound : List Binding) : Prop where
  placeholders : ∀ i param other, (placed bound)[i]? = some param →
    given (placeholderKey i) other ∈ bound → other = param
  fragments : ∀ key param other, given key param ∈ bound → given key other ∈ bound →
    other = param

/-- The bindings under their keys are the placeholders and those of the fragments. -/
theorem mem_entriesFrom {bound : List Binding} {n : Nat} {key : String} {param : Param} :
    (key, param) ∈ entriesFrom n bound ↔
      (∃ i, key = placeholderKey (n + i) ∧ (placed bound)[i]? = some param) ∨
        given key param ∈ bound := by
  induction bound generalizing n with
  | nil => simp [entriesFrom, placed]
  | cons b rest ih =>
    cases b with
    | fresh first =>
      have hplaced : placed (fresh first :: rest) = first :: placed rest := rfl
      simp only [entriesFrom, List.mem_cons, Prod.mk.injEq, ih, hplaced, reduceCtorEq, false_or]
      constructor
      · rintro (⟨rfl, rfl⟩ | ⟨i, rfl, hi⟩ | hg)
        · exact Or.inl ⟨0, rfl, rfl⟩
        · exact Or.inl ⟨i + 1, by rw [Nat.add_right_comm, Nat.add_assoc], hi⟩
        · exact Or.inr hg
      · rintro (⟨i, rfl, hi⟩ | hg)
        · cases i with
          | zero => exact Or.inl ⟨rfl, (Option.some.inj hi).symm⟩
          | succ i => exact Or.inr (Or.inl ⟨i, by rw [Nat.add_right_comm, Nat.add_assoc], hi⟩)
        · exact Or.inr (Or.inr hg)
    | given key' other =>
      have hplaced : placed (given key' other :: rest) = placed rest := rfl
      simp only [entriesFrom, List.mem_cons, Prod.mk.injEq, ih, hplaced, given.injEq]
      constructor
      · rintro (h | h | h)
        · exact Or.inr (Or.inl h)
        · exact Or.inl h
        · exact Or.inr (Or.inr h)
      · rintro (h | h | h)
        · exact Or.inr (Or.inl h)
        · exact Or.inl h
        · exact Or.inr (Or.inr h)

/-- A run keeps its bindings exactly when no fragment disagrees with a placeholder or
with another fragment; placeholders never disagree with each other. -/
theorem kept_params_iff (bound : List Binding) : Kept bound (params bound) ↔ NoConflict bound := by
  have hentries : ∀ {key param}, (key, param) ∈ entriesFrom 0 bound ↔
      (∃ i, key = placeholderKey i ∧ (placed bound)[i]? = some param) ∨
        given key param ∈ bound := by
    intro key param
    have hmem : (key, param) ∈ entriesFrom 0 bound ↔
        (∃ i, key = placeholderKey (0 + i) ∧ (placed bound)[i]? = some param) ∨
          given key param ∈ bound := mem_entriesFrom
    simpa using hmem
  have hfound := Entries.get?_ofPairs_iff (entriesFrom 0 bound)
  constructor
  · intro h
    refine ⟨fun i param other hp hg => ?_, fun key param other hp hg => ?_⟩
    · exact Option.some.inj ((h.fragments _ _ hg).symm.trans (h.placeholders i param hp))
    · exact Option.some.inj ((h.fragments _ _ hg).symm.trans (h.fragments _ _ hp))
  · intro h
    have hall := hfound.2 ?_
    · refine ⟨fun i param hp => hall (placeholderKey i, param) (hentries.2 (Or.inl ⟨i, rfl, hp⟩)),
        fun key param hg => hall (key, param) (hentries.2 (Or.inr hg))⟩
    · rintro ⟨key, param⟩ he ⟨key', other⟩ hf rfl
      rcases hentries.1 he with ⟨i, rfl, hi⟩ | hgiven
      · rcases hentries.1 hf with ⟨j, hj, hj'⟩ | hgiven'
        · rw [← placeholderKey_injective hj, hi] at hj'
          exact Option.some.inj hj'
        · exact (h.placeholders i param other hi hgiven').symm
      · rcases hentries.1 hf with ⟨j, rfl, hj⟩ | hgiven'
        · exact h.placeholders j other param hj hgiven
        · exact (h.fragments key param other hgiven hgiven').symm

/-- Placeholders alone are all kept, each under its number. -/
theorem get?_params_fresh {values : List Param} {i : Nat} {param : Param}
    (h : values[i]? = some param) :
    Entries.get? (params (values.map fresh)) (placeholderKey i) = some param := by
  have hnone : ∀ key other, given key other ∉ values.map fresh := by simp
  refine ((kept_params_iff _).2 ⟨?_, ?_⟩).placeholders i param ?_
  · intro i param other _ hgiven
    exact absurd hgiven (hnone _ _)
  · intro key param other hgiven
    exact absurd hgiven (hnone _ _)
  · simpa [placed, List.filterMap_map, Function.comp_def] using h

theorem keys_params_fresh (values : List Param) :
    Entries.keys (params (values.map fresh)) = (List.range values.length).map placeholderKey := by
  rw [keys_params (by simp [isFresh]), List.length_map]

end Binding

/-! ## Builds of one width -/

namespace Build

/-- Builds that bind equally many values each: every one starts behind those before it. -/
theorem each_uniform {α : Type} {f : α → Build Sql} {made : Nat → Sql}
    {bound : α → List Binding} {width : Nat} (items : List α)
    (hf : ∀ a ∈ items, ∀ n, f a n = .ok (made n, bound a))
    (hw : ∀ a ∈ items, Binding.countFresh (bound a) = width) (n : Nat) :
    each f items n =
      .ok ((List.range items.length).map fun i => made (n + i * width), items.flatMap bound) := by
  induction items generalizing n with
  | nil => rfl
  | cons a rest ih =>
    have hrest := ih (fun b hb => hf b (List.mem_cons_of_mem a hb))
      (fun b hb => hw b (List.mem_cons_of_mem a hb)) (n + width)
    have hfirst := hf a List.mem_cons_self n
    refine bind_eq_ok.2 ⟨made n, bound a, rest.flatMap bound, hfirst, ?_, by simp⟩
    rw [hw a List.mem_cons_self]
    refine bind_eq_ok.2 ⟨_, _, [], hrest, pure_eq_ok.2 ⟨?_, rfl⟩, by simp⟩
    rw [List.length_cons, List.range_succ_eq_map, List.map_cons, List.map_map]
    simp [Function.comp_def, Nat.succ_mul, Nat.add_assoc, Nat.add_comm width]

end Build
end StructuredSql
