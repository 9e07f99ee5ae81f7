-- Condition trees with their bound values blanked out. The text of a tree and the
-- places at which it binds are those of the blank one, so they tell nothing about the
-- values.
import StructuredSql.Proofs.Build.Agree
import StructuredSql.Proofs.Build.Results
import StructuredSql.Condition.Tree

namespace StructuredSql

open Build (Agree)

/-! ## Blank values -/

namespace Blank

/-- A scalar that stands for any other. -/
def standIn : Value := .bool true

/-- A scalar under a key is bound, but a null may be written out. -/
def scalar : Value → Value
  | .null => .null
  | .array items => .array items
  | .object fields => .object fields
  | .raw fragment => .raw fragment
  | _ => standIn

/-- In a list a null is bound like other scalars. -/
def item (v : Value) : Value := if v.isContainer || v.isRaw then v else standIn

/-- The value of a condition: one scalar, a list of them, or a list of patterns under
the word that joins them. -/
def underKey : Value → Value
  | .array items => .array (items.map item)
  | .object [(word, .array items)] => .object [(word, .array (items.map item))]
  | v => scalar v

mutual

def inGroup : Value → Value
  | .object group => .object (inEntries group)
  | .array items => .array (inItems items)
  | v => v
termination_by structural v => v

/-- The entries of a group: their keys, and what opens a group in its turn. -/
def inEntries : List (String × Value) → List (String × Value)
  | [] => []
  | (key, v) :: rest =>
    (key, if (ConditionKey.group? key).isSome && v.isContainer then inGroup v else underKey v)
      :: inEntries rest
termination_by structural entries => entries

/-- A text in a list is a key, not a value. -/
def inItems : List Value → List Value
  | [] => []
  | v :: rest => (if v.isContainer then inGroup v else v) :: inItems rest
termination_by structural items => items

end

/-- A map stays a map. -/
theorem underKey_object (fields : Fields) : ∃ group, underKey (.object fields) = .object group := by
  unfold underKey
  split
  · rename_i h
    cases h
  · exact ⟨_, rfl⟩
  · exact ⟨fields, rfl⟩

theorem underKey_isContainer (v : Value) : (underKey v).isContainer = v.isContainer := by
  cases v with
  | object fields =>
    obtain ⟨group, hgroup⟩ := underKey_object fields
    rw [hgroup]
    rfl
  | _ => rfl

theorem inGroup_isContainer (v : Value) : (inGroup v).isContainer = v.isContainer := by
  cases v <;> rfl

theorem item_of_bound {v : Value} (h : (v.isContainer || v.isRaw) = false) :
    item v = standIn := by
  simp [item, h]

theorem item_of_not_bound {v : Value} (h : (v.isContainer || v.isRaw) = true) : item v = v := by
  simp [item, h]

end Blank

/-! ## Bound scalars -/

namespace Build

theorem IsPlaceholder.agree {x y : Build Sql} (hx : IsPlaceholder x) (hy : IsPlaceholder y) :
    Agree x y := by
  obtain ⟨p, rfl⟩ := hx
  obtain ⟨q, rfl⟩ := hy
  exact agree_placeholder p q

theorem agree_scalar (v : Value) : Agree (scalar v) (scalar (Blank.item v)) := by
  cases h : v.isContainer || v.isRaw with
  | true =>
    rw [Blank.item_of_not_bound h]
    exact .refl _
  | false =>
    rw [Blank.item_of_bound h]
    exact (isPlaceholder_scalar h).agree ⟨_, rfl⟩

end Build

/-! ## One condition -/

namespace Condition

variable (column : ColumnName)

theorem equality_agree (negated : Bool) (v : Value) :
    Agree (equality column negated v) (equality column negated (Blank.underKey v)) := by
  cases v with
  | array items =>
    simp only [equality, Blank.underKey, List.isEmpty_map]
    split
    · exact .refl _
    · exact (Build.agree_each Blank.item items fun v _ => Build.agree_scalar v).map _
  | object fields =>
    obtain ⟨group, hgroup⟩ := Blank.underKey_object fields
    rw [hgroup]
    exact .refl _
  | null => exact .refl _
  | raw fragment => exact .refl _
  | bool b => exact (Build.agree_placeholder _ _).map _
  | int i => exact (Build.agree_placeholder _ _).map _
  | float x => exact (Build.agree_placeholder _ _).map _
  | string s => exact (Build.agree_placeholder _ _).map _
  | bytes bs => exact (Build.agree_placeholder _ _).map _

theorem isPlaceholder_comparand {v : Value} (h : (v.isContainer || v.isRaw) = false) :
    Build.IsPlaceholder (comparand column v) := by
  unfold comparand
  split
  · cases h
  · cases h
  · cases h
  · split
    · exact Build.isPlaceholder_number _
    · exact Build.isPlaceholder_scalar h

theorem comparand_agree (v : Value) :
    Agree (comparand column v) (comparand column (Blank.underKey v)) := by
  cases v with
  | array items => exact Build.agree_fail _ _
  | object fields =>
    obtain ⟨group, hgroup⟩ := Blank.underKey_object fields
    rw [hgroup]
    exact .refl _
  | null => exact .refl _
  | raw fragment => exact .refl _
  | _ => exact (isPlaceholder_comparand column rfl).agree (isPlaceholder_comparand column rfl)

/-- Lists of patterns that are blanked one by one. -/
theorem like_agree_of_patterns (negated : Bool) {v w : Value} {conjunction : Conjunction}
    {items : List Value} (hv : likePatterns? v = some (conjunction, items))
    (hw : likePatterns? w = some (conjunction, items.map Blank.item)) :
    Agree (like column negated v) (like column negated w) := by
  unfold like
  rw [hv, hw]
  cases items with
  | nil => exact .refl _
  | cons first rest =>
    refine (Build.agree_each Blank.item (first :: rest) fun item _ => ?_).map _
    cases h : item.isContainer || item.isRaw with
    | true =>
      rw [Blank.item_of_not_bound h, h]
      exact .refl _
    | false =>
      rw [Blank.item_of_bound h]
      exact (Build.agree_placeholder _ _).map _

theorem like_agree (negated : Bool) (v : Value) :
    Agree (like column negated v) (like column negated (Blank.underKey v)) := by
  cases v with
  | array items => exact like_agree_of_patterns column negated rfl rfl
  | object fields =>
    unfold Blank.underKey
    split
    · rename_i h
      cases h
    · rename_i word items h
      cases h
      by_cases ha : word = "AND"
      · subst ha
        exact like_agree_of_patterns column negated rfl rfl
      · by_cases ho : word = "OR"
        · subst ho
          exact like_agree_of_patterns column negated rfl rfl
        · have hnone : ∀ vs, likePatterns? (.object [(word, .array vs)]) = none := by
            intro vs
            simp [likePatterns?, ha, ho]
          unfold like
          rw [hnone, hnone]
          exact Build.agree_fail _ _
    · exact .refl _
  | null => exact .refl _
  | raw fragment => exact .refl _
  | bool b => exact like_agree_of_patterns column negated rfl rfl
  | int i => exact like_agree_of_patterns column negated rfl rfl
  | float x => exact like_agree_of_patterns column negated rfl rfl
  | string s => exact like_agree_of_patterns column negated rfl rfl
  | bytes bs => exact like_agree_of_patterns column negated rfl rfl

/-- Two bounds that are bound make two placeholders, as numbers or as texts. -/
theorem bounds_eq {low high : Value} (hl : (low.isContainer || low.isRaw) = false)
    (hh : (high.isContainer || high.isRaw) = false) :
    ∃ p q, bounds column low high =
      (do return (← Build.placeholder p, ← Build.placeholder q)) := by
  obtain ⟨hlc, hlr⟩ := Bool.or_eq_false_iff.1 hl
  obtain ⟨hhc, hhr⟩ := Bool.or_eq_false_iff.1 hh
  unfold bounds
  split
  · cases hl
  · split
    · obtain ⟨p, hp⟩ := Build.isPlaceholder_number low
      obtain ⟨q, hq⟩ := Build.isPlaceholder_number high
      exact ⟨p, q, by rw [hp, hq]⟩
    · rw [hlc, hhc, hlr, hhr]
      exact ⟨_, _, rfl⟩

theorem isNumeric_of_not_bound {v : Value} (h : (v.isContainer || v.isRaw) = true) :
    v.isNumeric = false := by
  cases v with
  | array items => rfl
  | object fields => rfl
  | raw fragment => rfl
  | _ => cases h

/-- A bound that is bound stands by no other. -/
theorem bounds_refused {low high : Value}
    (h : (low.isContainer || low.isRaw) ≠ (high.isContainer || high.isRaw)) :
    bounds column low high = Build.fail (.betweenBounds column) := by
  unfold bounds
  split
  · exact absurd rfl h
  · have hnumeric : (low.isNumeric && high.isNumeric) = false := by
      cases hl : low.isContainer || low.isRaw with
      | true => rw [isNumeric_of_not_bound hl, Bool.false_and]
      | false =>
        have hh : (high.isContainer || high.isRaw) = true := by
          rw [hl] at h
          exact Bool.not_eq_false _ ▸ Ne.symm h
        rw [isNumeric_of_not_bound hh, Bool.and_false]
    have hmixed : (low.isContainer || high.isContainer || low.isRaw || high.isRaw) = true := by
      revert h
      cases low.isContainer <;> cases low.isRaw <;> cases high.isContainer <;>
        cases high.isRaw <;> decide
    rw [hnumeric, hmixed]
    rfl

theorem bounds_agree (low high : Value) :
    Agree (bounds column low high) (bounds column (Blank.item low) (Blank.item high)) := by
  have hstand : (Blank.standIn.isContainer || Blank.standIn.isRaw) = false := rfl
  cases hl : low.isContainer || low.isRaw with
  | true =>
    rw [Blank.item_of_not_bound hl]
    cases hh : high.isContainer || high.isRaw with
    | true =>
      rw [Blank.item_of_not_bound hh]
      exact .refl _
    | false =>
      rw [Blank.item_of_bound hh, bounds_refused column (by rw [hl, hh]; decide),
        bounds_refused column (by rw [hl, hstand]; decide)]
      exact .refl _
  | false =>
    rw [Blank.item_of_bound hl]
    cases hh : high.isContainer || high.isRaw with
    | true =>
      rw [Blank.item_of_not_bound hh, bounds_refused column (by rw [hl, hh]; decide),
        bounds_refused column (by rw [hh, hstand]; decide)]
      exact .refl _
    | false =>
      rw [Blank.item_of_bound hh]
      obtain ⟨p, q, hbounds⟩ := bounds_eq column hl hh
      obtain ⟨p', q', hstands⟩ := bounds_eq column hstand hstand
      rw [hbounds, hstands]
      exact (Build.agree_placeholder p p').bind fun _ => (Build.agree_placeholder q q').map _

theorem between_agree (negated : Bool) (v : Value) :
    Agree (between column negated v) (between column negated (Blank.underKey v)) := by
  cases v with
  | array items =>
    match items with
    | [low, high] => exact (bounds_agree column low high).map _
    | [] => exact .refl _
    | [_] => exact .refl _
    | _ :: _ :: _ :: _ => exact .refl _
  | object fields =>
    obtain ⟨group, hgroup⟩ := Blank.underKey_object fields
    rw [hgroup]
    exact .refl _
  | _ => exact .refl _

theorem regexp_agree (v : Value) :
    Agree (regexp column v) (regexp column (Blank.underKey v)) := by
  cases v with
  | object fields =>
    obtain ⟨group, hgroup⟩ := Blank.underKey_object fields
    rw [hgroup]
    exact .refl _
  | array items => exact .refl _
  | null => exact .refl _
  | raw fragment => exact .refl _
  | _ => exact (Build.agree_placeholder _ _).map _

theorem ask_agree (op : Operator) (v : Value) :
    Agree (ask column op v) (ask column op (Blank.underKey v)) := by
  cases op with
  | equal negated => exact equality_agree column negated v
  | order o => exact (comparand_agree column v).map _
  | like negated => exact like_agree column negated v
  | between negated => exact between_agree column negated v
  | regexp => exact regexp_agree column v

theorem single_agree (key : String) (v : Value) :
    Agree (single key v) (single key (Blank.underKey v)) := by
  refine (Agree.refl _).bind fun k => ?_
  cases k with
  | value column op => exact ask_agree column op v
  | columns left sign right => exact .refl _

/-! ## Groups -/

theorem grouped_agree (conjunction : Conjunction) {parts others : Build (List Sql)}
    (h : Agree parts others) : Agree (grouped conjunction parts) (grouped conjunction others) :=
  h.map _

mutual

theorem inside_agree : (v : Value) → Agree (inside v) (inside (Blank.inGroup v))
  | .object group => entries_agree group
  | .array items => listed_agree items
  | .null | .bool _ | .int _ | .float _ | .string _ | .bytes _ | .raw _ => .refl _
termination_by structural v => v

theorem entries_agree : (group : List (String × Value)) →
    Agree (entries group) (entries (Blank.inEntries group))
  | [] => .refl _
  | (key, v) :: rest => by
    refine Agree.cons ?_ (entries_agree rest)
    have hinside := inside_agree v
    cases hg : ConditionKey.group? key with
    | none => exact single_agree key v
    | some conjunction =>
      cases hc : v.isContainer with
      | false =>
        simp only [Option.isSome_some, Bool.and_false, Bool.false_eq_true, if_false,
          Blank.underKey_isContainer, hc]
        exact single_agree key v
      | true =>
        simp only [Option.isSome_some, Bool.and_true, if_true, Blank.inGroup_isContainer, hc]
        exact grouped_agree conjunction hinside
termination_by structural group => group

theorem listed_agree : (items : List Value) →
    Agree (listed items) (listed (Blank.inItems items))
  | [] => .refl _
  | .object group :: rest =>
    Agree.cons (grouped_agree .and (entries_agree group)) (listed_agree rest)
  | .array _ :: rest => Agree.cons (Build.agree_fail _ _) (listed_agree rest)
  | .string _ :: rest | .raw _ :: rest | .null :: rest | .bool _ :: rest | .int _ :: rest
  | .float _ :: rest | .bytes _ :: rest => Agree.cons (.refl _) (listed_agree rest)
termination_by structural items => items

end

theorem tree_agree (conjunction : Conjunction) (fields : Fields) :
    Agree (tree conjunction fields) (tree conjunction (Blank.inEntries fields)) :=
  (entries_agree fields).map _

end Condition
end StructuredSql
