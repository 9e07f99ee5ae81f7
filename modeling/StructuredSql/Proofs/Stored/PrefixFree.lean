-- No structured text is the beginning of another. A reader never looks past what it takes off a
-- text: with more behind the text, it takes off the same and leaves the rest with the more.
import StructuredSql.Stored.Structured

namespace StructuredSql.Structured

variable {s before after rest : List Char}

/-! ## Readers in front of more text -/

theorem until?_extend {stop : Char} (h : until? stop s = some (before, after))
    (more : List Char) : until? stop (s ++ more) = some (before, after ++ more) := by
  induction s generalizing before with
  | nil => cases h
  | cons c s ih =>
    rw [until?] at h
    rw [List.cons_append, until?]
    split at h
    · rename_i hc
      cases h
      rw [if_pos hc]
    · rename_i hc
      obtain ⟨⟨before', after'⟩, hrest, heq⟩ := Option.map_eq_some_iff.1 h
      cases heq
      rw [if_neg hc, ih hrest]
      rfl

theorem takeBytes?_extend {count : Nat} (h : takeBytes? count s = some (before, after))
    (more : List Char) : takeBytes? count (s ++ more) = some (before, after ++ more) := by
  fun_induction takeBytes? count s generalizing before with
  | case1 s =>
    cases h
    rw [takeBytes?]
  | case2 => cases h
  | case3 n c s hsize ih =>
    obtain ⟨⟨before', after'⟩, hrest, heq⟩ := Option.map_eq_some_iff.1 h
    cases heq
    rw [List.cons_append, takeBytes?, if_pos hsize, ih hrest]
    rfl
  | case4 => cases h

theorem string?_extend {v : Value} (h : string? s = some (v, rest)) (more : List Char) :
    string? (s ++ more) = some (v, rest ++ more) := by
  unfold string? at h ⊢
  simp only [Option.bind_eq_bind, Option.bind_eq_some_iff] at h ⊢
  obtain ⟨⟨digits, after⟩, huntil, count, hcount, h⟩ := h
  refine ⟨_, until?_extend huntil more, count, hcount, ?_⟩
  dsimp only at h
  split at h
  · obtain ⟨⟨text, last⟩, htake, h⟩ := Option.bind_eq_some_iff.1 h
    have hmore := takeBytes?_extend htake more
    split at h
    · rename_i heq
      cases heq
      cases h
      simp only [List.cons_append, hmore, Option.bind_some]
    · cases h
  · cases h

/-- The second reader takes off every longer text what the first takes off a text. -/
def Extends (inner outer : List Char → Option (Value × List Char)) : Prop :=
  ∀ {s rest v}, inner s = some (v, rest) → ∀ more, outer (s ++ more) = some (v, rest ++ more)

theorem entries?_extend {inner outer : List Char → Option (Value × List Char)}
    (hinner : Extends inner outer) {count : Nat} {pairs : List (Key × Value)}
    (h : entries? inner count s = some (pairs, rest)) (more : List Char) :
    entries? outer count (s ++ more) = some (pairs, rest ++ more) := by
  induction count generalizing s pairs with
  | zero =>
    cases h
    rfl
  | succ count ih =>
    unfold entries? at h ⊢
    simp only [Option.bind_eq_bind, Option.bind_eq_some_iff] at h ⊢
    obtain ⟨⟨k, s₁⟩, hk, key, hkey, ⟨v, s₂⟩, hv, ⟨others, s₃⟩, hothers, h⟩ := h
    cases h
    exact ⟨_, hinner hk more, key, hkey, _, hinner hv more, _, ih hothers, rfl⟩

/-! ## Values in front of more text -/

/-- A value that is read is read in front of more text too, when what stands inside of it is. -/
theorem value?_extend_of_inner {depth outer : Nat} {v : Value} (hdepth : depth ≤ outer)
    (hinner : ∀ inside outside, depth = inside + 1 → outer = outside + 1 →
      Extends (value? inside) (value? outside))
    (h : value? depth s = some (v, rest)) (more : List Char) :
    value? outer (s ++ more) = some (v, rest ++ more) := by
  unfold value? at h
  split at h
  · cases h
    rw [List.cons_append, List.cons_append, value?]
  · rw [List.cons_append, List.cons_append, value?]
    split at h
    · rename_i huntil
      cases h
      rw [until?_extend huntil more]
      rfl
    · rename_i huntil
      cases h
      rw [until?_extend huntil more]
      rfl
    · cases h
  · rw [List.cons_append, List.cons_append, value?]
    simp only [Option.bind_eq_bind, Option.bind_eq_some_iff] at h ⊢
    obtain ⟨⟨digits, after⟩, huntil, i, hi, h⟩ := h
    cases h
    exact ⟨_, until?_extend huntil more, i, hi, rfl⟩
  · rw [List.cons_append, List.cons_append, value?]
    simp only [Option.bind_eq_bind, Option.bind_eq_some_iff] at h ⊢
    obtain ⟨⟨digits, after⟩, huntil, x, hx, h⟩ := h
    cases h
    exact ⟨_, until?_extend huntil more, x, hx, rfl⟩
  · rw [List.cons_append, List.cons_append, value?]
    exact string?_extend h more
  · split at h
    · cases h
    · rename_i inside
      obtain ⟨outside, rfl⟩ : ∃ n, outer = n + 1 := ⟨outer - 1, by omega⟩
      rw [List.cons_append, List.cons_append, value?]
      simp only [Option.bind_eq_bind, Option.bind_eq_some_iff] at h ⊢
      obtain ⟨⟨digits, after⟩, huntil, count, hcount, h⟩ := h
      refine ⟨_, until?_extend huntil more, count, hcount, ?_⟩
      dsimp only at h
      split at h
      · obtain ⟨⟨pairs, last⟩, hpairs, h⟩ := Option.bind_eq_some_iff.1 h
        have hmore := entries?_extend (hinner inside outside rfl rfl) hpairs more
        split at h
        · rename_i heq
          cases heq
          cases h
          simp only [List.cons_append, hmore, Option.bind_some]
        · cases h
      · cases h
  · cases h

theorem value?_extend {depth outer : Nat} (hdepth : depth ≤ outer) :
    Extends (value? depth) (value? outer) := by
  induction depth generalizing outer with
  | zero =>
    intro s rest v h more
    exact value?_extend_of_inner hdepth (fun _ _ hinside => by cases hinside) h more
  | succ depth ih =>
    intro s rest v h more
    refine value?_extend_of_inner hdepth (fun inside outside hinside houtside => ?_) h more
    cases hinside
    cases houtside
    exact ih (Nat.le_of_succ_le_succ hdepth)

/-! ## Whole texts -/

theorem parse?_eq_some {text : String} {v : Value} :
    parse? text = some v ↔ value? text.toList.length text.toList = some (v, []) := by
  unfold parse?
  dsimp only
  split
  · rename_i hv
    rw [hv]
    simp
  · rename_i hnot
    refine iff_of_false (by simp) fun h => hnot v h

/-- What is read is read no longer with more behind it. -/
theorem parse?_append {text more : String} {v : Value} (h : parse? text = some v)
    (hmore : more ≠ "") : parse? (text ++ more) = none := by
  have hlength : text.toList.length ≤ (text ++ more).toList.length := by simp
  have hread := value?_extend hlength (parse?_eq_some.1 h) more.toList
  rw [← String.toList_append, List.nil_append] at hread
  rw [Option.eq_none_iff_forall_ne_some]
  intro w hw
  -- The reader would have to leave nothing behind, but it leaves what was put there.
  obtain ⟨-, hnil⟩ := Prod.mk.inj (Option.some.inj (hread.symm.trans (parse?_eq_some.1 hw)))
  exact hmore (String.toList_injective hnil)

/-- Of two texts that are read, none is the beginning of the other: what is read is read neither
with more behind it nor without its end. -/
theorem texts_are_prefix_free {text : String} {v : Value} (h : parse? text = some v) :
    (∀ more, more ≠ "" → parse? (text ++ more) = none) ∧
      ∀ less more, more ≠ "" → text = less ++ more → parse? less = none := by
  refine ⟨fun more hmore => parse?_append h hmore, ?_⟩
  rintro less more hmore rfl
  rw [Option.eq_none_iff_forall_ne_some]
  intro w hw
  rw [parse?_append hw hmore] at h
  cases h

/-- A list whose count and position are not written as they would be printed, and whose item
takes more octets than it has characters. -/
def looseList : String := "a:+01:\x7bi:-0;s:2:\"é\";\x7d"

theorem looseList_has_no_extension :
    parse? looseList = some (.array [.string "é"]) ∧ parse? (looseList ++ "N;") = none ∧
      parse? "a:+01:\x7bi:-0;s:2:\"é\";" = none := by
  have hread : parse? looseList = some (.array [.string "é"]) := by rfl
  obtain ⟨hlonger, hshorter⟩ := texts_are_prefix_free hread
  exact ⟨hread, hlonger "N;" (by decide), hshorter _ "\x7d" (by decide) (by decide)⟩

end StructuredSql.Structured
