-- Entries under text keys: what an insertion leaves under the other keys, and which
-- of several pairs under one key is found in the end.
import StructuredSql.Entries
import Mathlib.Data.List.Induction
import Mathlib.Data.List.Nodup

namespace StructuredSql.Entries

variable {α : Type}

/-! ## Look-ups -/

theorem get?_insert (entries : Entries α) (key : String) (a : α) (other : String) :
    get? (insert entries key a) other = if key = other then some a else get? entries other := by
  induction entries with
  | nil => rfl
  | cons e rest ih =>
    obtain ⟨k, b⟩ := e
    by_cases hk : k = key
    · subst hk
      simp only [insert, if_true, get?]
      split <;> rfl
    · simp only [insert, if_neg hk, get?, ih]
      by_cases ho : k = other
      · subst ho
        simp [Ne.symm hk]
      · simp [ho]

theorem mem_of_get? {entries : Entries α} {key : String} {a : α}
    (h : get? entries key = some a) : (key, a) ∈ entries := by
  induction entries with
  | nil => cases h
  | cons e rest ih =>
    simp only [get?] at h
    split at h
    · rename_i hk
      cases h
      exact hk ▸ List.mem_cons_self
    · exact List.mem_cons_of_mem _ (ih h)

theorem get?_of_mem {entries : Entries α} {key : String} {a : α} (h : (key, a) ∈ entries) :
    ∃ b, get? entries key = some b := by
  induction entries with
  | nil => cases h
  | cons e rest ih =>
    simp only [get?]
    split
    · exact ⟨_, rfl⟩
    · rename_i hk
      rcases List.mem_cons.1 h with rfl | h
      · exact absurd rfl hk
      · exact ih h

theorem get?_of_notMem {entries : Entries α} {key : String} (h : key ∉ keys entries) :
    get? entries key = none := by
  rcases hget : get? entries key with _ | a
  · rfl
  · exact absurd (List.mem_map.2 ⟨_, mem_of_get? hget, rfl⟩) h

theorem mem_iff_get? {entries : Entries α} (h : Distinct entries) (key : String) (a : α) :
    (key, a) ∈ entries ↔ get? entries key = some a := by
  constructor
  · intro hmem
    induction entries with
    | nil => cases hmem
    | cons e rest ih =>
      obtain ⟨hnew, hrest⟩ := List.nodup_cons.1 h
      simp only [get?]
      rcases List.mem_cons.1 hmem with rfl | hmem
      · exact if_pos rfl
      · rw [if_neg fun hk => hnew (List.mem_map.2 ⟨(key, a), hmem, hk.symm⟩)]
        exact ih hrest hmem
  · exact mem_of_get?

/-- The order of the entries does not matter to a look-up, as long as no key stands twice. -/
theorem get?_perm {entries others : Entries α} (h : Distinct entries) (hperm : entries.Perm others)
    (key : String) : get? entries key = get? others key := by
  have h' : Distinct others := (hperm.map Prod.fst).nodup_iff.1 h
  ext a
  rw [← mem_iff_get? h, ← mem_iff_get? h', hperm.mem_iff]

/-- Entries that no look-up tells apart are the same, up to their order. -/
theorem perm_of_get? {entries others : Entries α} (h : Distinct entries) (h' : Distinct others)
    (hget : ∀ key, get? entries key = get? others key) : entries.Perm others := by
  refine (List.perm_ext_iff_of_nodup (List.Nodup.of_map _ h) (List.Nodup.of_map _ h')).2 fun e => ?_
  rw [mem_iff_get? h e.1 e.2, mem_iff_get? h' e.1 e.2, hget]

theorem content_of_mem_insert {entries : Entries α} {key : String} {a : α} {e : String × α}
    (h : e ∈ insert entries key a) : e ∈ entries ∨ e.2 = a := by
  induction entries with
  | nil =>
    rw [List.mem_singleton.1 h]
    exact Or.inr rfl
  | cons f rest ih =>
    obtain ⟨k, b⟩ := f
    simp only [insert] at h
    split at h
    · rcases List.mem_cons.1 h with rfl | h
      · exact Or.inr rfl
      · exact Or.inl (List.mem_cons_of_mem _ h)
    · rcases List.mem_cons.1 h with rfl | h
      · exact Or.inl List.mem_cons_self
      · rcases ih h with h | h
        · exact Or.inl (List.mem_cons_of_mem _ h)
        · exact Or.inr h

/-! ## Pairs put into one map -/

theorem insert_of_notMem {entries : Entries α} {key : String} (h : key ∉ keys entries) (a : α) :
    insert entries key a = entries ++ [(key, a)] := by
  induction entries with
  | nil => rfl
  | cons e rest ih =>
    obtain ⟨k, b⟩ := e
    simp only [keys, List.map_cons, List.mem_cons, not_or] at h
    simp only [insert, if_neg (Ne.symm h.1), ih h.2, List.cons_append]

theorem extend_of_nodup {entries more : Entries α} (h : (keys (entries ++ more)).Nodup) :
    extend entries more = entries ++ more := by
  induction more generalizing entries with
  | nil => exact (List.append_nil _).symm
  | cons e rest ih =>
    have hnew : e.1 ∉ keys entries := by
      intro hm
      have hdisjoint := (List.nodup_append.1 (by simpa [keys] using h)).2.2
      exact hdisjoint e.1 hm e.1 List.mem_cons_self rfl
    show extend (insert entries e.1 e.2) rest = _
    rw [insert_of_notMem hnew, ih (by simpa using h), List.append_assoc]
    rfl

/-- Pairs under different keys are entries as they stand. -/
theorem ofPairs_of_nodup {pairs : Entries α} (h : (keys pairs).Nodup) : ofPairs pairs = pairs := by
  unfold ofPairs
  rw [extend_of_nodup (by simpa using h), List.nil_append]

theorem ofPairs_concat (pairs : List (String × α)) (e : String × α) :
    ofPairs (pairs ++ [e]) = insert (ofPairs pairs) e.1 e.2 := by
  simp [ofPairs, extend]

/-- The keys stand in the order in which they first came. -/
theorem keys_ofPairs (pairs : List (String × α)) :
    keys (ofPairs pairs) = (keys pairs).eraseDups := by
  induction pairs using List.reverseRecOn with
  | nil => rfl
  | append_singleton rest e ih =>
    have hlast : keys (rest ++ [e]) = keys rest ++ [e.1] := List.map_append
    rw [ofPairs_concat, keys_insert, ih, hlast, List.eraseDups_append]
    by_cases he : e.1 ∈ keys rest
    · rw [if_pos (List.mem_eraseDups.2 he)]
      simp [List.removeAll, he]
    · rw [if_neg (mt List.mem_eraseDups.1 he)]
      simp [List.removeAll, he, List.eraseDups_cons]

/-- The last of the pairs under a key is the content. -/
theorem get?_ofPairs (pairs : List (String × α)) (key : String) :
    get? (ofPairs pairs) key = get? pairs.reverse key := by
  induction pairs using List.reverseRecOn with
  | nil => rfl
  | append_singleton rest e ih =>
    rw [ofPairs_concat, get?_insert, ih, List.reverse_append]
    rfl

theorem get?_eq_find? (entries : Entries α) (key : String) :
    get? entries key = (entries.find? fun e => e.1 == key).map (·.2) := by
  induction entries with
  | nil => rfl
  | cons e rest ih =>
    rw [get?, ih, List.find?_cons]
    by_cases he : e.1 = key
    · rw [if_pos he, beq_iff_eq.2 he]
      rfl
    · rw [if_neg he, beq_false_of_ne he]

/-- Every pair is found in the map exactly when no two of them disagree. -/
theorem get?_ofPairs_iff (pairs : List (String × α)) :
    (∀ e ∈ pairs, get? (ofPairs pairs) e.1 = some e.2) ↔
      ∀ e ∈ pairs, ∀ f ∈ pairs, e.1 = f.1 → e.2 = f.2 := by
  constructor
  · intro h e he f hf hkey
    have hboth := (h e he).symm.trans (hkey ▸ h f hf)
    exact Option.some.inj hboth
  · intro h e he
    rw [get?_ofPairs]
    obtain ⟨a, ha⟩ := get?_of_mem (show (e.1, e.2) ∈ pairs.reverse from List.mem_reverse.2 he)
    have hmem := List.mem_reverse.1 (mem_of_get? ha)
    rw [ha, h e he (e.1, a) hmem rfl]

theorem keys_extend_congr {β : Type} {as : Entries α} {bs : Entries β}
    {more : Entries α} {others : Entries β} (h : keys as = keys bs)
    (h' : keys more = keys others) : keys (extend as more) = keys (extend bs others) := by
  induction more generalizing as bs others with
  | nil =>
    have hothers : others = [] := List.map_eq_nil_iff.1 h'.symm
    rw [hothers]
    exact h
  | cons e rest ih =>
    cases others with
    | nil => cases h'
    | cons f more =>
      obtain ⟨hkey, hrest⟩ := List.cons.inj h'
      have hinsert : keys (insert as e.1 e.2) = keys (insert bs f.1 f.2) := by
        rw [keys_insert, keys_insert, h, show e.1 = f.1 from hkey]
      show keys (extend (insert as e.1 e.2) rest) = keys (extend (insert bs f.1 f.2) more)
      exact ih hinsert hrest

/-! ## Contents that are changed -/

/-- Every content changed, under its key. -/
def alter (m : String → α → α) (entries : Entries α) : Entries α :=
  entries.map fun e => (e.1, m e.1 e.2)

theorem get?_alter (m : String → α → α) (entries : Entries α) (key : String) :
    get? (alter m entries) key = (get? entries key).map (m key) := by
  induction entries with
  | nil => rfl
  | cons e rest ih =>
    simp only [alter, List.map_cons, get?] at ih ⊢
    split
    · rename_i hk
      rw [hk]
      rfl
    · exact ih

theorem insert_alter (m : String → α → α) (entries : Entries α) (key : String) (a : α) :
    insert (alter m entries) key (m key a) = alter m (insert entries key a) := by
  induction entries with
  | nil => rfl
  | cons e rest ih =>
    obtain ⟨k, b⟩ := e
    simp only [alter, List.map_cons, insert] at ih ⊢
    split
    · rename_i hk
      subst hk
      rfl
    · rw [ih]
      rfl

theorem keys_alter (m : String → α → α) (entries : Entries α) :
    keys (alter m entries) = keys entries := by
  simp [keys, alter]

end StructuredSql.Entries
