-- The cells of rows: which column the key of a cell spells, and what the cell is bound to.
import StructuredSql.Proofs.Quote
import StructuredSql.Proofs.Value.Everywhere
import StructuredSql.Stored.Cell

namespace StructuredSql

namespace Cell

/-- The key is the column, or the column with the mark for JSON behind it. -/
def Spells (key column : String) : Prop :=
  key = column ∨ Name.Marked jsonMarker.toList column.toList key.toList

theorem beforeTail?_eq_some {tail s before : List Char} :
    beforeTail? tail s = some before ↔ s = before ++ tail := by
  unfold beforeTail?
  simp only [List.isPrefixOf_iff_prefix, List.reverse_prefix]
  constructor
  · intro h
    split at h
    · rename_i htail
      obtain ⟨front, rfl⟩ := htail
      simpa using h
    · cases h
  · rintro rfl
    simp

/-- The column of a key is the one that the key spells. -/
theorem spells_iff {key name : String} (h : Name.IsReference name.toList) :
    Spells key name ↔ column key = name := by
  unfold Spells column
  rw [Name.marked_iff h]
  cases hkey : beforeTail? jsonMarker.toList key.toList with
  | none =>
    constructor
    · rintro (hname | ⟨before, hbefore, -⟩)
      · exact hname
      · rw [beforeTail?_eq_some.2 hbefore] at hkey
        cases hkey
    · exact Or.inl
  | some before =>
    have hbefore := beforeTail?_eq_some.1 hkey
    dsimp only
    constructor
    · rintro (rfl | ⟨before', hbefore', htrim⟩)
      · -- A mark ends in a bracket, and no name does.
        have hlast := h.isPart_last ']' (by rw [hbefore]; simp [jsonMarker])
        exact absurd hlast (by decide)
      · rw [hbefore] at hbefore'
        rw [List.append_cancel_right hbefore', htrim, String.ofList_toList]
    · rintro rfl
      exact Or.inr ⟨before, hbefore, by simp⟩

/-- The two keys spell one column. -/
def Meet (key other : String) : Prop :=
  ∃ name : String, Name.IsReference name.toList ∧ Spells key name ∧ Spells other name

theorem meet_iff {key other : String} (h : Name.IsReference (column key).toList) :
    Meet key other ↔ column key = column other := by
  constructor
  · rintro ⟨name, hname, hkey, hother⟩
    rw [(spells_iff hname).1 hkey, (spells_iff hname).1 hother]
  · intro heq
    exact ⟨column key, h, (spells_iff h).2 rfl, (spells_iff h).2 heq.symm⟩

/-- What a stored cell is bound to: a scalar under its own kind, a container as one text. -/
def param (key : String) (v : Value) : Param :=
  if v.isContainer then ⟨.string (encode key v), .string⟩ else .natural v

theorem store_eq (key : String) {v : Value} (h : v.isRaw = false) :
    store key v = Build.placeholder (param key v) := by
  cases v with
  | raw fragment => cases h
  | _ => rfl

end Cell
end StructuredSql
