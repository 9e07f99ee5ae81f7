-- Entries under text keys, in the order in which the keys first came. A key
-- that is written again keeps its place and takes the new content.

namespace StructuredSql

/-- Entries in insertion order. -/
abbrev Entries (α : Type) := List (String × α)

namespace Entries

variable {α : Type}

def keys (entries : Entries α) : List String := entries.map (·.1)

def contents (entries : Entries α) : List α := entries.map (·.2)

/-- The content of the first entry under the key. -/
def get? (entries : Entries α) (key : String) : Option α :=
  match entries with
  | [] => none
  | (k, a) :: rest => if k = key then some a else get? rest key

def contains (entries : Entries α) (key : String) : Bool := (get? entries key).isSome

/-- The key takes the content: in its place, or at the end when it is new. -/
def insert (entries : Entries α) (key : String) (a : α) : Entries α :=
  match entries with
  | [] => [(key, a)]
  | (k, b) :: rest => if k = key then (k, a) :: rest else (k, b) :: insert rest key a

/-- The entries without the first one under the key. -/
def erase (entries : Entries α) (key : String) : Entries α :=
  match entries with
  | [] => []
  | (k, b) :: rest => if k = key then rest else (k, b) :: erase rest key

/-- One entry after the other inserted. Later contents win. -/
def extend (entries more : Entries α) : Entries α :=
  more.foldl (fun acc e => insert acc e.1 e.2) entries

/-- Any pairs as entries, with each key once. -/
def ofPairs (pairs : List (String × α)) : Entries α := extend [] pairs

/-- No key stands twice. -/
def Distinct (entries : Entries α) : Prop := entries.keys.Nodup

/-! ## Keys after an operation -/

theorem keys_insert (entries : Entries α) (key : String) (a : α) :
    keys (insert entries key a) =
      if key ∈ keys entries then keys entries else keys entries ++ [key] := by
  induction entries with
  | nil => simp [insert, keys]
  | cons e rest ih =>
    obtain ⟨k, b⟩ := e
    by_cases h : k = key
    · subst h; simp [insert, keys]
    · have hk : ¬ key = k := fun h' => h h'.symm
      by_cases hm : key ∈ keys rest
      · simp_all [insert, keys]
      · simp_all [insert, keys]

theorem distinct_insert {entries : Entries α} (h : Distinct entries) (key : String) (a : α) :
    Distinct (insert entries key a) := by
  unfold Distinct at *
  rw [keys_insert]
  split
  · exact h
  · rename_i hk
    exact List.nodup_append.2 ⟨h, by simp, by
      intro x hx y hy
      simp only [List.mem_singleton] at hy
      subst hy
      intro hxy
      exact hk (hxy ▸ hx)⟩

theorem distinct_extend {entries : Entries α} (h : Distinct entries) (more : Entries α) :
    Distinct (extend entries more) := by
  induction more generalizing entries with
  | nil => exact h
  | cons e rest ih => exact ih (distinct_insert h e.1 e.2)

theorem distinct_ofPairs (pairs : List (String × α)) : Distinct (ofPairs pairs) :=
  distinct_extend (by simp [Distinct, keys]) pairs

end Entries
end StructuredSql
