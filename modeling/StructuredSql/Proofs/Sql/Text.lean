-- The text of rendered pieces. Names hold name characters only, so a character
-- that no name may hold stands in a rendered statement only where a text puts it.
import StructuredSql.Fault

namespace StructuredSql

/-- What holds of the characters of a text is decided by going through the text. -/
instance decidableForallChars (P : Char → Prop) [DecidablePred P] (s : List Char) :
    Decidable (∀ c ∈ s, P c) := List.decidableBAll P s

/-! ## Rendering -/

/-- The characters of one piece. -/
def Piece.chars (tablePrefix : String) (p : Piece) : List Char := (p.render tablePrefix).toList

theorem Piece.render_text (tablePrefix s : String) : (Piece.text s).render tablePrefix = s := rfl

theorem Sql.toList_render (tablePrefix : String) (sql : Sql) :
    (Sql.render tablePrefix sql).toList = sql.flatMap (Piece.chars tablePrefix) := by
  unfold Sql.render
  rw [String.toList_join, List.flatMap_map]
  rfl

namespace Sql

variable (tablePrefix : String)

theorem render_nil : render tablePrefix [] = "" := rfl

theorem render_cons (p : Piece) (sql : Sql) :
    render tablePrefix (p :: sql) = p.render tablePrefix ++ render tablePrefix sql := by
  simp [render]

theorem render_append (a b : Sql) :
    render tablePrefix (a ++ b) = render tablePrefix a ++ render tablePrefix b := by
  simp [render]

theorem render_text (s : String) : render tablePrefix (text s) = s := by
  simp [text, render_cons, render_nil, Piece.render]

theorem render_parens (sql : Sql) :
    render tablePrefix (parens sql) = "(" ++ render tablePrefix sql ++ ")" := by
  simp [parens, render_cons, render_append, render_nil, Piece.render, String.append_assoc]

/-- Parts are separated in the text as they are in the statement. -/
theorem render_joinWith (separator : String) (sqls : List Sql) :
    render tablePrefix (joinWith separator sqls) =
      separator.intercalate (sqls.map (render tablePrefix)) := by
  induction sqls with
  | nil => rfl
  | cons sql rest ih =>
    cases rest with
    | nil => simp [joinWith]
    | cons next more =>
      have hsplit : joinWith separator (sql :: next :: more) =
          sql ++ .text separator :: joinWith separator (next :: more) := rfl
      rw [hsplit, render_append, render_cons, ih]
      simp [Piece.render, String.intercalate_cons_cons, String.append_assoc]

end Sql

/-- The characters of a statement. -/
def Sql.chars (tablePrefix : String) (sql : Sql) : List Char := (sql.render tablePrefix).toList

@[simp] theorem Piece.chars_text (tablePrefix s : String) :
    (Piece.text s).chars tablePrefix = s.toList := rfl

@[simp] theorem Piece.chars_table (tablePrefix name : String) :
    (Piece.table name).chars tablePrefix =
      '"' :: (tablePrefix.toList ++ (name.toList ++ ['"'])) := by
  simp [Piece.chars, Piece.render, List.append_assoc]

@[simp] theorem Piece.chars_column (tablePrefix name : String) :
    (Piece.column name).chars tablePrefix = '"' :: (name.toList ++ ['"']) := by
  simp [Piece.chars, Piece.render]

@[simp] theorem Piece.chars_placeholder (tablePrefix : String) (n : Nat) :
    (Piece.placeholder n).chars tablePrefix = ':' :: 'p' :: (Nat.repr n).toList := by
  simp [Piece.chars, Piece.render, placeholderKey]

namespace Sql

variable (tablePrefix : String)

@[simp] theorem chars_nil : chars tablePrefix [] = [] := toList_render tablePrefix []

@[simp] theorem chars_cons (p : Piece) (sql : Sql) :
    chars tablePrefix (p :: sql) = p.chars tablePrefix ++ chars tablePrefix sql := by
  simp only [chars, toList_render, List.flatMap_cons]

@[simp] theorem chars_append (a b : Sql) :
    chars tablePrefix (a ++ b) = chars tablePrefix a ++ chars tablePrefix b := by
  simp only [chars, toList_render, List.flatMap_append]

@[simp] theorem chars_parens (sql : Sql) :
    chars tablePrefix (parens sql) = '(' :: chars tablePrefix sql ++ [')'] := by
  simp [parens]

theorem chars_joinWith (separator : String) (sqls : List Sql) :
    chars tablePrefix (joinWith separator sqls) =
      separator.toList.intercalate (sqls.map (chars tablePrefix)) := by
  induction sqls with
  | nil => simp [joinWith]
  | cons sql rest ih =>
    cases rest with
    | nil => simp [joinWith]
    | cons next more =>
      rw [joinWith, chars_append, chars_cons, Piece.chars_text, ih, List.map_cons, List.map_cons,
        List.map_cons, List.intercalate_cons_cons, List.append_assoc]
      simp

end Sql

/-! ## Characters that no name holds -/

/-- What passes a test that none of the listed characters passes is not listed. -/
theorem Text.contains_of_test {test : Char → Bool} {listed : List Char}
    (hlisted : ∀ d ∈ listed, test d = false) {c : Char} (h : test c = true) :
    listed.contains c = false := by
  refine Bool.eq_false_iff.2 fun hc => ?_
  rw [hlisted c (List.contains_iff_mem.1 hc)] at h
  cases h

/-- The characters of the name may all stand in a name. -/
def Name.IsPlain (name : List Char) : Prop := ∀ c ∈ name, isPart c = true

/-- The text of the piece holds no bad character, and its name is a plain one. -/
def Piece.Avoids (bad : Char → Bool) : Piece → Prop
  | text s => ∀ c ∈ s.toList, bad c = false
  | table name => Name.IsPlain name.toList
  | column name => Name.IsPlain name.toList
  | placeholder _ => True

instance (bad : Char → Bool) (s : String) : Decidable ((Piece.text s).Avoids bad) :=
  inferInstanceAs (Decidable (∀ c ∈ s.toList, bad c = false))

def Sql.Avoids (bad : Char → Bool) (sql : Sql) : Prop := ∀ p ∈ sql, p.Avoids bad

namespace Sql

variable {bad : Char → Bool}

@[simp] theorem avoids_nil : Avoids bad [] := by simp [Avoids]

@[simp] theorem avoids_cons (p : Piece) (sql : Sql) :
    Avoids bad (p :: sql) ↔ p.Avoids bad ∧ sql.Avoids bad := by
  simp [Avoids]

@[simp] theorem avoids_append (a b : Sql) :
    Avoids bad (a ++ b) ↔ a.Avoids bad ∧ b.Avoids bad := by
  simp only [Avoids, List.mem_append, or_imp, forall_and]

theorem avoids_joinWith {separator : String} {sqls : List Sql}
    (hs : ∀ c ∈ separator.toList, bad c = false) (h : ∀ sql ∈ sqls, Avoids bad sql) :
    Avoids bad (joinWith separator sqls) := by
  induction sqls with
  | nil => simp [joinWith]
  | cons sql rest ih =>
    have hrest : Avoids bad (joinWith separator rest) :=
      ih fun s hm => h s (List.mem_cons_of_mem _ hm)
    cases rest with
    | nil => exact h sql List.mem_cons_self
    | cons next more =>
      simp only [joinWith, avoids_append, avoids_cons]
      exact ⟨h sql List.mem_cons_self, hs, hrest⟩

end Sql

variable {bad : Char → Bool} {tablePrefix : String}

/-- No bad character stands in a piece when none may stand in a name, and none in the
key of a placeholder. -/
theorem Piece.chars_avoid (hpart : ∀ c, Name.isPart c = true → bad c = false)
    (hquote : bad '"' = false) (hp : Name.IsPlain tablePrefix.toList) {p : Piece}
    (h : p.Avoids bad)
    (hkey : ∀ n, p = .placeholder n → ∀ c ∈ (placeholderKey n).toList, bad c = false) :
    ∀ c ∈ p.chars tablePrefix, bad c = false := by
  intro c hc
  cases p with
  | text s => exact h c hc
  | table name =>
    simp only [Piece.chars_table, List.mem_cons, List.mem_append, List.not_mem_nil, or_false] at hc
    rcases hc with rfl | hc | hc | rfl
    · exact hquote
    · exact hpart c (hp c hc)
    · exact hpart c (h c hc)
    · exact hquote
  | column name =>
    simp only [Piece.chars_column, List.mem_cons, List.mem_append, List.not_mem_nil, or_false] at hc
    rcases hc with rfl | hc | rfl
    · exact hquote
    · exact hpart c (h c hc)
    · exact hquote
  | placeholder n => exact hkey n rfl c hc

theorem Sql.chars_avoid (hpart : ∀ c, Name.isPart c = true → bad c = false)
    (hquote : bad '"' = false) (hkey : ∀ n, ∀ c ∈ (placeholderKey n).toList, bad c = false)
    (hp : Name.IsPlain tablePrefix.toList) {sql : Sql} (h : sql.Avoids bad) :
    ∀ c ∈ sql.chars tablePrefix, bad c = false := by
  intro c hc
  rw [Sql.chars, Sql.toList_render] at hc
  obtain ⟨p, hm, hc⟩ := List.mem_flatMap.1 hc
  exact Piece.chars_avoid hpart hquote hp (h p hm) (fun n _ => hkey n) c hc

end StructuredSql
