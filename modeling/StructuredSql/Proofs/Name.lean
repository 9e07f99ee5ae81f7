-- What the readers of names give: names of name characters only. A reader that
-- succeeds never lets a quote, a blank, a point or a bracket into a name.
import StructuredSql.Proofs.Sql.Text
import StructuredSql.Column.Item
import StructuredSql.Condition.Key
import StructuredSql.Join
import Mathlib.Data.List.TakeWhile

namespace StructuredSql

/-! ## Single names -/

theorem Name.isPart_of_isStart {c : Char} (h : isStart c = true) : isPart c = true := by
  simp only [isStart, isPart, isSign, Bool.or_eq_true] at h ⊢
  rcases h with h | h
  · exact Or.inl (Or.inl h)
  · exact Or.inr (Or.inr h)

theorem Name.take?_isPlain {s name rest : List Char} (h : take? s = some (name, rest)) :
    IsPlain name := by
  cases s with
  | nil => cases h
  | cons c s =>
    simp only [take?] at h
    split at h
    · cases h
      rename_i hc
      intro d hd
      rcases List.mem_cons.1 hd with rfl | hd
      · exact isPart_of_isStart hc
      · exact List.mem_takeWhile_imp hd
    · cases h

theorem Name.isPlain_of_isName {name : List Char} (h : isName name = true) : IsPlain name := by
  cases name with
  | nil => cases h
  | cons c s =>
    simp only [isName, Bool.and_eq_true, List.all_eq_true] at h
    intro d hd
    rcases List.mem_cons.1 hd with rfl | hd
    · exact isPart_of_isStart h.1
    · exact h.2 d hd

theorem Name.take?_eq_some {s name rest : List Char} (h : take? s = some (name, rest)) :
    isName name = true ∧ s = name ++ rest := by
  cases s with
  | nil => cases h
  | cons c s =>
    simp only [take?] at h
    split at h
    · rename_i hc
      cases h
      refine ⟨?_, by rw [List.cons_append, List.takeWhile_append_dropWhile]⟩
      simp only [isName, hc, Bool.true_and, List.all_eq_true]
      exact fun d hd => List.mem_takeWhile_imp hd
    · cases h

/-- A name is taken whole when what follows cannot belong to it. -/
theorem Name.take?_append {name rest : List Char} (hn : isName name = true)
    (hr : ∀ c ∈ rest.head?, isPart c = false) : take? (name ++ rest) = some (name, rest) := by
  cases name with
  | nil => cases hn
  | cons c s =>
    simp only [isName, Bool.and_eq_true, List.all_eq_true] at hn
    have hrest : rest.takeWhile isPart = [] ∧ rest.dropWhile isPart = rest := by
      cases rest with
      | nil => exact ⟨rfl, rfl⟩
      | cons d rest => simp [hr d rfl]
    simp only [List.cons_append, take?, hn.1, if_true]
    rw [List.takeWhile_append_of_pos hn.2, List.dropWhile_append_of_pos hn.2, hrest.1, hrest.2,
      List.append_nil]

/-! ## Columns -/

/-- A column whose name and qualifier are plain. -/
structure ColumnName.IsPlain (c : ColumnName) : Prop where
  qualifier : ∀ table, c.qualifier = some table → Name.IsPlain table.toList
  name : Name.IsPlain c.name.toList

theorem ColumnName.take?_isPlain {s : List Char} {c : ColumnName} {rest : List Char}
    (h : take? s = some (c, rest)) : c.IsPlain := by
  unfold take? at h
  split at h
  · cases h
  · rename_i first more hfirst
    split at h
    · rename_i second more' hsecond
      cases h
      refine ⟨?_, by simpa using Name.take?_isPlain hsecond⟩
      intro table ht
      cases ht
      simpa using Name.take?_isPlain hfirst
    · cases h
      exact ⟨by simp, by simpa using Name.take?_isPlain hfirst⟩
  · rename_i hfirst
    cases h
    exact ⟨by simp, by simpa using Name.take?_isPlain hfirst⟩

theorem ColumnName.ofText?_isPlain {s : String} {c : ColumnName} (h : ofText? s = some c) :
    c.IsPlain := by
  unfold ofText? at h
  split at h
  · rename_i hc
    cases h
    exact take?_isPlain hc
  · cases h

/-- Both parts of the column are names. -/
def ColumnName.IsNamed (c : ColumnName) : Prop :=
  Name.isName c.name.toList = true ∧ ∀ t ∈ c.qualifier, Name.isName t.toList = true

theorem ColumnName.toList_text (c : ColumnName) :
    c.text.toList = (match c.qualifier with
      | some table => table.toList ++ ['.']
      | none => []) ++ c.name.toList := by
  unfold text
  cases c.qualifier with
  | none => rfl
  | some table => simp

theorem ColumnName.take?_eq_some {s : List Char} {c : ColumnName} {rest : List Char}
    (h : take? s = some (c, rest)) : c.IsNamed ∧ s = c.text.toList ++ rest := by
  unfold take? at h
  split at h
  · cases h
  · rename_i first more hfirst
    obtain ⟨hname, rfl⟩ := Name.take?_eq_some hfirst
    split at h
    · rename_i second more' hsecond
      obtain ⟨hname', rfl⟩ := Name.take?_eq_some hsecond
      cases h
      exact ⟨⟨by simpa using hname', by simpa using hname⟩, by simp [toList_text]⟩
    · cases h
      exact ⟨⟨by simpa using hname, by simp⟩, by simp [toList_text]⟩
  · rename_i first more hmore hfirst
    obtain ⟨hname, rfl⟩ := Name.take?_eq_some hfirst
    cases h
    exact ⟨⟨by simpa using hname, by simp⟩, by simp [toList_text]⟩

/-- A text names a column exactly when it is one name, or two with a point between. -/
theorem ColumnName.ofText?_eq_some_iff {s : String} {c : ColumnName} :
    ofText? s = some c ↔ c.IsNamed ∧ s = c.text := by
  constructor
  · intro h
    unfold ofText? at h
    split at h
    · rename_i hc
      cases h
      obtain ⟨hnamed, hs⟩ := take?_eq_some hc
      exact ⟨hnamed, String.toList_injective (by simpa using hs)⟩
    · cases h
  · rintro ⟨⟨hname, hqualifier⟩, rfl⟩
    obtain ⟨qualifier, name⟩ := c
    have hlast : Name.take? (name.toList ++ []) = some (name.toList, []) :=
      Name.take?_append hname (by simp)
    rw [List.append_nil] at hlast
    unfold ofText? take?
    cases qualifier with
    | none => simp [toList_text, hlast]
    | some table =>
      have hpoint : ∀ d ∈ ('.' :: name.toList).head?, Name.isPart d = false := by
        simp only [List.head?_cons, Option.mem_some_iff, forall_eq']
        decide
      simp [toList_text, Name.take?_append (hqualifier table rfl) hpoint, hlast]

/-- Behind the last point of a column's text stands its name. -/
theorem ColumnName.afterLastPoint_text {c : ColumnName} (h : c.IsNamed) :
    afterLastPoint c.text = c.name := by
  have hname : ∀ d ∈ c.name.toList.reverse, decide (d ≠ '.') = true := by
    intro d hd
    refine decide_eq_true ?_
    rintro rfl
    exact absurd (Name.isPlain_of_isName h.1 _ (List.mem_reverse.1 hd)) (by decide)
  unfold afterLastPoint
  rw [toList_text]
  cases c.qualifier with
  | none =>
    have htake := @List.takeWhile_append_of_pos _ _ _ [] hname
    rw [List.append_nil, List.takeWhile_nil, List.append_nil] at htake
    simp only [List.nil_append]
    rw [htake]
    simp
  | some table =>
    simp only [List.reverse_append, List.append_assoc]
    rw [List.takeWhile_append_of_pos hname]
    simp

theorem columnName_isPlain {s : String} {c : ColumnName} (h : columnName s = .ok c) :
    c.IsPlain := by
  unfold columnName at h
  split at h
  · rename_i hc
    cases h
    exact ColumnName.ofText?_isPlain hc
  · cases h

theorem ColumnName.IsPlain.avoids {c : ColumnName} (h : c.IsPlain) {bad : Char → Bool}
    (hp : bad '.' = false) : c.sql.Avoids bad := by
  unfold sql
  split
  · rename_i table ht
    simp [Piece.Avoids, hp, h.qualifier table ht, h.name]
  · simp [Piece.Avoids, h.name]

theorem columnSql_eq_ok {s : String} {sql : Sql} (h : columnSql s = .ok sql) :
    ∃ c, columnName s = .ok c ∧ sql = c.sql := by
  unfold columnSql at h
  cases hc : columnName s with
  | error fault => simp [hc, Except.map] at h
  | ok c =>
    simp only [hc, Except.map, Except.ok.injEq] at h
    exact ⟨c, rfl, h.symm⟩

/-! ## Tables -/

theorem tableSql_eq_ok {s : String} {sql : Sql} (h : tableSql s = .ok sql) :
    Name.isName s.toList = true ∧ sql = [.table s] := by
  unfold tableSql at h
  split at h
  · rename_i hs
    cases h
    exact ⟨hs, rfl⟩
  · cases h

theorem tableSql_avoids {s : String} {sql : Sql} (h : tableSql s = .ok sql)
    {bad : Char → Bool} : sql.Avoids bad := by
  obtain ⟨hs, rfl⟩ := tableSql_eq_ok h
  simpa [Piece.Avoids] using Name.isPlain_of_isName hs

/-- The text is a table and perhaps its alias in parentheses, with blank space around them. -/
def TableRef.Spelled (t : TableRef) (text : List Char) : Prop :=
  Name.isName t.name.toList = true ∧
    ∃ before between after : List Char,
      (∀ b ∈ before ++ between ++ after, Unicode.isBlank b = true) ∧
      match t.alias? with
      | none => text = before ++ t.name.toList ++ after
      | some a => Name.isName a.toList = true ∧
        text = before ++ t.name.toList ++ between ++ '(' :: a.toList ++ ')' :: after

theorem Text.exists_blank_before (s : List Char) :
    ∃ blank : List Char, (∀ b ∈ blank, Unicode.isBlank b = true) ∧ s = blank ++ trimStart s :=
  ⟨s.takeWhile Unicode.isBlank, fun _ => List.mem_takeWhile_imp,
    (List.takeWhile_append_dropWhile).symm⟩

theorem takeAlias_some {s rest : List Char} {a : String} (h : takeAlias s = (some a, rest)) :
    Name.isName a.toList = true ∧ ∃ blank : List Char, (∀ b ∈ blank, Unicode.isBlank b = true) ∧
      s = blank ++ '(' :: a.toList ++ ')' :: rest := by
  obtain ⟨blank, hblank, hs⟩ := Text.exists_blank_before s
  unfold takeAlias at h
  split at h
  · rename_i r hopen
    split at h
    · rename_i name tail htake
      obtain ⟨hname, rfl⟩ := Name.take?_eq_some htake
      cases h
      rw [hopen] at hs
      exact ⟨by simpa using hname, blank, hblank, by simpa using hs⟩
    · cases h
  · cases h

theorem takeAlias_none {s rest : List Char} (h : takeAlias s = (none, rest)) : rest = s := by
  unfold takeAlias at h
  split at h
  · split at h
    · cases h
    · cases h
      rfl
  · cases h
    rfl

theorem TableRef.spelled_of_ofText? {s : String} {t : TableRef} (h : ofText? s = some t) :
    t.Spelled s.toList := by
  obtain ⟨before, hbefore, hs⟩ := Text.exists_blank_before s.toList
  unfold ofText? at h
  split at h
  · cases h
  · rename_i name rest htake
    obtain ⟨hname, hname'⟩ := Name.take?_eq_some htake
    rw [hname'] at hs
    cases halias : takeAlias rest with
    | mk alias? after =>
      simp only [halias] at h
      split at h
      · rename_i hafter
        rw [List.all_eq_true] at hafter
        cases h
        refine ⟨by simpa using hname, before, ?_⟩
        cases alias? with
        | none =>
          rw [takeAlias_none halias] at hafter
          exact ⟨[], rest, by simpa [or_imp, forall_and] using ⟨hbefore, hafter⟩, by simpa using hs⟩
        | some a =>
          obtain ⟨ha, between, hbetween, rfl⟩ := takeAlias_some halias
          refine ⟨between, after, ?_, ha, by simpa using hs⟩
          simpa [or_imp, forall_and] using ⟨hbefore, hbetween, hafter⟩
      · cases h

theorem TableRef.Spelled.exposed {t : TableRef} {text : List Char} (h : t.Spelled text) :
    Name.isName t.exposed.toList = true := by
  obtain ⟨hname, before, between, after, -, htext⟩ := h
  unfold TableRef.exposed
  cases ha : t.alias? with
  | none => exact hname
  | some a =>
    rw [ha] at htext
    exact htext.1

/-- A table whose name and alias are plain. -/
structure TableRef.IsPlain (t : TableRef) : Prop where
  name : Name.IsPlain t.name.toList
  alias? : ∀ a, t.alias? = some a → Name.IsPlain a.toList

theorem TableRef.Spelled.isPlain {t : TableRef} {text : List Char} (h : t.Spelled text) :
    t.IsPlain := by
  obtain ⟨hname, before, between, after, -, htext⟩ := h
  refine ⟨Name.isPlain_of_isName hname, ?_⟩
  intro a ha
  rw [ha] at htext
  exact Name.isPlain_of_isName htext.1

theorem TableRef.IsPlain.exposed {t : TableRef} (h : t.IsPlain) :
    Name.IsPlain t.exposed.toList := by
  unfold TableRef.exposed
  cases ha : t.alias? with
  | none => exact h.name
  | some a => exact h.alias? a ha

theorem TableRef.IsPlain.avoids {t : TableRef} (h : t.IsPlain) {bad : Char → Bool}
    (hs : ∀ c ∈ " AS ".toList, bad c = false) : t.sql.Avoids bad := by
  unfold TableRef.sql
  split
  · rename_i a ha
    simp only [Sql.avoids_cons, Sql.avoids_nil, and_true]
    exact ⟨h.name, hs, h.alias? a ha⟩
  · simpa [Piece.Avoids] using h.name

/-! ## Keys -/

/-- The kind of a join between the brackets of its key. -/
def JoinKind.sign : JoinKind → String
  | left => ">"
  | right => "<"
  | full => "<>"
  | inner => "><"

/-- The key is the kind in brackets, and behind it a table. -/
def JoinKey.Spelled (k : JoinKey) (key : String) : Prop :=
  ∃ table : String, key = "[" ++ k.kind.sign ++ "]" ++ table ∧ k.table.Spelled table.toList

theorem JoinKey.takeKind?_eq_some {s rest : List Char} {kind : JoinKind}
    (h : takeKind? s = some (kind, rest)) : s = '[' :: (kind.sign.toList ++ ']' :: rest) := by
  unfold takeKind? at h
  split at h <;> cases h <;> rfl

theorem JoinKey.spelled_of_read {key : String} {k : JoinKey} (h : read key = .ok k) :
    k.Spelled key := by
  unfold read read? at h
  split at h
  · rename_i k' hread
    cases h
    split at hread
    · cases hread
    · rename_i kind s hkind
      obtain ⟨table, htable, rfl⟩ := Option.map_eq_some_iff.1 hread
      refine ⟨String.ofList s, String.toList_injective ?_, TableRef.spelled_of_ofText? htable⟩
      rw [JoinKey.takeKind?_eq_some hkind]
      simp
  · cases h

theorem JoinKey.read_isPlain {key : String} {k : JoinKey} (h : JoinKey.read key = .ok k) :
    k.table.IsPlain := by
  obtain ⟨table, -, htable⟩ := spelled_of_read h
  exact htable.isPlain

theorem ColumnItem.parse?_isPlain {item : String} {i : ColumnItem} (h : parse? item = some i) :
    i.column.IsPlain ∧ ∀ a, i.alias? = some a → Name.IsPlain a.toList := by
  unfold parse? at h
  dsimp only at h
  split at h
  · cases h
  · rename_i column rest hcolumn
    split at h
    · cases h
      refine ⟨ColumnName.take?_isPlain hcolumn, ?_⟩
      intro a ha
      exact Name.isPlain_of_isName
        (takeAlias_some (show takeAlias rest = (some a, (takeAlias rest).2) by rw [← ha])).1
    · cases h

theorem ColumnItem.parse_avoids {item : String} {i : ColumnItem} (h : parse item = .ok i)
    {bad : Char → Bool} (hp : bad '.' = false) (hs : ∀ c ∈ " AS ".toList, bad c = false) :
    i.sql.Avoids bad := by
  unfold parse at h
  split at h
  · rename_i i' hi
    cases h
    obtain ⟨hcolumn, halias⟩ := parse?_isPlain hi
    unfold ColumnItem.sql
    split
    · rename_i a ha
      simp only [Sql.avoids_append, Sql.avoids_cons, Sql.avoids_nil, and_true]
      exact ⟨hcolumn.avoids hp, hs, halias a ha⟩
    · exact hcolumn.avoids hp
  · cases h

/-- The columns of a condition key that has been read. -/
def ConditionKey.IsPlain : ConditionKey → Prop
  | value column _ => column.IsPlain
  | columns left sign right => left.IsPlain ∧ sign ∈ columnComparisons ∧ right.IsPlain

theorem ConditionKey.read_isPlain {key : String} {k : ConditionKey} (h : read key = .ok k) :
    k.IsPlain := by
  unfold read at h
  split at h
  · cases h
  · rename_i parts _
    cases hcolumn : columnName parts.column with
    | error fault => simp [hcolumn, bind, Except.bind] at h
    | ok column =>
      have hplain := columnName_isPlain hcolumn
      simp only [hcolumn, bind, Except.bind] at h
      split at h
      · rename_i other sign _ _
        split at h
        · rename_i hsign
          cases hother : columnName other with
          | error fault => simp [hother] at h
          | ok right =>
            simp only [hother, pure, Except.pure, Except.ok.injEq] at h
            subst h
            exact ⟨hplain, List.contains_iff_mem.1 hsign, columnName_isPlain hother⟩
        · cases h
      · cases h
      · split at h
        · cases h
          exact hplain
        · cases h

end StructuredSql
