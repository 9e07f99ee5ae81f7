-- Quoted names: which texts can be quoted, what may stand behind a name before it is
-- quoted, and what a quoted name is made of.
import StructuredSql.Quote
import StructuredSql.Proofs.Name
import Mathlib.Data.List.Basic

namespace StructuredSql

/-- The text is a name, or two names with a point between. -/
def Name.IsReference (name : List Char) : Prop :=
  isName name = true ∨
    ∃ table column, name = table ++ '.' :: column ∧ isName table = true ∧ isName column = true

theorem Name.isReference_iff_isName {name : List Char} (h : '.' ∉ name) :
    IsReference name ↔ isName name = true := by
  refine ⟨?_, Or.inl⟩
  rintro (hname | ⟨table, column, rfl, -, -⟩)
  · exact hname
  · exact absurd (List.mem_append_right table List.mem_cons_self) h

theorem ColumnName.ofText?_isSome_iff {s : String} :
    (∃ column, ofText? s = some column) ↔ Name.IsReference s.toList := by
  simp only [ofText?_eq_some_iff]
  constructor
  · rintro ⟨⟨qualifier, name⟩, ⟨hname, hqualifier⟩, rfl⟩
    rw [toList_text]
    cases qualifier with
    | none => exact Or.inl hname
    | some table => exact Or.inr ⟨table.toList, name.toList, by simp, hqualifier table rfl, hname⟩
  · rintro (hname | ⟨table, column, hs, htable, hcolumn⟩)
    · exact ⟨⟨none, s⟩, ⟨hname, by simp⟩, rfl⟩
    · refine ⟨⟨some (String.ofList table), String.ofList column⟩, ⟨by simpa, by simpa⟩, ?_⟩
      exact String.toList_injective (by simp [toList_text, hs])

/-! ## Names and the blank space behind them -/

/-- The last character of a reference belongs to a name. -/
theorem Name.IsReference.isPart_last {name : List Char} (h : IsReference name) :
    ∀ c ∈ name.getLast?, isPart c = true := by
  intro c hc
  rcases h with h | ⟨table, column, rfl, -, h⟩
  · exact isPlain_of_isName h c (List.mem_of_getLast? hc)
  · have hne : column ≠ [] := by
      rintro rfl
      cases h
    rw [List.getLast?_append_of_ne_nil _ (by simp), List.getLast?_cons, Option.mem_some_iff] at hc
    rw [← hc]
    refine isPlain_of_isName h _ ?_
    simp [List.getLast?_eq_some_getLast hne]

/-- No name holds a blank. -/
theorem Name.isPart_of_isBlank {c : Char} (h : Unicode.isBlank c = true) :
    isPart c = false := by
  -- The blanks are few: each of them is tried.
  have hall : ∀ n ∈ List.range' 9 5 ++ [0x20, 0x85, 0xa0, 0x1680] ++ List.range' 0x2000 11 ++
      [0x2028, 0x2029, 0x202f, 0x205f, 0x3000], isPart (Char.ofNat n) = false := by
    decide +kernel
  rw [← Char.ofNat_toNat c]
  apply hall
  simp only [Unicode.isBlank] at h
  split at h
  · simp at h ⊢
    omega
  · simp [Unicode.within, Unicode.blankRanges] at h ⊢
    omega

/-- The blank space at the end of a text, and what stands before it. -/
theorem Text.exists_blank (s : List Char) :
    ∃ blank : List Char, (∀ b ∈ blank, Unicode.isBlank b = true) ∧ s = trimEnd s ++ blank := by
  refine ⟨(s.reverse.takeWhile Unicode.isBlank).reverse, ?_, ?_⟩
  · intro b hb
    exact List.mem_takeWhile_imp (List.mem_reverse.1 hb)
  · unfold trimEnd
    rw [← List.reverse_append, List.takeWhile_append_dropWhile, List.reverse_reverse]

theorem Text.trimEnd_append {s blank : List Char} (hs : ∀ c ∈ s.getLast?, Unicode.isBlank c = false)
    (hb : ∀ b ∈ blank, Unicode.isBlank b = true) : trimEnd (s ++ blank) = s := by
  have hlast : s.reverse.dropWhile Unicode.isBlank = s.reverse := by
    cases hr : s.reverse with
    | nil => rfl
    | cons c rest =>
      have hc : Unicode.isBlank c = false := by
        apply hs
        rw [← List.reverse_reverse s, hr]
        simp
      rw [List.dropWhile_cons_of_neg (by simp [hc])]
  unfold trimEnd
  rw [List.reverse_append, List.dropWhile_append_of_pos fun b hb' => hb b (List.mem_reverse.1 hb'),
    hlast, List.reverse_reverse]

/-- The key is the name with the mark behind it, and perhaps with blank space between. -/
def Name.Marked (mark name key : List Char) : Prop :=
  ∃ blank : List Char, (∀ b ∈ blank, Unicode.isBlank b = true) ∧ key = name ++ blank ++ mark

/-- The name of a marked key is what stands before the mark, without blank space behind it. -/
theorem Name.marked_iff {mark name key : List Char} (h : IsReference name) :
    Marked mark name key ↔ ∃ before, key = before ++ mark ∧ Text.trimEnd before = name := by
  constructor
  · rintro ⟨blank, hblank, rfl⟩
    refine ⟨name ++ blank, rfl, Text.trimEnd_append ?_ hblank⟩
    intro c hc
    by_contra hb
    have hpart := isPart_of_isBlank (by simpa using hb)
    rw [h.isPart_last c hc] at hpart
    cases hpart
  · rintro ⟨before, rfl, rfl⟩
    obtain ⟨blank, hblank, hbefore⟩ := Text.exists_blank before
    exact ⟨blank, hblank, by rw [← hbefore]⟩

/-! ## Names and the quotes around them -/

/-- A character that no name may hold stands in no name. -/
theorem Name.IsPlain.notMem {name : List Char} (h : IsPlain name) {d : Char}
    (hd : isPart d = false) : d ∉ name := by
  intro hm
  rw [h d hm] at hd
  cases hd

/-- Two equal texts with a quote in them are equal before their first quotes and behind them. -/
theorem Name.IsPlain.quote_inj {a b s t : List Char} (ha : IsPlain a) (hb : IsPlain b)
    (h : a ++ '"' :: s = b ++ '"' :: t) : a = b ∧ s = t := by
  have hquote : Name.isPart '"' = false := by decide
  induction a generalizing b with
  | nil =>
    cases b with
    | nil => exact ⟨rfl, (List.cons.inj h).2⟩
    | cons d b => exact absurd ((List.cons.inj h).1 ▸ List.mem_cons_self) (hb.notMem hquote)
  | cons c a ih =>
    cases b with
    | nil => exact absurd ((List.cons.inj h).1 ▸ List.mem_cons_self) (ha.notMem hquote)
    | cons d b =>
      obtain ⟨rfl, htail⟩ := List.cons.inj h
      obtain ⟨rfl, hrest⟩ := ih (fun x hx => ha x (List.mem_cons_of_mem c hx))
        (fun x hx => hb x (List.mem_cons_of_mem c hx)) htail
      exact ⟨rfl, hrest⟩

/-- One name is not two with a quote between. -/
theorem Name.IsPlain.ne_two_parts {name : List Char} (h : IsPlain name)
    (before after : List Char) : name ++ ['"'] ≠ before ++ '"' :: (after ++ ['"']) := by
  intro heq
  have hname : name = before ++ '"' :: after := by
    have hboth : name ++ ['"'] = (before ++ '"' :: after) ++ ['"'] := by
      rw [heq, List.append_assoc, List.cons_append]
    exact List.append_cancel_right hboth
  refine h.notMem (d := '"') (by decide) ?_
  rw [hname]
  exact List.mem_append_right _ List.mem_cons_self

namespace Compiler

variable {c : Compiler} {text quoted : String}

theorem finish_eq_ok {result : Except Fault Sql} :
    c.finish result = .ok quoted ↔ ∃ sql, result = .ok sql ∧ quoted = sql.render c.tablePrefix := by
  cases result with
  | error fault => simp [finish]
  | ok sql => simp [finish, eq_comm]

theorem quoteTable_eq_ok : c.quoteTable text = .ok quoted ↔
    Name.isName text.toList = true ∧ quoted = Sql.render c.tablePrefix [.table text] := by
  unfold quoteTable
  rw [finish_eq_ok]
  constructor
  · rintro ⟨sql, hsql, rfl⟩
    obtain ⟨hname, rfl⟩ := tableSql_eq_ok hsql
    exact ⟨hname, rfl⟩
  · rintro ⟨hname, rfl⟩
    exact ⟨_, by rw [tableSql, if_pos hname], rfl⟩

theorem quoteColumn_eq_ok : c.quoteColumn text = .ok quoted ↔
    ∃ column, ColumnName.ofText? text = some column ∧
      quoted = column.sql.render c.tablePrefix := by
  unfold quoteColumn
  rw [finish_eq_ok]
  constructor
  · rintro ⟨sql, hsql, rfl⟩
    obtain ⟨column, hcolumn, rfl⟩ := columnSql_eq_ok hsql
    unfold columnName at hcolumn
    split at hcolumn
    · rename_i column' hcolumn'
      cases hcolumn
      exact ⟨column, hcolumn', rfl⟩
    · cases hcolumn
  · rintro ⟨column, hcolumn, rfl⟩
    exact ⟨column.sql, by simp [columnSql, columnName, hcolumn, Except.map], rfl⟩

theorem isReference_of_quoteColumn (h : c.quoteColumn text = .ok quoted) :
    Name.IsReference text.toList := by
  obtain ⟨column, hcolumn, -⟩ := quoteColumn_eq_ok.1 h
  exact ColumnName.ofText?_isSome_iff.1 ⟨column, hcolumn⟩

/-- Columns that are quoted alike are the same, whatever the prefix is. -/
theorem quoteColumn_inj {other : String} (h : c.quoteColumn text = .ok quoted)
    (h' : c.quoteColumn other = .ok quoted) : text = other := by
  obtain ⟨⟨qualifier, name⟩, hcolumn, hquoted⟩ := quoteColumn_eq_ok.1 h
  obtain ⟨⟨qualifier', name'⟩, hcolumn', hquoted'⟩ := quoteColumn_eq_ok.1 h'
  have hplain := ColumnName.ofText?_isPlain hcolumn
  have hplain' := ColumnName.ofText?_isPlain hcolumn'
  obtain ⟨-, rfl⟩ := ColumnName.ofText?_eq_some_iff.1 hcolumn
  obtain ⟨-, rfl⟩ := ColumnName.ofText?_eq_some_iff.1 hcolumn'
  have hchars := congrArg String.toList (hquoted.symm.trans hquoted')
  refine congrArg ColumnName.text ?_
  change Sql.chars _ _ = Sql.chars _ _ at hchars
  cases qualifier with
  | none =>
    cases qualifier' with
    | none =>
      have hname : name.toList = name'.toList := by simpa [ColumnName.sql] using hchars
      rw [String.toList_injective hname]
    | some table' =>
      refine absurd ?_ (hplain.name.ne_two_parts (c.tablePrefix.toList ++ table'.toList)
        ('.' :: '"' :: name'.toList))
      simpa [ColumnName.sql] using hchars
  | some table =>
    cases qualifier' with
    | none =>
      refine absurd ?_ (hplain'.name.ne_two_parts (c.tablePrefix.toList ++ table.toList)
        ('.' :: '"' :: name.toList))
      simpa [ColumnName.sql] using hchars.symm
    | some table' =>
      have htail : table.toList ++ '"' :: '.' :: '"' :: (name.toList ++ ['"']) =
          table'.toList ++ '"' :: '.' :: '"' :: (name'.toList ++ ['"']) := by
        simpa [ColumnName.sql] using hchars
      obtain ⟨htable, hrest⟩ :=
        (hplain.qualifier table rfl).quote_inj (hplain'.qualifier table' rfl) htail
      have hname : name.toList = name'.toList := by simpa using hrest
      rw [String.toList_injective htable, String.toList_injective hname]

/-! ## The characters of a quoted name -/

/-- A character of the prefix or of a name, or one that stands around names. -/
def InQuoted (c : Compiler) (d : Char) : Prop :=
  d = '"' ∨ d = '.' ∨ d ∈ c.tablePrefix.toList ∨ Name.isPart d = true

/-- The text begins with a double quote, and nothing foreign is in it. -/
def IsQuoted (c : Compiler) (s : List Char) : Prop :=
  ∃ rest, s = '"' :: rest ∧ ∀ d ∈ rest, c.InQuoted d

theorem isQuoted_column {name : String} (h : Name.IsPlain name.toList) :
    c.IsQuoted ((Piece.column name).chars c.tablePrefix) := by
  refine ⟨_, Piece.chars_column _ _, fun d hd => ?_⟩
  rcases List.mem_append.1 hd with hd | hd
  · exact Or.inr (Or.inr (Or.inr (h d hd)))
  · exact Or.inl (List.mem_singleton.1 hd)

theorem isQuoted_table {name : String} (h : Name.IsPlain name.toList) :
    c.IsQuoted ((Piece.table name).chars c.tablePrefix) := by
  refine ⟨_, Piece.chars_table _ _, fun d hd => ?_⟩
  simp only [List.mem_append, List.mem_singleton] at hd
  rcases hd with hd | hd | hd
  · exact Or.inr (Or.inr (Or.inl hd))
  · exact Or.inr (Or.inr (Or.inr (h d hd)))
  · exact Or.inl hd

theorem IsQuoted.inQuoted {s : List Char} (h : c.IsQuoted s) : ∀ d ∈ s, c.InQuoted d := by
  obtain ⟨rest, rfl, hrest⟩ := h
  exact List.forall_mem_cons.2 ⟨Or.inl rfl, hrest⟩

theorem IsQuoted.point {s t : List Char} (hs : c.IsQuoted s) (ht : c.IsQuoted t) :
    c.IsQuoted (s ++ '.' :: t) := by
  obtain ⟨rest, rfl, hrest⟩ := hs
  refine ⟨rest ++ '.' :: t, rfl, fun d hd => ?_⟩
  rcases List.mem_append.1 hd with hd | hd
  · exact hrest d hd
  · rcases List.mem_cons.1 hd with rfl | hd
    · exact Or.inr (Or.inl rfl)
    · exact ht.inQuoted d hd

theorem isQuoted_of_quoteTable (h : c.quoteTable text = .ok quoted) :
    c.IsQuoted quoted.toList := by
  obtain ⟨hname, rfl⟩ := quoteTable_eq_ok.1 h
  have htable := isQuoted_table (c := c) (Name.isPlain_of_isName hname)
  show c.IsQuoted (Sql.chars c.tablePrefix [.table text])
  simpa using htable

theorem isQuoted_of_quoteColumn (h : c.quoteColumn text = .ok quoted) :
    c.IsQuoted quoted.toList := by
  obtain ⟨column, hcolumn, rfl⟩ := quoteColumn_eq_ok.1 h
  have hplain := ColumnName.ofText?_isPlain hcolumn
  have hname := isQuoted_column (c := c) hplain.name
  show c.IsQuoted (Sql.chars c.tablePrefix column.sql)
  unfold ColumnName.sql
  split
  · rename_i table ht
    simpa using (isQuoted_table (c := c) (hplain.qualifier table ht)).point hname
  · simpa using hname

end Compiler
end StructuredSql
