-- Quoting and unquoting are inverse. What a quoted text stands for is quoted as that text
-- again, and a quoted name stands for itself. A qualified column is split at the first point
-- between two quotes, which is the one that was written, since no name holds a quote.
import StructuredSql.Proofs.Quote

namespace StructuredSql

/-- A name is no point, whatever stands in front of it. -/
theorem Name.append_ne_point {name : List Char} (h : isName name = true) (front : List Char) :
    front ++ name ≠ ['.'] := by
  intro heq
  have hne : name ≠ [] := by
    rintro rfl
    cases h
  have hmem : '.' ∈ name := by
    have hlast := congrArg List.getLast? heq
    rw [List.getLast?_append_of_ne_nil _ hne] at hlast
    exact List.mem_of_getLast? hlast
  exact (isPlain_of_isName h).notMem (by decide) hmem

namespace Compiler

/-! ## What is taken off a text -/

theorem afterHead?_eq_some {head s rest : List Char} :
    afterHead? head s = some rest ↔ s = head ++ rest := by
  induction head generalizing s with
  | nil => simp [afterHead?]
  | cons h head ih =>
    cases s with
    | nil => simp [afterHead?]
    | cons c s =>
      rw [afterHead?, List.cons_append, List.cons.injEq]
      by_cases hc : h = c
      · rw [if_pos hc, ih, and_iff_right hc.symm]
      · rw [if_neg hc]
        exact iff_of_false (by simp) fun heq => hc heq.1.symm

theorem beforeQuote?_eq_some {s before : List Char} :
    beforeQuote? s = some before ↔ s = before ++ ['"'] := by
  unfold beforeQuote?
  constructor
  · intro h
    split at h
    · rename_i r hr
      cases h
      rw [← List.reverse_reverse s, hr, List.reverse_cons]
    · cases h
  · rintro rfl
    simp

theorem unquoted?_eq_some {s inner : List Char} :
    unquoted? s = some inner ↔ s = '"' :: (inner ++ ['"']) := by
  unfold unquoted?
  split
  · rw [beforeQuote?_eq_some, List.cons.injEq, and_iff_right rfl]
  · rename_i hs
    refine iff_of_false (by simp) ?_
    rintro rfl
    exact hs _ rfl

/-! ## Tables -/

variable {c : Compiler} {quoted name : String}

theorem unquoteTableChars?_eq_some {s table : List Char} :
    c.unquoteTableChars? s = some table ↔
      Name.isName table = true ∧ s = '"' :: (c.tablePrefix.toList ++ (table ++ ['"'])) := by
  unfold unquoteTableChars?
  simp only [Option.filter_eq_some_iff, Option.bind_eq_some_iff, unquoted?_eq_some,
    afterHead?_eq_some]
  constructor
  · rintro ⟨⟨inner, rfl, rfl⟩, hname⟩
    exact ⟨hname, by rw [List.append_assoc]⟩
  · rintro ⟨hname, rfl⟩
    exact ⟨⟨c.tablePrefix.toList ++ table, by rw [List.append_assoc], rfl⟩, hname⟩

/-- A text stands for a table exactly when the table is quoted as this text. -/
theorem unquoteTable?_eq_some_iff :
    c.unquoteTable? quoted = some name ↔ c.quoteTable name = .ok quoted := by
  have hquoted : quoted = Sql.render c.tablePrefix [.table name] ↔
      quoted.toList = '"' :: (c.tablePrefix.toList ++ (name.toList ++ ['"'])) := by
    rw [← String.toList_inj]
    show _ = Sql.chars c.tablePrefix [.table name] ↔ _
    simp
  rw [quoteTable_eq_ok, hquoted, ← unquoteTableChars?_eq_some]
  unfold unquoteTable?
  rw [Option.map_eq_some_iff]
  constructor
  · rintro ⟨table, htable, rfl⟩
    rw [htable, String.toList_ofList]
  · intro h
    exact ⟨_, h, String.ofList_toList⟩

/-! ## The first point between two quotes -/

theorem eq_of_splitQualified? {s before after : List Char}
    (h : splitQualified? s = some (before, after)) : s = before ++ '"' :: '.' :: '"' :: after := by
  fun_induction splitQualified? s generalizing before with
  | case1 s =>
    cases h
    rfl
  | case2 d s _ ih =>
    obtain ⟨⟨before', after'⟩, hsplit, heq⟩ := Option.map_eq_some_iff.1 h
    cases heq
    rw [ih hsplit, List.cons_append]
  | case3 => cases h

/-- A text is not split before its first quote. -/
theorem splitQualified?_append {s : List Char} (h : '"' ∉ s) (rest : List Char) :
    splitQualified? (s ++ rest) =
      (splitQualified? rest).map fun (before, after) => (s ++ before, after) := by
  induction s with
  | nil => simp
  | cons d s ih =>
    obtain ⟨hd, hs⟩ := not_or.1 (mt List.mem_cons.2 h)
    rw [List.cons_append, splitQualified?, ih hs, Option.map_map]
    · rfl
    · rintro t rfl
      exact absurd rfl hd

/-- Nor is it split at a quote in front of it, unless a point alone follows there. -/
theorem splitQualified?_quote {s : List Char} (h : '"' ∉ s) (hpoint : s ≠ ['.'])
    (rest : List Char) : splitQualified? ('"' :: (s ++ '"' :: rest)) =
      (splitQualified? ('"' :: rest)).map fun (before, after) => ('"' :: (s ++ before), after) := by
  rw [splitQualified?, splitQualified?_append h, Option.map_map]
  · rfl
  · intro t _ ht
    cases s with
    | nil => exact absurd (List.cons.inj ht).1 (by decide)
    | cons d s =>
      obtain ⟨rfl, hrest⟩ := List.cons.inj ht
      cases s with
      | nil => exact hpoint rfl
      | cons e s =>
        obtain ⟨rfl, -⟩ := List.cons.inj hrest
        exact h (by simp)

/-! ## Columns -/

/-- What a text stands for as a column is quoted as this text again, whatever the prefix is. -/
theorem quoteColumn_of_unquoteColumn? (h : c.unquoteColumn? quoted = some name) :
    c.quoteColumn name = .ok quoted := by
  rw [quoteColumn_eq_ok]
  unfold unquoteColumn? at h
  split at h
  · rename_i before after hsplit
    split at h
    · rename_i table column htable hcolumn
      cases h
      rw [Option.filter_eq_some_iff, beforeQuote?_eq_some] at hcolumn
      obtain ⟨hname, hbefore⟩ := unquoteTableChars?_eq_some.1 htable
      refine ⟨⟨some (String.ofList table), String.ofList column⟩,
        ColumnName.ofText?_eq_some_iff.2 ⟨⟨by simpa using hcolumn.2, by simpa using hname⟩, ?_⟩,
        String.toList_injective ?_⟩
      · exact String.toList_injective (by simp [ColumnName.toList_text])
      · -- The quote behind the qualifier is the one that the split took off.
        have hboth : before ++ ['"'] = ('"' :: (c.tablePrefix.toList ++ table)) ++ ['"'] := by
          rw [hbefore, List.cons_append, List.append_assoc]
        have hquote := List.append_cancel_right hboth
        show _ = Sql.chars c.tablePrefix _
        rw [eq_of_splitQualified? hsplit, hquote, hcolumn.1]
        simp [ColumnName.sql]
    · cases h
  · obtain ⟨column, hcolumn, rfl⟩ := Option.map_eq_some_iff.1 h
    rw [Option.filter_eq_some_iff, unquoted?_eq_some] at hcolumn
    refine ⟨⟨none, String.ofList column⟩,
      ColumnName.ofText?_eq_some_iff.2 ⟨⟨by simpa using hcolumn.2, by simp⟩, rfl⟩,
      String.toList_injective ?_⟩
    show _ = Sql.chars c.tablePrefix _
    rw [hcolumn.1]
    simp [ColumnName.sql]

/-- A quoted column stands for itself, if the prefix holds no quote that looks like the end of
the qualifier. -/
theorem unquoteColumn?_of_quoteColumn (hclear : '"' ∉ c.tablePrefix.toList)
    (h : c.quoteColumn name = .ok quoted) : c.unquoteColumn? quoted = some name := by
  obtain ⟨⟨qualifier, column⟩, hcolumn, rfl⟩ := quoteColumn_eq_ok.1 h
  obtain ⟨⟨hname, hqualifier⟩, rfl⟩ := ColumnName.ofText?_eq_some_iff.1 hcolumn
  have hquote : '"' ∉ column.toList := (Name.isPlain_of_isName hname).notMem (by decide)
  cases qualifier with
  | none =>
    have hchars : (Sql.render c.tablePrefix (ColumnName.sql ⟨none, column⟩)).toList =
        '"' :: (column.toList ++ ['"']) := by
      show Sql.chars _ _ = _
      simp [ColumnName.sql]
    have hsplit := splitQualified?_quote hquote (Name.append_ne_point hname []) []
    unfold unquoteColumn?
    rw [hchars, hsplit, (unquoted?_eq_some).2 rfl]
    simp [splitQualified?, hname, ColumnName.text]
  | some table =>
    have htable := hqualifier table rfl
    have hchars : (Sql.render c.tablePrefix (ColumnName.sql ⟨some table, column⟩)).toList =
        '"' :: ((c.tablePrefix.toList ++ table.toList) ++
          '"' :: '.' :: '"' :: (column.toList ++ ['"'])) := by
      show Sql.chars _ _ = _
      simp [ColumnName.sql]
    have hfront : '"' ∉ c.tablePrefix.toList ++ table.toList := by
      rw [List.mem_append, not_or]
      exact ⟨hclear, (Name.isPlain_of_isName htable).notMem (by decide)⟩
    have hsplit := splitQualified?_quote hfront (Name.append_ne_point htable _)
      ('.' :: '"' :: (column.toList ++ ['"']))
    have hbefore : c.unquoteTableChars? ('"' :: (c.tablePrefix.toList ++ table.toList) ++ ['"']) =
        some table.toList :=
      unquoteTableChars?_eq_some.2 ⟨htable, by simp⟩
    have hafter : (beforeQuote? (column.toList ++ ['"'])).filter Name.isName =
        some column.toList :=
      Option.filter_eq_some_iff.2 ⟨beforeQuote?_eq_some.2 rfl, hname⟩
    unfold unquoteColumn?
    rw [hchars, hsplit, splitQualified?]
    simp only [Option.map_some, List.append_nil, hbefore, hafter]
    simp [ColumnName.text, String.append_assoc]

/-! ## Both ways -/

/-- What a text stands for is quoted as this text, and under a prefix without quotes a quoted
table or column stands for itself. -/
theorem quoting_and_unquoting_are_inverse (c : Compiler) :
    (∀ quoted name, c.unquoteTable? quoted = some name → c.quoteTable name = .ok quoted) ∧
      (∀ quoted name, c.unquoteColumn? quoted = some name → c.quoteColumn name = .ok quoted) ∧
      ('"' ∉ c.tablePrefix.toList →
        (∀ name quoted, c.quoteTable name = .ok quoted → c.unquoteTable? quoted = some name) ∧
        ∀ name quoted, c.quoteColumn name = .ok quoted → c.unquoteColumn? quoted = some name) := by
  refine ⟨fun quoted name => unquoteTable?_eq_some_iff.1,
    fun quoted name => quoteColumn_of_unquoteColumn?, fun hclear => ⟨?_, ?_⟩⟩
  · exact fun name quoted => unquoteTable?_eq_some_iff.2
  · exact fun name quoted => unquoteColumn?_of_quoteColumn hclear

/-- A prefix whose points might be taken for the one behind a qualifier. -/
def pointedPrefix : Compiler := ⟨.sqlite, ".my.app."⟩

theorem pointedPrefix_reads_back :
    pointedPrefix.quoteTable "post" = .ok "\".my.app.post\"" ∧
      pointedPrefix.quoteColumn "post.id" = .ok "\".my.app.post\".\"id\"" ∧
      '"' ∉ pointedPrefix.tablePrefix.toList ∧
      pointedPrefix.unquoteTable? "\".my.app.post\"" = some "post" ∧
      pointedPrefix.unquoteColumn? "\".my.app.post\".\"id\"" = some "post.id" := by
  obtain ⟨htable, hcolumn, hback⟩ := quoting_and_unquoting_are_inverse pointedPrefix
  have hclear : '"' ∉ pointedPrefix.tablePrefix.toList := by decide
  obtain ⟨htable', hcolumn'⟩ := hback hclear
  have hquoted := htable "\".my.app.post\"" "post" (by decide)
  have hquoted' := hcolumn "\".my.app.post\".\"id\"" "post.id" (by decide)
  exact ⟨hquoted, hquoted', hclear, htable' _ _ hquoted, hcolumn' _ _ hquoted'⟩

end Compiler
end StructuredSql
