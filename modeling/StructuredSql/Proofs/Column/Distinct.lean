-- Where DISTINCT stands in a SELECT list. Each list of a spec writes it for the first of
-- its own marked items, in front of its own items. So a list that is nested in another one
-- may write it once more, and behind other columns.
import StructuredSql.Proofs.Column.Parts
import StructuredSql.Proofs.Projection.Agreement

namespace StructuredSql.ColumnList

/-! ## Reading a list -/

def keyword : List Char := ['D', 'I', 'S', 'T', 'I', 'N', 'C', 'T']

/-- How often the keyword stands in a text, what stands in double quotes aside. -/
def distinctsFrom (inside : Bool) : List Char → Nat
  | [] => 0
  | c :: s =>
    (if !inside && keyword.isPrefixOf (c :: s) then 1 else 0) +
      distinctsFrom (if c = '"' then !inside else inside) s

def distincts (list : String) : Nat := distinctsFrom false list.toList

/-- The first word of the list is the keyword. -/
def Leads (list : String) : Prop := "DISTINCT ".toList <+: list.toList

instance (list : String) : Decidable (Leads list) :=
  inferInstanceAs (Decidable ("DISTINCT ".toList <+: list.toList))

/-- The text holds the keyword so often, and its quotes are closed. -/
def Counts (n : Nat) (t : List Char) : Prop :=
  ∀ s, distinctsFrom false (t ++ s) = n + distinctsFrom false s

theorem counts_nil : Counts 0 [] := fun _ => (Nat.zero_add _).symm

theorem Counts.append {n m : Nat} {a b : List Char} (ha : Counts n a) (hb : Counts m b) :
    Counts (n + m) (a ++ b) := by
  intro s
  rw [List.append_assoc, ha, hb, Nat.add_assoc]

theorem distinctsFrom_cons {inside : Bool} {c : Char} (h : inside = true ∨ c ≠ 'D')
    (s : List Char) : distinctsFrom inside (c :: s) =
      distinctsFrom (if c = '"' then !inside else inside) s := by
  have hno : (!inside && keyword.isPrefixOf (c :: s)) = false := by
    rcases h with rfl | hd
    · rfl
    · have hkeyword : keyword.isPrefixOf (c :: s) = false := by
        simp [keyword, List.isPrefixOf, hd.symm]
      rw [hkeyword, Bool.and_false]
  rw [distinctsFrom, hno]
  exact Nat.zero_add _

theorem counts_plain {t : List Char} (h : ∀ c ∈ t, c ≠ '"' ∧ c ≠ 'D') : Counts 0 t := by
  intro s
  induction t with
  | nil => exact counts_nil s
  | cons c t ih =>
    obtain ⟨⟨hquote, hd⟩, ht⟩ := List.forall_mem_cons.1 h
    rw [List.cons_append, distinctsFrom_cons (.inr hd), if_neg hquote, ih ht]

theorem distinctsFrom_inside {t : List Char} (h : '"' ∉ t) (s : List Char) :
    distinctsFrom true (t ++ s) = distinctsFrom true s := by
  induction t with
  | nil => rfl
  | cons c t ih =>
    obtain ⟨hc, ht⟩ : '"' ≠ c ∧ '"' ∉ t := by simpa using h
    rw [List.cons_append, distinctsFrom_cons (.inl rfl), if_neg hc.symm, ih ht]

theorem counts_quoted {t : List Char} (h : '"' ∉ t) : Counts 0 ('"' :: (t ++ ['"'])) := by
  intro s
  rw [List.cons_append, List.append_assoc, List.singleton_append,
    distinctsFrom_cons (.inr (by decide)), if_pos rfl, Bool.not_false, distinctsFrom_inside h,
    distinctsFrom_cons (.inl rfl), if_pos rfl, Bool.not_true, Nat.zero_add]

theorem counts_distinct : Counts 1 "DISTINCT ".toList := by
  intro s
  have hhead : distinctsFrom false ('D' :: ("ISTINCT ".toList ++ s)) =
      1 + distinctsFrom false ("ISTINCT ".toList ++ s) := rfl
  exact hhead.trans (congrArg _ ((counts_plain (by decide) s).trans (Nat.zero_add _)))

/-- The text does not hold the keyword, nor begin as it does, and its quotes are closed. -/
def Quiet (t : List Char) : Prop := Counts 0 t ∧ t.head? ≠ some 'D'

theorem quiet_nil : Quiet [] := ⟨counts_nil, by simp⟩

theorem Quiet.append {a b : List Char} (ha : Quiet a) (hb : Quiet b) : Quiet (a ++ b) := by
  refine ⟨ha.1.append hb.1, ?_⟩
  cases a with
  | nil => exact hb.2
  | cons c a => exact ha.2

theorem quiet_plain {t : List Char} (h : ∀ c ∈ t, c ≠ '"' ∧ c ≠ 'D') : Quiet t := by
  refine ⟨counts_plain h, fun hd => ?_⟩
  exact (h 'D' (List.mem_of_mem_head? hd)).2 rfl

theorem quiet_quoted {t : List Char} (h : '"' ∉ t) : Quiet ('"' :: (t ++ ['"'])) :=
  ⟨counts_quoted h, by simp⟩

/-! ## The text of a part -/

variable {tablePrefix : String}

theorem quiet_table (hpre : '"' ∉ tablePrefix.toList) {name : String}
    (h : Name.IsPlain name.toList) : Quiet ((Piece.table name).chars tablePrefix) := by
  have hname : '"' ∉ tablePrefix.toList ++ name.toList := by
    simpa using ⟨hpre, quote_notMem_of_isPlain h⟩
  rw [Piece.chars_table, ← List.append_assoc]
  exact quiet_quoted hname

theorem quiet_column (tablePrefix : String) {name : String} (h : Name.IsPlain name.toList) :
    Quiet ((Piece.column name).chars tablePrefix) := by
  rw [Piece.chars_column]
  exact quiet_quoted (quote_notMem_of_isPlain h)

theorem quiet_columnName (hpre : '"' ∉ tablePrefix.toList) {c : ColumnName} (h : c.IsPlain) :
    Quiet (c.sql.chars tablePrefix) := by
  have hname := quiet_column tablePrefix h.name
  unfold ColumnName.sql
  split
  · rename_i table ht
    have hpoint : Quiet ['.'] := quiet_plain (by decide)
    simpa using (quiet_table hpre (h.qualifier table ht)).append (hpoint.append hname)
  · simpa using hname

theorem quiet_aliasSql {alias? : Option String} (h : ∀ a ∈ alias?, Name.IsPlain a.toList) :
    Quiet ((Listed.aliasSql alias?).chars tablePrefix) := by
  cases alias? with
  | none => simpa [Listed.aliasSql] using quiet_nil
  | some a =>
    have has : Quiet " AS ".toList := quiet_plain (by decide)
    simpa [Listed.aliasSql] using has.append (quiet_column tablePrefix (h a rfl))

theorem quiet_star (hpre : '"' ∉ tablePrefix.toList) {table? : Option String}
    (h : (Listed.star table?).IsPlain) :
    Quiet ((Listed.star table?).sql.chars tablePrefix) := by
  cases table? with
  | none => exact quiet_plain (by simp [Listed.sql])
  | some table =>
    have hstar : Quiet ".*".toList := quiet_plain (by decide)
    simpa [Listed.sql] using (quiet_table hpre (h table rfl)).append hstar

/-- An item that is a text holds no keyword but for its mark. -/
theorem quiet_textItem (hpre : '"' ∉ tablePrefix.toList) {s : String} {marked : Bool}
    {body : Sql} (h : textItem false s = .ok (marked, body)) :
    Quiet (body.chars tablePrefix) := by
  rcases textItem_eq_ok h with ⟨-, -, -, table?, hplain, rfl⟩ | ⟨-, i, hi, rfl⟩
  · exact quiet_star hpre hplain
  · have hplain := parse_eq_ok hi
    have hsql : i.sql = i.column.sql ++ Listed.aliasSql i.alias? := by
      unfold ColumnItem.sql
      cases i.alias? with
      | none => simp [Listed.aliasSql]
      | some a => rfl
    rw [hsql, Sql.chars_append]
    exact (quiet_columnName hpre hplain.1).append (quiet_aliasSql hplain.2)

/-- The part is marked as distinct where it stands. -/
def Part.distinct : Part → Bool
  | column distinct _ => distinct
  | _ => false

/-- No fragment stands in the part. -/
def Part.rawFree : Part → Bool
  | computed _ _ => false
  | fragment _ => false
  | _ => true

/-- The keyword stands in front of a part that is marked, and nowhere else in a part. -/
theorem Part.Written.quiet (hpre : '"' ∉ tablePrefix.toList) {part : Part} {sql : Sql}
    (hraw : part.rawFree = true) (h : part.Written sql) : ∃ t, Quiet t ∧
      sql.chars tablePrefix = (if part.distinct then "DISTINCT ".toList else []) ++ t := by
  cases part with
  | index key =>
    obtain ⟨column, hcolumn, rfl⟩ := columnSql_eq_ok h
    exact ⟨_, quiet_columnName hpre (columnName_isPlain hcolumn), rfl⟩
  | column distinct item =>
    obtain ⟨body, hbody, rfl⟩ := h
    refine ⟨body.chars tablePrefix, quiet_textItem hpre hbody, ?_⟩
    cases distinct <;> simp [Listed.distinctSql, Part.distinct]
  | blank =>
    cases h
    exact ⟨[], quiet_nil, by simp [Part.distinct]⟩
  | computed _ _ => cases hraw
  | fragment _ => cases hraw

/-! ## The text of a list -/

theorem chars_comma (sql : Sql) (sqls : List Sql) :
    (comma (sql :: sqls)).chars tablePrefix =
      sql.chars tablePrefix ++ sqls.flatMap fun s => ',' :: s.chars tablePrefix := by
  induction sqls generalizing sql with
  | nil => simp [comma, Sql.joinWith]
  | cons next more ih =>
    show Sql.chars tablePrefix (sql ++ .text "," :: comma (next :: more)) = _
    simp [ih]

theorem counts_of_written (hpre : '"' ∉ tablePrefix.toList) {part : Part} {sql : Sql}
    (hraw : part.rawFree = true) (h : part.Written sql) :
    Counts (if part.distinct then 1 else 0) (sql.chars tablePrefix) := by
  obtain ⟨t, ht, hchars⟩ := h.quiet hpre hraw
  rw [hchars]
  cases part.distinct with
  | true => exact counts_distinct.append ht.1
  | false => exact ht.1

theorem counts_flatMap (hpre : '"' ∉ tablePrefix.toList) {ps : List Part} {sqls : List Sql}
    (h : List.Forall₂ Part.Written ps sqls) (hraw : ∀ p ∈ ps, p.rawFree = true) :
    Counts (ps.countP Part.distinct) (sqls.flatMap fun s => ',' :: s.chars tablePrefix) := by
  induction h with
  | nil => exact counts_nil
  | @cons part sql ps sqls hpart _ ih =>
    obtain ⟨hp, hps⟩ := List.forall_mem_cons.1 hraw
    have hcomma : Counts 0 [','] := counts_plain (by decide)
    have hall := (hcomma.append (counts_of_written hpre hp hpart)).append (ih hps)
    rw [List.countP_cons, Nat.add_comm]
    simpa using hall

/-- A list holds the keyword as often as parts are marked, and begins with it if the first
part is. -/
theorem Writes.distincts (hpre : '"' ∉ tablePrefix.toList) {ps : List Part} {sql : Sql}
    (h : Writes ps sql) (hraw : ∀ p ∈ ps, p.rawFree = true) :
    ColumnList.distincts (sql.render tablePrefix) = ps.countP Part.distinct ∧
      (Leads (sql.render tablePrefix) ↔ ps.head?.any Part.distinct = true) := by
  obtain ⟨hne, sqls, hsqls, rfl⟩ := h
  cases hsqls with
  | nil => exact absurd rfl hne
  | @cons part sql ps sqls hpart hparts =>
    obtain ⟨hp, hps⟩ := List.forall_mem_cons.1 hraw
    obtain ⟨t, ht, hchars⟩ := hpart.quiet hpre hp
    have hrest := counts_flatMap hpre hparts hps
    refine ⟨?_, ?_⟩
    · have hcount := (counts_of_written hpre hp hpart).append hrest []
      rw [List.append_nil, ← chars_comma] at hcount
      rw [List.countP_cons, Nat.add_comm]
      exact hcount
    · show "DISTINCT ".toList <+: Sql.chars tablePrefix (comma (sql :: sqls)) ↔ part.distinct = true
      rw [chars_comma, hchars]
      cases part.distinct with
      | true => simp
      | false =>
        have hhead : (t ++ sqls.flatMap fun s => ',' :: s.chars tablePrefix).head? ≠ some 'D' := by
          cases t with
          | nil => cases sqls <;> simp
          | cons c t => exact ht.2
        refine iff_of_false (fun hlead => hhead ?_) (by simp)
        obtain ⟨s, hs⟩ := hlead
        exact hs ▸ rfl

/-! ## What a spec says -/

/-- The value is a marked item. -/
def isMarkedText : Value → Bool
  | .string s => isMarked s
  | _ => false

mutual

/-- How many lists of the spec have a marked item. A text alone is a list, too. -/
def markedLists : Value → Nat
  | .string s => if isMarked s then 1 else 0
  | .array entries => (if entries.any isMarkedText then 1 else 0) + itemsMarkedLists entries
  | .object entries => entriesMarkedLists entries
  | _ => 0
termination_by structural v => v

def itemsMarkedLists : List Value → Nat
  | [] => 0
  | v :: rest => (if v.isContainer then markedLists v else 0) + itemsMarkedLists rest
termination_by structural entries => entries

def entriesMarkedLists : List (String × Value) → Nat
  | [] => 0
  | (_, v) :: rest => markedLists v + entriesMarkedLists rest
termination_by structural entries => entries

end

mutual

/-- The first list that is written has a marked item. -/
def leads : Value → Bool
  | .string s => isMarked s
  | .array entries => entries.any isMarkedText || firstLeads entries
  | .object entries => firstEntryLeads entries
  | _ => false
termination_by structural v => v

def firstLeads : List Value → Bool
  | [] => false
  | v :: _ => leads v
termination_by structural entries => entries

def firstEntryLeads : List (String × Value) → Bool
  | [] => false
  | (_, v) :: _ => leads v
termination_by structural entries => entries

end

/-- A key that the results are grouped by stands in front of all lists. -/
def rootLeads (v : Value) : Bool := (grouped? v).isNone && leads v

mutual

/-- An item of the spec is marked, however deep. -/
def hasMark : Value → Bool
  | .string s => isMarked s
  | .array entries => itemsHaveMark entries
  | .object entries => entriesHaveMark entries
  | _ => false
termination_by structural v => v

def itemsHaveMark : List Value → Bool
  | [] => false
  | v :: rest => hasMark v || itemsHaveMark rest
termination_by structural entries => entries

def entriesHaveMark : List (String × Value) → Bool
  | [] => false
  | (_, v) :: rest => hasMark v || entriesHaveMark rest
termination_by structural entries => entries

end

/-! ### The marked parts -/

theorem countP_filled (ps : List Part) :
    (filled ps).countP Part.distinct = ps.countP Part.distinct := by
  cases ps <;> rfl

theorem frontParts_any (entries : List Value) :
    (entries.any isMarkedText = false ∧ frontParts false entries = []) ∨
      (entries.any isMarkedText = true ∧ ∃ s, frontParts false entries = [.column true s]) := by
  induction entries with
  | nil => exact .inl ⟨rfl, rfl⟩
  | cons v rest ih =>
    cases v with
    | string s =>
      rw [frontParts, List.any_cons, isMarkedText]
      cases isMarked s with
      | true => exact .inr ⟨rfl, s, rfl⟩
      | false => exact ih
    | _ => exact ih

theorem countP_frontParts (entries : List Value) :
    (frontParts false entries).countP Part.distinct =
      if entries.any isMarkedText then 1 else 0 := by
  rcases frontParts_any entries with ⟨hany, hfront⟩ | ⟨hany, s, hfront⟩
  · rw [hfront, hany]
    rfl
  · rw [hfront, hany]
    rfl

mutual

/-- Each list with a marked item writes one part as distinct. -/
theorem countP_parts : (v : Value) → (parts v).countP Part.distinct = markedLists v
  | .string s => by
    rw [parts, markedLists]
    cases isMarked s <;> rfl
  | .array entries => by
    rw [parts, markedLists, countP_filled, List.countP_append, countP_frontParts,
      countP_itemParts false entries]
  | .object entries => by
    rw [parts, markedLists, countP_filled, countP_entryParts entries]
  | .null | .bool _ | .int _ | .float _ | .bytes _ | .raw _ => rfl
termination_by structural v => v

theorem countP_itemParts (marked : Bool) : (entries : List Value) →
    (itemParts marked entries).countP Part.distinct = itemsMarkedLists entries
  | [] => rfl
  | v :: rest => by
    have hrest := fun marked => countP_itemParts marked rest
    have hnested : (parts v ++ itemParts marked rest).countP Part.distinct =
        markedLists v + itemsMarkedLists rest := by
      rw [List.countP_append, countP_parts v, hrest]
    cases v with
    | string s =>
      rw [itemParts, itemsMarkedLists]
      split
      · exact (hrest true).trans (Nat.zero_add _).symm
      · exact (hrest marked).trans (Nat.zero_add _).symm
    | _ => exact hnested
termination_by structural entries => entries

theorem countP_entryParts : (entries : List (String × Value)) →
    (entryParts entries).countP Part.distinct = entriesMarkedLists entries
  | [] => rfl
  | (key, v) :: rest => by
    have hnested : (parts v ++ entryParts rest).countP Part.distinct =
        markedLists v + entriesMarkedLists rest := by
      rw [List.countP_append, countP_parts v, countP_entryParts rest]
    cases v with
    | _ => exact hnested
termination_by structural entries => entries

end

theorem countP_rootParts (v : Value) :
    (rootParts v).countP Part.distinct = markedLists v := by
  unfold rootParts
  split
  · rename_i key nested hgrouped
    obtain ⟨rfl, -⟩ := grouped?_eq_some hgrouped
    exact countP_parts nested
  · exact countP_parts v

theorem parts_ne_nil (v : Value) : parts v ≠ [] := by
  have hfilled : ∀ ps, filled ps ≠ [] := fun ps => by cases ps <;> simp [filled]
  cases v with
  | array entries => exact hfilled _
  | object entries => exact hfilled _
  | _ => exact List.cons_ne_nil _ _

theorem head?_filled (ps : List Part) :
    (filled ps).head?.any Part.distinct = ps.head?.any Part.distinct := by
  cases ps <;> rfl

mutual

/-- The first part is marked if the first list has a marked item. -/
theorem head?_parts : (v : Value) → (parts v).head?.any Part.distinct = leads v
  | .string s => rfl
  | .array entries => by
    rw [parts, leads, head?_filled]
    rcases frontParts_any entries with ⟨hany, hfront⟩ | ⟨hany, s, hfront⟩
    · rw [hfront, hany, List.nil_append, Bool.false_or, head?_itemParts entries hany]
    · rw [hfront, hany]
      rfl
  | .object entries => by
    rw [parts, leads, head?_filled, head?_entryParts entries]
  | .null | .bool _ | .int _ | .float _ | .bytes _ | .raw _ => rfl
termination_by structural v => v

theorem head?_itemParts : (entries : List Value) → entries.any isMarkedText = false →
    (itemParts false entries).head?.any Part.distinct = firstLeads entries
  | [], _ => rfl
  | v :: rest, h => by
    have hnested : (parts v ++ itemParts false rest).head?.any Part.distinct = leads v := by
      rw [List.head?_append_of_ne_nil _ (parts_ne_nil v), head?_parts v]
    cases v with
    | string s =>
      have hs : isMarked s = false := (Bool.or_eq_false_iff.1 h).1
      rw [itemParts, hs, firstLeads, leads, hs]
      rfl
    | _ => exact hnested
termination_by structural entries => entries

theorem head?_entryParts : (entries : List (String × Value)) →
    (entryParts entries).head?.any Part.distinct = firstEntryLeads entries
  | [] => rfl
  | (key, v) :: rest => by
    have hnested : (parts v ++ entryParts rest).head?.any Part.distinct = leads v := by
      rw [List.head?_append_of_ne_nil _ (parts_ne_nil v), head?_parts v]
    cases v with
    | raw fragment => rfl
    | _ => exact hnested
termination_by structural entries => entries

end

theorem head?_rootParts (v : Value) :
    (rootParts v).head?.any Part.distinct = rootLeads v := by
  unfold rootParts rootLeads
  cases hgrouped : grouped? v with
  | some e => rfl
  | none => exact head?_parts v

/-! ### Marks, and parts without fragments -/

mutual

/-- An item is marked exactly if it is one of a list's own. -/
theorem hasMark_iff : (v : Value) → (hasMark v = true ↔ 0 < markedLists v)
  | .string s => by
    rw [hasMark, markedLists]
    cases isMarked s <;> simp
  | .array entries => by
    rw [hasMark, markedLists, itemsHaveMark_iff entries, Nat.add_pos_iff_pos_or_pos]
    cases entries.any isMarkedText <;> simp
  | .object entries => by
    rw [hasMark, markedLists, entriesHaveMark_iff entries]
  | .null | .bool _ | .int _ | .float _ | .bytes _ | .raw _ => by simp [hasMark, markedLists]
termination_by structural v => v

theorem itemsHaveMark_iff : (entries : List Value) → (itemsHaveMark entries = true ↔
    entries.any isMarkedText = true ∨ 0 < itemsMarkedLists entries)
  | [] => by simp [itemsHaveMark, itemsMarkedLists]
  | v :: rest => by
    rw [itemsHaveMark, itemsMarkedLists, Bool.or_eq_true, itemsHaveMark_iff rest, List.any_cons,
      Bool.or_eq_true, hasMark_iff v]
    have hlist : isMarkedText v = false → v.isContainer = true →
        (0 < markedLists v ∨ rest.any isMarkedText = true ∨ 0 < itemsMarkedLists rest ↔
          (isMarkedText v = true ∨ rest.any isMarkedText = true) ∨
            0 < (if v.isContainer then markedLists v else 0) + itemsMarkedLists rest) := by
      intro htext hcontainer
      rw [htext, if_pos hcontainer, Nat.add_pos_iff_pos_or_pos]
      simp only [Bool.false_eq_true, false_or]
      exact or_left_comm
    cases v with
    | string s =>
      rw [isMarkedText, markedLists]
      cases isMarked s <;> simp [Value.isContainer]
    | array entries => exact hlist rfl rfl
    | object entries => exact hlist rfl rfl
    | _ => simp [isMarkedText, markedLists, Value.isContainer]
termination_by structural entries => entries

theorem entriesHaveMark_iff : (entries : List (String × Value)) →
    (entriesHaveMark entries = true ↔ 0 < entriesMarkedLists entries)
  | [] => by simp [entriesHaveMark, entriesMarkedLists]
  | (key, v) :: rest => by
    rw [entriesHaveMark, entriesMarkedLists, Bool.or_eq_true, hasMark_iff v,
      entriesHaveMark_iff rest, Nat.add_pos_iff_pos_or_pos]
termination_by structural entries => entries

end

theorem frontParts_rawFree (marked : Bool) (entries : List Value) :
    ∀ p ∈ frontParts marked entries, p.rawFree = true := by
  induction entries with
  | nil => simp [frontParts]
  | cons v rest ih =>
    cases v with
    | string s =>
      rw [frontParts]
      split
      · simp [Part.rawFree]
      · exact ih
    | _ => exact ih

theorem filled_rawFree {ps : List Part} (h : ∀ p ∈ ps, p.rawFree = true) :
    ∀ p ∈ filled ps, p.rawFree = true := by
  unfold filled
  split
  · simp [Part.rawFree]
  · exact h

mutual

theorem parts_rawFree : (v : Value) → v.rawFree = true → ∀ p ∈ parts v, p.rawFree = true
  | .string s, _ => by simp [parts, Part.rawFree]
  | .array entries, h => by
    rw [parts]
    exact filled_rawFree (List.forall_mem_append.2
      ⟨frontParts_rawFree false entries, itemParts_rawFree false entries h⟩)
  | .object entries, h => by
    rw [parts]
    exact filled_rawFree (entryParts_rawFree entries h)
  | .raw _, h => by cases h
  | .null, _ | .bool _, _ | .int _, _ | .float _, _ | .bytes _, _ => by simp [parts, Part.rawFree]
termination_by structural v => v

theorem itemParts_rawFree (marked : Bool) : (entries : List Value) →
    itemsRawFree entries = true → ∀ p ∈ itemParts marked entries, p.rawFree = true
  | [], _ => by simp [itemParts]
  | v :: rest, h => by
    obtain ⟨hv, hrest⟩ := Bool.and_eq_true_iff.1 h
    have hothers := fun marked => itemParts_rawFree marked rest hrest
    have hnested : ∀ p ∈ parts v ++ itemParts marked rest, p.rawFree = true :=
      List.forall_mem_append.2 ⟨parts_rawFree v hv, hothers marked⟩
    cases v with
    | string s =>
      rw [itemParts]
      split
      · exact hothers true
      · exact List.forall_mem_cons.2 ⟨rfl, hothers marked⟩
    | _ => exact hnested
termination_by structural entries => entries

theorem entryParts_rawFree : (entries : List (String × Value)) →
    fieldsRawFree entries = true → ∀ p ∈ entryParts entries, p.rawFree = true
  | [], _ => by simp [entryParts]
  | (key, v) :: rest, h => by
    obtain ⟨hv, hrest⟩ := Bool.and_eq_true_iff.1 h
    have hnested : ∀ p ∈ parts v ++ entryParts rest, p.rawFree = true :=
      List.forall_mem_append.2 ⟨parts_rawFree v hv, entryParts_rawFree rest hrest⟩
    cases v with
    | raw _ => cases hv
    | _ => exact hnested
termination_by structural entries => entries

end

theorem rootParts_rawFree {v : Value} (h : v.rawFree = true) :
    ∀ p ∈ rootParts v, p.rawFree = true := by
  unfold rootParts
  split
  · rename_i key nested hgrouped
    obtain ⟨rfl, -⟩ := grouped?_eq_some hgrouped
    exact List.forall_mem_cons.2 ⟨rfl, parts_rawFree nested (Bool.and_eq_true_iff.1 h).1⟩
  · exact parts_rawFree v h

end StructuredSql.ColumnList

/-! ## The whole statement -/

namespace StructuredSql.Read

open ColumnList

theorem selected_rawFree {q : Query} (h : q.columnSpec.rawFree = true) :
    (selected q).rawFree = true := by
  unfold selected
  split
  · rfl
  · exact h

/-- The keyword stands in the list once, in front of everything, if it is asked for. -/
def OnceInFront (list : String) (asked : Bool) : Prop :=
  if asked then distincts list = 1 ∧ Leads list else distincts list = 0

/-- A column spec without fragments that compiles writes the keyword once for each of its
lists with a marked item, so not at all if no item is marked, and in front of everything if
the first list that is written is one of them. It stands once and in front exactly if there
is no other one. -/
theorem distinct_for_each_marked_list (c : Compiler) {q : Query} {compiled : Compiled}
    (hraw : q.columnSpec.rawFree = true) (h : c.select q = .ok compiled) :
    ∃ list : Sql, ∃ rest : String, Writes (rootParts (selected q)) list ∧
      compiled.sql = "SELECT " ++ around q (list.render c.tablePrefix) ++ " FROM " ++ rest ∧
      ('"' ∉ c.tablePrefix.toList →
        distincts (list.render c.tablePrefix) = markedLists (selected q) ∧
        (Leads (list.render c.tablePrefix) ↔ rootLeads (selected q) = true) ∧
        (OnceInFront (list.render c.tablePrefix) (hasMark (selected q)) ↔
          hasMark (selected q) = false ∨
            markedLists (selected q) = 1 ∧ rootLeads (selected q) = true)) := by
  obtain ⟨list, rest, hlist, hsql⟩ := select_writes h
  refine ⟨list, rest, hlist, hsql, fun hpre => ?_⟩
  obtain ⟨hcount, hleads⟩ := hlist.distincts hpre (rootParts_rawFree (selected_rawFree hraw))
  rw [countP_rootParts] at hcount
  rw [head?_rootParts] at hleads
  refine ⟨hcount, hleads, ?_⟩
  unfold OnceInFront
  rw [hcount, hleads]
  have hmark := hasMark_iff (selected q)
  cases hasked : hasMark (selected q) with
  | true => simp
  | false =>
    have hnone : markedLists (selected q) = 0 := by
      rw [hasked] at hmark
      simpa using hmark
    simp [hnone]

/-- Two marked columns, and a nested list without a mark. -/
def authorTexts : Query :=
  (Query.ofTable "post").withColumns (.array [.array [.string "id"], .string "@user.name (author)",
    .string "@title"])

theorem authorTexts_select : Compiler.select ⟨.mysql, "x_"⟩ authorTexts = .ok
    ⟨"SELECT DISTINCT \"x_user\".\"name\" AS \"author\",\"id\",\"title\" FROM \"x_post\"", []⟩ := by
  rfl

theorem authorTexts_once_in_front : authorTexts.columnSpec.rawFree = true ∧
    ∃ compiled, Compiler.select ⟨.mysql, "x_"⟩ authorTexts = .ok compiled ∧
      ∃ list : Sql, ∃ rest : String, Writes (rootParts (selected authorTexts)) list ∧
        compiled.sql = "SELECT " ++ list.render "x_" ++ " FROM " ++ rest ∧
        distincts (list.render "x_") = 1 ∧ Leads (list.render "x_") := by
  obtain ⟨list, rest, hlist, hsql, hread⟩ :=
    distinct_for_each_marked_list ⟨.mysql, "x_"⟩ (q := authorTexts) rfl authorTexts_select
  obtain ⟨hcount, hleads, -⟩ := hread (by decide)
  exact ⟨rfl, _, authorTexts_select, list, rest, hlist, hsql, hcount, hleads.2 rfl⟩

/-- A marked item of a nested list gets a keyword of its own, behind the other columns. -/
theorem nested_mark_doubles_the_keyword :
    Compiler.select ⟨.sqlite, ""⟩ ((Query.ofTable "t").withColumns
        (.array [.string "@id", .array [.string "@name"]])) =
      .ok ⟨"SELECT DISTINCT \"id\",DISTINCT \"name\" FROM \"t\"", []⟩ ∧
    ¬ OnceInFront "DISTINCT \"id\",DISTINCT \"name\"" true ∧
    Compiler.select ⟨.sqlite, ""⟩ ((Query.ofTable "t").withColumns
        (.object [("id", .array [.string "@name"])])) =
      .ok ⟨"SELECT \"id\",DISTINCT \"name\" FROM \"t\"", []⟩ ∧
    ¬ OnceInFront "\"id\",DISTINCT \"name\"" true := by
  refine ⟨rfl, ?_, rfl, ?_⟩
  · rintro ⟨hcount, -⟩
    exact absurd hcount (by decide)
  · rintro ⟨-, hleads⟩
    exact absurd hleads (by decide)

end StructuredSql.Read
