-- The grammar of condition keys. A key is a column, perhaps with a sign in brackets behind it, and
-- behind a sign perhaps with another column; blank space may stand before and behind the sign.
-- What a key spells it is read as, and a key that spells nothing is refused.
import StructuredSql.Proofs.Quote

namespace StructuredSql

/-! ## Columns and operators -/

theorem columnName_eq_ok_iff {s : String} {c : ColumnName} :
    columnName s = .ok c ↔ c.IsNamed ∧ s = c.text := by
  rw [← ColumnName.ofText?_eq_some_iff]
  unfold columnName
  cases ColumnName.ofText? s <;> simp

theorem columnName_eq_error {s : String} {fault : Fault} (h : columnName s = .error fault) :
    fault = .columnName s := by
  unfold columnName at h
  split at h <;> cases h
  rfl

/-- A column that is named is read back from its text. -/
theorem ColumnName.eq_of_text {c d : ColumnName} (hc : c.IsNamed) (hd : d.IsNamed)
    (h : c.text = d.text) : c = d := by
  have hboth := (ofText?_eq_some_iff.2 ⟨hc, rfl⟩).symm.trans (ofText?_eq_some_iff.2 ⟨hd, h⟩)
  exact Option.some.inj hboth

/-- Every operator behind its sign. -/
def Operator.table : List (Option String × Operator) :=
  [(none, .equal false), (some "=", .equal false), (some "!", .equal true),
    (some ">", .order .above), (some ">=", .order .atLeast), (some "<", .order .below),
    (some "<=", .order .atMost), (some "~", .like false), (some "!~", .like true),
    (some "<>", .between false), (some "><", .between true), (some "REGEXP", .regexp)]

theorem Operator.ofText?_eq_some_iff {sign? : Option String} {op : Operator} :
    ofText? sign? = some op ↔ (sign?, op) ∈ table := by
  constructor
  · intro h
    unfold ofText? at h
    split at h <;> cases h <;> decide
  · have htable : ∀ e ∈ table, ofText? e.1 = some e.2 := by decide
    exact htable (sign?, op)

namespace ConditionKey

/-! ## What keys say -/

structure Reading where
  column : ColumnName
  sign? : Option String
  other? : Option ColumnName

/-- The signs that ask something of one column. -/
def valueSigns : List String := ["=", "!", ">", ">=", "<", "<=", "~", "!~", "<>", "><", "REGEXP"]

namespace Reading

/-- The columns are names, perhaps qualified. Alone a column takes any sign or none; two columns
are compared by the sign between them. -/
structure Lawful (r : Reading) : Prop where
  column : r.column.IsNamed
  other : ∀ other ∈ r.other?, other.IsNamed
  sign : match r.other? with
    | none => ∀ sign ∈ r.sign?, sign ∈ valueSigns
    | some _ => ∃ sign ∈ columnComparisons, r.sign? = some sign

end Reading

/-- A sign in its brackets. -/
def bracketed : Option String → List Char
  | none => []
  | some sign => '[' :: sign.toList ++ [']']

/-- The parts in order, with blank space before and behind the sign. -/
def Parts.Spelled (p : Parts) (key : String) : Prop :=
  ∃ before after : List Char, (∀ b ∈ before ++ after, Unicode.isBlank b = true) ∧
    key.toList =
      p.column.toList ++ before ++ bracketed p.op? ++ after ++ (p.other?.getD "").toList

namespace Reading

def parts (r : Reading) : Parts := ⟨r.column.text, r.sign?, r.other?.map ColumnName.text⟩

/-- The key says this. -/
def Spelled (r : Reading) (key : String) : Prop := r.parts.Spelled key

end Reading

/-! ## Parts of keys -/

theorem takeReference?_eq_some {s name rest : List Char}
    (h : takeReference? s = some (name, rest)) : s = name ++ rest := by
  unfold takeReference? at h
  split at h
  · cases h
  · split at h
    · cases h
      exact (List.cons_append ..).symm ▸ congrArg _ List.takeWhile_append_dropWhile.symm
    · cases h

theorem splitLastBracket?_eq_some {s before after : List Char}
    (h : splitLastBracket? s = some (before, after)) : s = before ++ ']' :: after := by
  unfold splitLastBracket? at h
  split at h
  · rename_i c r hdrop
    cases h
    have hc : c = ']' := by
      have hhead := List.head?_dropWhile_not (· ≠ ']') s.reverse
      rw [hdrop] at hhead
      simpa using hhead
    have hsplit := List.takeWhile_append_dropWhile (p := (· ≠ ']')) (l := s.reverse)
    rw [hdrop, hc] at hsplit
    simpa using (congrArg List.reverse hsplit).symm
  · cases h

/-- A text is split at its last bracket. -/
theorem splitLastBracket?_append (before : List Char) {after : List Char} (h : ']' ∉ after) :
    splitLastBracket? (before ++ ']' :: after) = some (before, after) := by
  have hpos : ∀ c ∈ after.reverse, decide (c ≠ ']') = true := by
    intro c hc
    refine decide_eq_true ?_
    rintro rfl
    exact h (List.mem_reverse.1 hc)
  have hreverse : (before ++ ']' :: after).reverse = after.reverse ++ ']' :: before.reverse := by
    simp
  unfold splitLastBracket?
  rw [hreverse, List.dropWhile_append_of_pos hpos, List.takeWhile_append_of_pos hpos]
  simp

theorem takeOperator?_eq_some {s rest : List Char} {op? : Option String}
    (h : takeOperator? s = some (op?, rest)) : s = bracketed op? ++ rest := by
  unfold takeOperator? at h
  split at h
  · split at h
    · rename_i hsplit
      split at h
      · cases h
      · cases h
        simp [bracketed, splitLastBracket?_eq_some hsplit]
    · cases h
  · cases h
    rfl

theorem takeOther?_eq_some {s : List Char} {other? : Option String}
    (h : takeOther? s = some other?) : s = (other?.getD "").toList := by
  unfold takeOther? at h
  split at h
  · cases h
    rfl
  · split at h
    · rename_i htake
      cases h
      simp [takeReference?_eq_some htake]
    · cases h

/-- A key that can be split is spelled by its parts. -/
theorem spelled_of_split? {key : String} {p : Parts} (h : split? key = some p) :
    p.Spelled key := by
  unfold split? at h
  simp only [Option.bind_eq_bind, Option.bind_eq_some_iff] at h
  obtain ⟨⟨column, behind⟩, hcolumn, ⟨op?, rest⟩, hop, other?, hother, hp⟩ := h
  cases hp
  obtain ⟨before, hbefore, hbehind⟩ := Text.exists_blank_before behind
  obtain ⟨after, hafter, hrest⟩ := Text.exists_blank_before rest
  refine ⟨before, after, List.forall_mem_append.2 ⟨hbefore, hafter⟩, ?_⟩
  rw [takeOperator?_eq_some hop] at hbehind
  rw [takeOther?_eq_some hother] at hrest
  rw [takeReference?_eq_some hcolumn, hbehind, hrest]
  simp

theorem split?_of_parts {key : String} {column behind rest : List Char}
    {op? other? : Option String} (hcolumn : takeReference? key.toList = some (column, behind))
    (hop : takeOperator? (Text.trimStart behind) = some (op?, rest))
    (hother : takeOther? (Text.trimStart rest) = some other?) :
    split? key = some ⟨String.ofList column, op?, other?⟩ := by
  simp [split?, hcolumn, hop, hother]

/-! ## Keys that are spelled -/

theorem isReferencePart_of_isPart {c : Char} (h : Name.isPart c = true) :
    isReferencePart c = true :=
  Bool.or_eq_true_iff.2 (.inl h)

theorem name_opens {name : List Char} (h : Name.isName name = true) : ∃ first more,
    name = first :: more ∧ Name.isStart first = true ∧ ∀ d ∈ more, Name.isPart d = true := by
  cases name with
  | nil => cases h
  | cons first more =>
    simp only [Name.isName, Bool.and_eq_true, List.all_eq_true] at h
    exact ⟨first, more, rfl, h.1, h.2⟩

/-- The text of a column opens like a name, and goes on in parts of names and points. -/
theorem text_opens {c : ColumnName} (h : c.IsNamed) : ∃ first more,
    c.text.toList = first :: more ∧ Name.isStart first = true ∧
      ∀ d ∈ more, isReferencePart d = true := by
  obtain ⟨qualifier, name⟩ := c
  obtain ⟨hname, hqualifier⟩ := h
  rw [ColumnName.toList_text]
  cases qualifier with
  | none =>
    obtain ⟨first, more, hlist, hfirst, hmore⟩ := name_opens hname
    exact ⟨first, more, hlist, hfirst, fun d hd => isReferencePart_of_isPart (hmore d hd)⟩
  | some table =>
    obtain ⟨first, more, hlist, hfirst, hmore⟩ := name_opens (hqualifier table rfl)
    refine ⟨first, more ++ '.' :: name.toList, by simp [hlist], hfirst, fun d hd => ?_⟩
    rcases List.mem_append.1 hd with hd | hd
    · exact isReferencePart_of_isPart (hmore d hd)
    · rcases List.mem_cons.1 hd with rfl | hd
      · rfl
      · exact isReferencePart_of_isPart (Name.isPlain_of_isName hname d hd)

/-- A column is taken whole when what follows cannot belong to it. -/
theorem takeReference?_append {c : ColumnName} (h : c.IsNamed) {rest : List Char}
    (hrest : ∀ d ∈ rest.head?, isReferencePart d = false) :
    takeReference? (c.text.toList ++ rest) = some (c.text.toList, rest) := by
  obtain ⟨first, more, hlist, hfirst, hmore⟩ := text_opens h
  have hstop : rest.takeWhile isReferencePart = [] ∧ rest.dropWhile isReferencePart = rest := by
    cases rest with
    | nil => exact ⟨rfl, rfl⟩
    | cons d rest => simp [hrest d rfl]
  rw [hlist, List.cons_append, takeReference?, if_pos hfirst,
    List.takeWhile_append_of_pos hmore, List.dropWhile_append_of_pos hmore, hstop.1, hstop.2,
    List.append_nil]

/-- Blank space ends a column. -/
theorem isReferencePart_of_isBlank {c : Char} (h : Unicode.isBlank c = true) :
    isReferencePart c = false := by
  have hpoint : c ≠ '.' := by
    rintro rfl
    exact absurd h (by decide)
  rw [isReferencePart, Name.isPart_of_isBlank h, Bool.false_or, beq_eq_false_iff_ne]
  exact hpoint

theorem trimStart_append {blank rest : List Char} (hblank : ∀ b ∈ blank, Unicode.isBlank b = true)
    (hrest : ∀ d ∈ rest.head?, Unicode.isBlank d = false) :
    Text.trimStart (blank ++ rest) = rest := by
  unfold Text.trimStart
  rw [List.dropWhile_append_of_pos hblank]
  cases rest with
  | nil => rfl
  | cons d rest => rw [List.dropWhile_cons_of_neg (by simp [hrest d rfl])]

namespace Reading

variable {r : Reading} {key : String}

theorem takeOperator?_bracketed {sign : String} (h : sign ∈ valueSigns ++ columnComparisons)
    {rest : List Char} (hrest : ']' ∉ rest) :
    takeOperator? (bracketed (some sign) ++ rest) = some (some sign, rest) := by
  have hsigns : ∀ sign ∈ valueSigns ++ columnComparisons,
      ¬ (sign.toList = [] ∨ sign.toList.contains '\n' = true) := by decide
  have hsplit := splitLastBracket?_append sign.toList hrest
  have htext : bracketed (some sign) ++ rest = '[' :: (sign.toList ++ ']' :: rest) := by
    simp [bracketed]
  rw [htext, takeOperator?, hsplit]
  dsimp only
  rw [if_neg (hsigns sign h), String.ofList_toList]

theorem takeOther?_text {c : ColumnName} (h : c.IsNamed) :
    takeOther? c.text.toList = some (some c.text) := by
  have htake : takeReference? (c.text.toList ++ []) = some (c.text.toList, []) :=
    takeReference?_append h nofun
  rw [List.append_nil] at htake
  unfold takeOther?
  split
  · rename_i hnil
    obtain ⟨first, more, hlist, -⟩ := text_opens h
    rw [hnil] at hlist
    cases hlist
  · rw [htake]
    simp

/-- What stands behind a sign: blank space, and perhaps a column. -/
theorem Lawful.behind (h : r.Lawful) {after : List Char}
    (hafter : ∀ b ∈ after, Unicode.isBlank b = true) :
    ']' ∉ after ++ (r.parts.other?.getD "").toList ∧
      takeOther? (Text.trimStart (after ++ (r.parts.other?.getD "").toList)) =
        some r.parts.other? := by
  have hbracket : ']' ∉ after := fun hm => absurd (hafter _ hm) (by decide)
  unfold parts
  cases hother : r.other? with
  | none =>
    have htrim : Text.trimStart (after ++ []) = [] := trimStart_append hafter nofun
    simp only [Option.map_none, Option.getD_none, String.toList_empty, List.append_nil] at htrim ⊢
    rw [htrim]
    exact ⟨hbracket, rfl⟩
  | some other =>
    have hnamed := h.other other hother
    obtain ⟨first, more, hlist, hfirst, hmore⟩ := text_opens hnamed
    have hpart : isReferencePart first = true :=
      isReferencePart_of_isPart (Name.isPart_of_isStart hfirst)
    have hblank : Unicode.isBlank first = false := by
      by_contra hb
      rw [isReferencePart_of_isBlank (by simpa using hb)] at hpart
      cases hpart
    simp only [Option.map_some, Option.getD_some]
    rw [trimStart_append hafter (by simpa [hlist] using hblank), takeOther?_text hnamed]
    refine ⟨fun hm => ?_, rfl⟩
    rcases List.mem_append.1 hm with hm | hm
    · exact hbracket hm
    · rw [hlist] at hm
      rcases List.mem_cons.1 hm with rfl | hm
      · exact absurd hpart (by decide)
      · exact absurd (hmore _ hm) (by decide)

theorem Lawful.sign_mem (h : r.Lawful) {sign : String} (hsign : r.sign? = some sign) :
    sign ∈ valueSigns ++ columnComparisons := by
  have hs := h.sign
  split at hs
  · exact List.mem_append_left _ (hs sign hsign)
  · obtain ⟨other, hmem, hother⟩ := hs
    rw [hsign] at hother
    cases hother
    exact List.mem_append_right _ hmem

theorem Lawful.alone (h : r.Lawful) (hsign : r.sign? = none) : r.other? = none := by
  have hs := h.sign
  split at hs
  · assumption
  · obtain ⟨sign, -, hother⟩ := hs
    rw [hsign] at hother
    cases hother

/-- A key is split into what it spells. -/
theorem Lawful.split? (h : r.Lawful) (hkey : r.Spelled key) : split? key = some r.parts := by
  obtain ⟨before, after, hblank, htext⟩ := hkey
  obtain ⟨hbefore, hafter⟩ := List.forall_mem_append.1 hblank
  rcases hsign : r.sign? with _ | sign
  · have hother := h.alone hsign
    have hlist : key.toList = r.column.text.toList ++ (before ++ after) := by
      simpa [parts, hsign, hother, bracketed] using htext
    have hends : ∀ d ∈ (before ++ after).head?, isReferencePart d = false :=
      fun d hd => isReferencePart_of_isBlank (hblank d (List.mem_of_head? hd))
    have hspace : Text.trimStart (before ++ after ++ []) = [] := trimStart_append hblank nofun
    rw [List.append_nil] at hspace
    have hoperator : takeOperator? (Text.trimStart (before ++ after)) = some (none, []) := by
      rw [hspace]
      rfl
    have hcolumn := takeReference?_append h.column hends
    rw [← hlist] at hcolumn
    rw [split?_of_parts hcolumn hoperator rfl]
    simp [parts, hsign, hother]
  · obtain ⟨hbracket, hother⟩ := h.behind hafter
    have hlist : key.toList = r.column.text.toList ++ (before ++ (bracketed (some sign) ++
        (after ++ (r.parts.other?.getD "").toList))) := by
      simpa [parts, hsign] using htext
    have hends : ∀ d ∈ (before ++ (bracketed (some sign) ++
        (after ++ (r.parts.other?.getD "").toList))).head?, isReferencePart d = false := by
      intro d hd
      cases before with
      | nil =>
        cases hd
        rfl
      | cons b before =>
        cases hd
        exact isReferencePart_of_isBlank (hbefore _ List.mem_cons_self)
    have hopen : ∀ d ∈ (bracketed (some sign) ++
        (after ++ (r.parts.other?.getD "").toList)).head?, Unicode.isBlank d = false := by
      intro d hd
      cases hd
      rfl
    have hcolumn := takeReference?_append h.column hends
    rw [← hlist] at hcolumn
    have hoperator := takeOperator?_bracketed (h.sign_mem hsign) hbracket
    rw [← trimStart_append hbefore hopen] at hoperator
    rw [split?_of_parts hcolumn hoperator hother]
    simp [parts, hsign]

/-- A column that stands alone is asked something. -/
theorem Lawful.operator (h : r.Lawful) (hother : r.other? = none) :
    ∃ op, Operator.ofText? r.sign? = some op := by
  have hsign := h.sign
  rw [hother] at hsign
  rcases hs : r.sign? with _ | sign
  · exact ⟨_, rfl⟩
  · have hall : ∀ sign ∈ valueSigns, (Operator.ofText? (some sign)).isSome = true := by decide
    exact Option.isSome_iff_exists.1 (hall sign (hsign sign hs))

theorem Lawful.read_value (h : r.Lawful) (hkey : r.Spelled key) (hother : r.other? = none) :
    ∃ op, (r.sign?, op) ∈ Operator.table ∧ read key = .ok (.value r.column op) := by
  obtain ⟨op, hop⟩ := h.operator hother
  have hcolumn : columnName r.column.text = .ok r.column := columnName_eq_ok_iff.2 ⟨h.column, rfl⟩
  refine ⟨op, Operator.ofText?_eq_some_iff.1 hop, ?_⟩
  unfold read
  rw [h.split? hkey]
  simp [parts, hcolumn, hother, hop, bind, Except.bind, pure, Except.pure]

theorem Lawful.read_columns (h : r.Lawful) (hkey : r.Spelled key) {other : ColumnName}
    (hother : r.other? = some other) :
    ∃ sign, r.sign? = some sign ∧ read key = .ok (.columns r.column sign other) := by
  have hsign := h.sign
  rw [hother] at hsign
  obtain ⟨sign, hmem, hs⟩ := hsign
  have hleft : columnName r.column.text = .ok r.column := columnName_eq_ok_iff.2 ⟨h.column, rfl⟩
  have hright : columnName other.text = .ok other :=
    columnName_eq_ok_iff.2 ⟨h.other other hother, rfl⟩
  refine ⟨sign, hs, ?_⟩
  unfold read
  rw [h.split? hkey]
  simp [parts, hleft, hother, hs, hmem, hright, bind, Except.bind, pure, Except.pure]

/-- A key has one lawful reading at most. -/
theorem Lawful.unique {r' : Reading} (h : r.Lawful) (hkey : r.Spelled key) (h' : r'.Lawful)
    (hkey' : r'.Spelled key) : r = r' := by
  have hparts : r.parts = r'.parts :=
    Option.some.inj ((h.split? hkey).symm.trans (h'.split? hkey'))
  obtain ⟨column, sign?, other?⟩ := r
  obtain ⟨column', sign?', other?'⟩ := r'
  simp only [parts, Parts.mk.injEq] at hparts
  obtain ⟨hcolumn, rfl, hother⟩ := hparts
  obtain rfl := ColumnName.eq_of_text h.column h'.column hcolumn
  have hothers : other? = other?' := by
    cases other? with
    | none => exact (Option.map_eq_none_iff.1 hother.symm).symm
    | some other =>
      obtain ⟨other', rfl, htext⟩ := Option.map_eq_some_iff.1 hother.symm
      rw [ColumnName.eq_of_text (h.other other rfl) (h'.other other' rfl) htext.symm]
  rw [hothers]

end Reading

/-- A key that is read spells a lawful reading. -/
theorem exists_reading {key : String} {k : ConditionKey} (h : read key = .ok k) :
    ∃ r : Reading, r.Lawful ∧ r.Spelled key := by
  unfold read at h
  split at h
  · cases h
  · rename_i p hsplit
    have hkey := spelled_of_split? hsplit
    obtain ⟨text, op?, other?⟩ := p
    rcases hcolumn : columnName text with _ | column
    · simp [hcolumn, bind, Except.bind] at h
    obtain ⟨hnamed, rfl⟩ := columnName_eq_ok_iff.1 hcolumn
    simp only [hcolumn, bind, Except.bind] at h
    split at h
    · rename_i other sign
      split at h
      · rename_i hsign
        rcases hother : columnName other with _ | right
        · simp [hother] at h
        obtain ⟨hright, rfl⟩ := columnName_eq_ok_iff.1 hother
        simp only [hother] at h
        cases h
        refine ⟨⟨column, some sign, some right⟩, ⟨hnamed, ?_, ?_⟩, hkey⟩
        · simpa using hright
        · exact ⟨sign, List.contains_iff_mem.1 hsign, rfl⟩
      · cases h
    · cases h
    · split at h
      · rename_i op hop
        cases h
        refine ⟨⟨column, op?, none⟩, ⟨hnamed, nofun, ?_⟩, hkey⟩
        have hall : ∀ e ∈ Operator.table, ∀ sign ∈ e.1, sign ∈ valueSigns := by decide
        exact hall (op?, op) (Operator.ofText?_eq_some_iff.1 hop)
      · cases h

/-- A key that is not read is refused in itself. -/
theorem isValidation_of_read {key : String} {fault : Fault} (h : read key = .error fault) :
    fault.isValidation = true := by
  unfold read at h
  split at h
  · cases h
    rfl
  · rename_i p _
    rcases hcolumn : columnName p.column with e | column
    · simp only [hcolumn, bind, Except.bind] at h
      cases h
      rw [columnName_eq_error hcolumn]
      rfl
    simp only [hcolumn, bind, Except.bind] at h
    split at h
    · rename_i other sign _ _
      split at h
      · rcases hother : columnName other with e | right
        · simp only [hother] at h
          cases h
          rw [columnName_eq_error hother]
          rfl
        · simp only [hother] at h
          cases h
      · cases h
        rfl
    · cases h
      rfl
    · split at h
      · cases h
      · cases h
        rfl

end ConditionKey
end StructuredSql
