-- The items of a SELECT list: what each is written as, and the name under which its
-- column is reported. The names can be read off the text of the list.
import StructuredSql.Proofs.Name
import StructuredSql.Column.List
import Mathlib.Data.List.Basic

namespace StructuredSql.ColumnList

/-! ## Items -/

/-- An item between two commas of a SELECT list. -/
inductive Listed
  /-- All columns, perhaps of one table. -/
  | star (table? : Option String)
  | column (distinct : Bool) (name : ColumnName) (alias? : Option String)
  /-- What an empty list leaves. -/
  | blank
deriving DecidableEq, Repr

namespace Listed

def distinctSql (distinct : Bool) : Sql := if distinct then [.text "DISTINCT "] else []

def aliasSql : Option String → Sql
  | some a => [.text " AS ", .column a]
  | none => []

def sql : Listed → Sql
  | star none => [.text "*"]
  | star (some table) => [.table table, .text ".*"]
  | column distinct name alias? => distinctSql distinct ++ name.sql ++ aliasSql alias?
  | blank => []

/-- The name under which the column is reported: its alias, else the last part of its
name. A star stands for columns that the list does not name. -/
def resultName? : Listed → Option String
  | column _ name alias? => some (alias?.getD name.name)
  | _ => none

/-- The names of the item are plain. -/
def IsPlain : Listed → Prop
  | star table? => ∀ t ∈ table?, Name.IsPlain t.toList
  | column _ name alias? => name.IsPlain ∧ ∀ a ∈ alias?, Name.IsPlain a.toList
  | blank => True

end Listed

/-- The items as one list. -/
def listed (items : List Listed) : Sql := comma (items.map Listed.sql)

theorem joinWith_append {separator : String} {a b : List Sql} (ha : a ≠ []) (hb : b ≠ []) :
    Sql.joinWith separator (a ++ b) =
      Sql.joinWith separator a ++ .text separator :: Sql.joinWith separator b := by
  induction a with
  | nil => exact absurd rfl ha
  | cons sql a ih =>
    cases a with
    | nil =>
      cases b with
      | nil => exact absurd rfl hb
      | cons next more => rfl
    | cons next more =>
      show sql ++ .text separator :: Sql.joinWith separator (next :: more ++ b) = _
      rw [ih (by simp)]
      simp [Sql.joinWith]

theorem listed_append {a b : List Listed} (ha : a ≠ []) (hb : b ≠ []) :
    listed (a ++ b) = listed a ++ .text "," :: listed b := by
  unfold listed comma
  rw [List.map_append, joinWith_append (by simpa using ha) (by simpa using hb)]

/-- Lists of items, one behind the other, are one list of items. -/
theorem comma_listed {parts : List (List Listed)} (hparts : parts ≠ [])
    (h : ∀ items ∈ parts, items ≠ []) : comma (parts.map listed) = listed parts.flatten := by
  induction parts with
  | nil => exact absurd rfl hparts
  | cons items parts ih =>
    obtain ⟨hitems, hrest⟩ := List.forall_mem_cons.1 h
    cases parts with
    | nil => simp [comma, Sql.joinWith]
    | cons next more =>
      have hflat : (next :: more).flatten ≠ [] := by
        simpa using fun hnext => absurd hnext (hrest next List.mem_cons_self)
      rw [List.flatten_cons, listed_append hitems hflat, ← ih (by simp) hrest]
      rfl

/-! ## Reading the list -/

/-- The texts between the commas that stand outside double quotes. -/
def itemsFrom (inside : Bool) (read : List Char) : List Char → List (List Char)
  | [] => [read.reverse]
  | c :: s =>
    if c = ',' ∧ inside = false then read.reverse :: itemsFrom false [] s
    else itemsFrom (if c = '"' then !inside else inside) (c :: read) s

/-- What stands in double quotes at the end of an item. -/
def nameAtEnd? (item : List Char) : Option (List Char) :=
  match item.reverse with
  | '"' :: s => some (s.takeWhile (· ≠ '"')).reverse
  | _ => none

/-- The names that a list reports its columns under, read from its text. -/
def resultNames (list : String) : List String :=
  (itemsFrom false [] list.toList).filterMap fun item => (nameAtEnd? item).map String.ofList

/-- No comma of the text separates items, and its quotes are closed. -/
def Balanced (t : List Char) : Prop :=
  ∀ read s, itemsFrom false read (t ++ s) = itemsFrom false (t.reverse ++ read) s

theorem balanced_nil : Balanced [] := fun _ _ => rfl

theorem Balanced.append {a b : List Char} (ha : Balanced a) (hb : Balanced b) :
    Balanced (a ++ b) := by
  intro read s
  rw [List.append_assoc, ha, hb, List.reverse_append, List.append_assoc]

theorem balanced_plain {t : List Char} (h : ∀ c ∈ t, c ≠ '"' ∧ c ≠ ',') : Balanced t := by
  intro read s
  induction t generalizing read with
  | nil => rfl
  | cons c t ih =>
    obtain ⟨⟨hquote, hcomma⟩, ht⟩ := List.forall_mem_cons.1 h
    rw [List.cons_append, itemsFrom, if_neg (fun hc => hcomma hc.1), if_neg hquote, ih ht]
    simp

theorem itemsFrom_inside {t : List Char} (h : '"' ∉ t) (read s : List Char) :
    itemsFrom true read (t ++ s) = itemsFrom true (t.reverse ++ read) s := by
  induction t generalizing read with
  | nil => rfl
  | cons c t ih =>
    obtain ⟨hc, ht⟩ : '"' ≠ c ∧ '"' ∉ t := by simpa using h
    rw [List.cons_append, itemsFrom, if_neg (by simp), if_neg hc.symm, ih ht]
    simp

theorem balanced_quoted {t : List Char} (h : '"' ∉ t) : Balanced ('"' :: (t ++ ['"'])) := by
  intro read s
  rw [List.cons_append, itemsFrom, if_neg (by simp), if_pos rfl, List.append_assoc,
    Bool.not_false, itemsFrom_inside h]
  simp [itemsFrom]

theorem nameAtEnd?_quoted {t : List Char} (h : '"' ∉ t) (front : List Char) :
    nameAtEnd? (front ++ '"' :: (t ++ ['"'])) = some t := by
  have ht : ∀ c ∈ t.reverse, decide (c ≠ '"') = true := by
    intro c hc
    refine decide_eq_true ?_
    rintro rfl
    exact h (List.mem_reverse.1 hc)
  have hreverse : (front ++ '"' :: (t ++ ['"'])).reverse =
      '"' :: (t.reverse ++ '"' :: front.reverse) := by simp
  rw [nameAtEnd?, hreverse]
  simp only [List.takeWhile_append_of_pos ht]
  simp

theorem itemsFrom_intercalate {items : List (List Char)} (hne : items ≠ [])
    (h : ∀ item ∈ items, Balanced item) :
    itemsFrom false [] (",".toList.intercalate items) = items := by
  induction items with
  | nil => exact absurd rfl hne
  | cons item items ih =>
    obtain ⟨hitem, hitems⟩ := List.forall_mem_cons.1 h
    cases items with
    | nil =>
      have hlast := hitem [] []
      rw [List.append_nil] at hlast
      rw [List.intercalate_singleton, hlast]
      simp [itemsFrom]
    | cons next more =>
      rw [List.intercalate_cons_cons, List.append_assoc, hitem]
      show itemsFrom false (item.reverse ++ []) (',' :: ",".toList.intercalate (next :: more)) = _
      rw [itemsFrom, if_pos ⟨rfl, rfl⟩, ih (by simp) hitems]
      simp

/-! ### The text of an item -/

theorem quote_notMem_of_isPlain {name : List Char} (h : Name.IsPlain name) : '"' ∉ name :=
  fun hm => absurd (h _ hm) (by decide)

variable {tablePrefix : String}

theorem balanced_table (hpre : '"' ∉ tablePrefix.toList) {name : String}
    (h : Name.IsPlain name.toList) : Balanced ((Piece.table name).chars tablePrefix) := by
  have hname : '"' ∉ tablePrefix.toList ++ name.toList := by
    simpa using ⟨hpre, quote_notMem_of_isPlain h⟩
  rw [Piece.chars_table, ← List.append_assoc]
  exact balanced_quoted hname

theorem balanced_column (tablePrefix : String) {name : String} (h : Name.IsPlain name.toList) :
    Balanced ((Piece.column name).chars tablePrefix) := by
  rw [Piece.chars_column]
  exact balanced_quoted (quote_notMem_of_isPlain h)

/-- The column ends in its name, quoted. -/
theorem chars_columnName (hpre : '"' ∉ tablePrefix.toList) {c : ColumnName}
    (h : c.IsPlain) : Balanced (c.sql.chars tablePrefix) ∧
      ∃ front, c.sql.chars tablePrefix = front ++ '"' :: (c.name.toList ++ ['"']) := by
  have hname := balanced_column tablePrefix h.name
  unfold ColumnName.sql
  split
  · rename_i table ht
    have htable := balanced_table hpre (h.qualifier table ht)
    have hpoint : Balanced ['.'] := balanced_plain (by decide)
    refine ⟨?_, (Piece.table table).chars tablePrefix ++ ['.'], by simp⟩
    simpa using htable.append (hpoint.append hname)
  · exact ⟨by simpa using hname, [], by simp⟩

theorem Listed.balanced (hpre : '"' ∉ tablePrefix.toList) {item : Listed}
    (h : item.IsPlain) : Balanced (item.sql.chars tablePrefix) := by
  cases item with
  | blank => simpa [sql] using balanced_nil
  | star table? =>
    have hstar : Balanced ".*".toList := balanced_plain (by decide)
    cases table? with
    | none => exact balanced_plain (by simp [sql])
    | some table => simpa [sql] using (balanced_table hpre (h table rfl)).append hstar
  | column distinct name alias? =>
    have hdistinct : Balanced ((distinctSql distinct).chars tablePrefix) := by
      cases distinct with
      | false => simpa [distinctSql] using balanced_nil
      | true => exact balanced_plain (by simp [distinctSql])
    have halias : Balanced ((aliasSql alias?).chars tablePrefix) := by
      cases alias? with
      | none => simpa [aliasSql] using balanced_nil
      | some a =>
        have has : Balanced " AS ".toList := balanced_plain (by decide)
        simpa [aliasSql] using has.append (balanced_column tablePrefix (h.2 a rfl))
    rw [sql, Sql.chars_append, Sql.chars_append]
    exact (hdistinct.append (chars_columnName hpre h.1).1).append halias

theorem Listed.nameAtEnd? (hpre : '"' ∉ tablePrefix.toList) {item : Listed}
    (h : item.IsPlain) : (ColumnList.nameAtEnd? (item.sql.chars tablePrefix)).map String.ofList =
      item.resultName? := by
  cases item with
  | blank => simp [sql, ColumnList.nameAtEnd?, resultName?]
  | star table? =>
    cases table? with
    | none => simp [sql, ColumnList.nameAtEnd?, resultName?]
    | some table => simp [sql, ColumnList.nameAtEnd?, resultName?]
  | column distinct name alias? =>
    rw [sql, Sql.chars_append]
    cases alias? with
    | none =>
      obtain ⟨front, hfront⟩ := (chars_columnName hpre h.1).2
      rw [aliasSql, Sql.chars_append, Sql.chars_nil, List.append_nil, hfront, ← List.append_assoc,
        nameAtEnd?_quoted (quote_notMem_of_isPlain h.1.name)]
      simp [resultName?]
    | some a =>
      rw [aliasSql, Sql.chars_cons, Sql.chars_cons, Sql.chars_nil, List.append_nil,
        Piece.chars_column,
        ← List.append_assoc, nameAtEnd?_quoted (quote_notMem_of_isPlain (h.2 a rfl))]
      simp [resultName?]

/-- A list is read back as the names of its items. -/
theorem resultNames_listed (hpre : '"' ∉ tablePrefix.toList) {items : List Listed}
    (hne : items ≠ []) (h : ∀ item ∈ items, item.IsPlain) :
    resultNames ((listed items).render tablePrefix) = items.filterMap Listed.resultName? := by
  have hchars : ((listed items).render tablePrefix).toList =
      ",".toList.intercalate (items.map fun item => item.sql.chars tablePrefix) := by
    show Sql.chars tablePrefix (Sql.joinWith "," (items.map Listed.sql)) = _
    rw [Sql.chars_joinWith, List.map_map]
    rfl
  have hbalanced : ∀ t ∈ items.map fun item => item.sql.chars tablePrefix, Balanced t := by
    intro t ht
    obtain ⟨item, hitem, rfl⟩ := List.mem_map.1 ht
    exact Listed.balanced hpre (h item hitem)
  rw [resultNames, hchars, itemsFrom_intercalate (by simpa using hne) hbalanced,
    List.filterMap_map]
  exact List.filterMap_congr fun item hitem => Listed.nameAtEnd? hpre (h item hitem)

example : resultNames "DISTINCT \"x_t\".\"a\" AS \"b\",\"x_t\".*,\"x_t\".\"c\"" = ["b", "c"] := by
  decide

end StructuredSql.ColumnList
