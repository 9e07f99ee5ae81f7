-- What single conditions ask. An operator puts its words between its column and the placeholders
-- of its value, and that is a plain text: what it holds of AND and OR stands in parentheses.
import StructuredSql.Proofs.Build.Results
import StructuredSql.Proofs.Condition.Formula
import StructuredSql.Proofs.Name
import StructuredSql.Proofs.Text.Numeral
import StructuredSql.Proofs.Value.Everywhere

namespace StructuredSql

open Build (Makes)
open Sql (IsPlaceholder)
open Precedence (Plain Nested)

/-! ## Words -/

/-- A character that no word holds. -/
def Precedence.isBreak (c : Char) : Bool := [' ', '(', ')'].contains c

def Precedence.isParen (c : Char) : Bool := ['(', ')'].contains c

namespace Precedence

theorem isBreak_of_isPart {c : Char} (h : Name.isPart c = true) : isBreak c = false :=
  Text.contains_of_test (by decide) h

theorem isParen_of_isPart {c : Char} (h : Name.isPart c = true) : isParen c = false :=
  Text.contains_of_test (by decide) h

/-- The key of a placeholder holds no listed character when none is part of a numeral. -/
theorem contains_of_mem_key {listed : List Char}
    (hnumeral : ∀ d ∈ listed, Text.isNumeral d = false)
    (hhead : ∀ c ∈ ":p".toList, listed.contains c = false) (n : Nat) :
    ∀ c ∈ (placeholderKey n).toList, listed.contains c = false := by
  intro c hc
  rw [placeholderKey, String.toList_append] at hc
  rcases List.mem_append.1 hc with hc | hc
  · exact hhead c hc
  · exact Text.contains_of_test hnumeral (Text.numeral_natRepr n c hc)

theorem isBreak_of_mem_key (n : Nat) : ∀ c ∈ (placeholderKey n).toList, isBreak c = false :=
  contains_of_mem_key (by decide) (by decide) n

theorem isParen_of_mem_key (n : Nat) : ∀ c ∈ (placeholderKey n).toList, isParen c = false :=
  contains_of_mem_key (by decide) (by decide) n

end Precedence

section

variable {tablePrefix : String} (hp : Name.IsPlain tablePrefix.toList)

include hp

/-- Pieces without a break are one word. -/
theorem Sql.Avoids.plain {sql : Sql} (h : sql.Avoids Precedence.isBreak) :
    Plain (sql.chars tablePrefix) := by
  refine Precedence.plain_word fun c hc => ?_
  have hbreak := Sql.chars_avoid (fun _ => Precedence.isBreak_of_isPart) (by decide)
    Precedence.isBreak_of_mem_key hp h c hc
  simpa [Precedence.isBreak, and_assoc] using hbreak

theorem Sql.Avoids.nested {sql : Sql} (h : sql.Avoids Precedence.isParen) :
    Nested (sql.chars tablePrefix) := by
  refine Precedence.nested_flat fun c hc => ?_
  have hparen := Sql.chars_avoid (fun _ => Precedence.isParen_of_isPart) (by decide)
    Precedence.isParen_of_mem_key hp h c hc
  simpa [Precedence.isParen] using hparen

end

theorem Sql.IsPlaceholder.avoids {sql : Sql} (h : IsPlaceholder sql) {bad : Char → Bool} :
    sql.Avoids bad := by
  obtain ⟨n, rfl⟩ := h
  simp [Piece.Avoids]

/-- The key of a placeholder opens with a colon. -/
theorem Sql.IsPlaceholder.chars {sql : Sql} (h : IsPlaceholder sql) (tablePrefix : String) :
    ∃ s, sql.chars tablePrefix = ':' :: s := by
  obtain ⟨n, rfl⟩ := h
  exact ⟨_, by rw [Sql.chars_cons, Piece.chars_placeholder]; rfl⟩

/-- A column opens with a quote. -/
theorem ColumnName.chars_sql (column : ColumnName) (tablePrefix : String) :
    ∃ s, column.sql.chars tablePrefix = '"' :: s := by
  unfold ColumnName.sql
  split
  · exact ⟨_, by rw [Sql.chars_cons, Piece.chars_table]; rfl⟩
  · exact ⟨_, by rw [Sql.chars_cons, Piece.chars_column]; rfl⟩

namespace Condition

/-! ## What is asked -/

/-- What equality puts before a null, plain and negated. -/
def nullWords : List (Bool × String) := [(false, " IS NULL"), (true, " IS NOT NULL")]

def listWords : List (Bool × String) := [(false, " IN ("), (true, " NOT IN (")]

def equalWords : List (Bool × String) := [(false, " = "), (true, " != ")]

def orderWords : List (Order × String) :=
  [(.above, " > "), (.atLeast, " >= "), (.below, " < "), (.atMost, " <= ")]

def patternWords : List (Bool × String) := [(false, " LIKE "), (true, " NOT LIKE ")]

def rangeWords : List (Bool × String) := [(false, " BETWEEN "), (true, " NOT BETWEEN ")]

/-- A scalar stands under the placeholder. -/
structure Marked (v : Value) (mark : Sql) : Prop where
  scalar : (v.isContainer || v.isRaw) = false
  placeholder : IsPlaceholder mark

/-- What an operator asks of a column and of a value that holds no fragment. -/
inductive Asks (column : ColumnName) : Operator → Value → Sql → Prop
  | null {negated : Bool} {words : String} (h : (negated, words) ∈ nullWords) :
      Asks column (.equal negated) .null (column.sql ++ [.text words])
  | list {negated : Bool} {words : String} {items : List Value} {marks : List Sql}
      (h : (negated, words) ∈ listWords) (hsome : items ≠ [])
      (hmarks : List.Forall₂ Marked items marks) :
      Asks column (.equal negated) (.array items)
        (column.sql ++ .text words :: (Sql.joinWith ", " marks ++ [.text ")"]))
  | equal {negated : Bool} {words : String} {v : Value} {mark : Sql}
      (h : (negated, words) ∈ equalWords) (hthere : v.isNull = false) (hmark : Marked v mark) :
      Asks column (.equal negated) v (column.sql ++ .text words :: mark)
  | order {o : Order} {words : String} {v : Value} {mark : Sql} (h : (o, words) ∈ orderWords)
      (hmark : Marked v mark) : Asks column (.order o) v (column.sql ++ .text words :: mark)
  | like {negated : Bool} {words : String} {v : Value} {conjunction : Conjunction}
      {items : List Value} {marks : List Sql} (h : (negated, words) ∈ patternWords)
      (hpatterns : likePatterns? v = some (conjunction, items)) (hsome : items ≠ [])
      (hmarks : List.Forall₂ Marked items marks) :
      Asks column (.like negated) v (Sql.parens (joined conjunction
        (marks.map fun mark => column.sql ++ .text words :: mark)))
  | between {negated : Bool} {words : String} {low high : Value} {least most : Sql}
      (h : (negated, words) ∈ rangeWords) (hleast : Marked low least) (hmost : Marked high most) :
      Asks column (.between negated) (.array [low, high]) (Sql.parens
        (column.sql ++ .text words :: (least ++ .text " AND " :: most)))
  | regexp {v : Value} {mark : Sql} (hthere : v.isNull = false) (hmark : Marked v mark) :
      Asks column .regexp v (column.sql ++ .text " REGEXP " :: mark)

theorem marked_items {items : List Value} {marks : List Sql}
    (h : List.Forall₂ Marked items marks) :
    ∀ item ∈ items, (item.isContainer || item.isRaw) = false := by
  induction h with
  | nil => exact nofun
  | cons hmark _ ih => exact List.forall_mem_cons.2 ⟨hmark.scalar, ih⟩

theorem marked_marks {items : List Value} {marks : List Sql}
    (h : List.Forall₂ Marked items marks) : ∀ mark ∈ marks, IsPlaceholder mark := by
  induction h with
  | nil => exact nofun
  | cons hmark _ ih => exact List.forall_mem_cons.2 ⟨hmark.placeholder, ih⟩

section
variable {column : ColumnName} {v : Value}

theorem scalar_marked (v : Value) : Makes (Build.scalar v) (Marked v) := by
  cases v with
  | array items => exact Build.makes_fail
  | object fields => exact Build.makes_fail
  | raw fragment => exact Build.makes_fail
  | _ => exact (Build.makes_scalar _).imp fun mark hmark => ⟨rfl, hmark⟩

theorem equality_asks (negated : Bool) (hv : v.rawFree = true) :
    Makes (equality column negated v) (Asks column (.equal negated) v) := by
  have hwords : ∀ negated, (negated, s!" IS{notWord negated} NULL") ∈ nullWords ∧
      (negated, s!"{notWord negated} IN (") ∈ listWords ∧
      (negated, equalSign negated) ∈ equalWords := by decide
  obtain ⟨hnull, hlist, hequal⟩ := hwords negated
  have hscalar (hthere : v.isNull = false) :
      Makes (do return column.sql ++ .text (equalSign negated) :: (← Build.scalar v))
        (Asks column (.equal negated) v) :=
    (scalar_marked v).map fun mark hmark => .equal hequal hthere hmark
  cases v with
  | null => exact Build.makes_pure (.null hnull)
  | array items =>
    simp only [equality]
    split
    · exact Build.makes_fail
    · rename_i hempty
      refine (Build.makes_forall₂ items fun a _ => scalar_marked a).map fun marks hmarks => ?_
      exact .list hlist (by simpa using hempty) hmarks
  | object fields => exact Build.makes_fail
  | raw fragment => cases hv
  | _ => exact hscalar rfl

theorem comparand_marked (hv : v.rawFree = true) : Makes (comparand column v) (Marked v) := by
  have hmarked (h : (v.isContainer || v.isRaw) = false) :
      Makes (if v.isNumeric then Build.number v else Build.scalar v) (Marked v) := by
    split
    · exact (Build.makes_number v).imp fun mark hmark => ⟨h, hmark⟩
    · exact scalar_marked v
  cases v with
  | array items => exact Build.makes_fail
  | object fields => exact Build.makes_fail
  | raw fragment => cases hv
  | _ => exact hmarked rfl

theorem comparison_asks (o : Order) (hv : v.rawFree = true) :
    Makes (comparison column o v) (Asks column (.order o) v) := by
  refine (comparand_marked hv).map fun mark hmark => .order ?_ hmark
  cases o <;> decide

theorem pattern_marked (words : String) (item : Value) :
    Makes (if item.isContainer || item.isRaw then Build.fail (.likeItem column)
      else do
        let bound ← Build.text (Wildcard.around item.toText)
        return column.sql ++ .text words :: bound) fun clause =>
      ∃ mark, clause = column.sql ++ .text words :: mark ∧ Marked item mark := by
  split
  · exact Build.makes_fail
  · rename_i hscalar
    exact (Build.makes_text _).map fun mark hmark => ⟨mark, rfl, by simpa using hscalar, hmark⟩

/-- Where every item of the second list is the image of something related, it is the image of
a list of such. -/
theorem exists_forall₂_of_image {α β γ : Type} {R : α → β → Prop} {f : β → γ} {as : List α}
    {cs : List γ} (h : List.Forall₂ (fun a c => ∃ b, c = f b ∧ R a b) as cs) :
    ∃ bs : List β, cs = bs.map f ∧ List.Forall₂ R as bs := by
  induction h with
  | nil => exact ⟨[], rfl, .nil⟩
  | cons hhead _ ih =>
    obtain ⟨b, rfl, hb⟩ := hhead
    obtain ⟨bs, rfl, hbs⟩ := ih
    exact ⟨b :: bs, rfl, .cons hb hbs⟩

/-- The patterns of a LIKE stand in parentheses with their conjunction between them. -/
theorem like_marked (negated : Bool) (v : Value) :
    Makes (like column negated v) fun sql => ∃ conjunction items, ∃ marks : List Sql,
      likePatterns? v = some (conjunction, items) ∧ items ≠ [] ∧
      List.Forall₂ Marked items marks ∧ sql = Sql.parens (joined conjunction
        (marks.map fun mark => column.sql ++ .text s!"{notWord negated} LIKE " :: mark)) := by
  unfold like
  split
  · exact Build.makes_fail
  · exact Build.makes_fail
  · rename_i conjunction items hsome hpatterns
    refine (Build.makes_forall₂ items fun item _ => pattern_marked _ item).map fun clauses h => ?_
    obtain ⟨marks, rfl, hmarks⟩ := exists_forall₂_of_image h
    exact ⟨conjunction, items, marks, hpatterns, fun hnil => hsome hnil, hmarks, rfl⟩

theorem like_asks (negated : Bool) :
    Makes (like column negated v) (Asks column (.like negated) v) := by
  intro n sql bound h
  obtain ⟨conjunction, items, marks, hpatterns, hsome, hmarks, rfl⟩ :=
    like_marked negated v n sql bound h
  refine .like ?_ hpatterns hsome hmarks
  cases negated <;> decide

theorem bounds_marked {low high : Value} (hlow : low.rawFree = true) :
    Makes (bounds column low high) fun p => Marked low p.1 ∧ Marked high p.2 := by
  have hnumeric {v : Value} (h : v.isNumeric = true) : (v.isContainer || v.isRaw) = false := by
    cases v <;> first | rfl | cases h
  unfold bounds
  split
  · cases hlow
  · split
    · rename_i hnumbers
      obtain ⟨hl, hh⟩ := Bool.and_eq_true_iff.1 hnumbers
      refine (Build.makes_number _).bind fun a ha => ?_
      exact (Build.makes_number _).map fun b hb => ⟨⟨hnumeric hl, ha⟩, ⟨hnumeric hh, hb⟩⟩
    · split
      · exact Build.makes_fail
      · rename_i hscalars
        simp only [Bool.or_eq_true, not_or, Bool.not_eq_true] at hscalars
        obtain ⟨⟨⟨hl, hh⟩, hl'⟩, hh'⟩ := hscalars
        refine (Build.makes_text _).bind fun a ha => (Build.makes_text _).map fun b hb => ?_
        exact ⟨⟨by rw [hl, hl']; rfl, ha⟩, ⟨by rw [hh, hh']; rfl, hb⟩⟩

/-- A range has two bounds, and stands in parentheses. -/
theorem between_marked (negated : Bool) (hv : v.rawFree = true) :
    Makes (between column negated v) fun sql => ∃ low high, ∃ least most : Sql,
      v = .array [low, high] ∧ Marked low least ∧ Marked high most ∧
      sql = Sql.parens (column.sql ++ .text s!"{notWord negated} BETWEEN " ::
        (least ++ .text " AND " :: most)) := by
  unfold between
  split
  · rename_i low high
    simp only [Value.rawFree, itemsRawFree, Bool.and_eq_true] at hv
    exact (bounds_marked hv.1).map fun p h => ⟨low, high, p.1, p.2, rfl, h.1, h.2, rfl⟩
  · exact Build.makes_fail

theorem between_asks (negated : Bool) (hv : v.rawFree = true) :
    Makes (between column negated v) (Asks column (.between negated) v) := by
  intro n sql bound h
  obtain ⟨low, high, least, most, rfl, hleast, hmost, rfl⟩ :=
    between_marked negated hv n sql bound h
  refine .between ?_ hleast hmost
  cases negated <;> decide

theorem regexp_asks : Makes (regexp column v) (Asks column .regexp v) := by
  unfold regexp
  split
  · exact Build.makes_fail
  · rename_i hscalar
    simp only [Bool.or_eq_true, not_or, Bool.not_eq_true] at hscalar
    obtain ⟨⟨hcontainer, hraw⟩, hthere⟩ := hscalar
    refine (Build.makes_text _).map fun mark hmark => .regexp hthere ⟨?_, hmark⟩
    rw [hcontainer, hraw]
    rfl

/-- What an operator makes is what it asks. -/
theorem ask_asks (op : Operator) (hv : v.rawFree = true) :
    Makes (ask column op v) (Asks column op v) := by
  cases op with
  | equal negated => exact equality_asks negated hv
  | order o => exact comparison_asks o hv
  | like negated => exact like_asks negated
  | between negated => exact between_asks negated hv
  | regexp => exact regexp_asks

end

/-! ## Plain texts -/

variable {tablePrefix : String} (hp : Name.IsPlain tablePrefix.toList) {column : ColumnName}
  (hc : column.IsPlain)

include hp hc

theorem column_plain : Plain (column.sql.chars tablePrefix) :=
  Sql.Avoids.plain hp (hc.avoids (by decide))

/-- A column, words, and a plain part that does not open like a conjunction. -/
theorem plain_behind {s : String} {next : Char} (hs : Precedence.steady next s.toList = true)
    {sql : Sql} (hnext : ∃ t, sql.chars tablePrefix = next :: t)
    (hsql : Plain (sql.chars tablePrefix)) :
    Plain ((column.sql ++ .text s :: sql).chars tablePrefix) := by
  obtain ⟨t, ht⟩ := hnext
  rw [Sql.chars_append, Sql.chars_cons, Piece.chars_text, ht]
  rw [ht] at hsql
  exact (column_plain hp hc).append (Precedence.plain_steady_append hs hsql)

theorem placeholder_plain {s : String} (hs : Precedence.steady ':' s.toList = true) {sql : Sql}
    (h : IsPlaceholder sql) : Plain ((column.sql ++ .text s :: sql).chars tablePrefix) :=
  plain_behind hp hc hs (h.chars tablePrefix) (Sql.Avoids.plain hp h.avoids)

theorem range_nested {words : String} (hwords : ∀ c ∈ words.toList, Precedence.isParen c = false)
    {low high : Sql} (hlow : IsPlaceholder low) (hhigh : IsPlaceholder high) :
    Nested ((column.sql ++ .text words :: (low ++ .text " AND " :: high)).chars tablePrefix) := by
  refine Sql.Avoids.nested hp ?_
  simp only [Sql.avoids_append, Sql.avoids_cons]
  exact ⟨hc.avoids (by decide), hwords, hlow.avoids, by decide, hhigh.avoids⟩

/-- What is asked holds no conjunction outside its parentheses. -/
theorem Asks.plain {op : Operator} {v : Value} {sql : Sql} (h : Asks column op v sql) :
    Plain (sql.chars tablePrefix) := by
  cases h with
  | @null _ words h =>
    have hwords : ∀ e ∈ nullWords, Precedence.steady 'A' e.2.toList = true := by decide
    have hchars : Sql.chars tablePrefix [.text words] = words.toList := by simp
    rw [Sql.chars_append, hchars]
    exact (column_plain hp hc).append (Precedence.plain_of_steady (hwords _ h))
  | @list _ words _ marks h _ hmarks =>
    -- The last of the words is the bracket that opens the list.
    have hwords : ∀ e ∈ listWords, e.2.toList = e.2.toList.dropLast ++ ['('] ∧
        Precedence.steady '(' e.2.toList.dropLast = true := by decide
    obtain ⟨hopen, hsteady⟩ := hwords _ h
    have hlist : Sql.Avoids Precedence.isParen (Sql.joinWith ", " marks) :=
      Sql.avoids_joinWith (by decide) fun mark hm => (marked_marks hmarks mark hm).avoids
    have hgroup : Plain ('(' :: (Sql.joinWith ", " marks).chars tablePrefix ++ [')']) :=
      .group (Sql.Avoids.nested hp hlist) .nil
    have hclosed : Sql.chars tablePrefix [.text ")"] = [')'] := by simp
    rw [Sql.chars_append, Sql.chars_cons, Piece.chars_text, hopen, List.append_assoc,
      Sql.chars_append, hclosed]
    exact (column_plain hp hc).append (Precedence.plain_steady_append hsteady hgroup)
  | equal h _ hmark =>
    have hwords : ∀ e ∈ equalWords, Precedence.steady ':' e.2.toList = true := by decide
    exact placeholder_plain hp hc (hwords _ h) hmark.placeholder
  | order h hmark =>
    have hwords : ∀ e ∈ orderWords, Precedence.steady ':' e.2.toList = true := by decide
    exact placeholder_plain hp hc (hwords _ h) hmark.placeholder
  | @like _ _ _ conjunction _ _ h _ _ hmarks =>
    have hwords : ∀ e ∈ patternWords, Precedence.steady ':' e.2.toList = true := by decide
    exact plain_grouped conjunction (List.forall_mem_map.2 fun mark hm =>
      placeholder_plain hp hc (hwords _ h) (marked_marks hmarks mark hm))
  | between h hleast hmost =>
    have hwords : ∀ e ∈ rangeWords, ∀ c ∈ e.2.toList, Precedence.isParen c = false := by decide
    rw [Sql.chars_parens]
    exact .group (range_nested hp hc (hwords _ h) hleast.placeholder hmost.placeholder) .nil
  | regexp _ hmark => exact placeholder_plain hp hc (by decide) hmark.placeholder

/-- A single condition holds no conjunction outside its parentheses. -/
theorem ask_plain (op : Operator) {v : Value} (hv : v.rawFree = true) :
    Makes (ask column op v) fun sql => Plain (sql.chars tablePrefix) :=
  (ask_asks op hv).imp fun _ h => h.plain hp hc

omit hc in
/-- The condition of a key holds no conjunction outside its parentheses. -/
theorem single_plain (key : String) {v : Value} (hv : v.rawFree = true) :
    Makes (single key v) fun sql => Plain (sql.chars tablePrefix) := by
  refine Build.makes_read fun k hk => ?_
  have hplain := ConditionKey.read_isPlain hk
  cases k with
  | value column op => exact ask_plain hp hplain op hv
  | columns left sign right =>
    obtain ⟨hl, hs, hr⟩ := hplain
    refine Build.makes_pure (plain_behind hp hl ?_ (right.chars_sql tablePrefix)
      (column_plain hp hr))
    simp only [columnComparisons, List.mem_cons, List.not_mem_nil, or_false] at hs
    rcases hs with rfl | rfl | rfl | rfl | rfl | rfl <;> decide

end Condition
end StructuredSql
