-- The clauses of a condition tree as sections of its text. A section is there when the entries
-- that ask for it are, and it begins with its keyword. The sections stand in one order, and
-- where a modifier stands among the other entries of the tree makes no difference.
import StructuredSql.Statement.Write
import StructuredSql.Proofs.Build.Results
import StructuredSql.Proofs.Entries
import StructuredSql.Proofs.Sql.Text

namespace StructuredSql.Clause

open Build (Makes Made)

/-! ## The parts of a tree's clauses -/

/-- What the clauses of a tree are put together from. -/
structure Parts where
  conditions : Sql
  search : Sql
  group : Sql
  having : Sql
  order : Sql
  limit : Sql

namespace Parts

/-- The clauses behind the conditions. -/
def tail (p : Parts) : Sql := p.group ++ p.having ++ p.order ++ p.limit

/-- Every part is made for the tree. -/
structure Of (d : Dialect) (tree : Fields) (p : Parts) : Prop where
  conditions : Made (Clause.conditions tree) p.conditions
  search : Made (searching d p.conditions.isEmpty tree) p.search
  group : Made (optionally (Entries.get? tree "GROUP") groupBy) p.group
  having : Made (optionally (Entries.get? tree "HAVING") Clause.having) p.having
  order : Made (optionally (Entries.get? tree "ORDER") (orderBy d)) p.order
  limit : Made (optionally (Entries.get? tree "LIMIT")
    (Clause.limit d (Entries.get? tree "ORDER").isSome)) p.limit

end Parts

theorem ofTree_parts (d : Dialect) (tree : Fields) : Makes (ofTree d tree) fun sql =>
    ∃ p : Parts, p.Of d tree ∧ sql = p.conditions ++ p.search ++ p.tail := by
  refine (Build.makes_made _).bind fun conditions hconditions => ?_
  refine (Build.makes_made _).bind fun search hsearch => ?_
  refine (Build.makes_made _).bind fun group hgroup => ?_
  refine (Build.makes_made _).bind fun having hhaving => ?_
  refine (Build.makes_made _).bind fun order horder => ?_
  refine (Build.makes_made _).bind fun limit hlimit => Build.makes_pure ?_
  refine ⟨⟨conditions, search, group, having, order, limit⟩,
    ⟨hconditions, hsearch, hgroup, hhaving, horder, hlimit⟩, ?_⟩
  simp only [Parts.tail, List.append_assoc]

/-! ## Sections of a text -/

/-- The text begins with the keyword if the section is there, and else it is empty. -/
def Section (present : Prop) (keyword text : String) : Prop :=
  (present ∧ ∃ rest, text = keyword ++ rest) ∨ (¬ present ∧ text = "")

/-- The tree has an entry under the key. -/
def Has (tree : Fields) (key : String) : Prop := (Entries.get? tree key).isSome = true

/-- The word that a page of rows begins with. -/
def pageWord (d : Dialect) : String := if d.pagesByFetch then " OFFSET " else " LIMIT "

/-- The sections that are no conditions, in their order. An engine that needs an order for its
pages is given one. -/
def InOrder (d : Dialect) (tree : Fields) (text : String) : Prop :=
  ∃ group having order limit : String, text = group ++ having ++ order ++ limit ∧
    Section (Has tree "GROUP") " GROUP BY " group ∧
    Section (Has tree "HAVING") " HAVING " having ∧
    Section (Has tree "ORDER" ∨ d = .mssql ∧ Has tree "LIMIT") " ORDER BY " order ∧
    Section (Has tree "LIMIT") (pageWord d) limit

variable {d : Dialect} {tree : Fields} {tablePrefix : String}

theorem Section.congr {p q : Prop} {keyword text : String} (h : Section p keyword text)
    (hpq : p ↔ q) : Section q keyword text := by
  rwa [Section, ← hpq]

theorem section_of_optionally {key keyword : String} {f : Value → Build Sql}
    (hf : ∀ v, Makes (f v) fun sql => ∃ rest, sql = .text keyword :: rest) {sql : Sql}
    (h : Made (optionally (Entries.get? tree key) f) sql) :
    Section (Has tree key) keyword (sql.render tablePrefix) := by
  unfold Section Has
  cases hget : Entries.get? tree key with
  | none =>
    rw [hget] at h
    have hnil := Build.made_pure_iff.1 h
    exact Or.inr ⟨by simp, by rw [hnil, Sql.render_nil]⟩
  | some v =>
    rw [hget] at h
    obtain ⟨rest, rfl⟩ := (hf v).of_made h
    exact Or.inl ⟨rfl, Sql.render tablePrefix rest, by rw [Sql.render_cons, Piece.render_text]⟩

theorem makes_headed (keyword : String) (x : Build Sql) :
    Makes (do return .text keyword :: (← x)) fun sql => ∃ rest, sql = .text keyword :: rest :=
  (Build.makes_made x).map fun rest _ => ⟨rest, rfl⟩

/-! ## The conditions and the search -/

theorem conditions_made {sql : Sql} (h : Made (conditions tree) sql) :
    (plain tree = [] ∧ sql = []) ∨ (plain tree ≠ [] ∧ ∃ rest, sql = .text " WHERE " :: rest ∧
      Made (Condition.tree .and (plain tree)) rest) := by
  unfold conditions at h
  split at h
  · rename_i hplain
    exact Or.inl ⟨by simpa using hplain, Build.made_pure_iff.1 h⟩
  · rename_i hplain
    obtain ⟨rest, hrest, rfl⟩ := Build.made_map_iff.1 h
    exact Or.inr ⟨by simpa using hplain, rest, rfl, hrest⟩

theorem isEmpty_conditions {sql : Sql} (h : Made (conditions tree) sql) :
    sql.isEmpty = (plain tree).isEmpty := by
  rcases conditions_made h with ⟨hplain, rfl⟩ | ⟨hplain, rest, rfl, -⟩
  · rw [hplain]
    rfl
  · exact (List.isEmpty_eq_false_iff.2 hplain).symm

/-- A search stands behind WHERE, by itself or as one more conjunct. -/
def searchWord (alone : Bool) : String := if alone then " WHERE MATCH (" else " AND MATCH ("

/-- What follows the word of a search. -/
def searched (spec : Value) : Build Sql :=
  match spec.object? with
  | none => Build.fail .matchShape
  | some fields =>
    match Entries.get? fields "columns", Entries.get? fields "keyword" with
    | some (.array columns), some keyword => do
      let names ← Join.columnNames .matchColumns columns
      let bound ← Build.text keyword.toText
      return Sql.joinWith ", " names ++ .text ") AGAINST (" ::
        (bound ++ Sql.text (searchMode fields ++ ")"))
    | _, _ => Build.fail .matchShape

theorem search_eq (alone : Bool) (spec : Value) :
    search alone spec = (do return .text (searchWord alone) :: (← searched spec)) := by
  unfold search searched
  cases spec.object? with
  | none => rfl
  | some fields =>
    dsimp only
    generalize Entries.get? fields "columns" = columns?
    generalize Entries.get? fields "keyword" = keyword?
    cases columns? with
    | none => rfl
    | some columns =>
      cases columns with
      | array items =>
        cases keyword? with
        | none => rfl
        | some keyword => simp only [searchWord, bind_assoc, pure_bind]
      | _ => rfl

theorem search_headed (alone : Bool) (spec : Value) :
    Makes (search alone spec) fun sql => ∃ rest, sql = .text (searchWord alone) :: rest := by
  rw [search_eq]
  exact makes_headed (searchWord alone) (searched spec)

theorem section_conditions {sql : Sql} (h : Made (conditions tree) sql) :
    Section (plain tree ≠ []) " WHERE " (sql.render tablePrefix) := by
  rcases conditions_made h with ⟨hplain, rfl⟩ | ⟨hplain, rest, rfl, -⟩
  · exact Or.inr ⟨fun hne => hne hplain, Sql.render_nil _⟩
  · exact Or.inl ⟨hplain, Sql.render tablePrefix rest, by rw [Sql.render_cons, Piece.render_text]⟩

theorem section_search {alone : Bool} {sql : Sql} (h : Made (searching d alone tree) sql) :
    Section (d = .mysql ∧ Has tree "MATCH") (searchWord alone) (sql.render tablePrefix) := by
  unfold searching at h
  split at h
  · rename_i hd
    have hsection : Section (Has tree "MATCH") (searchWord alone) (sql.render tablePrefix) :=
      section_of_optionally (search_headed alone) h
    exact hsection.congr (by simp [hd])
  · rename_i hd
    have hnil := Build.made_pure_iff.1 h
    exact Or.inr ⟨fun hsearch => hd hsearch.1, by rw [hnil, Sql.render_nil]⟩

/-! ## The limit -/

theorem limit_made {ordered : Bool} {sql : Sql}
    (h : Made (optionally (Entries.get? tree "LIMIT") (limit d ordered)) sql) :
    (¬ Has tree "LIMIT" ∧ sql = []) ∨
      (Has tree "LIMIT" ∧ ∃ offset? rows, sql = Sql.text (limitText d ordered offset? rows)) := by
  unfold Has
  cases hget : Entries.get? tree "LIMIT" with
  | none =>
    rw [hget] at h
    exact Or.inl ⟨by simp, Build.made_pure_iff.1 h⟩
  | some v =>
    rw [hget] at h
    have hlimit : Makes (limit d ordered v) fun sql =>
        ∃ offset? rows, sql = Sql.text (limitText d ordered offset? rows) :=
      Build.makes_read fun page _ => Build.makes_pure ⟨page.1, page.2, rfl⟩
    exact Or.inr ⟨rfl, hlimit.of_made h⟩

/-- A limit is an order that the engine asks for, if the tree has none, and the page. -/
theorem limitText_eq (d : Dialect) (ordered : Bool) (offset? : Option Nat) (rows : Nat) :
    ∃ page, limitText d ordered offset? rows =
      (if d = .mssql ∧ !ordered then " ORDER BY (SELECT 0)" else "") ++ (pageWord d ++ page) := by
  unfold limitText pageWord
  split
  · exact ⟨s!"{offset?.getD 0} ROWS FETCH NEXT {rows} ROWS ONLY", rfl⟩
  · rename_i hpages
    have hd : ¬ (d = .mssql ∧ (!ordered) = true) := by
      rintro ⟨rfl, -⟩
      exact hpages rfl
    rw [if_neg hd]
    cases offset? with
    | none => exact ⟨s!"{rows}", rfl⟩
    | some offset => exact ⟨s!"{rows} OFFSET {offset}", rfl⟩

theorem sections_order_limit (tablePrefix : String) {orderSql limitSql : Sql}
    (horder : Made (optionally (Entries.get? tree "ORDER") (orderBy d)) orderSql)
    (hlimit : Made (optionally (Entries.get? tree "LIMIT")
      (limit d (Entries.get? tree "ORDER").isSome)) limitSql) :
    ∃ order limit : String,
      orderSql.render tablePrefix ++ limitSql.render tablePrefix = order ++ limit ∧
      Section (Has tree "ORDER" ∨ d = .mssql ∧ Has tree "LIMIT") " ORDER BY " order ∧
      Section (Has tree "LIMIT") (pageWord d) limit := by
  have hsection : Section (Has tree "ORDER") " ORDER BY " (orderSql.render tablePrefix) :=
    section_of_optionally (fun v => makes_headed " ORDER BY " (ordering d v)) horder
  rcases limit_made hlimit with ⟨hno, rfl⟩ | ⟨hhas, offset?, rows, rfl⟩
  · refine ⟨orderSql.render tablePrefix, "", by rw [Sql.render_nil], ?_, Or.inr ⟨hno, rfl⟩⟩
    exact hsection.congr (by simp [hno])
  · obtain ⟨page, hpage⟩ :=
      limitText_eq d (Entries.get? tree "ORDER").isSome offset? rows
    rw [Sql.render_text, hpage]
    by_cases hneeds : d = .mssql ∧ (!(Entries.get? tree "ORDER").isSome) = true
    · -- The tree has no order of its own.
      obtain ⟨rfl, hbare⟩ := hneeds
      have hno : ¬ Has tree "ORDER" := by simpa [Has] using hbare
      rcases hsection with ⟨horder, -⟩ | ⟨-, hempty⟩
      · exact absurd horder hno
      · rw [hempty, if_pos ⟨rfl, hbare⟩]
        exact ⟨" ORDER BY (SELECT 0)", pageWord .mssql ++ page, rfl,
          Or.inl ⟨Or.inr ⟨rfl, hhas⟩, "(SELECT 0)", rfl⟩, Or.inl ⟨hhas, page, rfl⟩⟩
    · rw [if_neg hneeds, String.empty_append]
      refine ⟨orderSql.render tablePrefix, pageWord d ++ page, rfl, hsection.congr ⟨Or.inl, ?_⟩,
        Or.inl ⟨hhas, page, rfl⟩⟩
      rintro (horder | ⟨hd, -⟩)
      · exact horder
      · simpa [hd, Has, Option.isSome_iff_ne_none] using hneeds

theorem inOrder_tail {p : Parts} (h : p.Of d tree) :
    InOrder d tree (p.tail.render tablePrefix) := by
  obtain ⟨order, limit, htext, horder, hlimit⟩ :=
    sections_order_limit tablePrefix h.order h.limit
  refine ⟨p.group.render tablePrefix, p.having.render tablePrefix, order, limit, ?_,
    section_of_optionally (fun v => makes_headed " GROUP BY " (grouping v)) h.group,
    section_of_optionally (fun v => makes_headed " HAVING " (groupTest v)) h.having,
    horder, hlimit⟩
  rw [Parts.tail]
  simp only [Sql.render_append, String.append_assoc, htext]

/-! ## The order of the entries -/

theorem ofTree_perm (d : Dialect) {tree other : Fields} (hkeys : Entries.Distinct tree)
    (hperm : tree.Perm other) (hplain : plain tree = plain other) :
    ofTree d tree = ofTree d other := by
  have hget := Entries.get?_perm hkeys hperm
  have hconditions : conditions tree = conditions other := by rw [conditions, conditions, hplain]
  have hsearching : ∀ alone, searching d alone tree = searching d alone other := by
    intro alone
    rw [searching, searching, hget]
  unfold ofTree
  simp only [hconditions, hsearching, hget]

/-- Two trees with the same entries, whose conditions stand in the same order, have the same
clauses: the same fault, or the same text and bindings under every number. The text is that of
the conditions, the search, the groups, what is asked of them, the order and the page, in this
order, and a page that needs an order has one before it. -/
theorem modifiers_may_stand_anywhere (c : Compiler) {tree other : Fields}
    (hkeys : Entries.Distinct tree) (hperm : tree.Perm other) (hplain : plain tree = plain other) :
    all c.dialect (some (.object tree)) = all c.dialect (some (.object other)) ∧
    ∀ n sql bound, all c.dialect (some (.object tree)) n = .ok (sql, bound) →
      ∃ conditions search tail : String,
        sql.render c.tablePrefix = conditions ++ search ++ tail ∧
        Section (plain tree ≠ []) " WHERE " conditions ∧
        Section (c.dialect = .mysql ∧ Has tree "MATCH") (searchWord (plain tree).isEmpty) search ∧
        InOrder c.dialect tree tail := by
  refine ⟨ofTree_perm c.dialect hkeys hperm hplain, fun n sql bound h => ?_⟩
  obtain ⟨p, hp, rfl⟩ := ofTree_parts c.dialect tree n sql bound h
  refine ⟨p.conditions.render c.tablePrefix, p.search.render c.tablePrefix,
    p.tail.render c.tablePrefix, by rw [Sql.render_append, Sql.render_append],
    section_conditions hp.conditions, ?_, inOrder_tail hp⟩
  rw [← isEmpty_conditions hp.conditions]
  exact section_search hp.search

/-- A page of the kinds of posts that are often seen. -/
def kindPage : Fields :=
  [("LIMIT", .array [.int 20, .int 10]), ("HAVING", .object [("hits[>]", .int 5)]),
    ("GROUP", .string "kind")]

def finishedNotes : Fields := [("kind", .string "note"), ("draft", .null)]

set_option maxRecDepth 2048 in
theorem page_before_or_behind_notes : Entries.Distinct (kindPage ++ finishedNotes) ∧
    (kindPage ++ finishedNotes).Perm (finishedNotes ++ kindPage) ∧
    plain (kindPage ++ finishedNotes) = plain (finishedNotes ++ kindPage) ∧
    all .mssql (some (.object (kindPage ++ finishedNotes))) =
      all .mssql (some (.object (finishedNotes ++ kindPage))) ∧
    Compiler.delete ⟨.mssql, "x_"⟩ "post" (some (.object (kindPage ++ finishedNotes))) = .ok
      ⟨"DELETE FROM \"x_post\" WHERE \"kind\" = :p0 AND \"draft\" IS NULL GROUP BY \"kind\"" ++
        " HAVING \"hits\" > :p1 ORDER BY (SELECT 0) OFFSET 20 ROWS FETCH NEXT 10 ROWS ONLY",
        [(":p0", ⟨.string "note", .string⟩), (":p1", ⟨.int 5, .int⟩)]⟩ := by
  have hkeys : Entries.Distinct (kindPage ++ finishedNotes) := by
    unfold Entries.Distinct
    decide
  have hperm : (kindPage ++ finishedNotes).Perm (finishedNotes ++ kindPage) :=
    List.perm_append_comm
  have hplain : plain (kindPage ++ finishedNotes) = plain (finishedNotes ++ kindPage) := rfl
  obtain ⟨hsame, -⟩ := modifiers_may_stand_anywhere ⟨.mssql, "x_"⟩ hkeys hperm hplain
  exact ⟨hkeys, hperm, hplain, hsame, rfl⟩

end StructuredSql.Clause
