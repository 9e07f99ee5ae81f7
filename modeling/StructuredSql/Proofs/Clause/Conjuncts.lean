-- Which entries of a condition tree stand behind WHERE. Every entry that is no modifier does,
-- and so does a search where the dialect has one. Of the modifiers each one is a clause of its
-- own, except that nothing at all is made of LIKE.
import StructuredSql.Proofs.Clause.Sections
import StructuredSql.Proofs.Statement.Basic

namespace StructuredSql

open Build (Makes Made)

/-! ## Texts that are not empty -/

/-- The SQL begins with a piece that is no empty text. -/
def Sql.Begun (sql : Sql) : Prop := ∃ p rest, sql = p :: rest ∧ p ≠ .text ""

namespace Sql

variable {a : Sql}

theorem Begun.append (h : a.Begun) (b : Sql) : Begun (a ++ b) := by
  obtain ⟨p, rest, rfl, hp⟩ := h
  exact ⟨p, rest ++ b, rfl, hp⟩

theorem begun_parens (sql : Sql) : (parens sql).Begun :=
  ⟨.text "(", sql ++ [.text ")"], rfl, by simp⟩

theorem begun_column (c : ColumnName) : c.sql.Begun := by
  unfold ColumnName.sql
  split
  · exact ⟨_, _, rfl, by simp⟩
  · exact ⟨_, _, rfl, by simp⟩

theorem Begun.render_ne (h : a.Begun) (tablePrefix : String) : a.render tablePrefix ≠ "" := by
  obtain ⟨p, rest, rfl, hp⟩ := h
  rw [render_cons]
  intro hempty
  have hchars := congrArg String.toList hempty
  rw [String.toList_append] at hchars
  obtain ⟨hpiece, -⟩ := List.append_eq_nil_iff.1 hchars
  change p.chars tablePrefix = [] at hpiece
  cases p with
  | text s =>
    have hs : s = "" := by simpa using hpiece
    exact hp (by rw [hs])
  | table name => simp at hpiece
  | column name => simp at hpiece
  | placeholder n => simp at hpiece

end Sql

namespace Condition

/-! ## One entry -/

theorem equality_begun (column : ColumnName) (negated : Bool) (v : Value) :
    Makes (equality column negated v) Sql.Begun := by
  have hcolumn := Sql.begun_column column
  unfold equality
  split
  · exact Build.makes_pure (hcolumn.append _)
  · split
    · exact Build.makes_fail
    · exact (Build.makes_made _).map fun _ _ => hcolumn.append _
  · exact (Build.makes_made _).map fun _ _ => hcolumn.append _
  · exact Build.makes_fail
  · exact (Build.makes_made _).map fun _ _ => hcolumn.append _

theorem ask_begun (column : ColumnName) (op : Operator) (v : Value) :
    Makes (ask column op v) Sql.Begun := by
  have hcolumn := Sql.begun_column column
  cases op with
  | equal negated => exact equality_begun column negated v
  | order o => exact (Build.makes_made _).map fun _ _ => hcolumn.append _
  | like negated =>
    simp only [ask, like]
    split
    · exact Build.makes_fail
    · exact Build.makes_fail
    · exact (Build.makes_made _).map fun _ _ => Sql.begun_parens _
  | between negated =>
    simp only [ask, between]
    split
    · exact (Build.makes_made _).map fun _ _ => Sql.begun_parens _
    · exact Build.makes_fail
  | regexp =>
    simp only [ask, regexp]
    split
    · exact Build.makes_fail
    · exact (Build.makes_made _).map fun _ _ => hcolumn.append _

/-- The condition of one entry of a map. -/
def entry (e : String × Value) : Build Sql :=
  match ConditionKey.group? e.1, e.2.isContainer with
  | some conjunction, true => grouped conjunction (inside e.2)
  | _, _ => single e.1 e.2

theorem entry_begun (e : String × Value) : Makes (entry e) Sql.Begun := by
  unfold entry
  split
  · exact (Build.makes_made _).map fun _ _ => Sql.begun_parens _
  · refine Build.makes_read fun k _ => ?_
    cases k with
    | value column op => exact ask_begun column op e.2
    | columns left sign right => exact Build.makes_pure ((Sql.begun_column left).append _)

theorem entries_eq_each (fields : Fields) : entries fields = Build.each entry fields := by
  induction fields with
  | nil => rfl
  | cons e rest ih =>
    obtain ⟨key, v⟩ := e
    unfold entries
    rw [ih]
    rfl

/-- A map under AND is one condition for each entry, in order. -/
theorem tree_made {R : String × Value → Sql → Prop} (fields : Fields)
    (h : ∀ e ∈ fields, Makes (entry e) (R e)) : Makes (tree .and fields) fun sql =>
      ∃ parts, List.Forall₂ R fields parts ∧ sql = Sql.joinWith " AND " parts := by
  unfold tree
  rw [entries_eq_each]
  exact (Build.makes_forall₂ fields h).map fun parts hparts => ⟨parts, hparts, rfl⟩

end Condition

namespace Clause

/-! ## What one entry adds -/

/-- What the entry, by itself, puts behind WHERE. -/
def Adds (c : Compiler) (e : String × Value) (text : String) : Prop :=
  text ≠ "" ∧ ∃ sql, Made (all c.dialect (some (.object [e]))) sql ∧
    sql.render c.tablePrefix = " WHERE " ++ text

/-- The entries that stand behind WHERE, in this order. -/
def asking (d : Dialect) (tree : Fields) : Fields :=
  plain tree ++ if d = .mysql then tree.filter fun e => e.1 = "MATCH" else []

theorem mem_asking_iff {d : Dialect} {tree : Fields} {e : String × Value} (h : e ∈ tree) :
    e ∈ asking d tree ↔ e.1 ∉ ["GROUP", "ORDER", "HAVING", "LIMIT"] ∧
      (e.1 = "MATCH" → d = .mysql) ∧ e.1 ≠ "LIKE" := by
  have hplain : e ∈ plain tree ↔ e.1 ∉ modifiers := by simp [plain, isModifier, h]
  have hsearch : e ∈ (if d = .mysql then tree.filter fun e => e.1 = "MATCH" else []) ↔
      d = .mysql ∧ e.1 = "MATCH" := by
    split
    · rename_i hd
      simp [h, hd]
    · rename_i hd
      simp [hd]
  rw [asking, List.mem_append, hplain, hsearch]
  by_cases hmatch : e.1 = "MATCH"
  · simp [hmatch, modifiers]
  · simp [hmatch, modifiers, and_assoc]

variable {c : Compiler} {d : Dialect} {tree : Fields} {e : String × Value}

theorem ofTree_one (d : Dialect) (h : isModifier e.1 = false) :
    ofTree d [e] = (do return .text " WHERE " :: (← Condition.entry e)) := by
  have hget : ∀ key, isModifier key = true → Entries.get? [e] key = none := by
    intro key hkey
    have hne : e.1 ≠ key := fun heq => by rw [heq, hkey] at h; cases h
    simp [Entries.get?, hne]
  have hplain : plain [e] = [e] := by simp [plain, h]
  have hconditions : conditions [e] = (do return .text " WHERE " :: (← Condition.entry e)) := by
    unfold conditions Condition.tree
    rw [hplain, Condition.entries_eq_each]
    simp [Build.each, Build.cons, Condition.joined, Sql.joinWith]
  have hsearching : ∀ alone, searching d alone [e] = pure [] := by
    intro alone
    unfold searching
    rw [hget "MATCH" rfl]
    split <;> rfl
  unfold ofTree
  rw [hconditions]
  simp [hsearching, hget "GROUP" rfl, hget "HAVING" rfl, hget "ORDER" rfl, hget "LIMIT" rfl,
    optionally]

theorem adds_condition (h : isModifier e.1 = false) {part : Sql}
    (hpart : Made (Condition.entry e) part) : Adds c e (part.render c.tablePrefix) := by
  refine ⟨((Condition.entry_begun e).of_made hpart).render_ne _, .text " WHERE " :: part, ?_, ?_⟩
  · show Made (ofTree c.dialect [e]) _
    rw [ofTree_one c.dialect h]
    exact Build.made_map_iff.2 ⟨part, hpart, rfl⟩
  · rw [Sql.render_cons, Piece.render_text]

theorem ofTree_search (v : Value) : ofTree .mysql [("MATCH", v)] = search true v := by
  have hplain : plain [("MATCH", v)] = [] := rfl
  simp [ofTree, conditions, hplain, searching, optionally, Entries.get?]

theorem adds_search (hd : c.dialect = .mysql) {v : Value} {rest : Sql}
    (h : Made (searched v) rest) :
    Adds c ("MATCH", v) ("MATCH (" ++ rest.render c.tablePrefix) := by
  refine ⟨?_, .text (searchWord true) :: rest, ?_, ?_⟩
  · intro hempty
    have hchars := congrArg String.toList hempty
    simp at hchars
  · show Made (ofTree c.dialect [("MATCH", v)]) _
    rw [hd, ofTree_search, search_eq]
    exact Build.made_map_iff.2 ⟨rest, h, rfl⟩
  · rw [Sql.render_cons, Piece.render_text, ← String.append_assoc]
    rfl

/-! ## What stands behind WHERE -/

/-- The conjuncts behind WHERE, and nothing when there are none. -/
def whereText (conjuncts : List String) : String :=
  if conjuncts = [] then "" else " WHERE " ++ " AND ".intercalate conjuncts

theorem conditions_conjuncts {sql : Sql} (h : Made (conditions tree) sql) :
    ∃ conjuncts, List.Forall₂ (Adds c) (plain tree) conjuncts ∧
      sql.render c.tablePrefix = whereText conjuncts := by
  rcases conditions_made h with ⟨hplain, rfl⟩ | ⟨hplain, rest, rfl, hrest⟩
  · exact ⟨[], by rw [hplain]; exact .nil, Sql.render_nil _⟩
  · have hadds : ∀ e ∈ plain tree, Makes (Condition.entry e) fun part =>
        Adds c e (part.render c.tablePrefix) := by
      intro e he n part bound hrun
      have hkey := (List.mem_filter.1 he).2
      exact adds_condition (by simpa using hkey) ⟨n, bound, hrun⟩
    obtain ⟨parts, hparts, rfl⟩ := (Condition.tree_made (plain tree) hadds).of_made hrest
    have hne : parts.map (Sql.render c.tablePrefix) ≠ [] := by
      rintro hnil
      rw [List.map_eq_nil_iff] at hnil
      rw [hnil] at hparts
      exact hplain (List.forall₂_nil_right_iff.1 hparts)
    refine ⟨parts.map (Sql.render c.tablePrefix), List.forall₂_map_right_iff.2 hparts, ?_⟩
    rw [Sql.render_cons, Piece.render_text, Sql.render_joinWith, whereText, if_neg hne]

/-- Of the entries under one key there is at most the one that a look-up finds. -/
theorem filter_key (hkeys : Entries.Distinct tree) (key : String) :
    (tree.filter fun e => e.1 = key) = ((Entries.get? tree key).map fun v => (key, v)).toList := by
  induction tree with
  | nil => rfl
  | cons e rest ih =>
    obtain ⟨k, v⟩ := e
    obtain ⟨hnew, hrest⟩ := List.nodup_cons.1 hkeys
    by_cases hk : k = key
    · subst hk
      have hnone : (rest.filter fun e => e.1 = k) = [] := by
        rw [List.filter_eq_nil_iff]
        intro e he hkey
        exact hnew (List.mem_map.2 ⟨e, he, by simpa using hkey⟩)
      simp [Entries.get?, hnone]
    · simp [Entries.get?, hk, ih hrest]

theorem search_conjunct (hkeys : Entries.Distinct tree) {alone : Bool} {sql : Sql}
    (h : Made (searching c.dialect alone tree) sql) :
    ∃ conjuncts, List.Forall₂ (Adds c)
        (if c.dialect = .mysql then tree.filter fun e => e.1 = "MATCH" else []) conjuncts ∧
      ((conjuncts = [] ∧ sql = []) ∨ ∃ text, conjuncts = [text] ∧
        sql.render c.tablePrefix = (if alone then " WHERE " else " AND ") ++ text) := by
  unfold searching at h
  split at h
  · rename_i hd
    rw [if_pos hd, filter_key hkeys]
    cases hget : Entries.get? tree "MATCH" with
    | none =>
      rw [hget] at h
      exact ⟨[], .nil, Or.inl ⟨rfl, Build.made_pure_iff.1 h⟩⟩
    | some v =>
      rw [hget] at h
      change Made (search alone v) sql at h
      rw [search_eq] at h
      obtain ⟨rest, hrest, rfl⟩ := Build.made_map_iff.1 h
      refine ⟨["MATCH (" ++ Sql.render c.tablePrefix rest], .cons (adds_search hd hrest) .nil,
        Or.inr ⟨_, rfl, ?_⟩⟩
      rw [Sql.render_cons, Piece.render_text, ← String.append_assoc]
      cases alone <;> rfl
  · rename_i hd
    rw [if_neg hd]
    exact ⟨[], .nil, Or.inl ⟨rfl, Build.made_pure_iff.1 h⟩⟩

theorem intercalate_concat (separator first : String) (rest : List String) (last : String) :
    separator.intercalate (first :: rest ++ [last]) =
      separator.intercalate (first :: rest) ++ (separator ++ last) := by
  induction rest generalizing first with
  | nil => simp [String.intercalate_cons_cons, String.append_assoc]
  | cons next rest ih =>
    rw [List.cons_append, List.cons_append, String.intercalate_cons_cons, ← List.cons_append, ih,
      String.intercalate_cons_cons]
    simp only [String.append_assoc]

/-- One more conjunct behind the others, or the first one. -/
theorem whereText_concat (conjuncts : List String) (text : String) :
    whereText conjuncts ++ ((if conjuncts.isEmpty then " WHERE " else " AND ") ++ text) =
      whereText (conjuncts ++ [text]) := by
  cases conjuncts with
  | nil => simp [whereText]
  | cons first rest =>
    simp only [whereText, reduceCtorEq, if_false, List.isEmpty_cons, List.append_eq_nil_iff,
      and_false, intercalate_concat, String.append_assoc]

theorem where_conjuncts (hkeys : Entries.Distinct tree) {p : Parts} (hp : p.Of c.dialect tree) :
    ∃ conjuncts, List.Forall₂ (Adds c) (asking c.dialect tree) conjuncts ∧
      p.conditions.render c.tablePrefix ++ p.search.render c.tablePrefix =
        whereText conjuncts := by
  obtain ⟨conjuncts, hconjuncts, hconditions⟩ := conditions_conjuncts (c := c) hp.conditions
  obtain ⟨more, hmore, hsearch⟩ := search_conjunct hkeys hp.search
  have halone : p.conditions.isEmpty = conjuncts.isEmpty := by
    rw [isEmpty_conditions hp.conditions, Bool.eq_iff_iff, List.isEmpty_iff, List.isEmpty_iff]
    exact ⟨fun hnil => List.forall₂_nil_left_iff.1 (hnil ▸ hconjuncts),
      fun hnil => List.forall₂_nil_right_iff.1 (hnil ▸ hconjuncts)⟩
  refine ⟨conjuncts ++ more, List.rel_append hconjuncts hmore, ?_⟩
  rcases hsearch with ⟨rfl, hnil⟩ | ⟨text, rfl, htext⟩
  · rw [hnil, Sql.render_nil, String.append_empty, hconditions, List.append_nil]
  · rw [htext, halone, hconditions, whereText_concat]

end Clause

/-! ## Statements and their conditions -/

/-- A statement that takes conditions, without them. -/
inductive Unconditioned
  | select (q : Query)
  | aggregate (a : Aggregate) (q : Query)
  | update (table : String) (data : Fields)
  | replace (table : String) (columns : Fields)
  | delete (table : String)

namespace Unconditioned

/-- The statement under conditions. Those that a query had are replaced. -/
def under (conditions : Option Value) : Unconditioned → Statement
  | select q => .select { q with conditions }
  | aggregate a q => .aggregate a { q with conditions }
  | update table data => .update table data conditions
  | replace table columns => .replace table columns conditions
  | delete table => .delete table conditions

theorem read_under (d : Dialect) (q : Query) (h : Head) (conditions : Option Value) :
    Read.statement d { q with conditions } h = (do
      return (← Read.statement d { q with conditions := none } h) ++
        (← Clause.all d conditions)) := by
  unfold Read.statement
  simp only [bind_assoc, pure_bind, List.cons_append, List.append_assoc, Clause.all,
    List.append_nil]
  rfl

theorem updateWith_under (d : Dialect) (target : Sql) (assignments : List Sql)
    (conditions : Option Value) :
    Write.updateWith d target assignments conditions = (do
      return (← Write.updateWith d target assignments none) ++ (← Clause.all d conditions)) := by
  unfold Write.updateWith
  simp only [Clause.all, pure_bind, List.append_nil, List.cons_append, List.append_assoc]

theorem build_under (d : Dialect) (s : Unconditioned) (conditions : Option Value) :
    (s.under conditions).build d = (do
      return (← (s.under none).build d) ++ (← Clause.all d conditions)) := by
  cases s with
  | select q => exact read_under d q _ conditions
  | aggregate a q => exact read_under d q _ conditions
  | update table data =>
    show Write.update d table data conditions = (do
      return (← Write.update d table data none) ++ (← Clause.all d conditions))
    unfold Write.update
    split
    · rfl
    · simp only [updateWith_under d _ _ conditions, bind_assoc]
  | replace table columns =>
    show Write.replace d table columns conditions = (do
      return (← Write.replace d table columns none) ++ (← Clause.all d conditions))
    unfold Write.replace
    simp only [updateWith_under d _ _ conditions, bind_assoc]
    refine bind_congr fun target => bind_congr fun assignments => ?_
    split
    · rfl
    · rfl
  | delete table =>
    show Write.delete d table conditions = (do
      return (← Write.delete d table none) ++ (← Clause.all d conditions))
    unfold Write.delete
    simp only [bind_assoc, pure_bind, Clause.all, List.append_nil]
    rfl

/-- A statement under a tree is the statement without conditions, behind it one conjunct for each
entry that asks for one, and behind them the other clauses. What an entry adds is what it has
behind WHERE by itself. The entries that ask for none are the clauses of their own, a search
where the dialect has none, and LIKE. -/
theorem every_condition_but_LIKE_is_a_conjunct (c : Compiler) (s : Unconditioned) {tree : Fields}
    (hkeys : Entries.Distinct tree) {out : Compiled}
    (h : (s.under (some (.object tree))).compile c = .ok out) :
    ∃ bare conjuncts tail, (s.under none).compile c = .ok bare ∧
      List.Forall₂ (Clause.Adds c) (Clause.asking c.dialect tree) conjuncts ∧
      out.sql = bare.sql ++ Clause.whereText conjuncts ++ tail ∧
      Clause.InOrder c.dialect tree tail ∧
      ∀ e ∈ tree, e ∈ Clause.asking c.dialect tree ↔
        e.1 ∉ ["GROUP", "ORDER", "HAVING", "LIMIT"] ∧ (e.1 = "MATCH" → c.dialect = .mysql) ∧
          e.1 ≠ "LIKE" := by
  rw [Statement.compile_eq] at h
  obtain ⟨sql, bound, hrun, rfl⟩ := Compiler.compile_eq_ok.1 h
  rw [build_under] at hrun
  obtain ⟨bare, first, more, hbare, hrest, -⟩ := Build.bind_eq_ok.1 hrun
  obtain ⟨clauses, second, last, hclauses, hdone, -⟩ := Build.bind_eq_ok.1 hrest
  obtain ⟨rfl, -⟩ := Build.pure_eq_ok.1 hdone
  obtain ⟨p, hp, rfl⟩ := Clause.ofTree_parts c.dialect tree _ _ _ hclauses
  obtain ⟨conjuncts, hconjuncts, hwhere⟩ := Clause.where_conjuncts hkeys hp
  refine ⟨⟨bare.render c.tablePrefix, Binding.params first⟩, conjuncts,
    p.tail.render c.tablePrefix, ?_, hconjuncts, ?_, Clause.inOrder_tail hp,
    fun e => Clause.mem_asking_iff⟩
  · rw [Statement.compile_eq]
    exact Compiler.compile_eq_ok.2 ⟨bare, first, hbare, rfl⟩
  · simp only [Sql.render_append, ← hwhere, String.append_assoc]

/-- The conditions of a search for one post, with a LIKE among them. -/
def foundPost : Fields :=
  [("LIKE", .int 5), ("id[<]", .int 7), ("LIMIT", .int 1),
    ("MATCH", .object [("columns", .array [.string "title"]), ("keyword", .string "lean")])]

set_option maxRecDepth 2048 in
theorem foundPost_conjuncts : Entries.Distinct foundPost ∧
    ((delete "post").under (some (.object foundPost))).compile ⟨.mysql, "x_"⟩ = .ok
      ⟨"DELETE FROM \"x_post\" WHERE \"id\" < :p0 AND MATCH (\"title\") AGAINST (:p1) LIMIT 1",
        [(":p0", ⟨.int 7, .int⟩), (":p1", ⟨.string "lean", .string⟩)]⟩ ∧
    ∃ bare conjuncts tail, ((delete "post").under none).compile ⟨.mysql, "x_"⟩ = .ok bare ∧
      List.Forall₂ (Clause.Adds ⟨.mysql, "x_"⟩) (Clause.asking .mysql foundPost) conjuncts ∧
      "DELETE FROM \"x_post\" WHERE \"id\" < :p0 AND MATCH (\"title\") AGAINST (:p1) LIMIT 1" =
        bare.sql ++ Clause.whereText conjuncts ++ tail := by
  have hkeys : Entries.Distinct foundPost := by
    unfold Entries.Distinct
    decide
  have hcompile : ((delete "post").under (some (.object foundPost))).compile ⟨.mysql, "x_"⟩ = .ok
      ⟨"DELETE FROM \"x_post\" WHERE \"id\" < :p0 AND MATCH (\"title\") AGAINST (:p1) LIMIT 1",
        [(":p0", ⟨.int 7, .int⟩), (":p1", ⟨.string "lean", .string⟩)]⟩ := by
    rfl
  obtain ⟨bare, conjuncts, tail, hbare, hconjuncts, hsql, -, -⟩ :=
    every_condition_but_LIKE_is_a_conjunct ⟨.mysql, "x_"⟩ (delete "post") hkeys hcompile
  exact ⟨hkeys, hcompile, bare, conjuncts, tail, hbare, hconjuncts, hsql⟩

/-- A condition on LIKE alone is none, and the whole table is deleted. -/
theorem LIKE_alone_deletes_the_whole_table :
    (∀ key ∈ Entries.keys [("LIKE", Value.int 5)],
      key ∉ ["GROUP", "ORDER", "HAVING", "LIMIT", "MATCH"]) ∧
    Compiler.delete ⟨.sqlite, ""⟩ "t" (some (.object [("LIKE", .int 5)])) =
      .ok ⟨"DELETE FROM \"t\"", []⟩ ∧
    ∀ rest, "DELETE FROM \"t\"" ≠ "DELETE FROM \"t\"" ++ " WHERE " ++ rest := by
  refine ⟨by decide, rfl, ?_⟩
  intro rest heq
  have hlength := congrArg String.length heq
  simp only [String.length_append] at hlength
  have hword : " WHERE ".length = 7 := rfl
  omega

end Unconditioned

end StructuredSql
