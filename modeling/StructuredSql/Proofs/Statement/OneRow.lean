-- One row, and rows in random order. The limit of one row and the random order are
-- modifiers that are put into the condition tree, in place of those that it holds. The
-- statement is then that of the query without them, with the new clauses behind it.
import StructuredSql.Proofs.Build.Results
import StructuredSql.Proofs.Entries
import StructuredSql.Proofs.Sql.Text
import StructuredSql.Proofs.Statement.Basic

namespace StructuredSql

/-- The text that limits a statement to one row. -/
def Dialect.oneRow (d : Dialect) : String :=
  if d.pagesByFetch then " OFFSET 0 ROWS FETCH NEXT 1 ROWS ONLY" else " LIMIT 1"

/-- What is read without a binding, and then changed. -/
theorem Build.map_liftM {α β : Type} (result : Except Fault α) (f : α → β) :
    (do return f (← liftM result) : Build β) = liftM (result.map f) := by
  funext n
  cases result <;> rfl

namespace Clause

/-! ## Trees that lack modifiers -/

/-- The entries of a tree under other keys. -/
def lacking (keys : List String) (tree : Fields) : Fields :=
  tree.filter fun e => !keys.contains e.1

variable {keys : List String} {key : String}

theorem lacking_lacking (more : List String) (tree : Fields) (h : ∀ k ∈ more, k ∈ keys) :
    lacking keys (lacking more tree) = lacking keys tree := by
  unfold lacking
  rw [List.filter_filter]
  refine List.filter_congr fun e _ => ?_
  by_cases hk : e.1 ∈ keys
  · simp [hk]
  · have hm : e.1 ∉ more := fun hm => hk (h _ hm)
    simp [hk, hm]

theorem lacking_insert (h : key ∈ keys) (tree : Fields) (v : Value) :
    lacking keys (Entries.insert tree key v) = lacking keys tree := by
  induction tree with
  | nil => simp [Entries.insert, lacking, h]
  | cons e rest ih =>
    obtain ⟨k, w⟩ := e
    unfold lacking at ih ⊢
    by_cases hk : k = key
    · subst hk
      simp [Entries.insert, h]
    · simp only [Entries.insert, if_neg hk, List.filter_cons, ih]

theorem get?_lacking (tree : Fields) (key : String) :
    Entries.get? (lacking keys tree) key =
      if key ∈ keys then none else Entries.get? tree key := by
  induction tree with
  | nil => simp [lacking, Entries.get?]
  | cons e rest ih =>
    obtain ⟨k, w⟩ := e
    unfold lacking at ih ⊢
    by_cases hk : k ∈ keys
    · rw [List.filter_cons_of_neg (by simpa using hk), ih]
      split
      · rfl
      · rename_i hkey
        have hne : k ≠ key := fun h => hkey (h ▸ hk)
        simp [Entries.get?, hne]
    · rw [List.filter_cons_of_pos (by simpa using hk), Entries.get?, ih, Entries.get?]
      by_cases hkey : k = key
      · subst hkey
        simp [hk]
      · simp [hkey]

/-- Modifiers are no conditions, so the conditions stay. -/
theorem plain_lacking (h : ∀ k ∈ keys, isModifier k = true) (tree : Fields) :
    plain (lacking keys tree) = plain tree := by
  unfold plain lacking
  rw [List.filter_filter]
  refine List.filter_congr fun e _ => ?_
  by_cases hk : e.1 ∈ keys
  · simp [h _ hk]
  · simp [hk]

/-! ## The last clauses -/

theorem optionally_none (f : Value → Build Sql) : optionally none f = pure [] := rfl

theorem optionally_some (v : Value) (f : Value → Build Sql) : optionally (some v) f = f v := rfl

/-- The order and the limit of a tree stand behind everything else. -/
theorem ofTree_behind (d : Dialect) (tree : Fields) :
    ofTree d tree = (do
      let sql ← ofTree d (lacking ["ORDER", "LIMIT"] tree)
      let orderSql ← optionally (Entries.get? tree "ORDER") (orderBy d)
      let limitSql ← optionally (Entries.get? tree "LIMIT")
        (limit d (Entries.get? tree "ORDER").isSome)
      return sql ++ orderSql ++ limitSql) := by
  have hplain : plain (lacking ["ORDER", "LIMIT"] tree) = plain tree :=
    plain_lacking (by decide) tree
  have hconditions : conditions (lacking ["ORDER", "LIMIT"] tree) = conditions tree := by
    rw [conditions, conditions, hplain]
  have hsearching : ∀ alone, searching d alone (lacking ["ORDER", "LIMIT"] tree) =
      searching d alone tree := by
    intro alone
    have hmatch : "MATCH" ∉ ["ORDER", "LIMIT"] := by decide
    rw [searching, searching, get?_lacking, if_neg hmatch]
  unfold ofTree
  simp only [hconditions, hsearching, get?_lacking]
  simp [optionally_none]

/-- The limit of a tree stands at the end. -/
theorem ofTree_limited (d : Dialect) (tree : Fields) :
    ofTree d tree = (do
      let sql ← ofTree d (lacking ["LIMIT"] tree)
      let limitSql ← optionally (Entries.get? tree "LIMIT")
        (limit d (Entries.get? tree "ORDER").isSome)
      return sql ++ limitSql) := by
  have hlacking : lacking ["ORDER", "LIMIT"] (lacking ["LIMIT"] tree) =
      lacking ["ORDER", "LIMIT"] tree := lacking_lacking _ tree (by decide)
  have horder : Entries.get? (lacking ["LIMIT"] tree) "ORDER" = Entries.get? tree "ORDER" := by
    simp [get?_lacking]
  have hlimit : Entries.get? (lacking ["LIMIT"] tree) "LIMIT" = none := by
    simp [get?_lacking]
  rw [ofTree_behind d tree, ofTree_behind d (lacking ["LIMIT"] tree), hlacking, horder, hlimit]
  simp only [optionally_none, bind_assoc, pure_bind, List.append_nil]

/-! ## The clauses of a modified tree -/

/-- Conditions without the modifiers under these keys. -/
def without (keys : List String) : Option Value → Option Value
  | some (.object tree) => some (.object (lacking keys tree))
  | conditions => conditions

/-- The entries of a condition tree, if there is one. -/
def treeOf : Option Value → Fields
  | some (.object tree) => tree
  | _ => []

/-- The conditions take modifiers, or they are refused. -/
def Modifiable (conditions : Option Value) : Prop :=
  conditions ≠ some .null ∧ ∀ raw, conditions ≠ some (.raw raw)

theorem ofTree_nil (d : Dialect) : ofTree d [] = pure [] := by
  simp [ofTree, conditions, plain, searching, optionally, Entries.get?]

/-- A tree that is absent is an empty one. -/
theorem all_modified (d : Dialect) {conditions : Option Value} (h : Modifiable conditions)
    (key : String) (v : Value) {tail : Fields → Build Sql}
    (htree : ∀ tree, ofTree d (Entries.insert tree key v) = (do
      return (← ofTree d (lacking keys tree)) ++ (← tail tree))) :
    all d (Query.modified conditions key v) = (do
      return (← all d (without keys conditions)) ++ (← tail (treeOf conditions))) := by
  cases conditions with
  | none =>
    refine (htree []).trans ?_
    rw [show lacking keys [] = [] from rfl, ofTree_nil]
    rfl
  | some w =>
    cases w with
    | null => exact absurd rfl h.1
    | raw fragment => exact absurd rfl (h.2 fragment)
    | object tree => exact htree tree
    | _ => rfl

/-! ## The two modifiers -/

theorem limit_one (d : Dialect) (ordered : Bool) :
    limit d ordered (.int 1) = liftM (.ok (Sql.text (limitText d ordered none 1)) :
      Except Fault Sql) := rfl

/-- The limit of one row takes the place of the tree's own. -/
theorem ofTree_limited_to_one (d : Dialect) (tree : Fields) :
    ofTree d (Entries.insert tree "LIMIT" (.int 1)) = (do
      return (← ofTree d (lacking ["LIMIT"] tree)) ++
        (← limit d (Entries.get? tree "ORDER").isSome (.int 1))) := by
  have horder : Entries.get? (Entries.insert tree "LIMIT" (.int 1)) "ORDER" =
      Entries.get? tree "ORDER" := by simp [Entries.get?_insert]
  rw [ofTree_limited, lacking_insert (by simp), Entries.get?_insert, horder]
  simp [optionally_some]

theorem orderBy_random (d : Dialect) :
    orderBy d (.raw (Fragment.plain d.randomFunction)) =
      pure [Piece.text " ORDER BY ", Piece.text d.randomFunction] := by
  have hexpand : Marker.expand d.randomFunction = .ok [.text d.randomFunction] := by
    cases d <;> rfl
  have hfragment : Build.fragment (Fragment.plain d.randomFunction) =
      pure [Piece.text d.randomFunction] := by
    unfold Build.fragment
    rw [show (Fragment.plain d.randomFunction).sql = d.randomFunction from rfl, hexpand]
    rfl
  show (do return .text " ORDER BY " ::
    (← Build.fragment (Fragment.plain d.randomFunction)) : Build Sql) = _
  rw [hfragment, pure_bind]

/-- The pieces of the limit that the rows in random order keep. -/
def ownLimit (d : Dialect) (tree : Fields) : Except Fault Sql :=
  match Entries.get? tree "LIMIT" with
  | some v => (window v).map fun (offset?, rows) => Sql.text (limitText d true offset? rows)
  | none => .ok []

theorem optionally_limit (d : Dialect) (tree : Fields) :
    optionally (Entries.get? tree "LIMIT") (limit d true) = liftM (ownLimit d tree) := by
  unfold ownLimit
  cases Entries.get? tree "LIMIT" with
  | none => rfl
  | some v =>
    exact Build.map_liftM (window v) fun (offset?, rows) =>
      Sql.text (limitText d true offset? rows)

/-- The random order takes the place of the tree's own, the limit stays. -/
theorem ofTree_shuffled (d : Dialect) (tree : Fields) :
    ofTree d (Entries.insert tree "ORDER" (.raw (Fragment.plain d.randomFunction))) = (do
      return (← ofTree d (lacking ["ORDER", "LIMIT"] tree)) ++
        (← liftM ((ownLimit d tree).map
          ([.text " ORDER BY ", .text d.randomFunction] ++ ·)))) := by
  have hlimit : Entries.get? (Entries.insert tree "ORDER"
      (.raw (Fragment.plain d.randomFunction))) "LIMIT" = Entries.get? tree "LIMIT" := by
    simp [Entries.get?_insert]
  rw [ofTree_behind, lacking_insert (by simp), Entries.get?_insert, hlimit]
  simp only [optionally_some, orderBy_random, if_true, Option.isSome_some, optionally_limit]
  rw [← Build.map_liftM]
  simp

end Clause

/-! ## Text behind a statement -/

/-- A compiled statement with more text. -/
def Compiled.followedBy (out : Compiled) (s : String) : Compiled := { out with sql := out.sql ++ s }

theorem Build.template_behind (x : Build Sql) (tail : Except Fault Sql) :
    (do return (← x) ++ (← liftM tail) : Build Sql).template = (do
      let t ← x.template
      let sql ← tail
      return { t with sql := t.sql ++ sql }) := by
  show template (andThen x fun a => andThen (ofExcept tail) fun sql => ready (a ++ sql)) = _
  unfold template andThen
  cases x 0 with
  | error fault => rfl
  | ok r =>
    cases tail with
    | error fault => rfl
    | ok sql =>
      show Except.ok _ = Except.ok _
      simp

theorem Sql.render_texts (tablePrefix a b : String) :
    Sql.render tablePrefix [.text a, .text b] = a ++ b := by
  simp [Sql.render, Piece.render]

theorem Compiler.compile_behind (c : Compiler) (x : Build Sql) (tail : Except Fault Sql) :
    c.compile (do return (← x) ++ (← liftM tail) : Build Sql).template = (do
      let out ← c.compile x.template
      let s ← (tail.map (Sql.render c.tablePrefix)).mapError (Fault.error c.tablePrefix)
      return out.followedBy s) := by
  rw [Build.template_behind]
  cases x.template with
  | error fault => rfl
  | ok t =>
    cases tail with
    | error fault => rfl
    | ok sql =>
      show Except.ok _ = Except.ok _
      simp [Template.compiled, Compiled.followedBy, Sql.render_append]

/-! ## The two statements -/

/-- The query for rows without the modifiers under these keys. -/
def Query.bare (keys : List String) (q : Query) : Query :=
  { q with aggregate := none, conditions := Clause.without keys q.conditions }

namespace Read

/-- What stands behind all clauses stands behind the statement. -/
theorem statement_modified (d : Dialect) (q : Query) (h : Clause.Modifiable q.conditions)
    {keys : List String} {key : String} {v : Value} {tail : Fields → Build Sql}
    (htree : ∀ tree, Clause.ofTree d (Entries.insert tree key v) = (do
      return (← Clause.ofTree d (Clause.lacking keys tree)) ++ (← tail tree))) :
    statement d (q.setModifier key v) .columns = (do
      return (← statement d (q.bare keys) .columns) ++ (← tail (Clause.treeOf q.conditions))) := by
  have hall := Clause.all_modified d h key v htree
  unfold statement
  simp only [Query.setModifier, hall, bind_assoc, pure_bind, head, Query.bare, Query.columnSpec,
    List.append_assoc, List.cons_append]

/-- The order that an engine is given when it asks for one and the query has none. -/
def neededOrder (d : Dialect) (conditions : Option Value) : String :=
  if d = .mssql ∧ (Entries.get? (Clause.treeOf conditions) "ORDER").isNone then
    " ORDER BY (SELECT 0)"
  else ""

theorem limitText_one (d : Dialect) (conditions : Option Value) :
    Clause.limitText d (Entries.get? (Clause.treeOf conditions) "ORDER").isSome none 1 =
      neededOrder d conditions ++ d.oneRow := by
  unfold neededOrder
  cases Entries.get? (Clause.treeOf conditions) "ORDER" <;> cases d <;> rfl

/-- One row is read by the query without its own limit and the limit of one row behind it,
rows in random order by the query without its own order and behind it the random order and
the query's own limit. -/
theorem one_row_and_random_order (c : Compiler) (q : Query) (h : Clause.Modifiable q.conditions) :
    c.get q = (do
      let rest ← c.select (q.bare ["LIMIT"])
      return rest.followedBy (neededOrder c.dialect q.conditions ++ c.dialect.oneRow)) ∧
    c.rand q = (do
      let rest ← c.select (q.bare ["ORDER", "LIMIT"])
      let limit ← (Clause.ownLimit c.dialect (Clause.treeOf q.conditions)).mapError
        (Fault.error c.tablePrefix)
      return rest.followedBy
        (" ORDER BY " ++ c.dialect.randomFunction ++ limit.render c.tablePrefix)) := by
  constructor
  · have hget := statement_modified c.dialect q h (Clause.ofTree_limited_to_one c.dialect)
    rw [Compiler.get, limited, template, hget, Clause.limit_one, Compiler.compile_behind,
      limitText_one]
    simp only [Except.map, Sql.render_text]
    rfl
  · have hrand := statement_modified c.dialect q h (Clause.ofTree_shuffled c.dialect)
    rw [Compiler.rand, shuffled, template, hrand, Compiler.compile_behind]
    cases Clause.ownLimit c.dialect (Clause.treeOf q.conditions) with
    | error fault => rfl
    | ok limit =>
      simp only [Except.map, Sql.render_append, Sql.render_texts]
      rfl

/-- Ten rows of a list of posts, by their titles. -/
def pagedPosts : Query :=
  (Query.ofTable "post").filter (.object [("draft", .null), ("ORDER", .string "title"),
    ("LIMIT", .array [.int 20, .int 10])])

theorem pagedPosts_limited : Clause.Modifiable pagedPosts.conditions ∧
    Compiler.get ⟨.mssql, "x_"⟩ pagedPosts = .ok
      ⟨"SELECT * FROM \"x_post\" WHERE \"draft\" IS NULL ORDER BY \"title\"" ++
        " OFFSET 0 ROWS FETCH NEXT 1 ROWS ONLY", []⟩ ∧
    Compiler.rand ⟨.mssql, "x_"⟩ pagedPosts = .ok
      ⟨"SELECT * FROM \"x_post\" WHERE \"draft\" IS NULL ORDER BY NEWID()" ++
        " OFFSET 20 ROWS FETCH NEXT 10 ROWS ONLY", []⟩ := by
  have h : Clause.Modifiable pagedPosts.conditions := ⟨nofun, nofun⟩
  obtain ⟨hget, hrand⟩ := one_row_and_random_order ⟨.mssql, "x_"⟩ pagedPosts h
  exact ⟨h, hget.trans rfl, hrand.trans rfl⟩

/-- Conditions that are null stay null. -/
theorem null_conditions_take_no_limit :
    ∃ out, Compiler.get ⟨.sqlite, ""⟩ ((Query.ofTable "t").filter .null) = .ok out ∧
      out.sql = "SELECT * FROM \"t\"" ∧
      ¬ Dialect.sqlite.oneRow.toList <:+ out.sql.toList := by
  refine ⟨⟨"SELECT * FROM \"t\"", []⟩, rfl, rfl, ?_⟩
  decide

end Read

end StructuredSql
