-- The leaves of joins and of the clauses behind a statement. Only the AND maps of a join
-- hold values; everything else in a join is the name of a table or a column. The clauses
-- hold the conditions, the keyword of a search and the conditions on groups. Every clause
-- begins with a blank, so it may stand behind a placeholder.
import StructuredSql.Clause
import StructuredSql.Proofs.Condition.Leaves
import Mathlib.Data.List.Forall2

namespace StructuredSql

open Build (Gives Numbered)

namespace Leaves

/-- Of the entries of an ON map only a group of conditions holds leaves. -/
def ofJoinPair (pair : String × Value) : Nat :=
  match pair.2 with
  | .object group => if pair.1 = "AND" then inEntries group else 0
  | _ => 0

def ofRelation : Value → Nat
  | .object pairs => (pairs.map ofJoinPair).sum
  | _ => 0

def ofJoins (joins : Fields) : Nat := (joins.map fun e => ofRelation e.2).sum

end Leaves

namespace Join

/-- The columns of a list, each of them read. -/
theorem columnNames_eq_ok {wrongShape : Fault} {columns : List Value} {sqls : List Sql}
    (h : columnNames wrongShape columns = .ok sqls) :
    List.Forall₂ (fun v sql => ∃ s, v = .string s ∧ columnSql s = .ok sql) columns sqls := by
  induction columns generalizing sqls with
  | nil =>
    cases h
    exact .nil
  | cons v rest ih =>
    cases v with
    | string s =>
      simp only [columnNames, bind, Except.bind, pure, Except.pure] at h
      cases hc : columnSql s with
      | error fault => simp [hc] at h
      | ok column =>
        cases hr : columnNames wrongShape rest with
        | error fault => simp [hc, hr] at h
        | ok others =>
          simp only [hc, hr, Except.ok.injEq] at h
          subst h
          exact .cons ⟨s, rfl, hc⟩ (ih hr)
    | _ => cases h

theorem columnNames_still {wrongShape : Fault} {columns : List Value} {sqls : List Sql}
    (h : columnNames wrongShape columns = .ok sqls) : ∀ sql ∈ sqls, sql.Still := by
  have hall := columnNames_eq_ok h
  clear h
  induction hall with
  | nil => simp
  | cons hcolumn _ ih =>
    obtain ⟨s, -, hs⟩ := hcolumn
    exact List.forall_mem_cons.2 ⟨columnSql_still hs, ih⟩

theorem usingColumns_still {sqls : List Sql} (h : ∀ sql ∈ sqls, sql.Still) :
    (usingColumns sqls).Still :=
  Sql.still_cons_text (by decide)
    ((Sql.still_joinWith (by decide) h).append (Sql.still_text (by decide)))

theorem still_table {name : String} (h : Name.IsPlain name.toList) {sql : Sql} (hs : sql.Still) :
    Sql.Still (.table name :: sql) :=
  ⟨hs.placeholders, (Sql.avoids_cons _ _).2 ⟨h, hs.avoids⟩⟩

/-- The left column of an equality stands alone or behind the main table. -/
theorem leftColumn_eq_ok {main left : String} {sql : Sql} (h : leftColumn main left = .ok sql) :
    ∃ column, columnSql left = .ok column ∧
      (sql = column ∨ sql = .table main :: .text "." :: column) := by
  unfold leftColumn at h
  split at h
  · exact ⟨sql, h, .inl rfl⟩
  · cases hc : columnSql left with
    | error fault => simp [hc, Except.map] at h
    | ok column =>
      simp only [hc, Except.map, Except.ok.injEq] at h
      exact ⟨column, rfl, .inr h.symm⟩

theorem leftColumn_still {main left : String} (hm : Name.IsPlain main.toList) {sql : Sql}
    (h : leftColumn main left = .ok sql) : sql.Still := by
  obtain ⟨column, hcolumn, rfl | rfl⟩ := leftColumn_eq_ok h
  · exact columnSql_still hcolumn
  · exact still_table hm (Sql.still_cons_text (by decide) (columnSql_still hcolumn))

theorem onEntry_numbered {main joined : String} (hm : Name.IsPlain main.toList)
    (hj : Name.IsPlain joined.toList) (key : String) {entry : String × Value}
    (he : entry.2.rawFree = true) :
    Numbered (Leaves.ofJoinPair entry) (onEntry main joined key entry) := by
  unfold onEntry
  split
  · simp only [Leaves.ofJoinPair, if_true]
    exact Condition.tree_numbered .and he
  · rename_i left right
    refine Build.gives_read fun l hl => Build.gives_read fun r hr => ?_
    refine Build.numbered_pure ((leftColumn_still hm hl).append ?_)
    refine Sql.still_cons_text (by decide) (still_table hj ?_)
    exact Sql.still_cons_text (by decide) (columnSql_still hr)
  · exact Build.numbered_fail

theorem relation_numbered {main joined : String} (hm : Name.IsPlain main.toList)
    (hj : Name.IsPlain joined.toList) (key : String) {v : Value} (hv : v.rawFree = true) :
    Numbered (Leaves.ofRelation v) (relation main joined key v) := by
  unfold relation
  split
  · refine Build.gives_read fun sql hs => Build.numbered_pure (usingColumns_still ?_)
    simpa using columnSql_still hs
  · refine Build.gives_read fun sqls hs => Build.numbered_pure (usingColumns_still ?_)
    exact columnNames_still hs
  · rename_i pairs
    refine (Build.listNumbered_each pairs fun e he => onEntry_numbered hm hj key
      (fieldsRawFree_iff.1 hv e he)).map fun n sqls h => ?_
    exact (h " AND " (by decide)).cons_text (by decide)
  · cases hv
  · exact Build.numbered_fail

theorem clause_numbered {main : String} (hm : Name.IsPlain main.toList) {entry : String × Value}
    (he : entry.2.rawFree = true) : Numbered (Leaves.ofRelation entry.2) (clause main entry) := by
  refine Build.gives_read fun key hkey => ?_
  have ht := JoinKey.read_isPlain hkey
  refine (relation_numbered hm ht.exposed entry.1 he).map fun n sql h => ?_
  refine Sql.Numbers.cons_text ?_ (Sql.Numbers.prepend ht.still (h.cons_text (by decide)))
  cases key.kind <;> decide

theorem clauses_numbered {main : String} (hm : Name.IsPlain main.toList) {joins : Fields}
    (hj : fieldsRawFree joins = true) : Numbered (Leaves.ofJoins joins) (clauses main joins) :=
  (Build.listNumbered_each joins fun e he => clause_numbered hm (fieldsRawFree_iff.1 hj e he)).map
    fun _ _ h => h " " (by decide)

end Join

namespace Leaves

/-- Only one dialect searches. -/
def ofSearch (d : Dialect) (tree : Fields) : Nat :=
  if d = .mysql ∧ (Entries.get? tree "MATCH").isSome then 1 else 0

def inGroupTest : Value → Nat
  | .object fields => inEntries fields
  | _ => 0

/-- The leaves of a condition tree with its modifiers. -/
def ofTree (d : Dialect) (tree : Fields) : Nat :=
  inEntries (Clause.plain tree) + ofSearch d tree +
    ((Entries.get? tree "HAVING").map inGroupTest).getD 0

def ofConditions (d : Dialect) : Option Value → Nat
  | some (.object tree) => ofTree d tree
  | _ => 0

end Leaves

/-! ## Parts that stand behind others -/

/-- The part may stand behind a placeholder. -/
structure Sql.Trailing (n k : Nat) (sql : Sql) : Prop where
  numbers : sql.Numbers n k
  detached : sql.Detached

namespace Sql

theorem trailing_nil (n : Nat) : Trailing n 0 [] := ⟨still_nil.numbers n, trivial⟩

theorem Trailing.append {n k j : Nat} {a b : Sql} (ha : a.Trailing n k)
    (hb : b.Trailing (n + k) j) : Trailing n (k + j) (a ++ b) := by
  refine ⟨ha.numbers.append hb.numbers hb.detached, ?_⟩
  cases a with
  | nil => exact hb.detached
  | cons p rest => cases p <;> exact ha.detached

theorem Numbers.trailing {n k : Nat} {s : String} (hs : Separates s) {sql : Sql}
    (h : sql.Numbers n k) : Trailing n k (.text s :: sql) :=
  ⟨h.cons_text hs.1, hs.2⟩

theorem separates_append {s t : String} (hs : Separates s) (ht : Quiet t) :
    Separates (s ++ t) := by
  refine ⟨quiet_append hs.1 ht, ?_⟩
  have hhead := hs.2
  rw [String.toList_append]
  cases hl : s.toList with
  | nil => simp [hl] at hhead
  | cons c rest => simpa [hl] using hhead

end Sql

namespace Build

/-- The build makes `k` placeholders and may stand behind others. -/
def Trails (k : Nat) (x : Build Sql) : Prop := Gives x k fun n sql => sql.Trailing n k

theorem trails_pure_nil : Trails 0 (pure []) := gives_pure Sql.trailing_nil

theorem Numbered.trails {k : Nat} {s : String} (hs : Sql.Separates s) {x : Build Sql}
    (h : Numbered k x) : Trails k (do return .text s :: (← x)) :=
  gives_map h fun _ _ hn => hn.trailing hs

/-- The SQL is what was there already and a part that may stand behind it. -/
def Behind (before : Sql) (k n : Nat) (sql : Sql) : Prop :=
  ∃ part, sql = before ++ part ∧ part.Trailing n k

theorem Trails.bind {k j : Nat} {x : Build Sql} {f : Sql → Build Sql} {before : Sql}
    (hx : Trails k x) (hf : ∀ a, Gives (f a) j (Behind (before ++ a) j)) :
    Gives (x >>= f) (k + j) (Behind before (k + j)) := by
  refine gives_bind hx hf ?_
  rintro n a sql ha ⟨part, rfl, hp⟩
  exact ⟨a ++ part, List.append_assoc .., ha.append hp⟩

theorem behind_pure (before : Sql) : Gives (pure before) 0 (Behind before 0) :=
  gives_pure fun n => ⟨[], (List.append_nil _).symm, Sql.trailing_nil n⟩

theorem trails_of_behind {k : Nat} {x : Build Sql} (h : Gives x k (Behind [] k)) : Trails k x := by
  refine gives_mono h ?_
  rintro n sql ⟨part, rfl, hp⟩
  exact hp

end Build

/-! ## Single clauses -/

namespace Clause

open Build (Trails)

theorem optionally_trails {v? : Option Value} {f : Value → Build Sql} {k : Nat}
    (hnone : v? = none → k = 0) (hsome : ∀ v, v? = some v → Trails k (f v)) :
    Trails k (optionally v? f) := by
  cases v? with
  | none =>
    rw [hnone rfl]
    exact Build.trails_pure_nil
  | some v => exact hsome v rfl

theorem conditions_trails {tree : Fields} (h : fieldsRawFree (plain tree) = true) :
    Trails (Leaves.inEntries (plain tree)) (conditions tree) := by
  unfold conditions
  split
  · rename_i hempty
    rw [List.isEmpty_iff.1 hempty]
    exact Build.trails_pure_nil
  · exact (Condition.tree_numbered .and h).trails (by decide)

theorem searchMode_separates (fields : Fields) : Sql.Separates (searchMode fields ++ ")") := by
  unfold searchMode
  split <;> decide

theorem search_trails (alone : Bool) (spec : Value) : Trails 1 (search alone spec) := by
  unfold search
  split
  · exact Build.gives_fail
  · rename_i fields _
    split
    · refine Build.gives_read fun names hnames => ?_
      have hcolumns : (Sql.joinWith ", " names).Still :=
        Sql.still_joinWith (by decide) (Join.columnNames_still hnames)
      refine Build.gives_map (Build.numbered_text _) fun n sql h => ?_
      refine Sql.Numbers.trailing ?_ (Sql.Numbers.prepend hcolumns ?_)
      · cases alone <;> decide
      · exact (h.append_text (searchMode_separates fields)).cons_text (by decide)
    · exact Build.gives_fail

theorem searching_trails (d : Dialect) (alone : Bool) (tree : Fields) :
    Trails (Leaves.ofSearch d tree) (searching d alone tree) := by
  unfold searching Leaves.ofSearch
  by_cases hd : d = .mysql
  · simp only [hd, true_and, if_true]
    refine optionally_trails (fun hnone => by simp [hnone]) fun v hv => ?_
    simp only [hv, Option.isSome_some, if_true]
    exact search_trails alone v
  · simp only [hd, false_and, if_false]
    exact Build.trails_pure_nil

theorem grouping_numbered {group : Value} (h : group.rawFree = true) :
    Numbered 0 (grouping group) := by
  unfold grouping
  split
  · refine Build.gives_read fun names hnames => Build.numbered_pure ?_
    exact Sql.still_joinWith (by decide) (Join.columnNames_still hnames)
  · cases h
  · exact Build.gives_liftM fun n sql hs => (columnSql_still hs).numbers n
  · exact Build.numbered_fail

theorem having_trails {v : Value} (h : v.rawFree = true) :
    Trails (Leaves.inGroupTest v) (having v) := by
  refine Build.Numbered.trails (by decide) ?_
  cases v with
  | raw fragment => cases h
  | object fields => exact Condition.tree_numbered .and h
  | _ => exact Build.numbered_fail

/-- Nothing is ordered by a list of values. -/
def namesOnly : Value → Bool
  | .object fields => fields.all fun e => e.2.array?.isNone
  | _ => true

theorem orderEntry_still {d : Dialect} {entry : String × Value} (he : entry.2.array? = none)
    {sql : Sql} (h : orderEntry d entry = .ok sql) : sql.Still := by
  unfold orderEntry at h
  cases hc : columnSql entry.1 with
  | error fault => simp [hc, bind, Except.bind] at h
  | ok column =>
    have hcolumn := columnSql_still hc
    simp only [hc, bind, Except.bind] at h
    split at h
    · rename_i hv
      simp [hv, Value.array?] at he
    · cases h
      exact hcolumn.append (Sql.still_text (by decide))
    · cases h
      exact hcolumn.append (Sql.still_text (by decide))
    · cases h

theorem ordering_numbered (d : Dialect) {order : Value} (h : order.rawFree = true)
    (hn : namesOnly order = true) : Numbered 0 (ordering d order) := by
  unfold ordering
  split
  · refine Build.gives_read fun names hnames => Build.numbered_pure ?_
    exact Sql.still_joinWith (by decide) (Join.columnNames_still hnames)
  · rename_i fields
    have heach : Build.ListNumbered (fields.map fun _ => 0).sum
        (Build.each (fun e => orderEntry d e) fields) :=
      Build.listNumbered_each fields fun e he => Build.gives_liftM fun n sql hs =>
        (orderEntry_still (by simpa using List.all_eq_true.1 hn e he) hs).numbers n
    rw [List.map_const', List.sum_replicate_nat, Nat.mul_zero] at heach
    exact heach.map fun n sqls hs => hs "," (by decide)
  · cases h
  · exact Build.gives_liftM fun n sql hs => (columnSql_still hs).numbers n
  · exact Build.numbered_fail

/-- The order by a random function is written as the function alone. -/
theorem ordering_random (d : Dialect) :
    Numbered 0 (ordering d (.raw (Fragment.plain d.randomFunction))) := by
  have hexpand : Marker.expand d.randomFunction = .ok [.text d.randomFunction] := by
    cases d <;> rfl
  have hquiet : Sql.Quiet d.randomFunction := by cases d <;> decide
  show Numbered 0 (Build.fragment _)
  refine Build.gives_read fun sql hs => ?_
  cases hexpand.symm.trans hs
  exact Build.numbered_pure (Sql.still_text hquiet)

/-! ## The limit -/

theorem limitText_separates (d : Dialect) (ordered : Bool) (offset? : Option Nat) (rows : Nat) :
    Sql.Separates (limitText d ordered offset? rows) := by
  have hnat : ∀ n : Nat, Sql.Quiet (toString n) := fun n =>
    Sql.quiet_of_numeral (Text.numeral_natRepr n)
  have hfetch : Sql.Separates s!" OFFSET {offset?.getD 0} ROWS FETCH NEXT {rows} ROWS ONLY" := by
    refine Sql.separates_append (Sql.separates_append (Sql.separates_append
      (Sql.separates_append ?_ (hnat _)) ?_) (hnat _)) ?_ <;> decide
  unfold limitText
  split
  · split
    · exact Sql.separates_append (by decide) hfetch.1
    · rwa [String.empty_append]
  · split
    · refine Sql.separates_append (Sql.separates_append (Sql.separates_append ?_ (hnat _)) ?_)
        (hnat _) <;> decide
    · exact Sql.separates_append (by decide) (hnat _)

theorem limit_trails (d : Dialect) (ordered : Bool) (v : Value) :
    Trails 0 (limit d ordered v) :=
  Build.gives_read fun r _ => Build.gives_pure fun n =>
    (Sql.still_nil.numbers n).trailing (limitText_separates d ordered r.1 r.2)

/-! ## All clauses -/

/-- What a tree must hold that its clauses make a placeholder for each leaf. -/
structure Countable (d : Dialect) (tree : Fields) : Prop where
  plain : fieldsRawFree (plain tree) = true
  group : ∀ v, Entries.get? tree "GROUP" = some v → v.rawFree = true
  having : ∀ v, Entries.get? tree "HAVING" = some v → v.rawFree = true
  order : ∀ v, Entries.get? tree "ORDER" = some v → Numbered 0 (ordering d v)

theorem ofTree_trails {d : Dialect} {tree : Fields} (h : Countable d tree) :
    Trails (Leaves.ofTree d tree) (ofTree d tree) := by
  have hgroup : Trails 0 (optionally (Entries.get? tree "GROUP") groupBy) :=
    optionally_trails (fun _ => rfl) fun v hv =>
      (grouping_numbered (h.group v hv)).trails (by decide)
  have hhaving : Trails (((Entries.get? tree "HAVING").map Leaves.inGroupTest).getD 0)
      (optionally (Entries.get? tree "HAVING") having) := by
    refine optionally_trails (fun hnone => by rw [hnone]; rfl) fun v hv => ?_
    rw [hv]
    exact having_trails (h.having v hv)
  have horder : Trails 0 (optionally (Entries.get? tree "ORDER") (orderBy d)) :=
    optionally_trails (fun _ => rfl) fun v hv => (h.order v hv).trails (by decide)
  have hlimit : ∀ ordered, Trails 0 (optionally (Entries.get? tree "LIMIT") (limit d ordered)) :=
    fun ordered => optionally_trails (fun _ => rfl) fun v _ => limit_trails d ordered v
  -- The clauses are built in the order in which they are written.
  have hchain := Build.trails_of_behind <| (conditions_trails h.plain).bind fun plainSql =>
    (searching_trails d plainSql.isEmpty tree).bind fun _ => hgroup.bind fun _ =>
    hhaving.bind fun _ => horder.bind fun _ =>
    (hlimit (Entries.get? tree "ORDER").isSome).bind fun _ => Build.behind_pure _
  have hsum : ∀ a b c : Nat, a + (b + (0 + (c + (0 + (0 + 0))))) = a + b + c := by omega
  rw [hsum] at hchain
  exact hchain

/-- A tree without fragments that is ordered by no list of values. -/
theorem countable_of_rawFree (d : Dialect) {tree : Fields} (h : fieldsRawFree tree = true)
    (ho : ∀ v, Entries.get? tree "ORDER" = some v → namesOnly v = true) : Countable d tree where
  plain := fieldsRawFree_filter h _
  group _ hv := rawFree_of_get? h hv
  having _ hv := rawFree_of_get? h hv
  order v hv := ordering_numbered d (rawFree_of_get? h hv) (ho v hv)

/-- Conditions of a statement whose clauses make a placeholder for each leaf. -/
def CountableConditions (d : Dialect) : Option Value → Prop
  | some (.object tree) => Countable d tree
  | some (.raw _) => False
  | _ => True

theorem all_trails {d : Dialect} {conditions : Option Value}
    (h : CountableConditions d conditions) :
    Trails (Leaves.ofConditions d conditions) (all d conditions) := by
  cases conditions with
  | none => exact Build.trails_pure_nil
  | some v =>
    cases v with
    | null => exact Build.trails_pure_nil
    | raw fragment => exact h.elim
    | object tree => exact ofTree_trails h
    | _ => exact Build.gives_fail

end Clause
end StructuredSql
