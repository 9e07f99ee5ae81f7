-- Stars among the parts of a shape. Leaves and groups put their content under their name whatever
-- is there, a star fills in the columns of the row that are not there yet. So what stands under a
-- key in the end is what the part of that name gives, else the row's own column; and where the
-- stars stand among the parts decides nothing but the order of the entries.
import StructuredSql.Projection
import StructuredSql.Proofs.Entries

namespace StructuredSql

namespace Node

/-! ## What the parts give -/

/-- The key of a leaf, the name of a group. -/
def name? : Node → Option String
  | .leaf l => some l.key
  | .group name _ => some name
  | .star => none

def isStar : Node → Bool
  | .star => true
  | _ => false

/-- The names of the leaves and groups. -/
def names (nodes : List Node) : List String := nodes.filterMap name?

/-- The leaves and groups. -/
def parts (nodes : List Node) : List Node := nodes.filter fun n => !n.isStar

/-- What the part puts there, and under which key. A leaf may be left out. -/
def puts? (row : Fields) : Node → Option (String × Value)
  | .leaf l => (l.read? row).map fun v => (l.key, v)
  | .group name children => some (name, .object (walk children row))
  | .star => none

def given (row : Fields) (nodes : List Node) : Fields := nodes.filterMap (puts? row)

/-- The columns of the row that are not there yet. -/
def fill (row out : Fields) : Fields :=
  row.foldl (fun out e => if Entries.contains out e.1 then out else Entries.insert out e.1 e.2) out

variable {row : Fields} {nodes nodes' : List Node}

theorem given_parts (row : Fields) (nodes : List Node) :
    given row (parts nodes) = given row nodes := by
  unfold given parts
  rw [List.filterMap_filter]
  refine List.filterMap_congr fun n _ => ?_
  cases n <;> rfl

theorem keys_given (row : Fields) (nodes : List Node) :
    (Entries.keys (given row nodes)).Sublist (names nodes) := by
  induction nodes with
  | nil => exact .slnil
  | cons n rest ih =>
    cases n with
    | leaf l =>
      rcases hread : l.read? row with _ | v
      · simpa [given, names, puts?, name?, hread] using ih.cons l.key
      · simpa [given, names, puts?, name?, hread, Entries.keys] using ih
    | group name children => simpa [given, names, puts?, name?, Entries.keys] using ih
    | star => exact ih

/-! ## One part after the other -/

theorem add_part {n : Node} (h : n.isStar = false) (row out : Fields) :
    add row out n = Entries.extend out (n.puts? row).toList := by
  cases n with
  | leaf l =>
    unfold add
    rcases hread : l.read? row with _ | v <;> simp [puts?, hread, Entries.extend]
  | group name children => rfl
  | star => cases h

theorem get?_fill (row out : Fields) (key : String) :
    Entries.get? (fill row out) key = (Entries.get? out key).or (Entries.get? row key) := by
  induction row generalizing out with
  | nil => exact Option.or_none.symm
  | cons e row ih =>
    unfold fill at ih ⊢
    rw [List.foldl_cons, ih, Entries.get?]
    rcases hthere : Entries.get? out e.1 with _ | w
    · rw [if_neg (by simp [Entries.contains, hthere]), Entries.get?_insert]
      split
      · subst key
        rw [hthere]
        rfl
      · rfl
    · rw [if_pos (by simp [Entries.contains, hthere])]
      split
      · subst key
        rw [hthere]
        rfl
      · rfl

/-- What stands under a key once all parts are added: what they give there, else what was there
before, else the row's column when there is a star. -/
theorem get?_addAll (hgiven : Entries.Distinct (given row nodes)) (out : Fields) (key : String) :
    Entries.get? (addAll row out nodes) key =
      (Entries.get? (given row nodes) key).or ((Entries.get? out key).or
        (if nodes.any isStar then Entries.get? row key else none)) := by
  induction nodes generalizing out with
  | nil => simp [addAll, given, Entries.get?]
  | cons n rest ih =>
    rw [addAll]
    cases hstar : n.isStar with
    | true =>
      cases n with
      | leaf _ | group _ _ => cases hstar
      | star =>
        rw [ih hgiven]
        show (Entries.get? (given row rest) key).or ((Entries.get? (fill row out) key).or _) =
          (Entries.get? (given row rest) key).or ((Entries.get? out key).or (Entries.get? row key))
        rw [get?_fill]
        -- The rest may hold another star, which finds every column there.
        split <;> cases Entries.get? out key <;> cases Entries.get? row key <;> rfl
    | false =>
      rw [add_part hstar, List.any_cons, hstar, Bool.false_or]
      rcases hputs : n.puts? row with _ | e
      · rw [given, List.filterMap_cons_none hputs] at hgiven ⊢
        exact ih hgiven out
      · rw [given, List.filterMap_cons_some hputs] at hgiven ⊢
        obtain ⟨hnew, hrest⟩ := List.nodup_cons.1 hgiven
        rw [ih hrest]
        show (Entries.get? (given row rest) key).or
          ((Entries.get? (Entries.insert out e.1 e.2) key).or _) = _
        rw [Entries.get?_insert, Entries.get?]
        split
        · subst key
          rw [show Entries.get? (given row rest) e.1 = none from Entries.get?_of_notMem hnew]
          rfl
        · rfl

theorem distinct_fill (row : Fields) {out : Fields} (h : Entries.Distinct out) :
    Entries.Distinct (fill row out) := by
  induction row generalizing out with
  | nil => exact h
  | cons e row ih =>
    unfold fill at ih ⊢
    rw [List.foldl_cons]
    refine ih ?_
    split
    · exact h
    · exact Entries.distinct_insert h e.1 e.2

theorem distinct_addAll (row : Fields) (nodes : List Node) {out : Fields}
    (h : Entries.Distinct out) : Entries.Distinct (addAll row out nodes) := by
  induction nodes generalizing out with
  | nil => exact h
  | cons n rest ih =>
    refine ih ?_
    cases hstar : n.isStar with
    | true =>
      cases n with
      | leaf _ | group _ _ => cases hstar
      | star => exact distinct_fill row h
    | false =>
      rw [add_part hstar]
      exact Entries.distinct_extend h _

/-! ## Stars anywhere -/

theorem get?_walk (hgiven : Entries.Distinct (given row nodes)) (hstar : star ∈ nodes)
    (key : String) : Entries.get? (walk nodes row) key =
      (Entries.get? (given row nodes) key).or (Entries.get? row key) := by
  have hany : nodes.any isStar = true := List.any_eq_true.2 ⟨star, hstar, rfl⟩
  rw [walk, get?_addAll hgiven, if_pos hany]
  rfl

/-- With names that differ from each other and a star somewhere, it does not matter where the
stars stand: a row gets the same entries, up to their order. Each leaf has its cast value, unless
it is left out, and each group the row in the group's own shape; under all other keys stands what
the row has there. -/
theorem stars_may_stand_anywhere (row : Fields) {nodes nodes' : List Node}
    (hnames : (names nodes).Nodup) (hparts : parts nodes = parts nodes')
    (hstar : star ∈ nodes) (hstar' : star ∈ nodes') :
    (walk nodes row).Perm (walk nodes' row) ∧
    (∀ l v, leaf l ∈ nodes → l.read? row = some v →
      Entries.get? (walk nodes row) l.key = some v) ∧
    (∀ name children, group name children ∈ nodes →
      Entries.get? (walk nodes row) name = some (.object (walk children row))) ∧
    ∀ key, (∀ l, leaf l ∈ nodes → l.key = key → l.read? row = none) →
      (∀ name children, group name children ∈ nodes → name ≠ key) →
      Entries.get? (walk nodes row) key = Entries.get? row key := by
  have hgiven : Entries.Distinct (given row nodes) := hnames.sublist (keys_given row nodes)
  have hsame : given row nodes' = given row nodes := by
    rw [← given_parts row nodes', ← hparts, given_parts]
  have hfound {n : Node} {e : String × Value} (hn : n ∈ nodes) (he : n.puts? row = some e) :
      Entries.get? (walk nodes row) e.1 = some e.2 := by
    have hmem : e ∈ given row nodes := List.mem_filterMap.2 ⟨n, hn, he⟩
    rw [get?_walk hgiven hstar, (Entries.mem_iff_get? hgiven e.1 e.2).1 hmem]
    rfl
  refine ⟨?_, ?_, ?_, ?_⟩
  · refine Entries.perm_of_get? (distinct_addAll row nodes List.nodup_nil)
      (distinct_addAll row nodes' List.nodup_nil) fun key => ?_
    show Entries.get? (walk nodes row) key = Entries.get? (walk nodes' row) key
    rw [get?_walk hgiven hstar, get?_walk (hsame ▸ hgiven) hstar', hsame]
  · intro l v hl hread
    exact hfound (e := (l.key, v)) hl (by rw [puts?, hread]; rfl)
  · intro name children hgroup
    exact hfound hgroup rfl
  · intro key hleaves hgroups
    have hnone : key ∉ Entries.keys (given row nodes) := by
      intro hkey
      obtain ⟨e, he, rfl⟩ := List.mem_map.1 hkey
      obtain ⟨n, hn, he⟩ := List.mem_filterMap.1 he
      cases n with
      | leaf l =>
        obtain ⟨v, hread, rfl⟩ := Option.map_eq_some_iff.1 he
        cases hread.symm.trans (hleaves l hn rfl)
      | group name children =>
        cases he
        exact hgroups name children hn rfl
      | star => cases he
    rw [get?_walk hgiven hstar, Entries.get?_of_notMem hnone]
    rfl

/-- A row whose computed column is text that would have to be decoded: the leaf is left out, and
the star brings the text back. -/
theorem stars_first_and_last :
    let row : Fields := [("id", .string "7"), ("meta", .string "[]"), ("name", .string "Ada")]
    let id : Leaf := ⟨"id", some .int, false⟩
    let decoded : Leaf := ⟨"meta", some .json, true⟩
    let first := [star, leaf id, leaf decoded, group "who" [leaf ⟨"name", none, false⟩]]
    let last := [leaf id, leaf decoded, group "who" [leaf ⟨"name", none, false⟩], star]
    (walk first row).Perm (walk last row) ∧
      Entries.get? (walk first row) "id" = some (.int 7) ∧
      Entries.get? (walk first row) "who" = some (.object [("name", .string "Ada")]) ∧
      Entries.get? (walk first row) "meta" = some (.string "[]") := by
  intro row id decoded first last
  have hnames : (names first).Nodup := by decide
  have hparts : parts first = parts last := rfl
  obtain ⟨hperm, hleaf, hgroup, hother⟩ :=
    stars_may_stand_anywhere row hnames hparts (by simp [first]) (by simp [last])
  refine ⟨hperm, hleaf id (.int 7) (by simp [first]) rfl,
    hgroup "who" [leaf ⟨"name", none, false⟩] (by simp [first]), hother "meta" ?_ (by simp [first])⟩
  intro l hl hkey
  simp only [first, List.mem_cons, reduceCtorEq, Node.leaf.injEq, List.not_mem_nil, false_or,
    or_false] at hl
  rcases hl with rfl | rfl
  · exact absurd hkey (by decide)
  · rfl

end Node
end StructuredSql
