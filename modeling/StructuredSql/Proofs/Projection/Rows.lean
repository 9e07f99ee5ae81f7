-- Rows and their projection. The keys under which a projection looks into a row are those of its
-- leaves, however deep, and the one that the rows are grouped by; stars aside, rows that agree
-- under these keys are projected alike. Rows are given as they come where the spec names no
-- column. All rows of a result get the shape that each of them has alone. Grouped rows stand
-- under texts, and the last row of a text takes its place.
import StructuredSql.Projection
import StructuredSql.Proofs.Entries
import Mathlib.Data.List.Forall2

namespace StructuredSql

namespace Node

mutual

/-- The keys of the leaves of the part. -/
def keys : Node → List String
  | .leaf l => [l.key]
  | .group _ children => keysAll children
  | .star => []
termination_by structural n => n

def keysAll : List Node → List String
  | [] => []
  | n :: rest => n.keys ++ keysAll rest
termination_by structural nodes => nodes

end

mutual

/-- No part asks for all columns of the row. -/
def starFree : Node → Bool
  | .leaf _ => true
  | .group _ children => starFreeAll children
  | .star => false
termination_by structural n => n

def starFreeAll : List Node → Bool
  | [] => true
  | n :: rest => n.starFree && starFreeAll rest
termination_by structural nodes => nodes

end

theorem keysAll_append (a b : List Node) : keysAll (a ++ b) = keysAll a ++ keysAll b := by
  induction a with
  | nil => rfl
  | cons n a ih => simp [keysAll, ih]

end Node

/-- The keys that the shape reads from a row. -/
def Shape.keys : Shape → List String
  | all => []
  | single leaf => [leaf.key]
  | rows nodes => Node.keysAll nodes
  | grouped index nodes => index :: Node.keysAll nodes

def Shape.starFree : Shape → Bool
  | all => false
  | single _ => true
  | rows nodes => Node.starFreeAll nodes
  | grouped _ nodes => Node.starFreeAll nodes

/-! ## Groups of rows -/

/-- The text of what the row holds in the column, and the empty text when it holds nothing
there. -/
def textUnder (column : String) (row : Fields) : String :=
  match Entries.get? row column with
  | some v => v.toText
  | none => ""

namespace Shape

theorem groupKey_eq (index : String) (row : Fields) : groupKey index row = textUnder index row := by
  unfold groupKey textUnder
  cases Entries.get? row index <;> rfl

/-- The rows, each under its text. -/
def groups (index : String) (nodes : List Node) (table : List Fields) : Fields :=
  Entries.ofPairs (table.map fun row => (textUnder index row, .object (Node.walk nodes row)))

/-- One row after the other goes into the entries of its group. -/
theorem result_grouped (index : String) (nodes : List Node) (table : List Fields) :
    (grouped index nodes).result table = .object (groups index nodes table) := by
  unfold groups Entries.ofPairs Entries.extend
  rw [List.foldl_map]
  simp only [result, groupKey_eq]

end Shape

/-! ## Rows that agree -/

/-- The rows hold the same under each of the keys. -/
def AgreeOn (keys : List String) (row row' : Fields) : Prop :=
  ∀ key ∈ keys, Entries.get? row key = Entries.get? row' key

variable {row row' : Fields}

theorem AgreeOn.left {a b : List String} (h : AgreeOn (a ++ b) row row') : AgreeOn a row row' :=
  fun key hkey => h key (List.mem_append_left b hkey)

theorem AgreeOn.right {a b : List String} (h : AgreeOn (a ++ b) row row') : AgreeOn b row row' :=
  fun key hkey => h key (List.mem_append_right a hkey)

theorem AgreeOn.read? {l : Leaf} (h : AgreeOn [l.key] row row') : l.read? row = l.read? row' := by
  unfold Leaf.read? Leaf.readBy?
  rw [h l.key List.mem_cons_self]

namespace Node

mutual

theorem add_congr : (n : Node) → n.starFree = true → AgreeOn n.keys row row' →
    (out : Fields) → add row out n = add row' out n
  | .leaf l, _, h, out => by
    rw [add, add, h.read?]
  | .group name children, hs, h, out => by
    rw [add, add, addAll_congr children hs h []]
  | .star, hs, _, _ => by cases hs
termination_by structural n => n

theorem addAll_congr : (nodes : List Node) → starFreeAll nodes = true →
    AgreeOn (keysAll nodes) row row' → (out : Fields) → addAll row out nodes = addAll row' out nodes
  | [], _, _, _ => rfl
  | n :: rest, hs, h, out => by
    obtain ⟨hn, hrest⟩ := Bool.and_eq_true_iff.1 hs
    rw [addAll, addAll, add_congr n hn h.left out]
    exact addAll_congr rest hrest h.right _
termination_by structural nodes => nodes

end

theorem walk_congr {nodes : List Node} (hs : starFreeAll nodes = true)
    (h : AgreeOn (keysAll nodes) row row') : walk nodes row = walk nodes row' :=
  addAll_congr nodes hs h []

end Node

namespace Shape

variable {shape : Shape}

theorem row_congr (hs : shape.starFree = true) (h : AgreeOn shape.keys row row') :
    shape.row row = shape.row row' := by
  cases shape with
  | all => cases hs
  | single leaf => rw [Shape.row, Shape.row, h.read?]
  | rows nodes => rw [Shape.row, Shape.row, Node.walk_congr hs h]
  | grouped index nodes =>
    rw [Shape.row, Shape.row, Node.walk_congr hs (h.right (a := [index]))]

theorem entry_congr (index : String) {nodes : List Node} (hs : Node.starFreeAll nodes = true)
    (h : AgreeOn (index :: Node.keysAll nodes) row row') :
    (textUnder index row, Value.object (Node.walk nodes row)) =
      (textUnder index row', Value.object (Node.walk nodes row')) := by
  rw [textUnder, textUnder, h index List.mem_cons_self,
    Node.walk_congr hs (h.right (a := [index]))]

theorem map_congr_of_forall₂ {α : Type} {R : Fields → Fields → Prop} {f : Fields → α}
    {table table' : List Fields} (h : List.Forall₂ R table table')
    (hf : ∀ row row', R row row' → f row = f row') : table.map f = table'.map f := by
  have heq : List.Forall₂ (· = ·) (table.map f) (table'.map f) := by
    rw [List.forall₂_map_left_iff, List.forall₂_map_right_iff]
    exact h.imp hf
  rwa [List.forall₂_eq_eq_eq] at heq

/-- Without stars, what a projection gives depends on its keys alone. -/
theorem result_congr (hs : shape.starFree = true) {table table' : List Fields}
    (h : List.Forall₂ (AgreeOn shape.keys) table table') :
    shape.result table = shape.result table' := by
  have hrows : table.map shape.row = table'.map shape.row :=
    map_congr_of_forall₂ h fun _ _ => row_congr hs
  cases shape with
  | all => cases hs
  | single leaf => exact congrArg Value.array hrows
  | rows nodes => exact congrArg Value.array hrows
  | grouped index nodes =>
    have hentries := map_congr_of_forall₂ h fun _ _ => entry_congr index hs
    rw [result_grouped, result_grouped]
    exact congrArg (fun entries => Value.object (Entries.ofPairs entries)) hentries

end Shape

/-! ## Rows as they come -/

/-- The spec names no column of its own: it asks for all columns, for those of one table, or for
what a fragment selects. -/
def Value.PassesThrough : Value → Prop
  | .string s => s = "*" ∨ ∃ table, s = table ++ ".*"
  | .array _ => False
  | .object _ => False
  | _ => True

namespace Shape

theorem isStar_iff {s : String} : isStar s = true ↔ s = "*" ∨ ∃ table, s = table ++ ".*" := by
  unfold isStar
  rw [Bool.or_eq_true, decide_eq_true_eq]
  refine or_congr_right ⟨fun h => ?_, ?_⟩
  · split at h
    · rename_i before hreverse
      refine ⟨String.ofList before.reverse, String.toList_injective ?_⟩
      have hs := congrArg List.reverse hreverse
      simpa using hs
    · cases h
  · rintro ⟨table, rfl⟩
    simp

theorem ne_all_of_map (make : List Node → Shape) (hmake : ∀ ns, make ns ≠ .all)
    {nodes : Except Fault (List Node)} {shape : Shape} (h : nodes.map make = .ok shape) :
    shape ≠ .all := by
  cases nodes with
  | error fault => cases h
  | ok ns =>
    cases h
    exact hmake ns

theorem ofSpec_eq_all_iff {v : Value} {shape : Shape} (h : ofSpec v = .ok shape) :
    shape = .all ↔ v.PassesThrough := by
  cases v with
  | string s =>
    simp only [ofSpec, Value.PassesThrough] at h ⊢
    rw [← isStar_iff]
    split at h
    · rename_i hstar
      cases h
      exact iff_of_true rfl hstar
    · rename_i hstar
      refine iff_of_false ?_ hstar
      cases hparse : ColumnItem.parse s with
      | error fault =>
        rw [hparse] at h
        cases h
      | ok i =>
        rw [hparse] at h
        cases h
        exact nofun
  | array items => exact iff_of_false (ne_all_of_map .rows nofun h) id
  | object fields =>
    refine iff_of_false ?_ id
    match fields, h with
    | [], h =>
      have hrows : (Node.ofFields []).map .rows = .ok shape := h
      exact ne_all_of_map .rows nofun hrows
    | e :: f :: rest, h => exact ne_all_of_map .rows nofun h
    | [(key, nested)], h =>
      simp only [ofSpec] at h
      split at h
      · exact ne_all_of_map (.grouped (afterLastPoint key)) nofun h
      · exact ne_all_of_map .rows nofun h
  | _ =>
    cases h
    exact iff_of_true rfl trivial

/-- Rows are given as they come exactly when the spec names no column of its own. -/
theorem isPassThrough_iff {v : Value} {shape : Shape} (h : ofSpec v = .ok shape) :
    shape.isPassThrough = true ↔ v.PassesThrough := by
  rw [← ofSpec_eq_all_iff h]
  cases shape with
  | all => exact iff_of_true rfl rfl
  | _ => exact iff_of_false nofun nofun

end Shape

/-! ## All rows, and each of them alone -/

namespace Shape

/-- The last of the rows that have the text in the column. -/
def lastUnder (column text : String) (table : List Fields) : Option Fields :=
  (table.filter fun row => textUnder column row == text).getLast?

variable (index : String) (nodes : List Node) (table : List Fields)

/-- The texts stand in the order in which they first came. -/
theorem keys_groups :
    Entries.keys (groups index nodes table) = (table.map (textUnder index)).eraseDups := by
  unfold groups
  rw [Entries.keys_ofPairs]
  simp [Entries.keys, Function.comp_def]

/-- Under a text stands the last row that has it. -/
theorem get?_groups (text : String) : Entries.get? (groups index nodes table) text =
    (lastUnder index text table).map fun row => (grouped index nodes).row? (some row) := by
  unfold groups lastUnder
  rw [Entries.get?_ofPairs, Entries.get?_eq_find?, ← List.getLast?_filter, List.filter_map,
    List.getLast?_map, Option.map_map]
  rfl

/-- The rows of a result are projected as each of them alone: one after the other, or, when they
are grouped, under the different texts of their index columns, in the order in which the texts
first came, with the last row of a text for all of them. -/
theorem rows_are_projected_as_each_alone (shape : Shape) (table : List Fields) :
    match shape with
    | grouped index _ => ∃ fields, shape.result table = .object fields ∧
        Entries.keys fields = (table.map (textUnder index)).eraseDups ∧
        ∀ text, Entries.get? fields text =
          (lastUnder index text table).map fun row => shape.row? (some row)
    | _ => shape.result table = .array (table.map fun row => shape.row? (some row)) := by
  cases shape with
  | all => rfl
  | single leaf => rfl
  | rows nodes => rfl
  | grouped index nodes =>
    exact ⟨groups index nodes table, result_grouped index nodes table,
      keys_groups index nodes table, get?_groups index nodes table⟩

/-- Players by their teams, one of whom has none. The first two teams are a number and a text
that is written like it. -/
def players : List Fields :=
  [[("team", .int 1), ("name", .string "Ada")], [("name", .string "Bo")],
    [("team", .string "1"), ("name", .string "Cy")]]

/-- Both of these players stand under one text, where the later one takes the place of the
first. -/
theorem players_by_team :
    ∃ fields, (grouped "team" [.leaf ⟨"name", none, false⟩]).result players = .object fields ∧
      Entries.keys fields = ["1", ""] ∧
      Entries.get? fields "1" = some (.object [("name", .string "Cy")]) ∧
      Entries.get? fields "" = some (.object [("name", .string "Bo")]) := by
  obtain ⟨fields, hresult, hkeys, hrows⟩ :=
    rows_are_projected_as_each_alone (grouped "team" [.leaf ⟨"name", none, false⟩]) players
  refine ⟨fields, hresult, ?_, ?_, ?_⟩
  · rw [hkeys]
    decide
  · rw [hrows]
    rfl
  · rw [hrows]
    rfl

end Shape
end StructuredSql
