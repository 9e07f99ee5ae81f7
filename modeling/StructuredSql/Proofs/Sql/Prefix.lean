-- Where the table prefix stands. A template is a row of tokens that does not tell tables from
-- columns: which of its names take the prefix is read off what stands around them. A statement
-- is read in this way part by part, and each part is read with what follows it.
import StructuredSql.Proofs.Build.Results
import StructuredSql.Proofs.Sql.Text

namespace StructuredSql

/-! ## Templates -/

/-- A part of a template. -/
inductive Token
  | text (s : String)
  /-- A name in double quotes. -/
  | name (s : String)
  | placeholder (n : Nat)
deriving DecidableEq, Repr

/-- What stands before a token. -/
inductive Spot
  /-- A word that a table follows. -/
  | tableWord
  /-- A table, which may be given an alias. -/
  | table
  | other
deriving DecidableEq, Repr

/-- The words that a table follows. -/
def tableWords : List String := ["FROM ", "JOIN ", "INTO ", "UPDATE ", "TABLE ", "EXISTS "]

/-- The text ends in a word that a table follows. -/
def endsInTableWord (s : String) : Bool :=
  tableWords.any fun word => word.toList.isSuffixOf s.toList

/-- The place behind a text. Behind a table, AS is followed by its alias. -/
def Spot.behind (spot : Spot) (s : String) : Spot :=
  if endsInTableWord s then .tableWord
  else if spot = .table ∧ s = " AS " then .tableWord
  else .other

/-- The text begins with a point. -/
def isPointed (s : String) : Bool := s.toList.head? = some '.'

/-- The tokens begin with a point. -/
def opensPoint : List Token → Bool
  | .text s :: _ => isPointed s
  | _ => false

/-- The text of a template under a table prefix. The prefix stands right behind the opening quote
of a name when a table is expected at its place, and when a point follows the name. -/
def prefixed (tablePrefix : String) : Spot → List Token → String
  | _, [] => ""
  | spot, .text s :: rest => s ++ prefixed tablePrefix (spot.behind s) rest
  | _, .placeholder n :: rest => placeholderKey n ++ prefixed tablePrefix .other rest
  | spot, .name s :: rest =>
    if spot = .tableWord ∨ opensPoint rest = true then
      "\"" ++ tablePrefix ++ s ++ "\"" ++ prefixed tablePrefix .table rest
    else "\"" ++ s ++ "\"" ++ prefixed tablePrefix .other rest

/-- The piece without what tells a table from a column. -/
def Piece.token : Piece → Token
  | text s => .text s
  | table name => .name name
  | column name => .name name
  | placeholder n => .placeholder n

def Sql.tokens (sql : Sql) : List Token := sql.map Piece.token

/-! ## Parts that are read -/

namespace Sql

/-- At the first place the tokens of the part are read as its pieces are rendered, and what
follows is then at the second place. -/
def Reads (spot next : Spot) (sql : Sql) : Prop :=
  ∀ (tablePrefix : String) (rest : List Token), opensPoint rest = false →
    prefixed tablePrefix spot (sql.tokens ++ rest) =
      sql.render tablePrefix ++ prefixed tablePrefix next rest

variable {spot middle next : Spot} {a b : Sql} {s : String}

theorem reads_nil (spot : Spot) : Reads spot spot [] := by
  intro tablePrefix rest _
  rw [render_nil, String.empty_append]
  rfl

theorem Reads.text (h : Reads (spot.behind s) next a) : Reads spot next (.text s :: a) := by
  intro tablePrefix rest hrest
  rw [render_cons, Piece.render_text, String.append_assoc, ← h tablePrefix rest hrest]
  rfl

theorem reads_placeholder (spot : Spot) (n : Nat) : Reads spot .other [.placeholder n] := by
  intro tablePrefix rest _
  rw [render_cons, render_nil, String.append_empty]
  rfl

/-- A name before a point is a table, whatever stands before it. -/
theorem reads_qualifier (spot : Spot) (name : String) (hs : isPointed s = true)
    (h : Reads (Spot.table.behind s) next a) :
    Reads spot next (.table name :: .text s :: a) := by
  intro tablePrefix rest hrest
  have htext := h.text tablePrefix rest hrest
  rw [render_cons, String.append_assoc, ← htext]
  exact if_pos (Or.inr hs)

theorem reads_column (name : String) : Reads .other .other [.column name] := by
  intro tablePrefix rest hrest
  rw [render_cons, render_nil, String.append_empty]
  have hspot : ¬ (Spot.other = .tableWord ∨ opensPoint rest = true) := by simp [hrest]
  exact if_neg hspot

theorem opensPoint_append {rest : List Token} (ha : opensPoint a.tokens = false)
    (hrest : opensPoint rest = false) : opensPoint (a.tokens ++ rest) = false := by
  cases a with
  | nil => exact hrest
  | cons p a =>
    cases p with
    | text s => exact ha
    | _ => rfl

/-- One part behind another, unless a point opens it. -/
theorem Reads.append (ha : Reads spot middle a) (hb : Reads middle next b)
    (hpoint : opensPoint b.tokens = false) : Reads spot next (a ++ b) := by
  intro tablePrefix rest hrest
  have htokens : tokens (a ++ b) ++ rest = a.tokens ++ (b.tokens ++ rest) := by
    simp [tokens, List.map_append, List.append_assoc]
  rw [htokens, ha tablePrefix _ (opensPoint_append hpoint hrest), hb tablePrefix rest hrest,
    render_append, String.append_assoc]

/-- The part expects no table at its beginning, and none is expected behind it. -/
def Closed (sql : Sql) : Prop := Reads .other .other sql

theorem closed_columnName (c : ColumnName) : Closed c.sql := by
  unfold ColumnName.sql
  split
  · exact reads_qualifier .other _ rfl (reads_column c.name)
  · exact reads_column c.name

/-- The text may stand between two parts, and no table is expected behind it. -/
def Divides (s : String) : Prop :=
  endsInTableWord s = false ∧ s ≠ " AS " ∧ isPointed s = false

instance (s : String) : Decidable (Divides s) :=
  inferInstanceAs (Decidable (_ ∧ _ ∧ _))

theorem Divides.behind (h : Divides s) (spot : Spot) : spot.behind s = .other := by
  simp [Spot.behind, h.1, h.2.1]

/-- The part expects no table at its beginning. -/
def Placed (sql : Sql) : Prop := ∃ next, Reads .other next sql

/-- The part may stand behind any other. -/
structure Follows (sql : Sql) : Prop where
  point : opensPoint sql.tokens = false
  reads : ∀ spot, ∃ next, Reads spot next sql

theorem Closed.placed (h : Closed a) : Placed a := ⟨.other, h⟩

theorem placed_nil : Placed [] := ⟨.other, reads_nil .other⟩

theorem placed_placeholder (h : a.IsPlaceholder) : Placed a := by
  obtain ⟨n, rfl⟩ := h
  exact ⟨.other, reads_placeholder .other n⟩

theorem placed_text (s : String) : Placed (text s) := ⟨_, Reads.text (reads_nil _)⟩

theorem follows_text (hs : isPointed s = false) : Follows (text s) :=
  ⟨hs, fun _ => ⟨_, Reads.text (reads_nil _)⟩⟩

theorem Placed.after (h : Placed a) (hs : Divides s) : Follows (.text s :: a) := by
  obtain ⟨next, hreads⟩ := h
  refine ⟨hs.2.2, fun spot => ⟨next, Reads.text ?_⟩⟩
  rwa [hs.behind spot]

theorem Follows.placed (h : Follows a) : Placed a := h.reads .other

theorem Placed.follow (ha : Placed a) (hb : Follows b) : Placed (a ++ b) := by
  obtain ⟨middle, hreads⟩ := ha
  obtain ⟨next, hnext⟩ := hb.reads middle
  exact ⟨next, hreads.append hnext hb.point⟩

theorem Follows.append (ha : Follows a) (hb : Follows b) : Follows (a ++ b) := by
  refine ⟨?_, fun spot => ?_⟩
  · have htokens : tokens (a ++ b) = a.tokens ++ b.tokens := List.map_append
    rw [htokens]
    exact opensPoint_append ha.point hb.point
  · obtain ⟨middle, hreads⟩ := ha.reads spot
    obtain ⟨next, hnext⟩ := hb.reads middle
    exact ⟨next, hreads.append hnext hb.point⟩

/-- A text in front. -/
theorem Placed.lead (h : Placed a) (hs : Divides s) : Placed (.text s :: a) := (h.after hs).placed

/-- A text between two parts. -/
theorem Placed.link (ha : Placed a) (hs : Divides s) (hb : Placed b) :
    Placed (a ++ .text s :: b) := ha.follow (hb.after hs)

/-- A text at the end. -/
theorem Placed.trail (ha : Placed a) (hs : isPointed s = false) : Placed (a ++ text s) :=
  ha.follow (follows_text hs)

theorem Placed.parens (h : Placed a) : Placed (parens a) :=
  (h.lead (by decide)).trail (by decide)

theorem placed_joinWith (hs : Divides s) {sqls : List Sql} (h : ∀ sql ∈ sqls, Placed sql) :
    Placed (joinWith s sqls) := by
  induction sqls with
  | nil => exact placed_nil
  | cons sql rest ih =>
    obtain ⟨hsql, hrest⟩ := List.forall_mem_cons.1 h
    cases rest with
    | nil => exact hsql
    | cons next more => exact hsql.link hs (ih hrest)

end Sql
end StructuredSql
