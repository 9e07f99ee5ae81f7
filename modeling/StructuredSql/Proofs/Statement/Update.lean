-- The assignments of an update: which column a key names, and which keys calculate. A value
-- that is calculated with stands in the text as it is, so it must be a decimal numeral.
import StructuredSql.Proofs.Build.Results
import StructuredSql.Proofs.Stored.Cell
import StructuredSql.Proofs.Text.Decimal
import StructuredSql.Proofs.Statement.Writes

namespace StructuredSql.Write

/-! ## Keys -/

/-- The key is a column with the mark behind it, or a column alone that no mark ends. -/
def KeyReads (key name : String) : Option Mark → Prop
  | some mark => mark.Known ∧ Name.Marked mark.text name.toList key.toList
  | none => key = name ∧ ∀ mark : Mark, mark.Known → ¬ mark.text <:+ key.toList

/-- A key whose column can be quoted is read as it stands. -/
theorem keyReads_updateKey {c : Compiler} {key column : String}
    (h : c.quoteColumn (updateKey key).1 = .ok column) :
    KeyReads key (updateKey key).1 (updateKey key).2 := by
  have hreference := Compiler.isReference_of_quoteColumn h
  unfold updateKey at hreference ⊢
  cases hmark : takeMark? key.toList.reverse with
  | none =>
    refine ⟨rfl, ?_⟩
    rintro mark hknown ⟨before, hbefore⟩
    have htake : takeMark? key.toList.reverse = some (mark, before.reverse) := by
      apply takeMark?_eq_some_iff.2
      exact ⟨hknown, by rw [← hbefore, List.reverse_append]⟩
    rw [hmark] at htake
    cases htake
  | some read =>
    obtain ⟨mark, s⟩ := read
    obtain ⟨hknown, hkey⟩ := takeMark?_key hmark
    simp only [hmark] at hreference ⊢
    split
    · rename_i hlines
      -- The mark would end a name.
      rw [if_pos hlines] at hreference
      have hlast := hreference.isPart_last ']' (by rw [hkey]; simp [mark.text_last])
      exact absurd hlast (by decide)
    · obtain ⟨blank, hblank, hs⟩ := Text.exists_blank s.reverse
      refine ⟨hknown, blank, hblank, ?_⟩
      rw [hkey, String.toList_ofList]
      have htrim : Text.trimEnd s.reverse = (s.dropWhile Unicode.isBlank).reverse := by
        rw [Text.trimEnd, List.reverse_reverse]
      rw [← htrim, ← hs]

/-! ## Operands -/

/-- The operand of a calculation is a decimal numeral, unless it is a float that is none. -/
theorem operand_finiteDecimal_iff {v : Value} (h : v.isNumeric = true) :
    Text.FiniteDecimal (operand v).toList ↔ ∀ x, v = .float x → x.isFinite = true := by
  cases v with
  | int i =>
    exact iff_of_true (Text.finiteDecimal_toString i) (by rintro x ⟨⟩)
  | float x =>
    refine (Text.finiteDecimal_toText_iff x).trans ⟨?_, fun hall => hall x rfl⟩
    rintro hx y ⟨⟩
    exact hx
  | string s =>
    refine iff_of_true ?_ (by rintro x ⟨⟩)
    simp only [Value.isNumeric, Value.numericText?] at h
    simp only [operand, String.toList_ofList]
    cases hread : Text.readDouble? (Text.trim s.toList) with
    | none => simp [hread] at h
    | some x =>
      have hx : x.isFinite = true := by
        by_contra hx
        simp [hread, hx] at h
      exact Text.finiteDecimal_iff.2 ⟨x, hread, hx⟩
  | _ => cases h

/-! ## Assignments -/

/-- How an assignment is written. A marked key calculates with a number, which stands in the
text. A fragment is assigned as it is, whatever the mark of its key. -/
inductive Assigned (c : Compiler) : String × Value → String → Prop
  | calculated {key name column : String} {sign : Char} {v : Value} :
      KeyReads key name (some (.arithmetic sign)) → c.quoteColumn name = .ok column →
      v.isNumeric = true →
      (Text.FiniteDecimal (operand v).toList ↔ ∀ x, v = .float x → x.isFinite = true) →
      Assigned c (key, v)
        (column ++ " = " ++ column ++ " " ++ String.singleton sign ++ " " ++ operand v)
  | fragment {key name column : String} {mark? : Option Mark} {raw : Raw} {sql : Sql} :
      KeyReads key name mark? → c.quoteColumn name = .ok column →
      Marker.expand raw.sql = .ok sql →
      Assigned c (key, .raw raw) (column ++ " = " ++ sql.render c.tablePrefix)
  | stored {key name column : String} {mark? : Option Mark} {v : Value} {n : Nat} :
      KeyReads key name mark? → (∀ sign, mark? ≠ some (.arithmetic sign)) → v.isRaw = false →
      c.quoteColumn name = .ok column →
      Assigned c (key, v) (column ++ " = " ++ placeholderKey n)

theorem store_makes (key : String) {v : Value} (h : v.isRaw = false) :
    Build.Makes (Cell.store key v) Sql.IsPlaceholder := by
  rw [Cell.store_eq key h]
  exact Build.IsPlaceholder.makes ⟨_, rfl⟩

theorem assignment_assigned (c : Compiler) (entry : String × Value) :
    Build.Makes (assignment entry) fun sql => Assigned c entry (sql.render c.tablePrefix) := by
  obtain ⟨key, v⟩ := entry
  have hreads : ∀ quoted, c.quoteColumn (updateKey key).1 = .ok quoted →
      KeyReads key (updateKey key).1 (updateKey key).2 := fun _ => keyReads_updateKey
  unfold assignment
  cases hkey : updateKey key with
  | mk name mark? =>
    rw [hkey] at hreads
    apply Build.makes_read
    intro column hcolumn
    have hquoted : c.quoteColumn name = .ok (column.render c.tablePrefix) :=
      Compiler.finish_eq_ok.2 ⟨column, hcolumn, rfl⟩
    have hread := hreads _ hquoted
    dsimp only
    split
    · rename_i raw
      refine (Build.makes_fragment raw).map fun sql hsql => ?_
      rw [Sql.render_append, Sql.render_cons, Piece.render_text, ← String.append_assoc]
      exact .fragment hread hquoted hsql
    · rename_i sign hraw
      split
      · rename_i hnumeric
        apply Build.makes_pure
        have hrender : Sql.render c.tablePrefix
            (column ++ .text " = " :: (column ++ Sql.text s!" {sign} {operand v}")) =
            column.render c.tablePrefix ++ " = " ++ column.render c.tablePrefix ++ " " ++
              String.singleton sign ++ " " ++ operand v := by
          rw [Sql.render_append, Sql.render_cons, Sql.render_append, Sql.render_text,
            Piece.render_text]
          simp only [String.append_assoc]
          rfl
        rw [hrender]
        exact .calculated hread hquoted hnumeric (operand_finiteDecimal_iff hnumeric)
      · exact Build.makes_fail
    · rename_i hraw hsign
      have hplain : v.isRaw = false := by
        cases v with
        | raw fragment => exact absurd rfl (hraw fragment)
        | _ => rfl
      refine (store_makes key hplain).map fun sql hsql => ?_
      obtain ⟨n, rfl⟩ := hsql
      have hstored := Assigned.stored (c := c) (n := n) hread (fun sign hmark => hsign sign hmark)
        hplain hquoted
      rw [Sql.render_append, Sql.render_cons, Piece.render_text, ← String.append_assoc,
        Sql.render_cons, Sql.render_nil, String.append_empty]
      exact hstored

/-! ## The whole statement -/

theorem update_assigned (c : Compiler) (table : String) (data : Fields)
    (conditions : Option Value) : Build.Makes (update c.dialect table data conditions) fun sql =>
      ∃ target assignments rest, c.quoteTable table = .ok target ∧
        List.Forall₂ (Assigned c) data assignments ∧
        sql.render c.tablePrefix =
          "UPDATE " ++ target ++ " SET " ++ ", ".intercalate assignments ++ rest := by
  unfold update
  split
  · exact Build.makes_fail
  · apply Build.makes_read
    intro target htarget
    refine (Build.makes_forall₂ data fun entry _ => assignment_assigned c entry).bind
      fun assignments hassignments => ?_
    refine Build.Makes.map (fun _ _ _ _ => trivial) fun clauses (_ : True) => ?_
    refine ⟨target.render c.tablePrefix, assignments.map (Sql.render c.tablePrefix),
      clauses.render c.tablePrefix, Compiler.finish_eq_ok.2 ⟨target, htarget, rfl⟩,
      List.forall₂_map_right_iff.2 hassignments, ?_⟩
    rw [Sql.render_cons, Sql.render_append, Sql.render_cons, Sql.render_append,
      Sql.render_joinWith]
    simp only [Piece.render_text, String.append_assoc]

/-- An update assigns for each key of its data, in order. A key with an arithmetic mark
calculates with the column itself and the number, and the number stands in the text as a
finite decimal numeral exactly when it is no float that is infinite or no number. Only a
fragment is assigned without calculation under such a key. -/
theorem marked_keys_calculate_with_decimals (c : Compiler) {table : String} {data : Fields}
    {conditions : Option Value} {out : Compiled} (h : c.update table data conditions = .ok out) :
    ∃ target assignments rest, c.quoteTable table = .ok target ∧
      List.Forall₂ (Assigned c) data assignments ∧
      out.sql = "UPDATE " ++ target ++ " SET " ++ ", ".intercalate assignments ++ rest := by
  obtain ⟨sql, bound, hrun, rfl⟩ := Compiler.compile_eq_ok.1 h
  exact update_assigned c table data conditions 0 sql bound hrun

/-- A post is seen once more and costs half as much again. -/
def seenPost : Fields :=
  [("hits[+]", .int 1), ("price [*]", .string " 1.5e0 "), ("seen", .raw (Fragment.plain "NOW()")),
    ("tags[JSON]", .array [.int 1])]

set_option maxRecDepth 2048 in
theorem seenPost_update :
    Compiler.update ⟨.pgsql, "x_"⟩ "post" seenPost (some (.object [("id", .int 7)])) = .ok
      ⟨"UPDATE \"x_post\" SET \"hits\" = \"hits\" + 1, \"price\" = \"price\" * 1.5e0, " ++
          "\"seen\" = NOW(), \"tags\" = :p0 WHERE \"id\" = :p1",
        [(":p0", ⟨.string "[1]", .string⟩), (":p1", ⟨.int 7, .int⟩)]⟩ := by
  rfl

theorem seenPost_calculates : ∃ out,
    Compiler.update ⟨.pgsql, "x_"⟩ "post" seenPost (some (.object [("id", .int 7)])) = .ok out ∧
      ∃ assignments rest, List.Forall₂ (Assigned ⟨.pgsql, "x_"⟩) seenPost assignments ∧
        out.sql = "UPDATE \"x_post\" SET " ++ ", ".intercalate assignments ++ rest := by
  obtain ⟨target, assignments, rest, htarget, hassignments, hsql⟩ :=
    marked_keys_calculate_with_decimals ⟨.pgsql, "x_"⟩ seenPost_update
  cases htarget
  exact ⟨_, seenPost_update, assignments, rest, hassignments, hsql⟩

/-- A fragment under an arithmetic mark is assigned and not added, and a float that is no
number is added as a word that is no numeral. -/
theorem marked_fragment_overwrites_and_nan_is_spliced :
    (Compiler.update ⟨.sqlite, ""⟩ "t" [("n[+]", .raw (Fragment.plain "1"))] none =
        .ok ⟨"UPDATE \"t\" SET \"n\" = 1", []⟩ ∧
      ∀ operand : String, "\"n\" = 1" ≠ "\"n\" = \"n\" + " ++ operand) ∧
    (Compiler.update ⟨.sqlite, ""⟩ "t" [("n[+]", .float .nan)] none =
        .ok ⟨"UPDATE \"t\" SET \"n\" = \"n\" + NaN", []⟩ ∧
      ¬ Text.FiniteDecimal "NaN".toList) := by
  refine ⟨⟨rfl, ?_⟩, rfl, Text.not_finiteDecimal_nan⟩
  intro operand heq
  have hchars := congrArg (fun s => s.toList[6]?) heq
  simp only [String.toList_append] at hchars
  rw [List.getElem?_append_left (by decide)] at hchars
  exact absurd hchars (by decide)

end StructuredSql.Write
