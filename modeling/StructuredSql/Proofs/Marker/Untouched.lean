-- What expansion leaves alone. A quoted name opens nothing, and no bracket that opened
-- nothing does so behind it, so what is written falls into the segments that were read,
-- with the characters of a quoted name where a marker stood. Its literals are those that
-- were read, and as it holds no marker, expanding it again changes nothing.
import StructuredSql.Proofs.Marker.Expansion

namespace StructuredSql.Marker

/-! ## Reading what was written -/

/-- What the part is read as once it is written. -/
def Part.left : Part → List Segment
  | literal text => [.literal text]
  | other d => [.other d]
  | column _ quoted => quoted.toList.map .other
  | table _ _ quoted => (' ' :: quoted.toList).map .other

theorem Part.segments_ne_nil (p : Part) : p.segments ≠ [] := by
  cases p with
  | literal text => simp [segments]
  | other d => simp [segments]
  | column name quoted => simp [segments]
  | table blanks name quoted => simp [segments]

theorem eq_nil_of_segments {parts : List Part} (h : parts.flatMap Part.segments = []) :
    parts = [] := by
  cases parts with
  | nil => rfl
  | cons p parts => exact absurd (List.append_eq_nil_iff.1 h).1 p.segments_ne_nil

theorem Splits.of_literal {s text : List Char} {segs : List Segment}
    (h : Splits s (.literal text :: segs)) : ∃ q body, IsQuote q ∧ q ∉ body ∧
      (text = q :: (body ++ [q]) ∨ text = q :: body ∧ segs = []) := by
  cases h with
  | literal hq hb _ => exact ⟨_, _, hq, hb, Or.inl rfl⟩
  | unclosed hq hb => exact ⟨_, _, hq, hb, Or.inr ⟨rfl, rfl⟩⟩

theorem Splits.of_other {s : List Char} {d : Char} {segs : List Segment}
    (h : Splits s (.other d :: segs)) : ∃ rest, s = d :: rest ∧ ¬ Opens s ∧ Splits rest segs := by
  cases h with
  | other ho hrest => exact ⟨_, rfl, ho, hrest⟩

variable {c : Compiler} {text s : List Char} {parts : List Part}

/-- A character that may stand in a marker comes from text that stays: a literal begins
with its quote, and a quoted name with a double quote. -/
theorem other_of_written (h : Splits s (parts.flatMap Part.segments)) (hfit : Fit c text parts)
    {x : Char} (hx : isMarkerPart x = true ∨ x = '>') {more : List Char}
    (hw : parts.flatMap Part.written = x :: more) :
    ∃ rest s', parts = .other x :: rest ∧ s = x :: s' ∧
      Splits s' (rest.flatMap Part.segments) ∧ rest.flatMap Part.written = more := by
  have hne : ∀ d, ¬ (isMarkerPart d = true ∨ d = '>') → x ≠ d := by
    rintro d hd rfl
    exact hd hx
  cases parts with
  | nil => cases hw
  | cons p parts =>
    rw [List.flatMap_cons] at h hw
    cases p with
    | literal t =>
      obtain ⟨q, body, hq, -, ht⟩ := h.of_literal
      have hhead : x = q := by
        rcases ht with rfl | ⟨rfl, -⟩
        · exact (List.cons.inj hw).1.symm
        · exact (List.cons.inj hw).1.symm
      rcases hq with rfl | rfl
      · exact absurd hhead (hne _ (by decide))
      · exact absurd hhead (hne _ (by decide))
    | other d =>
      obtain ⟨s', rfl, -, hs'⟩ := h.of_other
      obtain ⟨rfl, rfl⟩ := List.cons.inj hw
      exact ⟨parts, s', rfl, rfl, hs', rfl⟩
    | column name quoted =>
      obtain ⟨rest, hquoted, -⟩ := Compiler.isQuoted_of_quoteColumn hfit.1.1
      rw [Part.written, hquoted] at hw
      exact absurd (List.cons.inj hw).1.symm (hne _ (by decide))
    | table blanks name quoted => exact absurd (List.cons.inj hw).1.symm (hne _ (by decide))

/-- What is written completes no marker that was not read. -/
theorem marker_of_written (h : Splits s (parts.flatMap Part.segments)) (hfit : Fit c text parts)
    {name more : List Char} (hname : ∀ d ∈ name, isMarkerPart d = true)
    (hw : parts.flatMap Part.written = name ++ '>' :: more) :
    ∃ more', s = name ++ '>' :: more' := by
  induction name generalizing s text parts with
  | nil =>
    obtain ⟨rest, s', -, rfl, -⟩ := other_of_written h hfit (Or.inr rfl) hw
    exact ⟨s', rfl⟩
  | cons d name ih =>
    obtain ⟨hd, hname⟩ := List.forall_mem_cons.1 hname
    obtain ⟨rest, s', rfl, rfl, hs', hrest⟩ := other_of_written h hfit (Or.inl hd) hw
    obtain ⟨more', rfl⟩ := ih hs' hfit.2 hname hrest
    exact ⟨more', rfl⟩

theorem not_isOpener_of_inQuoted (hpre : ∀ d ∈ c.tablePrefix.toList, ¬ IsOpener d) {d : Char}
    (h : c.InQuoted d) : ¬ IsOpener d := by
  rcases h with rfl | rfl | h | h
  · decide
  · decide
  · exact hpre d h
  · rintro ((rfl | rfl) | rfl)
    · exact absurd h (by decide)
    · exact absurd h (by decide)
    · exact absurd h (by decide)

theorem splits_written (hpre : ∀ d ∈ c.tablePrefix.toList, ¬ IsOpener d)
    (h : Splits s (parts.flatMap Part.segments)) (hfit : Fit c text parts) :
    Splits (parts.flatMap Part.written) (parts.flatMap Part.left) := by
  induction parts generalizing s text with
  | nil => exact .done
  | cons p parts ih =>
    rw [List.flatMap_cons] at h
    have hrest := ih h.suffix hfit.2
    cases p with
    | literal t =>
      obtain ⟨q, body, hq, hb, rfl | ⟨rfl, hend⟩⟩ := h.of_literal
      · simpa [Part.written, Part.left] using Splits.literal hq hb hrest
      · obtain rfl := eq_nil_of_segments hend
        simpa [Part.written, Part.left] using Splits.unclosed hq hb
    | other d =>
      obtain ⟨s', rfl, ho, hs'⟩ := h.of_other
      refine .other ?_ hrest
      rintro (hd | ⟨rfl, name, more, hname, hw⟩)
      · exact ho (Or.inl hd)
      · obtain ⟨more', rfl⟩ := marker_of_written hs' hfit.2 hname.parts hw
        exact ho (Or.inr ⟨rfl, name, more', hname, rfl⟩)
    | column name quoted =>
      refine hrest.prepend fun d hd => not_isOpener_of_inQuoted hpre ?_
      exact (Compiler.isQuoted_of_quoteColumn hfit.1.1).inQuoted d hd
    | table blanks name quoted =>
      refine hrest.prepend (List.forall_mem_cons.2 ⟨by decide, fun d hd => ?_⟩)
      refine not_isOpener_of_inQuoted hpre ?_
      exact (Compiler.isQuoted_of_quoteTable hfit.1.1).inQuoted d hd

/-! ## Literals and markers -/

def Segment.literal? : Segment → Option (List Char)
  | literal text => some text
  | _ => none

/-- The quoted literals of a fragment, left to right. -/
def literals (sql : String) : List (List Char) :=
  (segments sql.toList).filterMap Segment.literal?

theorem filterMap_literal?_other (s : List Char) :
    (s.map Segment.other).filterMap Segment.literal? = [] := by
  simp [List.filterMap_map, Segment.literal?, Function.comp_def]

theorem Part.literal?_left (p : Part) :
    p.left.filterMap Segment.literal? = p.segments.filterMap Segment.literal? := by
  cases p with
  | literal text => rfl
  | other d => rfl
  | column name quoted =>
    rw [left, segments, filterMap_literal?_other]
    rfl
  | table blanks name quoted =>
    rw [left, segments, List.filterMap_append, filterMap_literal?_other,
      filterMap_literal?_other]
    rfl

theorem Part.marker_notMem_left (p : Part) (name : List Char) : .marker name ∉ p.left := by
  cases p with
  | literal text => simp [left]
  | other d => simp [left]
  | column name quoted => simp [left]
  | table blanks name quoted => simp [left]

/-- Without markers the pieces are the text that was read. -/
theorem resolve_of_no_marker {segs : List Segment} (h : ∀ name, .marker name ∉ segs)
    (written : List Char) : resolve written segs =
      .ok (textPiece ((segs.flatMap Segment.source).reverse ++ written)) := by
  induction segs generalizing written with
  | nil => rfl
  | cons seg segs ih =>
    have hrest := ih fun name hm => h name (List.mem_cons_of_mem _ hm)
    cases seg with
    | literal text => simp [resolve, hrest, Segment.source]
    | other d => simp [resolve, hrest, Segment.source]
    | marker name => exact absurd List.mem_cons_self (h name)

theorem finish_expand_of_no_marker (c : Compiler) {sql : String} {segs : List Segment}
    (hsegs : Splits sql.toList segs) (h : ∀ name, .marker name ∉ segs) :
    c.finish (expand sql) = .ok sql := by
  rw [Compiler.finish_eq_ok]
  refine ⟨_, by rw [expand, hsegs.segments_eq, resolve_of_no_marker h], ?_⟩
  refine String.toList_injective ?_
  show sql.toList = Sql.chars c.tablePrefix _
  rw [chars_textPiece, hsegs.source]
  simp

/-! ## Expansion -/

theorem expand_parts {sql o : String} (h : c.finish (expand sql) = .ok o) :
    ∃ parts : List Part, Splits sql.toList (parts.flatMap Part.segments) ∧
      o.toList = parts.flatMap Part.written ∧ Fit c [] parts := by
  obtain ⟨pieces, hpieces, rfl⟩ := Compiler.finish_eq_ok.1 h
  have hsplits := splits_segments sql.toList
  obtain ⟨parts, hparts, hwritten, hfit⟩ :=
    resolve_fits (c := c) hsplits (Or.inl rfl) [] (by simp) hpieces
  exact ⟨parts, by rwa [hparts], hwritten, hfit⟩

theorem expand_eq_error {sql : String} {e : Error} (h : c.finish (expand sql) = .error e) :
    ∃ name, .marker name ∈ segments sql.toList ∧ ¬ Name.IsReference name ∧
      e = .validation s!"Malformed raw marker <{String.ofList name}>" := by
  cases hpieces : expand sql with
  | ok pieces => simp [hpieces, Compiler.finish] at h
  | error fault =>
    obtain ⟨name, hname, href, rfl⟩ := resolve_eq_error hpieces
    rw [hpieces] at h
    cases h
    exact ⟨name, hname, href, rfl⟩

/-- When markers are expanded, literals stay as they are and in their places, other text
stays too, a marker becomes its quoted name, and the blank space between a keyword and a
table becomes one space. A second expansion changes nothing. What is refused is a marker
that is no reference, and nothing else. -/
theorem expansion_touches_nothing_but_markers (c : Compiler)
    (hpre : ∀ d ∈ c.tablePrefix.toList, ¬ IsOpener d) (sql : String) :
    (∀ o, c.finish (expand sql) = .ok o →
      c.finish (expand o) = .ok o ∧ literals o = literals sql ∧
      ∃ parts : List Part, Splits sql.toList (parts.flatMap Part.segments) ∧
        o.toList = parts.flatMap Part.written ∧ Fit c [] parts) ∧
    (∀ e, c.finish (expand sql) = .error e →
      ∃ name, .marker name ∈ segments sql.toList ∧ ¬ Name.IsReference name ∧
        e = .validation s!"Malformed raw marker <{String.ofList name}>") ∧
    ((∃ o, c.finish (expand sql) = .ok o) ↔
      ∀ name, .marker name ∈ segments sql.toList → Name.IsReference name) := by
  refine ⟨fun o ho => ?_, fun e => expand_eq_error, ?_⟩
  · obtain ⟨parts, hparts, hwritten, hfit⟩ := expand_parts ho
    have hagain := splits_written hpre hparts hfit
    rw [← hwritten] at hagain
    refine ⟨finish_expand_of_no_marker c hagain ?_, ?_, parts, hparts, hwritten, hfit⟩
    · intro name hname
      obtain ⟨p, -, hp⟩ := List.mem_flatMap.1 hname
      exact p.marker_notMem_left name hp
    · rw [literals, literals, hagain.segments_eq, hparts.segments_eq, List.filterMap_flatMap,
        List.filterMap_flatMap]
      exact congrArg parts.flatMap (funext Part.literal?_left)
  · constructor
    · rintro ⟨o, ho⟩
      obtain ⟨pieces, hpieces, -⟩ := Compiler.finish_eq_ok.1 ho
      exact isReference_of_resolve hpieces
    · intro href
      cases ho : c.finish (expand sql) with
      | ok o => exact ⟨o, rfl⟩
      | error e =>
        obtain ⟨name, hname, hno, -⟩ := expand_eq_error ho
        exact absurd (href name hname) hno

/-- Brackets in literals are left alone, and so is one that its name does not close. The
prefix goes to the table, and the blank space before it becomes one space. -/
theorem expansion_of_comparison :
    (∀ d ∈ "app_".toList, ¬ IsOpener d) ∧
    (⟨.sqlite, "app_"⟩ : Compiler).finish
      (expand "SELECT `<a>`, <x.id> FROM  <t> WHERE <n <m> AND '<z>") =
        .ok "SELECT `<a>`, \"app_x\".\"id\" FROM \"app_t\" WHERE <n \"m\" AND '<z>" ∧
    (⟨.sqlite, "app_"⟩ : Compiler).finish
      (expand "SELECT `<a>`, \"app_x\".\"id\" FROM \"app_t\" WHERE <n \"m\" AND '<z>") =
        .ok "SELECT `<a>`, \"app_x\".\"id\" FROM \"app_t\" WHERE <n \"m\" AND '<z>" ∧
    literals "SELECT `<a>`, \"app_x\".\"id\" FROM \"app_t\" WHERE <n \"m\" AND '<z>" =
      ["`<a>`".toList, "'<z>".toList] := by
  have hpre : ∀ d ∈ "app_".toList, ¬ IsOpener d := by decide
  have hexpand : (⟨.sqlite, "app_"⟩ : Compiler).finish
      (expand "SELECT `<a>`, <x.id> FROM  <t> WHERE <n <m> AND '<z>") =
        .ok "SELECT `<a>`, \"app_x\".\"id\" FROM \"app_t\" WHERE <n \"m\" AND '<z>" := by
    decide
  obtain ⟨hagain, hliterals, -⟩ := (expansion_touches_nothing_but_markers
    ⟨.sqlite, "app_"⟩ hpre "SELECT `<a>`, <x.id> FROM  <t> WHERE <n <m> AND '<z>").1 _ hexpand
  exact ⟨hpre, hexpand, hagain, hliterals.trans (by decide)⟩

end StructuredSql.Marker
