-- What expansion makes of a fragment. The fragment falls into parts: literals and other
-- text stay, a marker becomes a quoted column, and a marker behind a keyword that takes
-- a table becomes a quoted table with one space before it. Only a marker that is no name
-- of a column is refused.
import StructuredSql.Proofs.Marker.Splitting
import StructuredSql.Proofs.Quote
import Mathlib.Data.List.Induction

namespace StructuredSql.Marker

/-! ## Behind a keyword -/

/-- The text ends in a keyword that takes a table, and the keyword is a word of its own. -/
def EndsInKeyword (text : List Char) : Prop :=
  ∃ k ∈ tableKeywords, ∃ before, text = before ++ k.toList ∧
    ∀ c ∈ before.getLast?, isWordPart c = false

/-- The text ends in such a keyword, blank space behind it aside. -/
def ExpectsTable (text : List Char) : Prop :=
  ∃ before blanks, text = before ++ blanks ∧ (∀ c ∈ blanks, Unicode.isBlank c = true) ∧
    EndsInKeyword before

theorem isWordHead_iff {w s : List Char} : isWordHead w s = true ↔
    ∃ t, s = w ++ t ∧ ∀ c ∈ t.head?, isWordPart c = false := by
  induction w generalizing s with
  | nil =>
    cases s with
    | nil => simp [isWordHead]
    | cons c s => simp [isWordHead]
  | cons d w ih =>
    cases s with
    | nil => simp [isWordHead]
    | cons c s =>
      simp only [isWordHead, Bool.and_eq_true, beq_iff_eq, ih, List.cons_append, List.cons.injEq]
      constructor
      · rintro ⟨rfl, t, rfl, ht⟩
        exact ⟨t, ⟨rfl, rfl⟩, ht⟩
      · rintro ⟨t, ⟨rfl, rfl⟩, ht⟩
        exact ⟨rfl, t, rfl, ht⟩

/-- No keyword ends in blank space. -/
theorem dropWhile_keyword {k : String} (hk : k ∈ tableKeywords) (s : List Char) :
    (k.toList.reverse ++ s).dropWhile Unicode.isBlank = k.toList.reverse ++ s := by
  have hlast : ∀ k ∈ tableKeywords, k.toList.reverse.head?.any (!Unicode.isBlank ·) = true := by
    decide
  have h := hlast k hk
  cases hw : k.toList.reverse with
  | nil => simp [hw] at h
  | cons c w =>
    have hc : Unicode.isBlank c = false := by simpa [hw] using h
    rw [List.cons_append, List.dropWhile_cons_of_neg (by simp [hc])]

theorem followsTableKeyword_iff {text : List Char} :
    followsTableKeyword text.reverse = true ↔ ExpectsTable text := by
  unfold followsTableKeyword
  simp only [List.any_eq_true, isWordHead_iff]
  constructor
  · rintro ⟨k, hk, t, ht, hword⟩
    have htext := List.takeWhile_append_dropWhile (p := Unicode.isBlank) (l := text.reverse)
    rw [ht] at htext
    refine ⟨t.reverse ++ k.toList, (text.reverse.takeWhile Unicode.isBlank).reverse, ?_, ?_,
      k, hk, t.reverse, rfl, by simpa using hword⟩
    · simpa using (congrArg List.reverse htext).symm
    · exact fun c hc => List.mem_takeWhile_imp (List.mem_reverse.1 hc)
  · rintro ⟨_, blanks, rfl, hblanks, k, hk, before, rfl, hword⟩
    have hblanks' : ∀ c ∈ blanks.reverse, Unicode.isBlank c = true :=
      fun c hc => hblanks c (List.mem_reverse.1 hc)
    refine ⟨k, hk, before.reverse, ?_, by simpa using hword⟩
    rw [List.reverse_append, List.dropWhile_append_of_pos hblanks', List.reverse_append,
      dropWhile_keyword hk]

theorem isWordHead_bracket {w : List Char} (hw : '>' ∉ w) (s rest : List Char) :
    isWordHead w (s ++ '>' :: rest) = isWordHead w s := by
  induction w generalizing s with
  | nil =>
    cases s with
    | nil =>
      show (!isWordPart '>') = true
      decide
    | cons c s => rfl
  | cons d w ih =>
    obtain ⟨hd, hw⟩ : '>' ≠ d ∧ '>' ∉ w := by simpa using hw
    cases s with
    | nil => simp [isWordHead, Ne.symm hd]
    | cons c s => simp only [List.cons_append, isWordHead, ih hw]

/-- A closing bracket separates: what stands before it makes no difference. -/
theorem expectsTable_behind (before text : List Char) :
    ExpectsTable (before ++ '>' :: text) ↔ ExpectsTable text := by
  have hkeywords : ∀ k ∈ tableKeywords, '>' ∉ k.toList.reverse := by decide
  have hdrop : (text.reverse ++ '>' :: before.reverse).dropWhile Unicode.isBlank =
      text.reverse.dropWhile Unicode.isBlank ++ '>' :: before.reverse := by
    have hbracket : Unicode.isBlank '>' = false := by decide
    rw [List.dropWhile_append]
    split
    · rename_i hempty
      rw [List.isEmpty_iff.1 hempty, List.dropWhile_cons_of_neg (by simp [hbracket])]
      rfl
    · rfl
  rw [← followsTableKeyword_iff, ← followsTableKeyword_iff]
  have hreverse : (before ++ '>' :: text).reverse = text.reverse ++ '>' :: before.reverse := by
    simp
  rw [hreverse, followsTableKeyword, hdrop, followsTableKeyword]
  simp only [List.any_eq_true]
  constructor
  · rintro ⟨k, hk, h⟩
    exact ⟨k, hk, by rwa [isWordHead_bracket (hkeywords k hk)] at h⟩
  · rintro ⟨k, hk, h⟩
    exact ⟨k, hk, by rwa [isWordHead_bracket (hkeywords k hk)]⟩

/-! ## Parts -/

/-- A part of a fragment, and what it is written as. -/
inductive Part
  | literal (text : List Char)
  | other (c : Char)
  /-- A marker and the column that it stands for, quoted. -/
  | column (name : List Char) (quoted : String)
  /-- Blank space behind a keyword, a marker and the table that it stands for,
  quoted. -/
  | table (blanks name : List Char) (quoted : String)

namespace Part

def segments : Part → List Segment
  | literal text => [.literal text]
  | other c => [.other c]
  | column name _ => [.marker name]
  | table blanks name _ => blanks.map .other ++ [.marker name]

/-- The text that the part was read from. -/
def source (p : Part) : List Char := p.segments.flatMap Segment.source

/-- The text that the part is written as. -/
def written : Part → List Char
  | literal text => text
  | other c => [c]
  | column _ quoted => quoted.toList
  | table _ _ quoted => ' ' :: quoted.toList

/-- The part is what the compiler makes of its source behind the text. -/
def Fits (c : Compiler) (text : List Char) : Part → Prop
  | literal _ => True
  | other _ => True
  | column name quoted =>
    c.quoteColumn (String.ofList name) = .ok quoted ∧ ¬ (ExpectsTable text ∧ '.' ∉ name)
  | table blanks name quoted =>
    c.quoteTable (String.ofList name) = .ok quoted ∧ EndsInKeyword text ∧
      ∀ b ∈ blanks, Unicode.isBlank b = true

end Part

@[simp] theorem Part.written_column (name : List Char) (sql : Sql) (tablePrefix : String) :
    (Part.column name (sql.render tablePrefix)).written = sql.chars tablePrefix := rfl

@[simp] theorem Part.written_table (blanks name : List Char) (sql : Sql) (tablePrefix : String) :
    (Part.table blanks name (sql.render tablePrefix)).written = ' ' :: sql.chars tablePrefix :=
  rfl

/-- A marker ends in its closing bracket. -/
theorem Part.source_column (name : List Char) (quoted : String) :
    (Part.column name quoted).source = '<' :: name ++ ['>'] := by
  simp [source, segments, Segment.source]

theorem Part.source_table (blanks name : List Char) (quoted : String) :
    (Part.table blanks name quoted).source = blanks ++ '<' :: name ++ ['>'] := by
  have hblanks : (blanks.map Segment.other).flatMap Segment.source = blanks := by
    induction blanks with
    | nil => rfl
    | cons d blanks ih => exact congrArg (d :: ·) ih
  simp [source, segments, Segment.source, hblanks]

/-- Each part fits behind the text and the parts before it. -/
def Fit (c : Compiler) (text : List Char) : List Part → Prop
  | [] => True
  | p :: rest => p.Fits c text ∧ Fit c (text ++ p.source) rest

theorem fit_append {c : Compiler} {text : List Char} {a b : List Part} :
    Fit c text (a ++ b) ↔ Fit c text a ∧ Fit c (text ++ a.flatMap Part.source) b := by
  induction a generalizing text with
  | nil => simp [Fit]
  | cons p a ih => simp [Fit, ih, and_assoc]

/-! ### Parts that stay -/

/-- A part without marker. Its last character is no blank if it is a literal. -/
def Part.Stays : Part → Prop
  | literal text => ∃ body q, text = body ++ [q] ∧ IsQuote q
  | other _ => True
  | _ => False

theorem Part.Stays.source {p : Part} (h : p.Stays) : p.source = p.written := by
  cases p with
  | literal text => simp [Part.source, segments, Segment.source, written]
  | other c => rfl
  | column name quoted => cases h
  | table blanks name quoted => cases h

theorem Part.Stays.fits {p : Part} (h : p.Stays) (c : Compiler) (text : List Char) :
    p.Fits c text := by
  cases p with
  | literal text => trivial
  | other c => trivial
  | column name quoted => cases h
  | table blanks name quoted => cases h

theorem source_staying {parts : List Part} (h : ∀ p ∈ parts, p.Stays) :
    parts.flatMap Part.source = parts.flatMap Part.written := by
  induction parts with
  | nil => rfl
  | cons p parts ih =>
    obtain ⟨hp, hparts⟩ := List.forall_mem_cons.1 h
    simp [hp.source, ih hparts]

theorem fit_staying {parts : List Part} (h : ∀ p ∈ parts, p.Stays) (c : Compiler)
    (text : List Char) : Fit c text parts := by
  induction parts generalizing text with
  | nil => trivial
  | cons p parts ih =>
    obtain ⟨hp, hparts⟩ := List.forall_mem_cons.1 h
    exact ⟨hp.fits c text, ih hparts _⟩

theorem not_isBlank_of_isQuote {q : Char} (h : IsQuote q) : Unicode.isBlank q = false := by
  rcases h with rfl | rfl
  · decide
  · decide

/-- The blank space at the end of the parts is parts of its own. -/
def Trims (parts : List Part) : Prop :=
  ∃ (front : List Part) (blanks : List Char), parts = front ++ blanks.map .other ∧
    (∀ b ∈ blanks, Unicode.isBlank b = true) ∧
    (parts.flatMap Part.written).reverse.dropWhile Unicode.isBlank =
      (front.flatMap Part.written).reverse

theorem trims_of_end {parts : List Part} {p : Part} (body : List Char) {c : Char}
    (hp : p.written = body ++ [c]) (hc : Unicode.isBlank c = false) : Trims (parts ++ [p]) :=
  ⟨parts ++ [p], [], by simp, by simp, by simp [hp, hc]⟩

theorem Trims.blank {parts : List Part} (h : Trims parts) {c : Char}
    (hc : Unicode.isBlank c = true) : Trims (parts ++ [.other c]) := by
  obtain ⟨front, blanks, hparts, hblanks, hdrop⟩ := h
  refine ⟨front, blanks ++ [c], by simp [hparts], ?_, ?_⟩
  · intro b hb
    rcases List.mem_append.1 hb with hb | hb
    · exact hblanks b hb
    · exact (List.mem_singleton.1 hb) ▸ hc
  · rw [← hdrop]
    simp [Part.written, hc]

/-- A literal ends in a quote, so what is blank at the end is outside literals. -/
theorem trims_staying {parts : List Part} (h : ∀ p ∈ parts, p.Stays) : Trims parts := by
  induction parts using List.reverseRecOn with
  | nil => exact ⟨[], [], rfl, by simp, rfl⟩
  | append_singleton parts p ih =>
    have hp := h p (by simp)
    cases p with
    | literal text =>
      obtain ⟨body, q, rfl, hq⟩ := hp
      exact trims_of_end body rfl (not_isBlank_of_isQuote hq)
    | other c =>
      cases hc : Unicode.isBlank c with
      | false => exact trims_of_end [] rfl hc
      | true => exact (ih fun q hq => h q (List.mem_append_left _ hq)).blank hc
    | column name quoted => cases hp
    | table blanks name quoted => cases hp

/-! ## What resolving makes of the segments -/

theorem chars_textPiece (tablePrefix : String) (written : List Char) :
    Sql.chars tablePrefix (textPiece written) = written.reverse := by
  unfold textPiece
  split
  · rename_i h
    simp [List.isEmpty_iff.1 h]
  · simp

/-- Where a marker may leave off: at the beginning, or behind another marker. -/
def Restarts (text : List Char) : Prop := text = [] ∨ ∃ before, text = before ++ ['>']

theorem Restarts.expectsTable {text : List Char} (h : Restarts text) (more : List Char) :
    ExpectsTable (text ++ more) ↔ ExpectsTable more := by
  rcases h with rfl | ⟨before, rfl⟩
  · rfl
  · rw [List.append_assoc]
    exact expectsTable_behind before more

/-- A keyword behind a restart is a keyword of the whole text. -/
theorem Restarts.endsInKeyword {text more : List Char} (h : Restarts text)
    (hmore : EndsInKeyword more) : EndsInKeyword (text ++ more) := by
  obtain ⟨k, hk, before, rfl, hword⟩ := hmore
  refine ⟨k, hk, text ++ before, (List.append_assoc _ _ _).symm, fun d hd => ?_⟩
  rw [List.getLast?_append] at hd
  cases hb : before.getLast? with
  | some e => exact hword d (by simpa [hb] using hd)
  | none =>
    rcases h with rfl | ⟨text, rfl⟩
    · simp [hb] at hd
    · obtain rfl : '>' = d := by simpa [hb] using hd
      decide

theorem endsInKeyword_of_dropWhile {written front : List Char}
    (hdrop : written.reverse.dropWhile Unicode.isBlank = front.reverse)
    (h : followsTableKeyword written.reverse = true) : EndsInKeyword front := by
  simp only [followsTableKeyword, hdrop, List.any_eq_true, isWordHead_iff] at h
  obtain ⟨k, hk, t, ht, hword⟩ := h
  exact ⟨k, hk, t.reverse, by simpa using congrArg List.reverse ht, by simpa using hword⟩

theorem resolve_marker_eq_ok {written name : List Char} {rest : List Segment} {sql : Sql}
    (h : resolve written (.marker name :: rest) = .ok sql) :
    ∃ tail, resolve [] rest = .ok tail ∧
      ((followsTableKeyword written = true ∧ Name.isName name = true ∧
          sql = textPiece (' ' :: written.dropWhile Unicode.isBlank) ++
            .table (String.ofList name) :: tail) ∨
        (¬ (followsTableKeyword written = true ∧ '.' ∉ name) ∧
          ∃ column, ColumnName.ofText? (String.ofList name) = some column ∧
            sql = textPiece written ++ column.sql ++ tail)) := by
  cases htail : resolve [] rest with
  | error fault =>
    simp only [resolve, htail, bind, Except.bind] at h
    split at h
    · split at h <;> cases h
    · split at h <;> cases h
  | ok tail =>
    simp only [resolve, htail, bind, Except.bind, pure, Except.pure] at h
    refine ⟨tail, rfl, ?_⟩
    split at h
    · rename_i htable
      split at h
      · rename_i hname
        cases h
        exact Or.inl ⟨(Bool.and_eq_true _ _ ▸ htable).1, hname, rfl⟩
      · cases h
    · rename_i htable
      split at h
      · rename_i column hcolumn
        cases h
        exact Or.inr ⟨by simpa using htable, column, hcolumn, rfl⟩
      · cases h

variable {c : Compiler}

/-- What is read behind a marker is added to what was read up to it. -/
theorem fit_marked {text : List Char} {front : List Part} (hfront : ∀ p ∈ front, p.Stays)
    {p : Part} (hp : p.Fits c (text ++ front.flatMap Part.written))
    (hend : ∃ before, p.source = before ++ ['>']) {segs : List Segment} {written : List Char}
    (hrest : ∀ text, Restarts text → ∃ parts : List Part, parts.flatMap Part.segments = segs ∧
      written = parts.flatMap Part.written ∧ Fit c text parts) :
    ∃ parts : List Part,
      parts.flatMap Part.segments = front.flatMap Part.segments ++ (p.segments ++ segs) ∧
      front.flatMap Part.written ++ (p.written ++ written) = parts.flatMap Part.written ∧
      Fit c text parts := by
  obtain ⟨before, hbefore⟩ := hend
  rw [← source_staying hfront] at hp
  obtain ⟨parts, hparts, rfl, hfit⟩ := hrest (text ++ front.flatMap Part.source ++ p.source)
    (Or.inr ⟨text ++ front.flatMap Part.source ++ before, by simp [hbefore]⟩)
  exact ⟨front ++ p :: parts, by simp [hparts], by simp,
    fit_append.2 ⟨fit_staying hfront c text, hp, hfit⟩⟩

theorem flatMap_segments_other (s : List Char) :
    (s.map Part.other).flatMap Part.segments = s.map Segment.other := by
  induction s with
  | nil => rfl
  | cons d s ih => exact congrArg (Segment.other d :: ·) ih

/-- The pieces stand for parts that fit: by induction on the splitting, with the parts
since the last marker kept until the next one. -/
theorem resolve_fits {s : List Char} {segs : List Segment} (h : Splits s segs)
    {text : List Char} (htext : Restarts text) (staying : List Part)
    (hstaying : ∀ p ∈ staying, p.Stays) {sql : Sql}
    (hsql : resolve (staying.flatMap Part.written).reverse segs = .ok sql) :
    ∃ parts : List Part, parts.flatMap Part.segments = staying.flatMap Part.segments ++ segs ∧
      sql.chars c.tablePrefix = parts.flatMap Part.written ∧ Fit c text parts := by
  induction h generalizing text staying sql with
  | done =>
    cases hsql
    exact ⟨staying, by simp, by simp [chars_textPiece], fit_staying hstaying c text⟩
  | @literal q body rest segs hq _ _ ih =>
    have hstays : ∀ p ∈ staying ++ [.literal (q :: (body ++ [q]))], p.Stays := by
      simp only [List.forall_mem_append, List.forall_mem_singleton]
      exact ⟨hstaying, q :: body, q, rfl, hq⟩
    obtain ⟨parts, hparts, hchars, hfit⟩ :=
      ih htext _ hstays (by simpa [resolve, Part.written] using hsql)
    exact ⟨parts, by simp [hparts, Part.segments], hchars, hfit⟩
  | @unclosed q body _ _ =>
    cases hsql
    refine ⟨staying ++ [.literal (q :: body)], by simp [Part.segments],
      by simp [chars_textPiece, Part.written], ?_⟩
    exact fit_append.2 ⟨fit_staying hstaying c text, trivial, trivial⟩
  | @other d rest segs _ _ ih =>
    have hstays : ∀ p ∈ staying ++ [.other d], p.Stays := by
      simp only [List.forall_mem_append, List.forall_mem_singleton]
      exact ⟨hstaying, trivial⟩
    obtain ⟨parts, hparts, hchars, hfit⟩ :=
      ih htext _ hstays (by simpa [resolve, Part.written] using hsql)
    exact ⟨parts, by simp [hparts, Part.segments], hchars, hfit⟩
  | @marker name rest segs _ _ ih =>
    obtain ⟨tail, htail, hmarker⟩ := resolve_marker_eq_ok hsql
    have hrest : ∀ text, Restarts text → ∃ parts : List Part,
        parts.flatMap Part.segments = segs ∧
          tail.chars c.tablePrefix = parts.flatMap Part.written ∧ Fit c text parts :=
      fun text htext => ih htext [] (by simp) htail
    rcases hmarker with ⟨hkeyword, hname, rfl⟩ | ⟨hnotable, column, hcolumn, rfl⟩
    · -- The blank space goes into the part of the table.
      obtain ⟨front, blanks, rfl, hblanks, hdrop⟩ := trims_staying hstaying
      have hfront : ∀ p ∈ front, p.Stays := fun p hp => hstaying p (List.mem_append_left _ hp)
      have htable : Part.Fits c (text ++ front.flatMap Part.written)
          (.table blanks name (Sql.render c.tablePrefix [.table (String.ofList name)])) :=
        ⟨Compiler.quoteTable_eq_ok.2 ⟨by simpa using hname, rfl⟩,
          htext.endsInKeyword (endsInKeyword_of_dropWhile hdrop hkeyword), hblanks⟩
      obtain ⟨parts, hparts, hwritten, hfit⟩ := fit_marked hfront htable
        ⟨_, Part.source_table _ _ _⟩ hrest
      refine ⟨parts, ?_, ?_, hfit⟩
      · rw [hparts, List.flatMap_append, flatMap_segments_other]
        simp [Part.segments]
      · rw [← hwritten, hdrop]
        simp [chars_textPiece]
    · have hfits : Part.Fits c (text ++ staying.flatMap Part.written)
          (.column name (column.sql.render c.tablePrefix)) := by
        refine ⟨Compiler.quoteColumn_eq_ok.2 ⟨column, hcolumn, rfl⟩, ?_⟩
        rw [htext.expectsTable, ← followsTableKeyword_iff]
        exact hnotable
      obtain ⟨parts, hparts, hwritten, hfit⟩ := fit_marked hstaying hfits
        ⟨_, Part.source_column _ _⟩ hrest
      refine ⟨parts, by simpa [Part.segments] using hparts, ?_, hfit⟩
      rw [← hwritten]
      simp [chars_textPiece]

/-! ## What resolving refuses -/

theorem eq_error_of_bind {α β : Type} {x : Except Fault α} {f : α → β} {fault : Fault}
    (h : (do return f (← x)) = Except.error fault) : x = .error fault := by
  cases x with
  | error fault' => simpa [bind, Except.bind] using h
  | ok a => cases h

/-- Only a marker that is no reference is refused. -/
theorem resolve_eq_error {written : List Char} {segs : List Segment} {fault : Fault}
    (h : resolve written segs = .error fault) :
    ∃ name, .marker name ∈ segs ∧ ¬ Name.IsReference name ∧
      fault = .marker (String.ofList name) := by
  induction segs generalizing written with
  | nil => cases h
  | cons seg segs ih =>
    -- A fault behind the first segment is one of the segments behind it.
    have hbehind : ∀ {written : List Char}, resolve written segs = .error fault →
        ∃ name, .marker name ∈ seg :: segs ∧ ¬ Name.IsReference name ∧
          fault = .marker (String.ofList name) := fun h =>
      have ⟨name, hname, hfault⟩ := ih h
      ⟨name, List.mem_cons_of_mem _ hname, hfault⟩
    cases seg with
    | literal text => exact hbehind h
    | other d => exact hbehind h
    | marker name =>
      rw [resolve] at h
      split at h
      · rename_i htable
        split at h
        · exact hbehind (eq_error_of_bind h)
        · rename_i hname
          cases h
          obtain ⟨-, hpoint⟩ : followsTableKeyword written = true ∧ '.' ∉ name := by
            simpa using htable
          exact ⟨name, List.mem_cons_self, mt (Name.isReference_iff_isName hpoint).1 hname, rfl⟩
      · split at h
        · exact hbehind (eq_error_of_bind h)
        · rename_i hnone
          cases h
          refine ⟨name, List.mem_cons_self, fun href => ?_, rfl⟩
          obtain ⟨column, hcolumn⟩ :=
            ColumnName.ofText?_isSome_iff (s := String.ofList name).2 (by simpa using href)
          rw [hnone] at hcolumn
          cases hcolumn

/-- Whatever is resolved had references for markers. -/
theorem isReference_of_resolve {written : List Char} {segs : List Segment} {sql : Sql}
    (h : resolve written segs = .ok sql) :
    ∀ name, .marker name ∈ segs → Name.IsReference name := by
  induction segs generalizing written sql with
  | nil => simp
  | cons seg segs ih =>
    intro name hname
    cases seg with
    | literal text => exact ih h name (by simpa using hname)
    | other d => exact ih h name (by simpa using hname)
    | marker first =>
      obtain ⟨tail, htail, hfirst⟩ := resolve_marker_eq_ok h
      rcases List.mem_cons.1 hname with heq | hname
      · obtain rfl : name = first := by simpa using heq
        rcases hfirst with ⟨-, hname, -⟩ | ⟨-, column, hcolumn, -⟩
        · exact Or.inl hname
        · simpa using ColumnName.ofText?_isSome_iff.1 ⟨column, hcolumn⟩
      · exact ih htail name hname

end StructuredSql.Marker
