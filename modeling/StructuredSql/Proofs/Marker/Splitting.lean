-- How the SQL of a fragment falls into segments. A grammar says what is a literal, what
-- is a marker and what is neither, with the text behind it in sight; each text has one
-- splitting, and the reader finds it although it looks at one character at a time.
import StructuredSql.Marker

namespace StructuredSql.Marker

/-! ## The grammar -/

/-- A character that opens a literal, and closes one that it has opened. -/
def IsQuote (c : Char) : Prop := c = '\'' ∨ c = '\x60'

/-- A character that can open a literal or a marker. -/
def IsOpener (c : Char) : Prop := IsQuote c ∨ c = '<'

instance : DecidablePred IsOpener := fun c =>
  inferInstanceAs (Decidable ((c = '\'' ∨ c = '\x60') ∨ c = '<'))

/-- What may stand between angle brackets. -/
def IsMarkerName : List Char → Prop
  | [] => False
  | c :: s => isMarkerStart c = true ∧ ∀ d ∈ s, isMarkerPart d = true

/-- A literal or a marker begins the text. -/
def Opens : List Char → Prop
  | [] => False
  | c :: s => IsQuote c ∨ (c = '<' ∧ ∃ name rest, IsMarkerName name ∧ s = name ++ '>' :: rest)

theorem Opens.opener {c : Char} {s : List Char} (h : Opens (c :: s)) : IsOpener c :=
  h.imp_right And.left

/-- The text falls into the segments. A literal that is not closed reaches to the end. -/
inductive Splits : List Char → List Segment → Prop
  | done : Splits [] []
  | literal {q : Char} {body rest : List Char} {segs : List Segment} :
      IsQuote q → q ∉ body → Splits rest segs →
      Splits (q :: (body ++ q :: rest)) (.literal (q :: (body ++ [q])) :: segs)
  | unclosed {q : Char} {body : List Char} :
      IsQuote q → q ∉ body → Splits (q :: body) [.literal (q :: body)]
  | marker {name rest : List Char} {segs : List Segment} :
      IsMarkerName name → Splits rest segs →
      Splits ('<' :: (name ++ '>' :: rest)) (.marker name :: segs)
  | other {c : Char} {rest : List Char} {segs : List Segment} :
      ¬ Opens (c :: rest) → Splits rest segs → Splits (c :: rest) (.other c :: segs)

/-- Nothing is lost and nothing is added. -/
theorem Splits.source {s : List Char} {segs : List Segment} (h : Splits s segs) :
    segs.flatMap Segment.source = s := by
  induction h with
  | done => rfl
  | literal _ _ _ ih => simp [Segment.source, ih]
  | unclosed _ _ => simp [Segment.source]
  | marker _ _ ih => simp [Segment.source, ih]
  | other _ _ ih => simp [Segment.source, ih]

/-- What stands behind some segments splits into the others. -/
theorem Splits.suffix {before after : List Segment} {s : List Char}
    (h : Splits s (before ++ after)) : Splits (after.flatMap Segment.source) after := by
  induction before generalizing s with
  | nil =>
    have hs := h.source
    rw [List.nil_append] at h hs
    rw [hs]
    exact h
  | cons seg before ih =>
    rw [List.cons_append] at h
    generalize hl : before ++ after = l at h
    cases h with
    | literal _ _ h => exact ih (hl ▸ h)
    | unclosed _ _ =>
      obtain ⟨-, rfl⟩ := List.append_eq_nil_iff.1 hl
      exact .done
    | marker _ h => exact ih (hl ▸ h)
    | other _ h => exact ih (hl ▸ h)

/-- Characters that open nothing split one by one. -/
theorem Splits.prepend {t s : List Char} {segs : List Segment} (h : Splits s segs)
    (ht : ∀ c ∈ t, ¬ IsOpener c) : Splits (t ++ s) (t.map .other ++ segs) := by
  induction t with
  | nil => exact h
  | cons c t ih =>
    obtain ⟨hc, ht⟩ := List.forall_mem_cons.1 ht
    exact .other (fun ho => hc ho.opener) (ih ht)

/-! ## Every text has a splitting -/

theorem exists_splits (s : List Char) : ∃ segs, Splits s segs := by
  induction hn : s.length using Nat.strongRecOn generalizing s with
  | _ n ih =>
    subst hn
    cases s with
    | nil => exact ⟨[], .done⟩
    | cons c s =>
      by_cases ho : Opens (c :: s)
      · rcases ho with hc | ⟨rfl, name, rest, hname, rfl⟩
        · by_cases hclose : c ∈ s
          · obtain ⟨body, rest, rfl, hbody⟩ := List.eq_append_cons_of_mem hclose
            obtain ⟨segs, hsegs⟩ := ih rest.length (by simp; omega) rest rfl
            exact ⟨_, .literal hc hbody hsegs⟩
          · exact ⟨_, .unclosed hc hclose⟩
        · obtain ⟨segs, hsegs⟩ := ih rest.length (by simp; omega) rest rfl
          exact ⟨_, .marker hname hsegs⟩
      · obtain ⟨segs, hsegs⟩ := ih s.length (by simp) s rfl
        exact ⟨_, .other ho hsegs⟩

/-! ## The reader finds it -/

theorem segmentsFrom_body {q : Char} {body : List Char} (h : q ∉ body) (read s : List Char) :
    segmentsFrom (.literal q read) (body ++ s) =
      segmentsFrom (.literal q (body.reverse ++ read)) s := by
  induction body generalizing read with
  | nil => rfl
  | cons c body ih =>
    obtain ⟨hc, hbody⟩ : q ≠ c ∧ q ∉ body := by simpa using h
    have hstep : step (.literal q read) c = ([], .literal q (c :: read)) := by
      simp [step, Ne.symm hc]
    rw [List.cons_append, segmentsFrom, hstep]
    simp only [List.nil_append]
    rw [ih hbody]
    simp

theorem segments_quote {q : Char} (hq : IsQuote q) (s : List Char) :
    segments (q :: s) = segmentsFrom (.literal q [q]) s := by
  simp [segments, segmentsFrom, step, outside, show q = '\'' ∨ q = '\x60' from hq]

theorem segments_literal {q : Char} (hq : IsQuote q) {body : List Char} (hb : q ∉ body)
    (rest : List Char) : segments (q :: (body ++ q :: rest)) =
      .literal (q :: (body ++ [q])) :: segments rest := by
  have hclose : step (.literal q (body.reverse ++ [q])) q =
      ([.literal (q :: (body.reverse ++ [q])).reverse], .outside) := by
    simp [step]
  rw [segments_quote hq, segmentsFrom_body hb, segmentsFrom, hclose]
  simp [segments]

theorem segments_unclosed {q : Char} (hq : IsQuote q) {body : List Char} (hb : q ∉ body) :
    segments (q :: body) = [.literal (q :: body)] := by
  have hend := segmentsFrom_body hb [q] []
  rw [List.append_nil] at hend
  rw [segments_quote hq, hend]
  simp [segmentsFrom, atEnd]

theorem isMarkerPart_of_isMarkerStart {c : Char} (h : isMarkerStart c = true) :
    isMarkerPart c = true := by
  simp only [isMarkerStart, isMarkerPart, Unicode.isAlphanumeric, Name.isSign,
    Bool.or_eq_true] at h ⊢
  rcases h with h | h
  · exact Or.inl (Or.inl (Or.inl (Or.inl h)))
  · exact Or.inl (Or.inr (Or.inr h))

theorem IsMarkerName.parts {name : List Char} (h : IsMarkerName name) :
    ∀ c ∈ name, isMarkerPart c = true := by
  cases name with
  | nil => cases h
  | cons c name => exact List.forall_mem_cons.2 ⟨isMarkerPart_of_isMarkerStart h.1, h.2⟩

theorem IsMarkerName.concat {name : List Char} (h : IsMarkerName name) {c : Char}
    (hc : isMarkerPart c = true) : IsMarkerName (name ++ [c]) := by
  cases name with
  | nil => cases h
  | cons d name =>
    refine ⟨h.1, fun e he => ?_⟩
    rcases List.mem_append.1 he with he | he
    · exact h.2 e he
    · exact (List.mem_singleton.1 he) ▸ hc

theorem segmentsFrom_markerParts {read t : List Char} (hr : read ≠ [])
    (ht : ∀ c ∈ t, isMarkerPart c = true) (s : List Char) :
    segmentsFrom (.marker read) (t ++ s) = segmentsFrom (.marker (t.reverse ++ read)) s := by
  induction t generalizing read with
  | nil => rfl
  | cons c t ih =>
    have hstep : step (.marker read) c = ([], .marker (c :: read)) := by
      simp [step, hr, ht c List.mem_cons_self]
    rw [List.cons_append, segmentsFrom, hstep]
    simp only [List.nil_append]
    rw [ih (by simp) fun d hd => ht d (List.mem_cons_of_mem _ hd)]
    simp

theorem segments_marker {name : List Char} (h : IsMarkerName name) (rest : List Char) :
    segments ('<' :: (name ++ '>' :: rest)) = .marker name :: segments rest := by
  cases name with
  | nil => cases h
  | cons c name =>
    obtain ⟨hc, hname⟩ := h
    have hopen : segments ('<' :: (c :: name ++ '>' :: rest)) =
        segmentsFrom (.marker [c]) (name ++ '>' :: rest) := by
      simp [segments, segmentsFrom, step, outside, hc]
    have hend : isMarkerPart '>' = false := by decide
    have hclose : step (.marker (name.reverse ++ [c])) '>' =
        ([.marker (name.reverse ++ [c]).reverse], .outside) := by
      simp [step, hend]
    rw [hopen, segmentsFrom_markerParts (by simp) hname, segmentsFrom, hclose]
    simp [segments]

/-! ### Characters that open nothing -/

theorem segments_plain {c : Char} (hq : ¬ IsQuote c) (ho : c ≠ '<') (s : List Char) :
    segments (c :: s) = .other c :: segments s := by
  simp [segments, segmentsFrom, step, outside, ho, show ¬ (c = '\'' ∨ c = '\x60') from hq]

theorem not_isQuote_of_isMarkerPart {c : Char} (h : isMarkerPart c = true) : ¬ IsQuote c := by
  rintro (rfl | rfl)
  · exact absurd h (by decide)
  · exact absurd h (by decide)

theorem segments_markerParts {t : List Char} (ht : ∀ c ∈ t, isMarkerPart c = true)
    (s : List Char) : segments (t ++ s) = t.map .other ++ segments s := by
  induction t with
  | nil => rfl
  | cons c t ih =>
    have hc := ht c List.mem_cons_self
    have ho : c ≠ '<' := by
      rintro rfl
      exact absurd hc (by decide)
    rw [List.cons_append, segments_plain (not_isQuote_of_isMarkerPart hc) ho,
      ih fun d hd => ht d (List.mem_cons_of_mem _ hd)]
    rfl

/-- What was read of the marker is given out, and the character is read as outside. -/
theorem segmentsFrom_giveUp {read : List Char} {c : Char}
    (h : step (.marker read) c = (released read ++ (outside c).1, (outside c).2))
    (hread : ∀ c ∈ read.reverse, isMarkerPart c = true) (s : List Char) :
    segmentsFrom (.marker read) (c :: s) =
      .other '<' :: segments (read.reverse ++ c :: s) := by
  rw [segments_markerParts hread, segmentsFrom, h]
  simp [released, segments, segmentsFrom, step]

/-- A marker that is never closed is given back character by character. What was read
of it holds none that opens anything, so nothing is missed. -/
theorem segmentsFrom_released {read s : List Char}
    (hread : read = [] ∨ IsMarkerName read.reverse)
    (hs : ¬ ∃ t rest, IsMarkerName (read.reverse ++ t) ∧ s = t ++ '>' :: rest) :
    segmentsFrom (.marker read) s = .other '<' :: segments (read.reverse ++ s) := by
  have hparts : ∀ c ∈ read.reverse, isMarkerPart c = true := by
    rcases hread with rfl | hread
    · simp
    · exact hread.parts
  induction s generalizing read with
  | nil =>
    rw [segments_markerParts hparts]
    simp [segmentsFrom, atEnd, released, segments]
  | cons c s ih =>
    by_cases hgo : IsMarkerName (c :: read).reverse
    · have hstep : step (.marker read) c = ([], .marker (c :: read)) := by
        cases read with
        | nil => simp [step, show isMarkerStart c = true from hgo.1]
        | cons d read => simp [step, hgo.parts c (by simp)]
      rw [segmentsFrom, hstep]
      simp only [List.nil_append]
      rw [ih (Or.inr hgo) _ hgo.parts]
      · simp
      · rintro ⟨t, rest, ht, rfl⟩
        exact hs ⟨c :: t, rest, by simpa using ht, rfl⟩
    · have hstep : step (.marker read) c = (released read ++ (outside c).1, (outside c).2) := by
        rcases hread with rfl | hread
        · have hc : isMarkerStart c ≠ true := fun h => hgo ⟨h, by simp⟩
          simp [step, hc]
        · have hne : read ≠ [] := by
            rintro rfl
            exact hread
          have hc : isMarkerPart c ≠ true := fun h => hgo (by
            rw [List.reverse_cons]
            exact hread.concat h)
          have hend : c ≠ '>' := by
            rintro rfl
            exact hs ⟨[], s, by simpa using hread, rfl⟩
          simp [step, hne, hc, hend]
      exact segmentsFrom_giveUp hstep hparts s

theorem segments_other {c : Char} {s : List Char} (h : ¬ Opens (c :: s)) :
    segments (c :: s) = .other c :: segments s := by
  simp only [Opens, not_or, not_and] at h
  obtain ⟨hquote, hmarker⟩ := h
  by_cases hc : c = '<'
  · subst hc
    have hopen : segments ('<' :: s) = segmentsFrom (.marker []) s := rfl
    rw [hopen, segmentsFrom_released (Or.inl rfl) (hmarker rfl)]
    rfl
  · exact segments_plain hquote hc s

/-- The reader finds whatever splitting there is. -/
theorem Splits.segments_eq {s : List Char} {segs : List Segment} (h : Splits s segs) :
    segments s = segs := by
  induction h with
  | done => rfl
  | literal hq hb _ ih => rw [segments_literal hq hb, ih]
  | unclosed hq hb => exact segments_unclosed hq hb
  | marker hname _ ih => rw [segments_marker hname, ih]
  | other ho _ ih => rw [segments_other ho, ih]

theorem splits_segments (s : List Char) : Splits s (segments s) := by
  obtain ⟨segs, h⟩ := exists_splits s
  rwa [h.segments_eq]

end StructuredSql.Marker
