-- How the text of a statement falls into segments. A grammar says which splittings
-- there may be, with what stands behind a segment in sight; each text has exactly one,
-- and the reader, which goes through the text once and looks at one character at a
-- time, finds it. So the readable text replaces whole segments and reads nothing again.
-- The reader takes a quote for the end of a literal unless another quote follows, so it
-- reads back what doubles its quotes; where a backslash is put before them it reads back
-- the texts that hold none.
import StructuredSql.Proofs.Placeholder.Reading
import Mathlib.Data.List.Forall2

namespace StructuredSql.Readable

/-! ## The grammar -/

/-- Every single quote of the text belongs to a pair. -/
inductive Paired : List Char → Prop
  | nil : Paired []
  | pair {s : List Char} : Paired s → Paired ('\'' :: '\'' :: s)
  | plain {c : Char} {s : List Char} : c ≠ '\'' → Paired s → Paired (c :: s)

/-- What may stand between double quotes as a name. -/
def IsIdentifier : List Char → Prop
  | [] => False
  | c :: s => isNameStart c = true ∧ ∀ d ∈ s, isNamePart d = true

/-- A literal, a name in double quotes or a placeholder begins the text. -/
def Opens : List Char → Prop
  | [] => False
  | c :: s =>
    c = '\'' ∨
    (c = '"' ∧ ∃ name rest, IsIdentifier name ∧ s = name ++ '"' :: rest) ∨
    (c = ':' ∧ ¬ EndsKey s)

/-- The text falls into the segments. A literal ends at the first quote that has no
partner, or with the text; a key takes every character that it can. -/
inductive Splits : List Char → List Segment → Prop
  | done : Splits [] []
  | literal {body rest : List Char} {segs : List Segment} :
      Paired body → rest.head? ≠ some '\'' → Splits rest segs →
      Splits ('\'' :: (body ++ '\'' :: rest)) (.literal ('\'' :: (body ++ ['\''])) :: segs)
  | unclosed {body : List Char} : Paired body → Splits ('\'' :: body) [.literal ('\'' :: body)]
  | name {n rest : List Char} {segs : List Segment} :
      IsIdentifier n → Splits rest segs →
      Splits ('"' :: (n ++ '"' :: rest)) (.name n :: segs)
  | placeholder {key rest : List Char} {segs : List Segment} :
      key ≠ [] → (∀ c ∈ key, isKeyPart c = true) → EndsKey rest → Splits rest segs →
      Splits (':' :: (key ++ rest)) (.placeholder key :: segs)
  | other {c : Char} {rest : List Char} {segs : List Segment} :
      ¬ Opens (c :: rest) → Splits rest segs → Splits (c :: rest) (.other c :: segs)

/-- Nothing is lost and nothing is added. -/
theorem Splits.source {s : List Char} {segs : List Segment} (h : Splits s segs) :
    segs.flatMap Segment.source = s := by
  induction h with
  | done => rfl
  | literal _ _ _ ih => simp [Segment.source, ih]
  | unclosed _ => simp [Segment.source]
  | name _ _ ih => simp [Segment.source, ih]
  | placeholder _ _ _ _ ih => simp [Segment.source, ih]
  | other _ _ ih => simp [Segment.source, ih]

/-- What stands behind some segments splits into the others. -/
theorem Splits.suffix {before after : List Segment} {s : List Char}
    (h : Splits s (before ++ after)) : Splits (after.flatMap Segment.source) after := by
  induction before generalizing s with
  | nil =>
    have hs := h.source
    rw [List.nil_append] at h hs
    rw [hs]
    exact h
  | cons seg before ih =>
    rw [List.cons_append] at h
    generalize hl : before ++ after = l at h
    cases h with
    | literal _ _ h => exact ih (hl ▸ h)
    | unclosed _ =>
      obtain ⟨-, rfl⟩ := List.append_eq_nil_iff.1 hl
      exact .done
    | name _ h => exact ih (hl ▸ h)
    | placeholder _ _ _ h => exact ih (hl ▸ h)
    | other _ h => exact ih (hl ▸ h)

/-- A key that is found is the whole key: none is found inside a longer one. -/
theorem Splits.key_ends {before after : List Segment} {key s : List Char}
    (h : Splits s (before ++ .placeholder key :: after)) :
    EndsKey (after.flatMap Segment.source) := by
  have hk := h.suffix
  generalize hrest : (Segment.placeholder key :: after).flatMap Segment.source = t at hk
  cases hk with
  | placeholder _ _ hends hafter =>
    rw [hafter.source]
    exact hends

/-! ## Every text has a splitting -/

/-- Behind an opening quote the literal ends at a quote without partner, or not at all. -/
theorem closes_or_paired : (s : List Char) →
    (∃ body rest, s = body ++ '\'' :: rest ∧ Paired body ∧ rest.head? ≠ some '\'') ∨ Paired s
  | [] => Or.inr .nil
  | [c] => by
    by_cases hc : c = '\''
    · exact Or.inl ⟨[], [], by simp [hc], .nil, by simp⟩
    · exact Or.inr (.plain hc .nil)
  | c :: d :: s => by
    by_cases hc : c = '\''
    · by_cases hd : d = '\''
      · subst hc hd
        rcases closes_or_paired s with ⟨body, rest, rfl, hb, hr⟩ | hs
        · exact Or.inl ⟨'\'' :: '\'' :: body, rest, rfl, .pair hb, hr⟩
        · exact Or.inr (.pair hs)
      · exact Or.inl ⟨[], d :: s, by simp [hc], .nil, by simpa using hd⟩
    · rcases closes_or_paired (d :: s) with ⟨body, rest, hs, hb, hr⟩ | hs
      · exact Or.inl ⟨c :: body, rest, by rw [hs, List.cons_append], .plain hc hb, hr⟩
      · exact Or.inr (.plain hc hs)

theorem endsKey_dropWhile (s : List Char) : EndsKey (s.dropWhile isKeyPart) := by
  cases h : s.dropWhile isKeyPart with
  | nil => trivial
  | cons c rest =>
    have hc := List.head_dropWhile_not isKeyPart (l := s) (by simp [h])
    show isKeyPart c = false
    simpa [h] using hc

theorem exists_splits (s : List Char) : ∃ segs, Splits s segs := by
  induction hn : s.length using Nat.strong_induction_on generalizing s with
  | _ n ih =>
    subst hn
    cases s with
    | nil => exact ⟨[], .done⟩
    | cons c s =>
      by_cases ho : Opens (c :: s)
      · rcases ho with rfl | ⟨rfl, n, rest, hn, rfl⟩ | ⟨rfl, hk⟩
        · rcases closes_or_paired s with ⟨body, rest, rfl, hb, hr⟩ | hs
          · obtain ⟨segs, hsegs⟩ := ih rest.length (by simp; omega) rest rfl
            exact ⟨_, .literal hb hr hsegs⟩
          · exact ⟨_, .unclosed hs⟩
        · obtain ⟨segs, hsegs⟩ := ih rest.length (by simp; omega) rest rfl
          exact ⟨_, .name hn hsegs⟩
        · have hs := List.takeWhile_append_dropWhile (p := isKeyPart) (l := s)
          have hlt : (s.dropWhile isKeyPart).length < (':' :: s).length :=
            Nat.lt_succ_of_le (List.length_dropWhile_le isKeyPart s)
          obtain ⟨segs, hsegs⟩ := ih _ hlt (s.dropWhile isKeyPart) rfl
          refine ⟨.placeholder (s.takeWhile isKeyPart) :: segs, ?_⟩
          have hkey : s.takeWhile isKeyPart ≠ [] := by
            intro hnil
            rw [hnil, List.nil_append] at hs
            exact hk (hs ▸ endsKey_dropWhile s)
          have := Splits.placeholder hkey (fun c hc => List.mem_takeWhile_imp hc)
            (endsKey_dropWhile s) hsegs
          rwa [hs] at this
      · obtain ⟨segs, hsegs⟩ := ih s.length (by simp) s rfl
        exact ⟨_, .other ho hsegs⟩

/-! ## The reader finds it -/

theorem segmentsFrom_paired {body : List Char} (h : Paired body) (read s : List Char) :
    segmentsFrom (.literal read) (body ++ s) =
      segmentsFrom (.literal (body.reverse ++ read)) s := by
  induction h generalizing read with
  | nil => rfl
  | @pair body _ ih =>
    have hpair : segmentsFrom (.literal read) ('\'' :: '\'' :: (body ++ s)) =
        segmentsFrom (.literal ('\'' :: '\'' :: read)) (body ++ s) := by
      simp [segmentsFrom, step]
    rw [List.cons_append, List.cons_append, hpair, ih]
    simp
  | @plain c body hc _ ih =>
    have hplain : segmentsFrom (.literal read) (c :: (body ++ s)) =
        segmentsFrom (.literal (c :: read)) (body ++ s) := by
      simp [segmentsFrom, step, hc]
    rw [List.cons_append, hplain, ih]
    simp

theorem segmentsFrom_literalQuote (read : List Char) {s : List Char}
    (hs : s.head? ≠ some '\'') :
    segmentsFrom (.literalQuote read) s = .literal read.reverse :: segments s := by
  cases s with
  | nil => rfl
  | cons c s =>
    have hc : c ≠ '\'' := by simpa using hs
    have hstep : step (.literalQuote read) c = before [.literal read.reverse] c := by
      simp [step, hc]
    exact segmentsFrom_before hstep s

theorem segments_literal {body rest : List Char} (hb : Paired body)
    (hr : rest.head? ≠ some '\'') :
    segments ('\'' :: (body ++ '\'' :: rest)) =
      .literal ('\'' :: (body ++ ['\''])) :: segments rest := by
  have hopen : segments ('\'' :: (body ++ '\'' :: rest)) =
      segmentsFrom (.literal ['\'']) (body ++ '\'' :: rest) := rfl
  have hclose : segmentsFrom (.literal (body.reverse ++ ['\''])) ('\'' :: rest) =
      segmentsFrom (.literalQuote ('\'' :: (body.reverse ++ ['\'']))) rest := by
    simp [segmentsFrom, step]
  rw [hopen, segmentsFrom_paired hb, hclose, segmentsFrom_literalQuote _ hr]
  simp

theorem segments_unclosed {body : List Char} (hb : Paired body) :
    segments ('\'' :: body) = [.literal ('\'' :: body)] := by
  have hopen : segments ('\'' :: body) = segmentsFrom (.literal ['\'']) (body ++ []) := by
    rw [List.append_nil]
    rfl
  rw [hopen, segmentsFrom_paired hb]
  simp [segmentsFrom, atEnd]

theorem ne_quote_of_isNamePart {c : Char} (h : isNamePart c = true) : c ≠ '"' := by
  rintro rfl
  exact absurd h (by decide)

theorem isNamePart_of_isNameStart {c : Char} (h : isNameStart c = true) :
    isNamePart c = true := by
  simp only [isNameStart, isNamePart, Unicode.isAlphanumeric, Name.isSign, Bool.or_eq_true] at h ⊢
  rcases h with h | h
  · exact Or.inl (Or.inl (Or.inl h))
  · exact Or.inr (Or.inr h)

theorem segmentsFrom_nameParts {read t : List Char} (hr : read ≠ [])
    (ht : ∀ c ∈ t, isNamePart c = true) (s : List Char) :
    segmentsFrom (.name read) (t ++ s) = segmentsFrom (.name (t.reverse ++ read)) s := by
  induction t generalizing read with
  | nil => rfl
  | cons c t ih =>
    have hc := ht c List.mem_cons_self
    have hstep : step (.name read) c = ([], .name (c :: read)) := by
      simp [step, hr, hc, ne_quote_of_isNamePart hc]
    rw [List.cons_append, segmentsFrom, hstep]
    simp only [List.nil_append]
    rw [ih (by simp) fun d hd => ht d (List.mem_cons_of_mem _ hd)]
    simp

theorem segments_name {n : List Char} (hn : IsIdentifier n) (rest : List Char) :
    segments ('"' :: (n ++ '"' :: rest)) = .name n :: segments rest := by
  cases n with
  | nil => cases hn
  | cons c n =>
    obtain ⟨hc, hn⟩ := hn
    have hopen : segments ('"' :: (c :: n ++ '"' :: rest)) =
        segmentsFrom (.name [c]) (n ++ '"' :: rest) := by
      simp [segments, segmentsFrom, step, outside, hc]
    have hclose : step (.name (n.reverse ++ [c])) '"' =
        ([.name (n.reverse ++ [c]).reverse], .outside) := by
      simp [step]
    rw [hopen, segmentsFrom_nameParts (by simp) hn, segmentsFrom, hclose]
    simp [segments]

theorem segments_placeholder {key rest : List Char} (hkey : key ≠ [])
    (hk : ∀ c ∈ key, isKeyPart c = true) (hr : EndsKey rest) :
    segments (':' :: (key ++ rest)) = .placeholder key :: segments rest := by
  have hopen : segments (':' :: (key ++ rest)) = segmentsFrom (.key []) (key ++ rest) := rfl
  rw [hopen, segmentsFrom_key [] key hk, segmentsFrom_keyEnd _ hr]
  simp [keySegment, hkey]

/-! ### Characters that open nothing -/

theorem segments_plain {c : Char} (h1 : c ≠ '\'') (h2 : c ≠ '"') (h3 : c ≠ ':')
    (s : List Char) : segments (c :: s) = .other c :: segments s := by
  simp [segments, segmentsFrom, step, outside, h1, h2, h3]

theorem segments_nameParts {t : List Char} (ht : ∀ c ∈ t, isNamePart c = true)
    (s : List Char) : segments (t ++ s) = t.map .other ++ segments s := by
  induction t with
  | nil => rfl
  | cons c t ih =>
    have hc := ht c List.mem_cons_self
    have h1 : c ≠ '\'' := by rintro rfl; exact absurd hc (by decide)
    have h3 : c ≠ ':' := by rintro rfl; exact absurd hc (by decide)
    rw [List.cons_append, segments_plain h1 (ne_quote_of_isNamePart hc) h3,
      ih fun d hd => ht d (List.mem_cons_of_mem _ hd)]
    rfl

theorem IsIdentifier.parts {n : List Char} (h : IsIdentifier n) :
    ∀ c ∈ n, isNamePart c = true := by
  cases n with
  | nil => cases h
  | cons c n => exact List.forall_mem_cons.2 ⟨isNamePart_of_isNameStart h.1, h.2⟩

theorem IsIdentifier.concat {n : List Char} (h : IsIdentifier n) {c : Char}
    (hc : isNamePart c = true) : IsIdentifier (n ++ [c]) := by
  cases n with
  | nil => cases h
  | cons d n =>
    refine ⟨h.1, fun e he => ?_⟩
    rcases List.mem_append.1 he with he | he
    · exact h.2 e he
    · exact (List.mem_singleton.1 he) ▸ hc

/-- A name that is never closed is given back character by character. What was read of
it holds none that opens anything, so nothing is missed. -/
theorem segmentsFrom_released {read s : List Char}
    (hread : read = [] ∨ IsIdentifier read.reverse)
    (hs : ¬ ∃ t rest, IsIdentifier (read.reverse ++ t) ∧ s = t ++ '"' :: rest) :
    segmentsFrom (.name read) s = .other '"' :: segments (read.reverse ++ s) := by
  induction s generalizing read with
  | nil =>
    have hparts : ∀ c ∈ read.reverse, isNamePart c = true := by
      rcases hread with rfl | hread
      · simp
      · exact hread.parts
    rw [segments_nameParts hparts]
    simp [segmentsFrom, atEnd, released, segments]
  | cons c s ih =>
    have hclose : ¬ (c = '"' ∧ read ≠ []) := by
      rintro ⟨rfl, hne⟩
      have hid := hread.resolve_left hne
      exact hs ⟨[], s, by simpa using hid, rfl⟩
    by_cases hgo : (if read = [] then isNameStart c else isNamePart c) = true
    · have hid : IsIdentifier (c :: read).reverse := by
        rcases hread with rfl | hread
        · exact ⟨by simpa using hgo, by simp⟩
        · have hne : read ≠ [] := by
            rintro rfl
            exact hread
          rw [if_neg hne] at hgo
          rw [List.reverse_cons]
          exact hread.concat hgo
      have hstep : step (.name read) c = ([], .name (c :: read)) := by
        simp only [step, if_neg hclose, if_pos hgo]
      rw [segmentsFrom, hstep]
      simp only [List.nil_append]
      rw [ih (Or.inr hid)]
      · simp
      · rintro ⟨t, rest, ht, rfl⟩
        exact hs ⟨c :: t, rest, by simpa using ht, rfl⟩
    · have hparts : ∀ c ∈ read.reverse, isNamePart c = true := by
        rcases hread with rfl | hread
        · simp
        · exact hread.parts
      have hstep : step (.name read) c = before (released read) c := by
        simp only [step, if_neg hclose, if_neg hgo]
      rw [segmentsFrom_before hstep, segments_nameParts hparts]
      simp [released]

theorem segments_other {c : Char} {s : List Char} (h : ¬ Opens (c :: s)) :
    segments (c :: s) = .other c :: segments s := by
  simp only [Opens, not_or, not_and, not_not] at h
  obtain ⟨hquote, hname, hkey⟩ := h
  by_cases hc : c = '"'
  · subst hc
    have hopen : segments ('"' :: s) = segmentsFrom (.name []) s := rfl
    rw [hopen, segmentsFrom_released (Or.inl rfl) (hname rfl)]
    rfl
  · by_cases hc' : c = ':'
    · subst hc'
      have hopen : segments (':' :: s) = segmentsFrom (.key []) s := rfl
      rw [hopen, segmentsFrom_keyEnd [] (hkey rfl)]
      rfl
    · exact segments_plain hquote hc hc' s

/-- The reader finds whatever splitting there is. -/
theorem Splits.segments_eq {s : List Char} {segs : List Segment} (h : Splits s segs) :
    segments s = segs := by
  induction h with
  | done => rfl
  | literal hb hr _ ih => rw [segments_literal hb hr, ih]
  | unclosed hb => exact segments_unclosed hb
  | name hn _ ih => rw [segments_name hn, ih]
  | placeholder hkey hk hr _ ih => rw [segments_placeholder hkey hk hr, ih]
  | other ho _ ih => rw [segments_other ho, ih]

theorem splits_iff {s : List Char} {segs : List Segment} :
    Splits s segs ↔ segments s = segs := by
  constructor
  · exact Splits.segments_eq
  · rintro rfl
    obtain ⟨segs, h⟩ := exists_splits s
    rwa [h.segments_eq]

/-! ## What is written for a segment -/

/-- A text as it stands inside a literal. -/
inductive Escaped (d : Dialect) : List Char → List Char → Prop
  | nil : Escaped d [] []
  /-- Before quotes and backslashes goes a backslash. -/
  | slashed {c : Char} {s t : List Char} : d = .mysql → c ∈ ['\'', '"', '\\'] → Escaped d s t →
      Escaped d (c :: s) ('\\' :: c :: t)
  /-- A single quote is written twice. -/
  | doubled {s t : List Char} : d ≠ .mysql → Escaped d s t →
      Escaped d ('\'' :: s) ('\'' :: '\'' :: t)
  | plain {c : Char} {s t : List Char} : c ≠ '\'' → (d = .mysql → c ∉ ['"', '\\']) →
      Escaped d s t → Escaped d (c :: s) (c :: t)

/-- The text is the literal of the parameter, which goes by the kind. -/
inductive IsLiteral (d : Dialect) (p : Param) : List Char → Prop
  | null : p.kind = .null → IsLiteral d p "NULL".toList
  | blob : p.kind = .blob → IsLiteral d p "\x7bLOB_DATA\x7d".toList
  | string {text : List Char} : p.kind = .string → Escaped d p.value.toText.toList text →
      IsLiteral d p ('\'' :: (text ++ ['\'']))
  | yes : p.kind = .bool → p.value.isTruthy = true → IsLiteral d p ['1']
  | no : p.kind = .bool → p.value.isTruthy = false → IsLiteral d p ['0']
  | number : p.kind = .int ∨ p.kind = .float → IsLiteral d p p.value.toText.toList

/-- The text stands in the readable statement for the segment: a name gets the quotes of the
dialect, a placeholder that is bound gives way to its literal, and everything else stays. -/
inductive Segment.ReadsAs (d : Dialect) (params : Params) : Segment → List Char → Prop
  | literal (text : List Char) : ReadsAs d params (.literal text) text
  | backticks (n : List Char) : d = .mysql →
      ReadsAs d params (.name n) ('\x60' :: (n ++ ['\x60']))
  | brackets (n : List Char) : d = .mssql → ReadsAs d params (.name n) ('[' :: (n ++ [']']))
  | quotes (n : List Char) : d ≠ .mysql → d ≠ .mssql →
      ReadsAs d params (.name n) ('"' :: (n ++ ['"']))
  | bound {key text : List Char} {p : Param} :
      Entries.get? params (String.ofList (':' :: key)) = some p → IsLiteral d p text →
      ReadsAs d params (.placeholder key) text
  | unbound {key : List Char} : Entries.get? params (String.ofList (':' :: key)) = none →
      ReadsAs d params (.placeholder key) (':' :: key)
  | other (c : Char) : ReadsAs d params (.other c) [c]

section
variable {d : Dialect} {params : Params}

/-- One character more of a text in a literal. -/
theorem escaped_cons_iff {c : Char} {s t : List Char} :
    Escaped d (c :: s) t ↔ ∃ rest, Escaped d s rest ∧ t = d.escapeLiteral c ++ rest := by
  unfold Dialect.escapeLiteral
  constructor
  · intro h
    cases h with
    | slashed hd hc h =>
      refine ⟨_, h, ?_⟩
      have hquoted : c = '\'' ∨ c = '"' ∨ c = '\\' := by simpa using hc
      rw [if_pos hd, if_pos hquoted]
      rfl
    | doubled hd h =>
      refine ⟨_, h, ?_⟩
      rw [if_neg hd, if_pos rfl]
      rfl
    | plain hquote hd h =>
      refine ⟨_, h, ?_⟩
      by_cases hmysql : d = .mysql
      · have hplain : ¬ (c = '\'' ∨ c = '"' ∨ c = '\\') := by
          simpa [hquote] using hd hmysql
        rw [if_pos hmysql, if_neg hplain]
        rfl
      · rw [if_neg hmysql, if_neg hquote]
        rfl
  · rintro ⟨rest, h, rfl⟩
    by_cases hd : d = .mysql
    · rw [if_pos hd]
      split
      · rename_i hc
        exact .slashed hd (by simpa using hc) h
      · rename_i hc
        obtain ⟨hquote, hother⟩ := not_or.1 hc
        exact .plain hquote (fun _ => by simpa using hother) h
    · rw [if_neg hd]
      split
      · rename_i hquote
        subst hquote
        exact .doubled hd h
      · rename_i hquote
        exact .plain hquote (fun hmysql => absurd hmysql hd) h

theorem escaped_iff {s t : List Char} : Escaped d s t ↔ t = s.flatMap d.escapeLiteral := by
  induction s generalizing t with
  | nil =>
    constructor
    · intro h
      cases h
      rfl
    · rintro rfl
      exact .nil
  | cons c s ih =>
    rw [escaped_cons_iff, List.flatMap_cons]
    constructor
    · rintro ⟨rest, h, rfl⟩
      rw [ih.1 h]
    · rintro rfl
      exact ⟨_, ih.2 rfl, rfl⟩

theorem isLiteral_iff {p : Param} {text : List Char} :
    IsLiteral d p text ↔ text = (Readable.literal d p).toList := by
  obtain ⟨v, kind⟩ := p
  unfold Readable.literal
  constructor
  · intro h
    cases h with
    | null hk => cases hk; rfl
    | blob hk => cases hk; rfl
    | string hk h =>
      cases hk
      rw [escaped_iff.1 h]
      simp [Dialect.quoteLiteral]
    | yes hk htrue =>
      cases hk
      have htruthy : v.isTruthy = true := htrue
      simp [htruthy]
    | no hk hfalse =>
      cases hk
      have htruthy : v.isTruthy = false := hfalse
      simp [htruthy]
    | number hk => rcases hk with hk | hk <;> cases hk <;> rfl
  · rintro rfl
    cases kind with
    | null => exact .null rfl
    | blob => exact .blob rfl
    | string =>
      have hquoted := IsLiteral.string (d := d) (p := ⟨v, .string⟩) rfl (escaped_iff.2 rfl)
      simpa [Dialect.quoteLiteral] using hquoted
    | bool =>
      cases htruthy : v.isTruthy with
      | true => simpa [htruthy] using IsLiteral.yes (d := d) (p := ⟨v, .bool⟩) rfl htruthy
      | false => simpa [htruthy] using IsLiteral.no (d := d) (p := ⟨v, .bool⟩) rfl htruthy
    | int => exact .number (.inl rfl)
    | float => exact .number (.inr rfl)

/-- What is written for a segment is what it should read as, and nothing else. -/
theorem Segment.readsAs_iff {seg : Segment} {text : List Char} :
    seg.ReadsAs d params text ↔ text = seg.readable d params := by
  cases seg with
  | literal body =>
    constructor
    · intro h
      cases h
      rfl
    · intro h
      rw [h]
      exact .literal body
  | name n =>
    constructor
    · intro h
      cases h with
      | backticks _ hd => subst hd; rfl
      | brackets _ hd => subst hd; rfl
      | quotes _ hmysql hmssql =>
        cases d with
        | mysql => exact absurd rfl hmysql
        | mssql => exact absurd rfl hmssql
        | _ => rfl
    · rintro rfl
      cases d with
      | mysql => exact .backticks n rfl
      | mssql => exact .brackets n rfl
      | _ => exact .quotes n nofun nofun
  | placeholder key =>
    cases hbound : Entries.get? params (String.ofList (':' :: key)) with
    | none =>
      have hkept : Segment.readable d params (.placeholder key) = ':' :: key := by
        simp only [Segment.readable, hbound]
      rw [hkept]
      constructor
      · intro h
        cases h with
        | bound hp _ => cases hbound.symm.trans hp
        | unbound _ => rfl
      · rintro rfl
        exact .unbound hbound
    | some p =>
      have hreplaced : Segment.readable d params (.placeholder key) =
          (Readable.literal d p).toList := by
        simp only [Segment.readable, hbound]
      rw [hreplaced]
      constructor
      · intro h
        cases h with
        | bound hp h =>
          cases hbound.symm.trans hp
          exact isLiteral_iff.1 h
        | unbound hnone => cases hbound.symm.trans hnone
      · rintro rfl
        exact .bound hbound (isLiteral_iff.2 rfl)
  | other c =>
    constructor
    · intro h
      cases h
      rfl
    · rintro rfl
      exact .other c

/-! ## The readable text -/

theorem readable_eq (c : Compiler) (sql : String) (params : Params) :
    c.readable ⟨sql, params⟩ =
      String.ofList ((segments sql.toList).flatMap (Segment.readable c.dialect params)) := rfl

theorem splits_segments (s : List Char) : Splits s (segments s) := splits_iff.2 rfl

/-- Segment after segment reads as it should exactly in the texts that are written for them. -/
theorem forall₂_readsAs_iff {segs : List Segment} {parts : List (List Char)} :
    List.Forall₂ (Segment.ReadsAs d params) segs parts ↔
      parts = segs.map (Segment.readable d params) := by
  constructor
  · intro h
    induction h with
    | nil => rfl
    | cons hseg _ ih => rw [Segment.readsAs_iff.1 hseg, ih, List.map_cons]
  · rintro rfl
    exact List.forall₂_map_right_iff.2 (List.forall₂_same.2 fun _ _ => Segment.readsAs_iff.2 rfl)

/-- Without bindings, and with names in double quotes, a segment is written as it was
read. -/
theorem Segment.readable_nil (h1 : d ≠ .mysql) (h2 : d ≠ .mssql) (seg : Segment) :
    seg.readable d [] = seg.source := by
  refine (Segment.readsAs_iff.1 ?_).symm
  cases seg with
  | literal text => exact .literal text
  | name n => exact .quotes n h1 h2
  | placeholder key => exact .unbound rfl
  | other c => exact .other c

end

/-- A statement has one splitting, whatever the dialect and the bindings are. The
splitting loses nothing, none of its keys goes on behind it, and the readable text is
made of what its segments read as, one after the other. -/
theorem a_statement_is_read_in_one_pass (sql : String) :
    ∃ segs : List Segment,
      Splits sql.toList segs ∧ (∀ others, Splits sql.toList others → others = segs) ∧
      segs.flatMap Segment.source = sql.toList ∧
      (∀ before key after, segs = before ++ .placeholder key :: after →
        EndsKey (after.flatMap Segment.source)) ∧
      (∀ (c : Compiler) (params : Params) (out : String), c.readable ⟨sql, params⟩ = out ↔
        ∃ parts, List.Forall₂ (Segment.ReadsAs c.dialect params) segs parts ∧
          out = String.ofList parts.flatten) ∧
      ∀ c : Compiler, c.dialect ≠ .mysql → c.dialect ≠ .mssql →
        c.readable ⟨sql, []⟩ = sql := by
  have hsplit := splits_segments sql.toList
  refine ⟨segments sql.toList, hsplit, ?_, hsplit.source, ?_, fun c params out => ?_, ?_⟩
  · intro others hothers
    exact hothers.segments_eq.symm
  · rintro before key after hsegs
    rw [hsegs] at hsplit
    exact hsplit.key_ends
  · simp only [forall₂_readsAs_iff, exists_eq_left, readable_eq, List.flatMap_def]
    exact eq_comm
  · intro c h1 h2
    have hsource : (segments sql.toList).flatMap (Segment.readable c.dialect []) =
        (segments sql.toList).flatMap Segment.source :=
      congrArg (fun f => (segments sql.toList).flatMap f)
        (funext (Segment.readable_nil h1 h2))
    rw [readable_eq, hsource, hsplit.source, String.ofList_toList]

/-- A name, and two placeholders of which only the shorter one is bound, to a text that looks
like the longer one. -/
theorem lookalike_is_read_once :
    Compiler.readable ⟨.mssql, ""⟩
        ⟨"\"a\"=:p1:p10", [(":p1", ⟨.string ":p10'", .string⟩)]⟩ = "[a]=':p10''':p10" := by
  obtain ⟨segs, -, hunique, -, -, hreads, -⟩ := a_statement_is_read_in_one_pass "\"a\"=:p1:p10"
  have hsegs : [.name ['a'], .other '=', .placeholder ['p', '1'],
      .placeholder ['p', '1', '0']] = segs := hunique _ (splits_iff.2 (by decide))
  subst hsegs
  refine (hreads _ _ _).2 ⟨["[a]".toList, ['='], "':p10'''".toList, ":p10".toList], ?_, rfl⟩
  have hvalue : IsLiteral .mssql ⟨.string ":p10'", .string⟩ "':p10'''".toList :=
    isLiteral_iff.2 (by decide)
  exact .cons (.brackets _ rfl) (.cons (.other _) (.cons (.bound rfl hvalue)
    (.cons (.unbound rfl) .nil)))

/-- A value that looks like a placeholder is not read again, and `:p1` is not found in
`:p10`. -/
example : Dialect.readable .mysql
    ⟨"\"a\" = :p1 OR \"a b\" = :p10 OR ':p1'", [(":p1", ⟨.string ":p1", .string⟩)]⟩ =
      "\x60a\x60 = ':p1' OR \"a b\" = :p10 OR ':p1'" := by
  decide

/-! ## Quotes in pairs -/

theorem paired_plain {c : Char} (hc : c ≠ '\'') {s : List Char} :
    Paired (c :: s) ↔ Paired s := by
  constructor
  · intro h
    cases h with
    | pair _ => exact absurd rfl hc
    | plain _ h => exact h
  · exact .plain hc

theorem paired_pair {s : List Char} : Paired ('\'' :: '\'' :: s) ↔ Paired s := by
  constructor
  · intro h
    cases h with
    | pair h => exact h
    | plain hc _ => exact absurd rfl hc
  · exact .pair

theorem not_paired_single {s : List Char} (hs : s.head? ≠ some '\'') :
    ¬ Paired ('\'' :: s) := by
  intro h
  cases h with
  | pair _ => exact hs rfl
  | plain hc _ => exact hc rfl

/-! ## Escaped texts -/

theorem escapeLiteral_mysql {c : Char} (hc : ¬ (c = '\'' ∨ c = '"' ∨ c = '\\')) :
    Dialect.mysql.escapeLiteral c = [c] := by
  rw [Dialect.escapeLiteral, if_pos rfl, if_neg hc]

/-- What a backslash is put before never begins with a quote. -/
theorem head?_escaped_mysql (s : List Char) :
    (s.flatMap Dialect.mysql.escapeLiteral).head? ≠ some '\'' := by
  cases s with
  | nil => simp
  | cons c s =>
    by_cases hc : c = '\'' ∨ c = '"' ∨ c = '\\'
    · simp [Dialect.escapeLiteral, hc]
    · have hquote : c ≠ '\'' := fun h => hc (Or.inl h)
      simp [escapeLiteral_mysql hc, hquote]

theorem paired_escaped_mysql {s : List Char} :
    Paired (s.flatMap Dialect.mysql.escapeLiteral) ↔ '\'' ∉ s := by
  induction s with
  | nil => simp [Paired.nil]
  | cons c s ih =>
    rw [List.flatMap_cons]
    by_cases hquote : c = '\''
    · subst hquote
      have hescaped : Dialect.mysql.escapeLiteral '\'' = ['\\', '\''] := rfl
      have hlone := not_paired_single (head?_escaped_mysql s)
      rw [hescaped]
      simpa [paired_plain (c := '\\') (by decide)] using hlone
    · have hmem : '\'' ∉ c :: s ↔ '\'' ∉ s := by simp [Ne.symm hquote]
      rw [hmem, ← ih]
      by_cases hc : c = '"' ∨ c = '\\'
      · simp [Dialect.escapeLiteral, hc, paired_plain hquote, paired_plain (c := '\\') (by decide)]
      · rw [escapeLiteral_mysql (fun h => h.elim hquote hc), List.singleton_append,
          paired_plain hquote]

/-- A quote that is written twice is a pair. -/
theorem paired_escaped {d : Dialect} (hd : d ≠ .mysql) (s : List Char) :
    Paired (s.flatMap d.escapeLiteral) := by
  induction s with
  | nil => exact .nil
  | cons c s ih =>
    rw [List.flatMap_cons]
    by_cases hquote : c = '\''
    · simpa [Dialect.escapeLiteral, hd, hquote, paired_pair] using ih
    · simpa [Dialect.escapeLiteral, hd, hquote, paired_plain] using ih

theorem paired_escaped_iff {d : Dialect} {s : List Char} :
    Paired (s.flatMap d.escapeLiteral) ↔ (d = .mysql → '\'' ∉ s) := by
  by_cases hd : d = .mysql
  · subst hd
    simpa using paired_escaped_mysql
  · simp [hd, paired_escaped hd s]

/-! ## Literals -/

theorem toList_quoteLiteral (d : Dialect) (text : String) :
    (d.quoteLiteral text).toList = '\'' :: (text.toList.flatMap d.escapeLiteral ++ ['\'']) := by
  simp [Dialect.quoteLiteral]

/-- The reader takes the literal for one segment, whatever follows it. -/
def Recognised (d : Dialect) (text : String) : Prop :=
  ∀ rest : List Char, rest.head? ≠ some '\'' →
    segments ((d.quoteLiteral text).toList ++ rest) =
      .literal (d.quoteLiteral text).toList :: segments rest

theorem recognised_of_paired {d : Dialect} {text : String}
    (h : Paired (text.toList.flatMap d.escapeLiteral)) : Recognised d text := by
  intro rest hr
  rw [toList_quoteLiteral]
  simpa using segments_literal h hr

/-- A literal that is one segment, with more text behind it, holds quotes in pairs
only. -/
theorem paired_of_recognised {d : Dialect} {text : String} (h : Recognised d text) :
    Paired (text.toList.flatMap d.escapeLiteral) := by
  have hsplit := splits_segments ((d.quoteLiteral text).toList ++ [' '])
  rw [h [' '] (by simp), toList_quoteLiteral] at hsplit
  generalize text.toList.flatMap d.escapeLiteral = escaped at hsplit ⊢
  generalize hseg : Segment.literal ('\'' :: (escaped ++ ['\''])) = seg at hsplit
  generalize hrest : segments [' '] = rest at hsplit
  generalize '\'' :: (escaped ++ ['\'']) ++ [' '] = s at hsplit
  cases hsplit with
  | literal hb _ _ =>
    simp only [Segment.literal.injEq, List.cons.injEq, true_and] at hseg
    rwa [List.append_cancel_right hseg]
  | unclosed _ => cases hrest
  | name _ _ => cases hseg
  | placeholder _ _ _ _ => cases hseg
  | other _ _ => cases hseg

theorem recognised_iff {d : Dialect} {text : String} :
    Recognised d text ↔ (d = .mysql → '\'' ∉ text.toList) :=
  ⟨fun h => paired_escaped_iff.1 (paired_of_recognised h),
    fun h => recognised_of_paired (paired_escaped_iff.2 h)⟩

/-- A literal of the dialect is read as one segment exactly when its quotes are doubled
or there are none. The readable text then keeps it as it stands, and what follows it is
read as if it stood alone. -/
theorem literals_are_read_as_written (c : Compiler) (text : String) :
    (Recognised c.dialect text ↔ (c.dialect = .mysql → '\'' ∉ text.toList)) ∧
      ((c.dialect = .mysql → '\'' ∉ text.toList) →
        ∀ (params : Params) (rest : String), rest.toList.head? ≠ some '\'' →
          c.readable ⟨c.quoteLiteral text ++ rest, params⟩ =
            c.quoteLiteral text ++ c.readable ⟨rest, params⟩) := by
  refine ⟨recognised_iff, fun h params rest hr => ?_⟩
  have hsegments : segments (c.quoteLiteral text ++ rest).toList =
      .literal (c.quoteLiteral text).toList :: segments rest.toList := by
    rw [String.toList_append]
    exact recognised_iff.2 h rest.toList hr
  rw [readable_eq, readable_eq, hsegments, List.flatMap_cons, String.ofList_append]
  simp only [Segment.readable, String.ofList_toList]

/-- A text with a quote at each end, and a name and a placeholder behind it. -/
theorem endQuotes_are_read_as_written :
    Compiler.readable ⟨.mssql, ""⟩
        ⟨Compiler.quoteLiteral ⟨.mssql, ""⟩ "'\\'" ++ " AS \"b\", :p0", [(":p0", ⟨.int 7, .int⟩)]⟩ =
      "'''\\''' AS [b], 7" := by
  have h := (literals_are_read_as_written ⟨.mssql, ""⟩ "'\\'").2 (by simp)
    [(":p0", ⟨.int 7, .int⟩)] " AS \"b\", :p0" (by simp)
  rw [h]
  decide

/-- A backslash does not keep the reader from ending the literal. The quote behind it
then opens another one, which takes the rest of the statement. -/
theorem escaped_quote_ends_the_literal :
    Compiler.readable ⟨.mysql, ""⟩
        ⟨Compiler.quoteLiteral ⟨.mysql, ""⟩ "it's" ++ " AS \"b\"", []⟩ =
        "'it\\'s' AS \"b\"" ∧
      Compiler.readable ⟨.mysql, ""⟩
        ⟨Compiler.quoteLiteral ⟨.mysql, ""⟩ "it's" ++ " AS \"b\"", []⟩ ≠
          Compiler.quoteLiteral ⟨.mysql, ""⟩ "it's" ++
            Compiler.readable ⟨.mysql, ""⟩ ⟨" AS \"b\"", []⟩ := by
  decide

end StructuredSql.Readable
