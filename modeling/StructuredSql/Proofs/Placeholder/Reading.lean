-- Placeholders as a reader of the text finds them. In a statement without literals
-- the reader finds exactly the placeholders that were put there, as long as each
-- one ends where no further character of a key follows.
import StructuredSql.Readable
import StructuredSql.Proofs.Sql.Text
import StructuredSql.Proofs.Name

namespace StructuredSql

/-! ## The keys in a text -/

/-- The key of a segment that is a placeholder. -/
def Readable.Segment.key? : Readable.Segment → Option String
  | .placeholder key => some (String.ofList (':' :: key))
  | _ => none

/-- The keys of the placeholders in a text, left to right. -/
def Readable.keys (text : String) : List String :=
  (segments text.toList).filterMap Segment.key?

namespace Readable

/-- The keys that the reader finds from where it stands. -/
def keysFrom (mode : Mode) (s : List Char) : List String :=
  (segmentsFrom mode s).filterMap Segment.key?

/-- The characters that begin a literal or a placeholder. -/
def isOpener (c : Char) : Bool := [':', '\''].contains c

/-- The reader stands in no literal and in no key. -/
def Mode.IsCalm : Mode → Prop
  | .outside => True
  | .name _ => True
  | _ => False

theorem keysFrom_cons (mode : Mode) (c : Char) (s : List Char) :
    keysFrom mode (c :: s) =
      (step mode c).1.filterMap Segment.key? ++ keysFrom (step mode c).2 s := by
  simp [keysFrom, segmentsFrom]

/-- What was read is given out, and the character is read as outside. -/
theorem segmentsFrom_before {mode : Mode} {c : Char} {segs : List Segment}
    (h : step mode c = before segs c) (s : List Char) :
    segmentsFrom mode (c :: s) = segs ++ segments (c :: s) := by
  rw [segmentsFrom, h]
  exact List.append_assoc segs (outside c).1 _

theorem filterMap_released (read : List Char) :
    (released read).filterMap Segment.key? = [] := by
  simp [released, Segment.key?]

theorem outside_calm {c : Char} (h : isOpener c = false) :
    (outside c).1.filterMap Segment.key? = [] ∧ (outside c).2.IsCalm := by
  simp only [isOpener, List.contains_cons, List.contains_nil, Bool.or_false,
    Bool.or_eq_false_iff, beq_eq_false_iff_ne] at h
  unfold outside
  rw [if_neg h.2]
  split
  · exact ⟨rfl, trivial⟩
  · rw [if_neg h.1]
    exact ⟨rfl, trivial⟩

/-- A character that opens nothing gives no key. -/
theorem step_calm {mode : Mode} {c : Char} (hm : mode.IsCalm) (h : isOpener c = false) :
    (step mode c).1.filterMap Segment.key? = [] ∧ (step mode c).2.IsCalm := by
  obtain ⟨hs, hc⟩ := outside_calm h
  cases mode with
  | outside => exact ⟨hs, hc⟩
  | name read =>
    unfold step
    dsimp only
    generalize (if read = [] then isNameStart c else isNamePart c) = goesOn
    split
    · exact ⟨rfl, trivial⟩
    · cases goesOn with
      | true => exact ⟨rfl, trivial⟩
      | false =>
        simp only [Bool.false_eq_true, if_false, before, List.filterMap_append,
          filterMap_released, hs]
        exact ⟨rfl, hc⟩
  | literal read => cases hm
  | literalQuote read => cases hm
  | key read => cases hm

theorem keysFrom_calm (t : List Char) {mode : Mode} (hm : mode.IsCalm)
    (h : ∀ c ∈ t, isOpener c = false) (s : List Char) :
    ∃ mode' : Mode, mode'.IsCalm ∧ keysFrom mode (t ++ s) = keysFrom mode' s := by
  induction t generalizing mode with
  | nil => exact ⟨mode, hm, rfl⟩
  | cons c t ih =>
    obtain ⟨hs, hc⟩ := step_calm hm (h c List.mem_cons_self)
    obtain ⟨mode', hm', he⟩ := ih hc fun d hd => h d (List.mem_cons_of_mem _ hd)
    refine ⟨mode', hm', ?_⟩
    rw [List.cons_append, keysFrom_cons, hs, he]
    rfl

theorem keysFrom_nil {mode : Mode} (hm : mode.IsCalm) : keysFrom mode [] = [] := by
  cases mode with
  | outside => rfl
  | name read => exact filterMap_released read
  | literal read => cases hm
  | literalQuote read => cases hm
  | key read => cases hm

/-! ## One key -/

/-- No further character of a key stands at the head of the text. -/
def EndsKey : List Char → Prop
  | [] => True
  | c :: _ => isKeyPart c = false

theorem keysFrom_colon {mode : Mode} (hm : mode.IsCalm) (s : List Char) :
    keysFrom mode (':' :: s) = keysFrom (.key []) s := by
  rw [keysFrom_cons]
  cases mode with
  | outside => rfl
  | name read =>
    have hpart : (if read = [] then isNameStart ':' else isNamePart ':') = false := by
      split <;> decide
    have hstep : step (.name read) ':' = before (released read) ':' := by
      simp [step, hpart]
    rw [hstep]
    simp only [before, List.filterMap_append, filterMap_released]
    rfl
  | literal read => cases hm
  | literalQuote read => cases hm
  | key read => cases hm

theorem segmentsFrom_key (read k : List Char) (hk : ∀ c ∈ k, isKeyPart c = true)
    (s : List Char) :
    segmentsFrom (.key read) (k ++ s) = segmentsFrom (.key (k.reverse ++ read)) s := by
  induction k generalizing read with
  | nil => rfl
  | cons c k ih =>
    have hstep : step (.key read) c = ([], .key (c :: read)) := by
      simp [step, hk c List.mem_cons_self]
    rw [List.cons_append, segmentsFrom, hstep]
    simp only [List.nil_append]
    rw [ih _ fun d hd => hk d (List.mem_cons_of_mem _ hd)]
    simp

theorem segmentsFrom_keyEnd (read : List Char) {s : List Char} (hs : EndsKey s) :
    segmentsFrom (.key read) s = keySegment read :: segments s := by
  cases s with
  | nil => rfl
  | cons c s =>
    have hc : isKeyPart c = false := hs
    have hstep : step (.key read) c = before [keySegment read] c := by
      simp [step, hc]
    exact segmentsFrom_before hstep s

theorem keysFrom_key (read k : List Char) (hk : ∀ c ∈ k, isKeyPart c = true) (s : List Char) :
    keysFrom (.key read) (k ++ s) = keysFrom (.key (k.reverse ++ read)) s := by
  unfold keysFrom
  rw [segmentsFrom_key read k hk]

theorem keysFrom_keyEnd {read s : List Char} (hr : read ≠ []) (hs : EndsKey s) :
    keysFrom (.key read) s = String.ofList (':' :: read.reverse) :: keysFrom .outside s := by
  have hkey : (keySegment read).key? = some (String.ofList (':' :: read.reverse)) := by
    simp [keySegment, hr, Segment.key?]
  unfold keysFrom
  rw [segmentsFrom_keyEnd read hs, List.filterMap_cons, hkey]
  rfl

theorem isKeyPart_of_isDigit {c : Char} (h : c.isDigit = true) : isKeyPart c = true := by
  simp [isKeyPart, Char.isAlphanum, h]

theorem toList_placeholderKey (n : Nat) :
    (placeholderKey n).toList = ':' :: 'p' :: (Nat.repr n).toList := by
  simp [placeholderKey]

theorem keysFrom_placeholder {mode : Mode} (hm : mode.IsCalm) (n : Nat) {s : List Char}
    (hs : EndsKey s) :
    keysFrom mode ((placeholderKey n).toList ++ s) = placeholderKey n :: keysFrom .outside s := by
  rw [toList_placeholderKey, List.cons_append, keysFrom_colon hm]
  have hk : ∀ c ∈ 'p' :: (Nat.repr n).toList, isKeyPart c = true := by
    intro c hc
    rcases List.mem_cons.1 hc with rfl | hc
    · decide
    · rw [Nat.toList_repr] at hc
      exact isKeyPart_of_isDigit (Nat.isDigit_of_mem_toDigits (by decide) (by decide) hc)
  rw [keysFrom_key [] _ hk, keysFrom_keyEnd (by simp) hs]
  simp only [List.append_nil, List.reverse_reverse, List.cons.injEq, and_true]
  rw [← toList_placeholderKey, String.ofList_toList]

end Readable

/-! ## The placeholders of a statement -/

namespace Sql

/-- The numbers of the placeholders, left to right. -/
def placeholders (sql : Sql) : List Nat :=
  sql.filterMap fun
    | .placeholder n => some n
    | _ => none

/-- What may stand right behind a placeholder: nothing, or what does not begin
with a further character of its key. -/
def Detached : Sql → Prop
  | .text s :: _ => s.toList.head?.any (fun c => !Readable.isKeyPart c) = true
  | _ => True

/-- Behind every placeholder stands what may stand there. -/
def Spaced : Sql → Prop
  | [] => True
  | .placeholder _ :: rest => Detached rest ∧ Spaced rest
  | _ :: rest => Spaced rest

theorem endsKey_of_detached {sql : Sql} (h : Detached sql) (tablePrefix : String) :
    Readable.EndsKey (sql.flatMap (Piece.chars tablePrefix)) := by
  cases sql with
  | nil => trivial
  | cons p rest =>
    cases p with
    | text s =>
      simp only [Detached] at h
      simp only [List.flatMap_cons, Piece.chars_text]
      cases hs : s.toList with
      | nil => simp [hs] at h
      | cons c t =>
        simp only [hs, List.head?_cons, Option.any_some, Bool.not_eq_true'] at h
        exact h
    | table name =>
      simp only [List.flatMap_cons, Piece.chars_table, List.cons_append]
      exact (by decide : Readable.isKeyPart '"' = false)
    | column name =>
      simp only [List.flatMap_cons, Piece.chars_column, List.cons_append]
      exact (by decide : Readable.isKeyPart '"' = false)
    | placeholder n =>
      simp only [List.flatMap_cons, Piece.chars_placeholder, List.cons_append]
      exact (by decide : Readable.isKeyPart ':' = false)

theorem isOpener_of_isPart {c : Char} (h : Name.isPart c = true) : Readable.isOpener c = false :=
  Text.contains_of_test (by decide) h

/-- No character of a piece that is no placeholder opens anything. -/
theorem chars_calm {tablePrefix : String} (hp : Name.IsPlain tablePrefix.toList) {p : Piece}
    (h : p.Avoids Readable.isOpener) (hn : ∀ n, p ≠ .placeholder n) :
    ∀ c ∈ p.chars tablePrefix, Readable.isOpener c = false :=
  Piece.chars_avoid (fun _ => isOpener_of_isPart) (by decide) hp h fun n he => absurd he (hn n)

/-- The reader finds the placeholders that were put there, and no others. -/
theorem keysFrom_render {tablePrefix : String} (hp : Name.IsPlain tablePrefix.toList) {sql : Sql}
    (ha : sql.Avoids Readable.isOpener) (hs : sql.Spaced) {mode : Readable.Mode}
    (hm : mode.IsCalm) :
    Readable.keysFrom mode (sql.flatMap (Piece.chars tablePrefix)) =
      sql.placeholders.map placeholderKey := by
  induction sql generalizing mode with
  | nil => exact Readable.keysFrom_nil hm
  | cons p rest ih =>
    obtain ⟨hpa, hra⟩ := (avoids_cons p rest).1 ha
    rw [List.flatMap_cons]
    by_cases hn : ∃ n, p = .placeholder n
    · obtain ⟨n, rfl⟩ := hn
      obtain ⟨hd, hrs⟩ := hs
      have hchars : Piece.chars tablePrefix (.placeholder n) = (placeholderKey n).toList := rfl
      rw [hchars, Readable.keysFrom_placeholder hm n (endsKey_of_detached hd tablePrefix),
        ih hra hrs (show Readable.Mode.outside.IsCalm from trivial)]
      rfl
    · have hn' : ∀ n, p ≠ .placeholder n := fun n h => hn ⟨n, h⟩
      obtain ⟨mode', hm', he⟩ := Readable.keysFrom_calm _ hm (chars_calm hp hpa hn') _
      have hrs : Spaced rest := by
        cases p with
        | placeholder n => exact absurd rfl (hn' n)
        | text s => exact hs
        | table name => exact hs
        | column name => exact hs
      have hrest : placeholders (p :: rest) = placeholders rest := by
        cases p with
        | placeholder n => exact absurd rfl (hn' n)
        | text s => rfl
        | table name => rfl
        | column name => rfl
      rw [he, ih hra hrs hm', hrest]

theorem keys_render {tablePrefix : String} (hp : Name.IsPlain tablePrefix.toList) {sql : Sql}
    (ha : sql.Avoids Readable.isOpener) (hs : sql.Spaced) :
    Readable.keys (sql.render tablePrefix) = sql.placeholders.map placeholderKey := by
  unfold Readable.keys
  rw [toList_render]
  exact keysFrom_render hp ha hs (show Readable.Mode.outside.IsCalm from trivial)

/-- Every colon of such a text begins a placeholder. -/
theorem count_colon {tablePrefix : String} (hp : Name.IsPlain tablePrefix.toList) {sql : Sql}
    (ha : sql.Avoids Readable.isOpener) :
    (sql.render tablePrefix).toList.count ':' = sql.placeholders.length := by
  rw [toList_render]
  induction sql with
  | nil => rfl
  | cons p rest ih =>
    obtain ⟨hpa, hra⟩ := (avoids_cons p rest).1 ha
    rw [List.flatMap_cons, List.count_append, ih hra]
    by_cases hn : ∃ n, p = .placeholder n
    · obtain ⟨n, rfl⟩ := hn
      have hdigits : (Nat.repr n).toList.count ':' = 0 := by
        refine List.count_eq_zero.2 fun hm => ?_
        rw [Nat.toList_repr] at hm
        exact absurd (Nat.isDigit_of_mem_toDigits (by decide) (by decide) hm) (by decide)
      rw [Piece.chars_placeholder, List.count_cons_self, List.count_cons_of_ne (by decide), hdigits]
      simp [placeholders, Nat.add_comm]
    · have hn' : ∀ n, p ≠ .placeholder n := fun n h => hn ⟨n, h⟩
      have hchars : (p.chars tablePrefix).count ':' = 0 :=
        List.count_eq_zero.2 fun hm => absurd (chars_calm hp hpa hn' _ hm) (by decide)
      rw [hchars, Nat.zero_add]
      cases p with
      | placeholder n => exact absurd rfl (hn' n)
      | _ => rfl

end Sql
end StructuredSql
