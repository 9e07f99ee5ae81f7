-- The wildcards of LIKE. A pattern that carries one is bound as it stands, any other between two
-- percent signs. A character is escaped behind an odd number of backslashes in a row, but the scan
-- looks at the last of them only: it counts no wildcard that is escaped, and it misses one that
-- stands right behind an escaped backslash.
import StructuredSql.Proofs.Build.Params
import StructuredSql.Proofs.Condition.Plain
import StructuredSql.Statement.Write

namespace StructuredSql

namespace Wildcard

/-! ## Backslashes -/

/-- How many backslashes stand in a row at the end of the text. -/
def backslashes (before : List Char) : Nat := (before.reverse.takeWhile (· == '\\')).length

/-- A character behind the text is escaped. -/
def Escaped (before : List Char) : Prop := backslashes before % 2 = 1

instance : DecidablePred Escaped := fun _ => inferInstanceAs (Decidable (_ = _))

def Unescaped (before : List Char) : Prop := ¬ Escaped before

/-- The text ends in no backslash. -/
def Bare (before : List Char) : Prop := before.getLast? ≠ some '\\'

/-- The text ends in a backslash that is escaped itself. -/
def Shaded (before : List Char) : Prop := ∃ start, before = start ++ ['\\'] ∧ Escaped start

theorem backslashes_concat (before : List Char) (c : Char) :
    backslashes (before ++ [c]) = if c = '\\' then backslashes before + 1 else 0 := by
  unfold backslashes
  rw [List.reverse_concat, List.takeWhile_cons]
  by_cases hc : c = '\\' <;> simp [hc]

/-- A backslash escapes what stands behind it, unless it is escaped itself. -/
theorem escaped_concat {before : List Char} {c : Char} :
    Escaped (before ++ [c]) ↔ c = '\\' ∧ Unescaped before := by
  unfold Unescaped Escaped
  rw [backslashes_concat]
  by_cases hc : c = '\\'
  · simp only [hc, if_true, true_and]
    omega
  · simp [hc]

theorem Escaped.exists_concat {before : List Char} (h : Escaped before) :
    ∃ start, before = start ++ ['\\'] := by
  rcases List.eq_nil_or_concat' before with rfl | ⟨start, c, rfl⟩
  · exact absurd h (by decide)
  · obtain ⟨rfl, -⟩ := escaped_concat.1 h
    exact ⟨start, rfl⟩

theorem shaded_concat {before : List Char} {c : Char} :
    Shaded (before ++ [c]) ↔ c = '\\' ∧ Escaped before := by
  constructor
  · rintro ⟨start, heq, hstart⟩
    obtain ⟨rfl, hc⟩ := List.append_inj' heq rfl
    exact ⟨List.singleton_injective hc, hstart⟩
  · rintro ⟨rfl, h⟩
    exact ⟨before, rfl, h⟩

theorem bare_concat {before : List Char} {c : Char} : Bare (before ++ [c]) ↔ c ≠ '\\' := by
  simp [Bare]

/-- A backslash at the end escapes what stands behind it or is escaped itself. Without one neither
is so. -/
theorem bare_iff {before : List Char} : Bare before ↔ Unescaped before ∧ ¬ Shaded before := by
  rcases List.eq_nil_or_concat' before with rfl | ⟨start, c, rfl⟩
  · simp [Bare, Unescaped, Escaped, backslashes, Shaded]
  · rw [Unescaped, bare_concat, escaped_concat, shaded_concat, Unescaped]
    tauto

theorem bare_append {s t : List Char} (h : t ≠ []) : Bare (s ++ t) ↔ Bare t := by
  rw [Bare, List.getLast?_append_of_ne_nil _ h, Bare]

theorem bare_cons {c : Char} {s : List Char} (h : s ≠ []) : Bare (c :: s) ↔ Bare s :=
  bare_append (s := [c]) h

/-! ## Wildcards -/

def signs : List Char := ['%', '_', '*', '?', '!', '#', '^']

theorem isSign_iff {c : Char} : isSign c = true ↔ c ∈ signs := by
  simp [isSign, signs, or_assoc]

/-- A wildcard of the pattern, with the texts that its sign or its two brackets stand behind. The
brackets hold a character or more. -/
inductive Stands (pattern : List Char) : List (List Char) → Prop
  | sign {before after : List Char} {c : Char} (hsign : c ∈ signs)
      (h : pattern = before ++ c :: after) : Stands pattern [before]
  | brackets {before inside after : List Char} (hsome : inside ≠ [])
      (h : pattern = before ++ '[' :: (inside ++ ']' :: after)) :
      Stands pattern [before, before ++ '[' :: inside]

/-- The pattern carries a wildcard whose sign or brackets stand behind such texts. -/
def Carries (free : List Char → Prop) (pattern : List Char) : Prop :=
  ∃ behind, Stands pattern behind ∧ ∀ before ∈ behind, free before

/-- The pattern carries unescaped wildcards, but each of them has its sign or a bracket right behind
an escaped backslash. -/
structure Hidden (pattern : List Char) : Prop where
  carries : Carries Unescaped pattern
  shaded : ∀ behind, Stands pattern behind → (∀ before ∈ behind, Unescaped before) →
    ∃ before ∈ behind, Shaded before

theorem Stands.exists_append {pattern : List Char} {behind : List (List Char)}
    (h : Stands pattern behind) : ∀ before ∈ behind, ∃ after, pattern = before ++ after := by
  intro before hb
  cases h with
  | @sign _ after c _ h =>
    obtain rfl := List.mem_singleton.1 hb
    exact ⟨c :: after, h⟩
  | @brackets first inside after _ h =>
    rcases List.mem_pair.1 hb with rfl | rfl
    · exact ⟨'[' :: (inside ++ ']' :: after), h⟩
    · exact ⟨']' :: after, by simp [h]⟩

/-- Two backslashes in a row are needed to hide a wildcard. -/
theorem Hidden.doubled {pattern : List Char} (h : Hidden pattern) :
    ['\\', '\\'] <:+: pattern := by
  obtain ⟨behind, hstands, hunescaped⟩ := h.carries
  obtain ⟨before, hb, start, rfl, hescaped⟩ := h.shaded behind hstands hunescaped
  obtain ⟨start, rfl⟩ := hescaped.exists_concat
  obtain ⟨after, rfl⟩ := hstands.exists_append _ hb
  exact ⟨start, after, by simp⟩

theorem carries_bare_iff {pattern : List Char} :
    Carries Bare pattern ↔ Carries Unescaped pattern ∧ ¬ Hidden pattern := by
  constructor
  · rintro ⟨behind, hstands, hbare⟩
    have hunescaped : ∀ before ∈ behind, Unescaped before :=
      fun before hb => (bare_iff.1 (hbare before hb)).1
    refine ⟨⟨behind, hstands, hunescaped⟩, fun hidden => ?_⟩
    obtain ⟨before, hb, hshaded⟩ := hidden.shaded behind hstands hunescaped
    exact (bare_iff.1 (hbare before hb)).2 hshaded
  · rintro ⟨hcarries, hhidden⟩
    by_contra hnone
    refine hhidden ⟨hcarries, fun behind hstands hunescaped => ?_⟩
    by_contra hshaded
    push Not at hshaded
    exact hnone ⟨behind, hstands, fun before hb =>
      bare_iff.2 ⟨hunescaped before hb, hshaded before hb⟩⟩

/-! ## The scans -/

/-- A scan that keeps the character before finds what stands behind no backslash. Both scans of a
pattern are of this kind. -/
theorem scan_iff {scan p : Char → List Char → Bool} (hnil : ∀ c, scan c [] = false)
    (hcons : ∀ c d s, scan c (d :: s) = ((c != '\\' && p d s) || scan d s))
    {c : Char} {s : List Char} :
    scan c s = true ↔ ∃ before d after, s = before ++ d :: after ∧ Bare (c :: before) ∧
      p d after = true := by
  induction s generalizing c with
  | nil => simp [hnil]
  | cons d s ih =>
    rw [hcons, Bool.or_eq_true, Bool.and_eq_true, bne_iff_ne, ih]
    constructor
    · rintro (⟨hc, hfound⟩ | ⟨before, e, after, rfl, hbare, hfound⟩)
      · exact ⟨[], d, s, rfl, by simpa [Bare] using hc, hfound⟩
      · exact ⟨d :: before, e, after, rfl, (bare_cons (by simp)).2 hbare, hfound⟩
    · rintro ⟨before, e, after, heq, hbare, hfound⟩
      cases before with
      | nil =>
        obtain ⟨rfl, rfl⟩ := List.cons.inj heq
        exact Or.inl ⟨by simpa [Bare] using hbare, hfound⟩
      | cons d' before =>
        obtain ⟨rfl, rfl⟩ := List.cons.inj heq
        exact Or.inr ⟨before, e, after, rfl, (bare_cons (by simp)).1 hbare, hfound⟩

theorem closes_iff {c : Char} {s : List Char} :
    closes c s = true ↔ ∃ inside after, s = inside ++ ']' :: after ∧ Bare (c :: inside) := by
  have hstep (c d : Char) (s : List Char) :
      closes c (d :: s) = ((c != '\\' && d == ']') || closes d s) := by
    rw [closes, Bool.and_comm]
  rw [scan_iff (p := fun d _ => d == ']') (fun _ => rfl) hstep]
  constructor
  · rintro ⟨inside, d, after, rfl, hbare, hd⟩
    obtain rfl := beq_iff_eq.1 hd
    exact ⟨inside, after, rfl, hbare⟩
  · rintro ⟨inside, after, rfl, hbare⟩
    exact ⟨inside, ']', after, rfl, hbare, rfl⟩

theorem opensClass_iff {s : List Char} :
    opensClass s = true ↔ ∃ inside after, inside ≠ [] ∧ s = inside ++ ']' :: after ∧
      Bare inside := by
  cases s with
  | nil => simp [opensClass]
  | cons c s =>
    rw [opensClass, closes_iff]
    constructor
    · rintro ⟨inside, after, rfl, hbare⟩
      exact ⟨c :: inside, after, by simp, rfl, hbare⟩
    · rintro ⟨inside, after, hsome, heq, hbare⟩
      cases inside with
      | nil => exact absurd rfl hsome
      | cons d inside =>
        obtain ⟨rfl, rfl⟩ := List.cons.inj heq
        exact ⟨inside, after, rfl, hbare⟩

theorem occursBehind_iff {c : Char} {s : List Char} :
    occursBehind c s = true ↔ ∃ before d after, s = before ++ d :: after ∧ Bare (c :: before) ∧
      (isSign d || (d == '[' && opensClass after)) = true :=
  scan_iff (fun _ => rfl) (fun _ _ _ => rfl)

/-- The scan finds the wildcards with no backslash right before them. -/
theorem occurs_iff {pattern : String} :
    occurs pattern = true ↔ Carries Bare pattern.toList := by
  -- The scan starts behind a blank.
  have hstart {before : List Char} : Bare (' ' :: before) ↔ Bare before := by
    cases before with
    | nil => simp [Bare]
    | cons c before => exact bare_cons (by simp)
  simp only [occurs, occursBehind_iff, hstart]
  constructor
  · rintro ⟨before, d, after, hpattern, hbare, hd⟩
    rcases Bool.or_eq_true_iff.1 hd with hsign | hclass
    · exact ⟨_, .sign (isSign_iff.1 hsign) hpattern, by simpa using hbare⟩
    · obtain ⟨hopen, hclass⟩ := Bool.and_eq_true_iff.1 hclass
      obtain rfl := beq_iff_eq.1 hopen
      obtain ⟨inside, rest, hsome, rfl, hinside⟩ := opensClass_iff.1 hclass
      have hclose : Bare (before ++ '[' :: inside) :=
        (bare_append (by simp)).2 ((bare_cons hsome).2 hinside)
      exact ⟨_, .brackets hsome hpattern, by simpa using ⟨hbare, hclose⟩⟩
  · rintro ⟨behind, hstands, hbare⟩
    cases hstands with
    | @sign before after c hsign hpattern =>
      exact ⟨before, c, after, hpattern, hbare _ (by simp), by simp [isSign_iff.2 hsign]⟩
    | @brackets before inside after hsome hpattern =>
      have hclose : Bare (before ++ '[' :: inside) := hbare _ (by simp)
      rw [bare_append (by simp), bare_cons hsome] at hclose
      have hclass : opensClass (inside ++ ']' :: after) = true :=
        opensClass_iff.2 ⟨inside, after, hsome, rfl, hclose⟩
      exact ⟨before, '[', _, hpattern, hbare _ (by simp), by simp [hclass]⟩

/-- An escaped bracket closes no class, and brackets with nothing inside are none. -/
example : occurs "[a\\]" = false ∧ occurs "[]" = false ∧ occurs "[]]" = true := by decide

/-! ## Patterns as they are bound -/

/-- The text is bound for the pattern, with no percent sign put around it or with one at each
end. -/
structure Binds (pattern text : String) : Prop where
  kept : text = pattern ↔ Carries Bare pattern.toList
  wrapped : text = "%" ++ pattern ++ "%" ↔ ¬ Carries Bare pattern.toList

theorem wrapped_ne (pattern : String) : "%" ++ pattern ++ "%" ≠ pattern := by
  intro h
  have hlength := congrArg String.length h
  simp only [String.length_append] at hlength
  have hsign : "%".length = 1 := rfl
  omega

theorem binds_iff {pattern text : String} : Binds pattern text ↔ text = around pattern := by
  unfold around
  split
  · rename_i hoccurs
    have hcarries := occurs_iff.1 hoccurs
    refine ⟨fun h => h.kept.2 hcarries, fun htext => ?_⟩
    rw [htext]
    exact ⟨by simpa using hcarries, by simpa [hcarries] using (wrapped_ne pattern).symm⟩
  · rename_i hoccurs
    rw [occurs_iff] at hoccurs
    refine ⟨fun h => h.wrapped.2 hoccurs, fun htext => ?_⟩
    rw [htext]
    exact ⟨by simpa [hoccurs] using wrapped_ne pattern, by simpa using hoccurs⟩

theorem all_bound_iff {items : List Value} {texts : List String} :
    List.Forall₂ (fun item text => Binds item.toText text) items texts ↔
      (items.map fun item => around item.toText) = texts := by
  simp only [binds_iff, eq_comm (b := around _)]
  rw [← List.forall₂_map_left_iff, List.forall₂_eq_eq_eq]

end Wildcard

namespace Condition

variable {column : ColumnName} {negated : Bool} {v : Value}

/-- One pattern under a placeholder. -/
def likeClause (column : ColumnName) (negated : Bool) (n : Nat) : Sql :=
  column.sql ++ [.text s!"{notWord negated} LIKE ", .placeholder n]

/-- The patterns of a LIKE, numbered on from `n`. -/
def likeSql (column : ColumnName) (negated : Bool) (conjunction : Conjunction) (n count : Nat) :
    Sql :=
  Sql.parens (joined conjunction ((List.range count).map fun i =>
    likeClause column negated (n + i)))

def boundText (text : String) : Binding := .fresh ⟨.string text, .string⟩

theorem pattern_run (column : ColumnName) (negated : Bool) {item : Value}
    (h : (item.isContainer || item.isRaw) = false) (n : Nat) :
    (if item.isContainer || item.isRaw then Build.fail (.likeItem column)
      else do
        let bound ← Build.text (Wildcard.around item.toText)
        return column.sql ++ .text s!"{notWord negated} LIKE " :: bound : Build Sql) n =
      .ok (likeClause column negated n, [boundText (Wildcard.around item.toText)]) := by
  rw [h]
  rfl

theorem like_run {conjunction : Conjunction} {items : List Value}
    (hpatterns : likePatterns? v = some (conjunction, items)) (hsome : items ≠ [])
    (hscalars : ∀ item ∈ items, (item.isContainer || item.isRaw) = false) (n : Nat) :
    like column negated v n = .ok (likeSql column negated conjunction n items.length,
      (items.map fun item => Wildcard.around item.toText).map boundText) := by
  cases items with
  | nil => exact absurd rfl hsome
  | cons first rest =>
    have hwidth : ∀ item ∈ first :: rest,
        Binding.countFresh [boundText (Wildcard.around item.toText)] = 1 := fun _ _ => rfl
    have heach := Build.each_uniform (first :: rest)
      (fun item hm i => pattern_run column negated (hscalars item hm) i) hwidth n
    simp only [like, hpatterns]
    refine Build.bind_eq_ok.2 ⟨_, _, [], heach, Build.pure_eq_ok.2 ⟨?_, rfl⟩, ?_⟩
    · simp [likeSql, joined]
    · rw [List.append_nil, List.map_map, List.map_eq_flatMap]
      rfl

open Wildcard (Bare Binds Carries Hidden Unescaped)

/-- A LIKE compiles exactly when it has patterns and all of them are scalars. Each is bound in its
place: as it stands when it carries a wildcard with no backslash right before its sign or its
brackets, else between two percent signs. So a pattern is wrapped exactly when it carries no
unescaped wildcard, unless all that it carries are hidden by escaped backslashes; and no pattern
without two backslashes in a row hides any. -/
theorem patterns_are_wrapped_without_a_wildcard_in_sight (column : ColumnName) (negated : Bool)
    (v : Value) (n : Nat) :
    (∀ sql bound, like column negated v n = .ok (sql, bound) ↔
      ∃ conjunction items texts, likePatterns? v = some (conjunction, items) ∧ items ≠ [] ∧
        (∀ item ∈ items, (item.isContainer || item.isRaw) = false) ∧
        List.Forall₂ (fun item text => Binds item.toText text) items texts ∧
        sql = likeSql column negated conjunction n items.length ∧ bound = texts.map boundText) ∧
    ∀ pattern : String,
      (Wildcard.occurs pattern = true ↔ Carries Bare pattern.toList) ∧
      (Wildcard.occurs pattern = true ↔
        Carries Unescaped pattern.toList ∧ ¬ Hidden pattern.toList) ∧
      (¬ ['\\', '\\'] <:+: pattern.toList →
        (Wildcard.occurs pattern = true ↔ Carries Unescaped pattern.toList)) := by
  have hsight (pattern : String) : Wildcard.occurs pattern = true ↔
      Carries Unescaped pattern.toList ∧ ¬ Hidden pattern.toList :=
    Wildcard.occurs_iff.trans Wildcard.carries_bare_iff
  refine ⟨fun sql bound => ⟨fun h => ?_, ?_⟩,
    fun pattern => ⟨Wildcard.occurs_iff, hsight pattern, fun hsingle => ?_⟩⟩
  · obtain ⟨conjunction, items, marks, hpatterns, hsome, hmarks, -⟩ :=
      like_marked negated v n sql bound h
    have hscalars := marked_items hmarks
    have hrun := (like_run hpatterns hsome hscalars n).symm.trans h
    obtain ⟨rfl, rfl⟩ := Prod.mk.inj (Except.ok.inj hrun)
    exact ⟨conjunction, items, _, hpatterns, hsome, hscalars, Wildcard.all_bound_iff.2 rfl, rfl,
      rfl⟩
  · rintro ⟨conjunction, items, texts, hpatterns, hsome, hscalars, htexts, rfl, rfl⟩
    obtain rfl := Wildcard.all_bound_iff.1 htexts
    exact like_run hpatterns hsome hscalars n
  · have hshown : ¬ Hidden pattern.toList := fun hidden => hsingle hidden.doubled
    simp only [hsight pattern, hshown, not_false_eq_true, and_true]

/-- An escaped percent sign, and a class with an escaped bracket inside. -/
theorem escaped_sign_is_wrapped_and_class_is_kept :
    let v : Value := .object [("AND", .array [.string "50\\%", .string "[a\\]b]"])]
    like ⟨some "post", "title"⟩ true v 3 =
        .ok (likeSql ⟨some "post", "title"⟩ true .and 3 2,
          [boundText "%50\\%%", boundText "[a\\]b]"]) ∧
      ¬ Carries Unescaped "50\\%".toList ∧ Carries Unescaped "[a\\]b]".toList := by
  intro v
  obtain ⟨hlike, hpatterns⟩ :=
    patterns_are_wrapped_without_a_wildcard_in_sight ⟨some "post", "title"⟩ true v 3
  refine ⟨(hlike _ _).2 ⟨.and, [.string "50\\%", .string "[a\\]b]"], ["%50\\%%", "[a\\]b]"], rfl,
    by simp, by decide, ?_, rfl, rfl⟩, ?_, ?_⟩
  · exact Wildcard.all_bound_iff.2 (by decide)
  · obtain ⟨-, -, hsingle⟩ := hpatterns "50\\%"
    exact fun h => absurd ((hsingle (by decide)).2 h) (by decide)
  · obtain ⟨-, -, hsingle⟩ := hpatterns "[a\\]b]"
    exact (hsingle (by decide)).1 (by decide)

/-- The backslash right before the percent sign is escaped, so the sign is not, and it stands for
any end. The pattern is wrapped all the same, and finds its text anywhere. -/
theorem escaped_backslash_hides_the_wildcard :
    Carries Unescaped "C:\\\\%".toList ∧ Wildcard.occurs "C:\\\\%" = false ∧
      Compiler.delete ⟨.sqlite, ""⟩ "t" (some (.object [("path[~]", .string "C:\\\\%")])) =
        .ok ⟨"DELETE FROM \"t\" WHERE (\"path\" LIKE :p0)",
          [(":p0", ⟨.string "%C:\\\\%%", .string⟩)]⟩ := by
  refine ⟨⟨["C:\\\\".toList], .sign (c := '%') (by decide) rfl, ?_⟩, by decide, rfl⟩
  intro before hb
  obtain rfl := List.mem_singleton.1 hb
  exact (by decide : ¬ Wildcard.Escaped "C:\\\\".toList)

end Condition
end StructuredSql
