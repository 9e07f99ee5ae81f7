-- How SQL reads AND and OR. A text of conditions is split where a conjunction stands
-- outside all parentheses, AND binds before OR, and a part that stands in parentheses
-- is read again inside them.
import StructuredSql.Condition.Key

namespace StructuredSql

/-- What conditions with these truth values say together. -/
def Conjunction.holds : Conjunction → List Bool → Bool
  | and, values => values.all id
  | or, values => values.any id

namespace Precedence

/-! ## Splitting at the conjunctions -/

/-- How deep in parentheses the text goes on behind the character. -/
def deeper (depth : Nat) (c : Char) : Nat :=
  if c = '(' then depth + 1 else if c = ')' then depth - 1 else depth

/-- The conjunction whose word stands here, a blank behind it. -/
def wordAhead? : List Char → Option Conjunction
  | 'A' :: 'N' :: 'D' :: ' ' :: _ => some .and
  | 'O' :: 'R' :: ' ' :: _ => some .or
  | _ => none

def betweenAhead : List Char → Bool
  | 'B' :: 'E' :: 'T' :: 'W' :: 'E' :: 'E' :: 'N' :: ' ' :: _ => true
  | _ => false

/-- The conjunction that separates two conditions at this character. The AND that a
BETWEEN waits for separates nothing. -/
def separator? (depth : Nat) (waiting : Bool) (c : Char) (s : List Char) : Option Conjunction :=
  if depth = 0 ∧ c = ' ' then (wordAhead? s).filter fun k => !(waiting && k == .and) else none

/-- A BETWEEN that was read still waits for its AND. -/
def waits (ranges : Bool) (depth : Nat) (waiting : Bool) (c : Char) (s : List Char) : Bool :=
  if depth = 0 ∧ c = ' ' then
    if betweenAhead s then ranges else waiting && wordAhead? s != some .and
  else waiting

/-- A text between separators: its first part, and the others with the conjunction
before each. -/
structure Split where
  first : List Char
  others : List (Conjunction × List Char)
deriving DecidableEq, Repr

/-- The text stands before everything that was split. -/
def Split.prepend (s : List Char) (split : Split) : Split := ⟨s ++ split.first, split.others⟩

/-- What was split stands behind a separator. -/
def Split.separated (conjunction : Conjunction) (split : Split) : Split :=
  ⟨[], (conjunction, split.first) :: split.others⟩

/-- The text from here on, split outside all parentheses. `ranges` says whether BETWEEN
takes an AND of its own, and `skip` counts the characters that are left of a separator. -/
def splitFrom (ranges : Bool) (depth : Nat) (waiting : Bool) (skip : Nat) : List Char → Split
  | [] => ⟨[], []⟩
  | c :: s =>
    match skip with
    | skip + 1 => splitFrom ranges depth waiting skip s
    | 0 =>
      match separator? depth waiting c s with
      | some k => (splitFrom ranges 0 false (k.word.length + 1) s).separated k
      | none => (splitFrom ranges (deeper depth c) (waits ranges depth waiting c s) 0 s).prepend [c]

/-- The text split at every AND and OR outside all parentheses. -/
def split (s : List Char) : Split := splitFrom false 0 false 0 s

/-- The parts of a text, left to right. -/
def pieces (s : List Char) : List (List Char) := (split s).first :: (split s).others.map Prod.snd

/-- The conjunctions between the parts, left to right. -/
def separators (s : List Char) : List Conjunction := (split s).others.map Prod.fst

/-! ## Truth -/

/-- The text before the parenthesis that closes the one before it, when nothing stands
behind that parenthesis. -/
def insideFrom? (depth : Nat) : List Char → Option (List Char)
  | [] => none
  | c :: s =>
    if depth = 0 ∧ c = ')' then if s = [] then some [] else none
    else (insideFrom? (deeper depth c) s).map (c :: ·)

/-- What stands in the parentheses around a whole text. -/
def inside? : List Char → Option (List Char)
  | '(' :: s => insideFrom? 0 s
  | _ => none

/-- Conditions side by side: AND is read before OR. `sofar` is what the conditions
since the last OR say. -/
def disjunction (sofar : Bool) : List (Conjunction × Bool) → Bool
  | [] => sofar
  | (.and, value) :: rest => disjunction (sofar && value) rest
  | (.or, value) :: rest => sofar || disjunction value rest

/-- The truth of a text, read no deeper than `fuel` parentheses. -/
def truthWithin (val : List Char → Bool) : Nat → List Char → Bool
  | 0, s => val s
  | fuel + 1, s =>
    let one := fun piece =>
      match inside? piece with
      | some t => truthWithin val fuel t
      | none => val piece
    let split := splitFrom true 0 false 0 s
    disjunction (one split.first) (split.others.map fun e => (e.1, one e.2))

/-- The truth of a text of conditions, where `val` says which single conditions hold. -/
def truth (val : List Char → Bool) (s : List Char) : Bool := truthWithin val (s.length + 1) s

/-! ## Texts without separators -/

/-- Every parenthesis that opens is closed again, and none closes that was not opened. -/
inductive Nested : List Char → Prop
  | nil : Nested []
  | char {c : Char} {s : List Char} : c ≠ '(' → c ≠ ')' → Nested s → Nested (c :: s)
  | group {inner s : List Char} : Nested inner → Nested s → Nested ('(' :: inner ++ ')' :: s)

/-- No separator and no BETWEEN begins with this character behind a blank. -/
def isCalm (c : Char) : Bool := c != 'A' && c != 'O' && c != 'B'

/-- Outside its parentheses the text holds no conjunction, whatever stands behind it. -/
inductive Plain : List Char → Prop
  | nil : Plain []
  | char {c : Char} {s : List Char} : c ≠ ' ' → c ≠ '(' → c ≠ ')' → Plain s → Plain (c :: s)
  | blank {c : Char} {s : List Char} : isCalm c = true → Plain (c :: s) → Plain (' ' :: c :: s)
  | group {inner s : List Char} : Nested inner → Plain s → Plain ('(' :: inner ++ ')' :: s)

theorem plain_word {s : List Char} (h : ∀ c ∈ s, c ≠ ' ' ∧ c ≠ '(' ∧ c ≠ ')') : Plain s := by
  induction s with
  | nil => exact .nil
  | cons c rest ih =>
    obtain ⟨hblank, hopen, hclose⟩ := h c List.mem_cons_self
    exact .char hblank hopen hclose (ih fun d hd => h d (List.mem_cons_of_mem _ hd))

theorem Plain.append {s t : List Char} (hs : Plain s) (ht : Plain t) : Plain (s ++ t) := by
  induction hs with
  | nil => exact ht
  | char hblank hopen hclose _ ih => exact .char hblank hopen hclose ih
  | blank hc _ ih => exact .blank hc ih
  | group hinner _ ih =>
    rw [List.append_assoc, List.cons_append]
    exact .group hinner ih

/-- Nothing but words stands in the text, and none of them is a conjunction or BETWEEN,
even when `next` follows. -/
def steady (next : Char) : List Char → Bool
  | [] => true
  | c :: s => c != '(' && c != ')' && (c != ' ' || isCalm (s.headD next)) && steady next s

/-- A steady text stands before a plain one. Before nothing it must bear any word. -/
theorem plain_steady_append {s t : List Char} (hs : steady (t.headD 'A') s = true)
    (ht : Plain t) : Plain (s ++ t) := by
  induction s with
  | nil => exact ht
  | cons c rest ih =>
    simp only [steady, Bool.and_eq_true, bne_iff_ne, ne_eq, Bool.or_eq_true] at hs
    obtain ⟨⟨⟨hopen, hclose⟩, hcalm⟩, hrest⟩ := hs
    have hplain := ih hrest
    by_cases hblank : c = ' '
    · subst hblank
      have hhead := hcalm.resolve_left (fun h => h rfl)
      cases rest with
      | cons d more => exact .blank hhead hplain
      | nil =>
        -- the last blank looks at what follows the text
        cases t with
        | cons d more => exact .blank hhead hplain
        | nil => cases hhead
    · exact .char hblank hopen hclose hplain

theorem plain_of_steady {s : List Char} (hs : steady 'A' s = true) : Plain s := by
  have hplain : Plain (s ++ []) := plain_steady_append hs .nil
  rwa [List.append_nil] at hplain

theorem Nested.append {s t : List Char} (hs : Nested s) (ht : Nested t) : Nested (s ++ t) := by
  induction hs with
  | nil => exact ht
  | char hopen hclose _ ih => exact .char hopen hclose ih
  | group hinner _ _ ih =>
    rw [List.append_assoc, List.cons_append]
    exact .group hinner ih

theorem nested_flat {s : List Char} (h : ∀ c ∈ s, c ≠ '(' ∧ c ≠ ')') : Nested s := by
  induction s with
  | nil => exact .nil
  | cons c rest ih =>
    obtain ⟨hopen, hclose⟩ := h c List.mem_cons_self
    exact .char hopen hclose (ih fun d hd => h d (List.mem_cons_of_mem _ hd))

theorem nested_intercalate {separator : List Char} (hs : Nested separator)
    {texts : List (List Char)} (h : ∀ t ∈ texts, Nested t) :
    Nested (separator.intercalate texts) := by
  induction texts with
  | nil => exact .nil
  | cons s rest ih =>
    have hhead := h s List.mem_cons_self
    have htail := ih fun t ht => h t (List.mem_cons_of_mem _ ht)
    cases rest with
    | nil => rwa [List.intercalate_singleton]
    | cons next more =>
      rw [List.intercalate_cons_cons, List.append_assoc]
      exact hhead.append (hs.append htail)

theorem Plain.nested {s : List Char} (h : Plain s) : Nested s := by
  induction h with
  | nil => exact .nil
  | char _ hopen hclose _ ih => exact .char hopen hclose ih
  | blank _ _ ih => exact .char (by decide) (by decide) ih
  | group hinner _ ih => exact .group hinner ih

/-! ## Plain texts under the splitter -/

theorem Split.prepend_prepend (s t : List Char) (r : Split) :
    (r.prepend t).prepend s = r.prepend (s ++ t) := by
  simp [Split.prepend]

theorem wordAhead?_of_isCalm {c : Char} (h : isCalm c = true) (s : List Char) :
    wordAhead? (c :: s) = none := by
  unfold wordAhead?
  split
  · rename_i hc
    cases hc
    cases h
  · rename_i hc
    cases hc
    cases h
  · rfl

theorem betweenAhead_of_isCalm {c : Char} (h : isCalm c = true) (s : List Char) :
    betweenAhead (c :: s) = false := by
  unfold betweenAhead
  split
  · rename_i hc
    cases hc
    cases h
  · rfl

/-- A character that separates nothing stands before what follows it. -/
theorem splitFrom_cons {ranges : Bool} {depth : Nat} {waiting : Bool} {c : Char} {s : List Char}
    (h : separator? depth waiting c s = none) :
    splitFrom ranges depth waiting 0 (c :: s) =
      (splitFrom ranges (deeper depth c) (waits ranges depth waiting c s) 0 s).prepend [c] := by
  rw [splitFrom]
  simp only [h]

/-- Nothing inside parentheses is a separator. -/
theorem splitFrom_nested {s : List Char} (h : Nested s) (ranges : Bool) (depth : Nat)
    (waiting : Bool) (rest : List Char) :
    splitFrom ranges (depth + 1) waiting 0 (s ++ rest) =
      (splitFrom ranges (depth + 1) waiting 0 rest).prepend s := by
  have hstep : ∀ (d : Nat) (c : Char) (t : List Char),
      splitFrom ranges (d + 1) waiting 0 (c :: t) =
        (splitFrom ranges (deeper (d + 1) c) waiting 0 t).prepend [c] := by
    intro d c t
    rw [splitFrom_cons (by simp [separator?])]
    simp [waits]
  induction h generalizing depth rest with
  | nil => simp [Split.prepend]
  | @char c s hopen hclose _ ih =>
    rw [List.cons_append, hstep]
    simp only [deeper, hopen, hclose, if_false]
    rw [ih, Split.prepend_prepend]
    rfl
  | @group inner s _ _ ihInner ih =>
    rw [List.append_assoc, List.cons_append, List.cons_append, hstep]
    simp only [deeper, if_true]
    rw [ihInner, hstep]
    simp only [deeper, Char.reduceEq, if_false, if_true, Nat.add_sub_cancel]
    rw [ih]
    simp only [Split.prepend_prepend]
    simp

/-- A plain text is no more than the beginning of the first part. -/
theorem splitFrom_plain {s : List Char} (h : Plain s) (ranges waiting : Bool) (rest : List Char) :
    splitFrom ranges 0 waiting 0 (s ++ rest) =
      (splitFrom ranges 0 waiting 0 rest).prepend s := by
  have hstep : ∀ (c : Char) (t : List Char), c ≠ ' ' →
      splitFrom ranges 0 waiting 0 (c :: t) =
        (splitFrom ranges (deeper 0 c) waiting 0 t).prepend [c] := by
    intro c t hc
    rw [splitFrom_cons (by simp [separator?, hc])]
    simp [waits, hc]
  induction h with
  | nil => simp [Split.prepend]
  | @char c s hblank hopen hclose _ ih =>
    rw [List.cons_append, hstep c _ hblank]
    simp only [deeper, hopen, hclose, if_false]
    rw [ih, Split.prepend_prepend]
    rfl
  | @blank c s hc _ ih =>
    have hword := wordAhead?_of_isCalm hc (s ++ rest)
    have hbetween := betweenAhead_of_isCalm hc (s ++ rest)
    have hwaits : waits ranges 0 waiting ' ' (c :: (s ++ rest)) = waiting := by
      simp [waits, hbetween, hword]
    rw [List.cons_append, List.cons_append, splitFrom_cons (by simp [separator?, hword]), hwaits]
    simp only [deeper, Char.reduceEq, if_false]
    rw [← List.cons_append, ih, Split.prepend_prepend]
    rfl
  | @group inner s hinner _ ih =>
    have hclosed : splitFrom ranges 1 waiting 0 (')' :: (s ++ rest)) =
        (splitFrom ranges 0 waiting 0 (s ++ rest)).prepend [')'] := by
      rw [splitFrom_cons (by simp [separator?])]
      simp [deeper, waits]
    rw [List.append_assoc, List.cons_append, List.cons_append, hstep _ _ (by decide)]
    simp only [deeper, if_true]
    rw [splitFrom_nested hinner, hclosed, ih]
    simp only [Split.prepend_prepend]
    simp

theorem splitFrom_plain_end {s : List Char} (h : Plain s) (ranges waiting : Bool) :
    splitFrom ranges 0 waiting 0 s = ⟨s, []⟩ := by
  have hs := splitFrom_plain h ranges waiting []
  rw [List.append_nil] at hs
  rw [hs]
  simp [splitFrom, Split.prepend]

/-- A conjunction between blanks ends the part before it. -/
theorem splitFrom_separator (ranges : Bool) (k : Conjunction) (rest : List Char) :
    splitFrom ranges 0 false 0 ((s!" {k.word} ").toList ++ rest) =
      (splitFrom ranges 0 false 0 rest).separated k := by
  cases k with
  | and => rfl
  | or => rfl

/-- Plain texts with one conjunction between them are split where they were joined. -/
theorem splitFrom_intercalate (ranges : Bool) (k : Conjunction) {s : List Char}
    {others : List (List Char)} (h : ∀ t ∈ s :: others, Plain t) :
    splitFrom ranges 0 false 0 ((s!" {k.word} ").toList.intercalate (s :: others)) =
      ⟨s, others.map (k, ·)⟩ := by
  induction others generalizing s with
  | nil =>
    rw [List.intercalate_singleton, splitFrom_plain_end (h s List.mem_cons_self)]
    rfl
  | cons next more ih =>
    rw [List.intercalate_cons_cons, List.append_assoc, splitFrom_plain (h s List.mem_cons_self),
      splitFrom_separator, ih fun t ht => h t (List.mem_cons_of_mem _ ht)]
    simp [Split.prepend, Split.separated]

theorem pieces_intercalate (k : Conjunction) {texts : List (List Char)} (hne : texts ≠ [])
    (h : ∀ t ∈ texts, Plain t) :
    pieces ((s!" {k.word} ").toList.intercalate texts) = texts := by
  cases texts with
  | nil => exact absurd rfl hne
  | cons s others =>
    unfold pieces split
    rw [splitFrom_intercalate false k h]
    simp [Function.comp_def]

theorem separators_intercalate (k : Conjunction) {texts : List (List Char)} (hne : texts ≠ [])
    (h : ∀ t ∈ texts, Plain t) :
    separators ((s!" {k.word} ").toList.intercalate texts) =
      List.replicate (texts.length - 1) k := by
  cases texts with
  | nil => exact absurd rfl hne
  | cons s others =>
    unfold separators split
    rw [splitFrom_intercalate false k h]
    simp [Function.comp_def, List.map_const']

theorem separators_plain {s : List Char} (h : Plain s) : separators s = [] := by
  have hone : ∀ t ∈ [s], Plain t := List.forall_mem_singleton.2 h
  have hs := separators_intercalate .and (List.cons_ne_nil s []) hone
  rwa [List.intercalate_singleton] at hs

/-! ## The truth of plain texts -/

theorem insideFrom?_nested {s : List Char} (h : Nested s) (depth : Nat) (rest : List Char) :
    insideFrom? depth (s ++ rest) = (insideFrom? depth rest).map (s ++ ·) := by
  induction h generalizing depth rest with
  | nil => simp
  | @char c s hopen hclose _ ih =>
    rw [List.cons_append, insideFrom?]
    simp only [hclose, and_false, if_false, deeper, hopen]
    rw [ih, Option.map_map]
    rfl
  | @group inner s _ _ ihInner ih =>
    rw [List.append_assoc, List.cons_append, List.cons_append, insideFrom?]
    simp only [Char.reduceEq, and_false, if_false, deeper, if_true]
    rw [ihInner, insideFrom?]
    simp only [Nat.add_eq_zero_iff, Nat.one_ne_zero, and_false, false_and, if_false, deeper,
      Char.reduceEq, if_true, Nat.add_sub_cancel]
    rw [ih]
    simp [Option.map_map, Function.comp_def]

theorem inside?_parens {s : List Char} (h : Nested s) : inside? ('(' :: s ++ [')']) = some s := by
  show insideFrom? 0 (s ++ [')']) = some s
  rw [insideFrom?_nested h]
  simp [insideFrom?]

theorem length_of_insideFrom? {depth : Nat} {s t : List Char} (h : insideFrom? depth s = some t) :
    t.length < s.length := by
  induction s generalizing depth t with
  | nil => cases h
  | cons c rest ih =>
    rw [insideFrom?] at h
    split at h
    · split at h
      · cases h
        exact Nat.succ_pos _
      · cases h
    · obtain ⟨u, hu, rfl⟩ := Option.map_eq_some_iff.1 h
      exact Nat.succ_lt_succ (ih hu)

theorem length_of_inside? {s t : List Char} (h : inside? s = some t) : t.length < s.length := by
  unfold inside? at h
  split at h
  · exact Nat.lt_succ_of_lt (length_of_insideFrom? h)
  · cases h

/-- No part is longer than the text that it was split from. -/
theorem length_of_splitFrom (ranges : Bool) (depth : Nat) (waiting : Bool) (skip : Nat)
    (s : List Char) :
    (splitFrom ranges depth waiting skip s).first.length ≤ s.length ∧
      ∀ e ∈ (splitFrom ranges depth waiting skip s).others, e.2.length ≤ s.length := by
  induction s generalizing depth waiting skip with
  | nil => simp [splitFrom]
  | cons c rest ih =>
    cases skip with
    | succ skip =>
      obtain ⟨hfirst, hothers⟩ := ih depth waiting skip
      exact ⟨Nat.le_succ_of_le hfirst, fun e he => Nat.le_succ_of_le (hothers e he)⟩
    | zero =>
      rw [splitFrom]
      split
      · rename_i k _
        obtain ⟨hfirst, hothers⟩ := ih 0 false (k.word.length + 1)
        refine ⟨Nat.zero_le _, fun e he => ?_⟩
        rcases List.mem_cons.1 he with rfl | he
        · exact Nat.le_succ_of_le hfirst
        · exact Nat.le_succ_of_le (hothers e he)
      · obtain ⟨hfirst, hothers⟩ := ih (deeper depth c) (waits ranges depth waiting c rest) 0
        exact ⟨Nat.succ_le_succ hfirst, fun e he => Nat.le_succ_of_le (hothers e he)⟩

variable {val : List Char → Bool}

/-- The truth of one part: what is in its parentheses, or a single condition. -/
def truthOfPart (val : List Char → Bool) (fuel : Nat) (piece : List Char) : Bool :=
  match inside? piece with
  | some t => truthWithin val fuel t
  | none => val piece

theorem truthWithin_succ (fuel : Nat) (s : List Char) :
    truthWithin val (fuel + 1) s =
      disjunction (truthOfPart val fuel (splitFrom true 0 false 0 s).first)
        ((splitFrom true 0 false 0 s).others.map fun e => (e.1, truthOfPart val fuel e.2)) :=
  rfl

/-- Every text is read to the end when the fuel is more than its length. -/
theorem truthWithin_eq {fuel more : Nat} {s : List Char} (h : s.length < fuel)
    (h' : s.length < more) : truthWithin val fuel s = truthWithin val more s := by
  induction fuel generalizing more s with
  | zero => exact absurd h (Nat.not_lt_zero _)
  | succ fuel ih =>
    cases more with
    | zero => exact absurd h' (Nat.not_lt_zero _)
    | succ more =>
      have hpart : ∀ piece : List Char, piece.length ≤ s.length →
          truthOfPart val fuel piece = truthOfPart val more piece := by
        intro piece hlength
        -- what stands in parentheses is shorter than the part, so it is covered by both
        unfold truthOfPart
        split
        · rename_i t ht
          have hshorter := length_of_inside? ht
          exact ih (by omega) (by omega)
        · rfl
      obtain ⟨hfirst, hothers⟩ := length_of_splitFrom true 0 false 0 s
      rw [truthWithin_succ, truthWithin_succ, hpart _ hfirst]
      congr 1
      exact List.map_congr_left fun e he => by rw [hpart _ (hothers e he)]

/-- A plain text is one part. -/
theorem truth_plain {s : List Char} (h : Plain s) : truth val s = truthOfPart val s.length s := by
  unfold truth
  rw [truthWithin_succ, splitFrom_plain_end h]
  rfl

theorem truthOfPart_eq {s : List Char} (h : Plain s) {fuel : Nat} (hfuel : s.length ≤ fuel) :
    truthOfPart val fuel s = truth val s := by
  rw [truth_plain h]
  unfold truthOfPart
  split
  · rename_i t ht
    have hshorter := length_of_inside? ht
    exact truthWithin_eq (by omega) hshorter
  · rfl

/-- The truth of a text in parentheses is that of the text. -/
theorem truth_parens {s : List Char} (h : Nested s) :
    truth val ('(' :: s ++ [')']) = truth val s := by
  have hplain : Plain ('(' :: s ++ [')']) := .group h .nil
  rw [truth_plain hplain]
  unfold truthOfPart
  rw [inside?_parens h]
  have hlength : s.length < ('(' :: s ++ [')']).length := by
    simp only [List.cons_append, List.length_cons, List.length_append]
    omega
  exact truthWithin_eq hlength (Nat.lt_succ_self _)

theorem disjunction_same (k : Conjunction) (value : Bool) (values : List Bool) :
    disjunction value (values.map (k, ·)) = k.holds (value :: values) := by
  induction values generalizing value with
  | nil => cases k <;> simp [disjunction, Conjunction.holds]
  | cons next rest ih =>
    cases k with
    | and =>
      rw [List.map_cons, disjunction, ih]
      simp [Conjunction.holds, Bool.and_assoc]
    | or =>
      rw [List.map_cons, disjunction, ih]
      simp [Conjunction.holds]

/-- Plain texts with one conjunction between them say what the conjunction makes of
their truths. -/
theorem truth_intercalate (k : Conjunction) {texts : List (List Char)} (hne : texts ≠ [])
    (h : ∀ t ∈ texts, Plain t) :
    truth val ((s!" {k.word} ").toList.intercalate texts) = k.holds (texts.map (truth val)) := by
  cases texts with
  | nil => exact absurd rfl hne
  | cons s others =>
    have hsplit := splitFrom_intercalate true k h
    obtain ⟨hfirst, hothers⟩ := length_of_splitFrom true 0 false 0
      ((s!" {k.word} ").toList.intercalate (s :: others))
    rw [hsplit] at hfirst hothers
    unfold truth
    rw [truthWithin_succ, hsplit, truthOfPart_eq (h s List.mem_cons_self) hfirst, List.map_map]
    have hvalues : others.map ((fun e => (e.1, truthOfPart val
          ((s!" {k.word} ").toList.intercalate (s :: others)).length e.2)) ∘ (k, ·)) =
        (others.map (truth val)).map (k, ·) := by
      rw [List.map_map]
      refine List.map_congr_left fun t ht => ?_
      have hlength := hothers (k, t) (List.mem_map_of_mem ht)
      exact congrArg (k, ·) (truthOfPart_eq (h t (List.mem_cons_of_mem _ ht)) hlength)
    rw [hvalues, disjunction_same]
    rfl

end Precedence
end StructuredSql
