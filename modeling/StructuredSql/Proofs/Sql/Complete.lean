-- SQL texts in which nothing is missing. A reader goes through the text once and holds
-- whether something is owed: behind a keyword, an opening parenthesis or a comma an operand
-- must come, and until it has come neither a keyword that goes on nor a closing parenthesis
-- nor another comma nor the end may stand there.
import StructuredSql.Dialect
import StructuredSql.Proofs.Build.Results
import StructuredSql.Proofs.Column.Listed
import StructuredSql.Proofs.Text.Numeral
import Mathlib.Data.List.Forall2

namespace StructuredSql.Complete

/-! ## The reader -/

/-- The keywords behind which an operand must stand. -/
def opening : List (List Char) :=
  ["SELECT", "DISTINCT", "FROM", "JOIN", "USING", "ON", "AS", "WHERE", "AND", "OR", "IN", "LIKE",
    "BETWEEN", "REGEXP", "MATCH", "AGAINST", "BY", "FIELD", "HAVING", "LIMIT", "OFFSET", "EXISTS",
    "INTO", "VALUES", "UPDATE", "SET"].map String.toList

/-- The keywords that go on behind an operand. -/
def following : List (List Char) :=
  ["FROM", "LEFT", "RIGHT", "FULL", "INNER", "JOIN", "USING", "ON", "AS", "WHERE", "AND", "OR",
    "IN", "LIKE", "BETWEEN", "REGEXP", "AGAINST", "GROUP", "HAVING", "ORDER", "LIMIT", "OFFSET",
    "VALUES", "SET"].map String.toList

/-- Where the reader stands. -/
inductive State
  /-- Between two words or signs, with an operand owed or not. -/
  | between (owed : Bool)
  /-- In a word, which has been read in reverse. -/
  | word (owed : Bool) (read : List Char)
  /-- In double quotes. -/
  | name
  /-- In single quotes. -/
  | literal
  /-- Behind a backslash in single quotes. -/
  | escaped
deriving DecidableEq

/-- What is owed behind a word, if the word may stand where it stands. -/
def owedBehind (owed : Bool) (word : List Char) : Option Bool :=
  if owed && following.contains word then none else some (opening.contains word)

/-- A character outside words and quotes. -/
def separator (owed : Bool) (c : Char) : Option State :=
  if c = '(' then some (.between true)
  else if c = ',' ∨ c = ')' then if owed then none else some (.between (c = ','))
  else if c = '"' then some .name
  else if c = '\'' then some .literal
  else if c = ' ' then some (.between owed)
  else some (.between false)

/-- One character read. The text breaks off where something is missing. -/
def step (escapes : Bool) : State → Char → Option State
  | .between owed, c => if Text.isNumeral c then some (.word owed [c]) else separator owed c
  | .word owed read, c =>
    if Text.isNumeral c then some (.word owed (c :: read))
    else (owedBehind owed read.reverse).bind (separator · c)
  | .name, c => some (if c = '"' then .between false else .name)
  | .literal, c =>
    some (if c = '\'' then .between false else if escapes && c = '\\' then .escaped else .literal)
  | .escaped, _ => some .literal

def run (escapes : Bool) (state : State) (t : List Char) : Option State :=
  t.foldlM (step escapes) state

/-- Nothing is owed, and no quote is open. -/
def State.settled : State → Bool
  | between owed => !owed
  | word owed read => owedBehind owed read.reverse == some false
  | _ => false

/-- Nothing is missing in the text, read on from the state. -/
def reads (escapes : Bool) (state : State) (t : List Char) : Bool :=
  (run escapes state t).any State.settled

/-- Nothing is missing in the text, in whose place a statement is owed. In literals of one
dialect a backslash escapes. -/
def isComplete (d : Dialect) (sql : String) : Bool :=
  reads (d = .mysql) (.between true) sql.toList

variable {escapes : Bool}

theorem reads_append (state : State) (t s : List Char) :
    reads escapes state (t ++ s) = (run escapes state t).any (reads escapes · s) := by
  unfold reads run
  rw [List.foldlM_append]
  cases List.foldlM (step escapes) state t <;> rfl

example : isComplete .pgsql "SELECT \"a\" FROM \"t\" WHERE (\"a\" = :p0 OR \"b\" IS NULL)" := by
  decide

example : isComplete .pgsql "SELECT \"a\" FROM \"t\" WHERE ()" = false := by decide

example : isComplete .pgsql "SELECT \"a\", FROM \"t\"" = false := by decide

/-! ## Runs over parts of a text -/

theorem reads_of_run {state next : State} {t : List Char} (h : run escapes state t = some next)
    (s : List Char) : reads escapes state (t ++ s) = reads escapes next s := by
  rw [reads_append, h]
  rfl

theorem reads_of_broken {state : State} {t : List Char} (h : run escapes state t = none)
    (s : List Char) : reads escapes state (t ++ s) = false := by
  rw [reads_append, h]
  rfl

/-- The text does not go on with a word. -/
def Detached : List Char → Prop
  | [] => True
  | c :: _ => Text.isNumeral c = false

instance : (s : List Char) → Decidable (Detached s)
  | [] => isTrue trivial
  | c :: _ => inferInstanceAs (Decidable (Text.isNumeral c = false))

/-- A word counts when it ends. -/
theorem reads_word_end {s : List Char} (hs : Detached s) (owed : Bool) (read : List Char) :
    reads escapes (.word owed read) s =
      (owedBehind owed read.reverse).any fun owed => reads escapes (.between owed) s := by
  cases s with
  | nil =>
    show (owedBehind owed read.reverse == some false) = _
    cases owedBehind owed read.reverse with
    | none => rfl
    | some owed => cases owed <;> rfl
  | cons c s =>
    have hc : Text.isNumeral c = false := hs
    unfold reads run
    rw [List.foldlM_cons, step, hc]
    cases owedBehind owed read.reverse with
    | none => rfl
    | some owed =>
      simp only [Option.any_some, List.foldlM_cons, step, hc]
      rfl

theorem run_word {w : List Char} (hw : Text.Numeral w) (owed : Bool) (read : List Char) :
    run escapes (.word owed read) w = some (.word owed (w.reverse ++ read)) := by
  induction w generalizing read with
  | nil => rfl
  | cons c w ih =>
    obtain ⟨hc, hw⟩ := List.forall_mem_cons.1 hw
    unfold run at ih ⊢
    rw [List.foldlM_cons, step, hc]
    show List.foldlM (step escapes) (.word owed (c :: read)) w = _
    rw [ih hw]
    simp

theorem reads_word {w : List Char} (hw : Text.Numeral w) (hne : w ≠ []) {s : List Char}
    (hs : Detached s) (owed : Bool) : reads escapes (.between owed) (w ++ s) =
      (owedBehind owed w).any fun owed => reads escapes (.between owed) s := by
  cases w with
  | nil => exact absurd rfl hne
  | cons c w =>
    obtain ⟨hc, hw⟩ := List.forall_mem_cons.1 hw
    have hrun : run escapes (.between owed) (c :: w) = some (.word owed (w.reverse ++ [c])) := by
      rw [run, List.foldlM_cons, step, if_pos hc]
      exact run_word hw owed [c]
    rw [reads_of_run hrun, reads_word_end hs]
    simp

/-! ### Words that are no keywords -/

def Ordinary (w : List Char) : Prop := w ∉ opening ∧ w ∉ following

instance (w : List Char) : Decidable (Ordinary w) :=
  inferInstanceAs (Decidable (w ∉ opening ∧ w ∉ following))

theorem owedBehind_ordinary {w : List Char} (h : Ordinary w) (owed : Bool) :
    owedBehind owed w = some false := by
  have ho : opening.contains w = false := by simpa using h.1
  have hf : following.contains w = false := by simpa using h.2
  rw [owedBehind, ho, hf, Bool.and_false]
  rfl

/-- A word is no keyword when its characters pass a test that every keyword fails. -/
theorem ordinary_of_test {test : Char → Bool} (hk : ∀ k ∈ opening ++ following, k.all test = false)
    {w : List Char} (h : ∀ c ∈ w, test c = true) : Ordinary w := by
  have hw : w ∉ opening ++ following := fun hw =>
    absurd (List.all_eq_true.2 h) (by simp [hk w hw])
  simpa [Ordinary] using hw

/-! ## Operands -/

/-- The text is an operand: behind it nothing is owed. -/
def Operand (escapes : Bool) (t : List Char) : Prop := ∀ owed s, Detached s →
  reads escapes (.between owed) (t ++ s) = reads escapes (.between false) s

theorem operand_word {w : List Char} (hw : Text.Numeral w) (hne : w ≠ []) (ho : Ordinary w) :
    Operand escapes w := by
  intro owed s hs
  rw [reads_word hw hne hs, owedBehind_ordinary ho, Option.any_some]

/-- A number that is written as text. -/
theorem operand_figures {w : List Char} (h : Text.Figures w) : Operand escapes w :=
  operand_word h.numeral h.ne_nil (ordinary_of_test (by decide) h.all)

theorem run_name {t : List Char} (h : '"' ∉ t) : run escapes .name t = some .name := by
  induction t with
  | nil => rfl
  | cons c t ih =>
    obtain ⟨hc, ht⟩ : '"' ≠ c ∧ '"' ∉ t := by simpa using h
    unfold run at ih ⊢
    rw [List.foldlM_cons, step, if_neg hc.symm]
    exact ih ht

theorem run_append (state : State) (t s : List Char) :
    run escapes state (t ++ s) = (run escapes state t).bind fun state => run escapes state s :=
  List.foldlM_append ..

theorem operand_of_run {t : List Char}
    (h : ∀ owed, run escapes (.between owed) t = some (.between false)) : Operand escapes t :=
  fun owed s _ => reads_of_run (h owed) s

/-- The text opens a quote, and at its end no quote is open. -/
def Named (escapes : Bool) (t : List Char) : Prop :=
  ∃ u, t = '"' :: u ∧ run escapes .name u = some (.between false)

theorem named_quoted {t : List Char} (h : '"' ∉ t) : Named escapes ('"' :: (t ++ ['"'])) := by
  refine ⟨t ++ ['"'], rfl, ?_⟩
  rw [run_append, run_name h, Option.bind_some]
  rfl

theorem Named.run {t : List Char} (h : Named escapes t) (owed : Bool) :
    Complete.run escapes (.between owed) t = some (.between false) := by
  obtain ⟨u, rfl, hu⟩ := h
  have hopen : Complete.run escapes (.between owed) ['"'] = some .name := rfl
  show Complete.run escapes (.between owed) (['"'] ++ u) = _
  rw [run_append, hopen, Option.bind_some, hu]

theorem Named.operand {t : List Char} (h : Named escapes t) : Operand escapes t :=
  operand_of_run h.run

/-- Two names with a point between them are a name. -/
theorem Named.point {a b : List Char} (ha : Named escapes a) (hb : Named escapes b) :
    Named escapes (a ++ '.' :: b) := by
  obtain ⟨u, rfl, hu⟩ := ha
  obtain ⟨v, rfl, hv⟩ := hb
  have hpoint : Complete.run escapes (.between false) ['.', '"'] = some .name := rfl
  refine ⟨u ++ (['.', '"'] ++ v), by simp, ?_⟩
  rw [run_append, hu, Option.bind_some, run_append, hpoint, Option.bind_some, hv]

/-- All columns of what is named. -/
theorem Named.starred {t : List Char} (h : Named escapes t) :
    Operand escapes (t ++ ".*".toList) := by
  have hstar : Complete.run escapes (.between false) ".*".toList = some (.between false) := rfl
  refine operand_of_run fun owed => ?_
  rw [run_append, h.run, Option.bind_some, hstar]

/-- The text begins with no word, and what it owes in the end is known. -/
def Leads (t : List Char) (owed : Bool) : Prop :=
  t ≠ [] ∧ Detached t ∧ ∀ escapes, run escapes (.between false) t = some (.between owed)

instance (t : List Char) (owed : Bool) : Decidable (Leads t owed) :=
  inferInstanceAs (Decidable (t ≠ [] ∧ Detached t ∧ ∀ escapes,
    run escapes (.between false) t = some (.between owed)))

theorem Leads.detached {t : List Char} {owed : Bool} (h : Leads t owed) (s : List Char) :
    Detached (t ++ s) := by
  obtain ⟨hne, hdetached, -⟩ := h
  cases t with
  | nil => exact absurd rfl hne
  | cons c t => exact hdetached

theorem Leads.reads {t : List Char} {owed : Bool} (h : Leads t owed) (s : List Char) :
    reads escapes (.between false) (t ++ s) = reads escapes (.between owed) s :=
  reads_of_run (h.2.2 escapes) s

/-- A text that leads from one operand to another, whether that is owed or not. -/
def Links (t : List Char) : Prop := Leads t true ∨ Leads t false

instance (t : List Char) : Decidable (Links t) :=
  inferInstanceAs (Decidable (Leads t true ∨ Leads t false))

theorem Operand.link {a b t : List Char} (ha : Operand escapes a) (ht : Links t)
    (hb : Operand escapes b) : Operand escapes (a ++ (t ++ b)) := by
  have hlink : ∀ {owed}, Leads t owed → Operand escapes (a ++ (t ++ b)) := by
    intro owed ht owed' s hs
    rw [List.append_assoc, List.append_assoc, ha _ _ (ht.detached _), ht.reads, hb _ _ hs]
  rcases ht with ht | ht
  · exact hlink ht
  · exact hlink ht

theorem reads_settled {state : State} (h : state.settled = true) {s : List Char}
    (hs : Detached s) : reads escapes state s = reads escapes (.between false) s := by
  cases state with
  | between owed =>
    have howed : owed = false := by simpa [State.settled] using h
    rw [howed]
  | word owed read =>
    have hword : owedBehind owed read.reverse = some false := eq_of_beq h
    rw [reads_word_end hs, hword, Option.any_some]
  | _ => cases h

/-- A text behind an operand, with which nothing is owed again. -/
def Ends (t : List Char) : Prop :=
  t ≠ [] ∧ Detached t ∧ ∀ escapes, reads escapes (.between false) t = true

instance (t : List Char) : Decidable (Ends t) :=
  inferInstanceAs (Decidable (t ≠ [] ∧ Detached t ∧ ∀ escapes,
    reads escapes (.between false) t = true))

theorem Operand.trail {a t : List Char} (ha : Operand escapes a) (ht : Ends t) :
    Operand escapes (a ++ t) := by
  intro owed s hs
  obtain ⟨hne, hdetached, hreads⟩ := ht
  have hbehind : Detached (t ++ s) := by
    cases t with
    | nil => exact absurd rfl hne
    | cons c t => exact hdetached
  have hread := hreads escapes
  rw [List.append_assoc, ha _ _ hbehind, reads_append]
  unfold reads at hread
  cases hrun : run escapes (.between false) t with
  | none => simp [hrun] at hread
  | some state => exact reads_settled (by simpa [hrun] using hread) hs

/-- A text that leads on to an operand and that operand. -/
theorem ends_operand {t w : List Char} {owed : Bool} (ht : Leads t owed)
    (hw : ∀ escapes, Operand escapes w) : Ends (t ++ w) := by
  refine ⟨by simp [ht.1], ht.detached w, fun escapes => ?_⟩
  have hread := hw escapes owed [] trivial
  rw [List.append_nil] at hread
  rw [ht.reads, hread]
  rfl

/-! ## Lists and groups -/

/-- What may stand behind an operand that is there, and not in the place of one. -/
def Behind (escapes : Bool) (s : List Char) : Prop :=
  Detached s ∧ reads escapes (.between true) s = false

theorem behind_nil : Behind escapes [] := ⟨trivial, rfl⟩

/-- In the place of an operand the text is complete or something is missing in it. -/
def Fits (escapes : Bool) (complete : Bool) (t : List Char) : Prop := ∀ s, Behind escapes s →
  reads escapes (.between true) (t ++ s) = (complete && reads escapes (.between false) s)

theorem Operand.fits {t : List Char} (h : Operand escapes t) : Fits escapes true t := by
  intro s hs
  rw [h true s hs.1, Bool.true_and]

/-- In the place of an operand there is nothing. -/
theorem fits_nil : Fits escapes false [] := fun _ hs => hs.2

/-- A text between two operands, of which the second is owed. -/
def Joins (t : List Char) : Prop :=
  Leads t true ∧ ∀ escapes, run escapes (.between true) t = none

instance (t : List Char) : Decidable (Joins t) :=
  inferInstanceAs (Decidable (Leads t true ∧ ∀ escapes, run escapes (.between true) t = none))

theorem Joins.behind {t : List Char} (h : Joins t) (s : List Char) : Behind escapes (t ++ s) :=
  ⟨h.1.detached s, reads_of_broken (h.2 escapes) s⟩

theorem Fits.join {b c : Bool} {x y t : List Char} (hx : Fits escapes b x) (ht : Joins t)
    (hy : Fits escapes c y) : Fits escapes (b && c) (x ++ (t ++ y)) := by
  intro s hs
  rw [List.append_assoc, List.append_assoc, hx _ (ht.behind _), ht.1.reads, hy s hs,
    Bool.and_assoc]

/-- A list is complete when it has an item and all its items are complete. -/
theorem fits_intercalate {t : List Char} (ht : Joins t) {bs : List Bool} {xs : List (List Char)}
    (h : List.Forall₂ (Fits escapes) bs xs) :
    Fits escapes (!bs.isEmpty && bs.all id) (t.intercalate xs) := by
  induction h with
  | nil => exact fits_nil
  | @cons b x bs xs hx hxs ih =>
    cases hxs with
    | nil => simpa using hx
    | @cons c y bs xs hy hys =>
      rw [List.intercalate_cons_cons]
      simpa using hx.join ht ih

/-- A text behind an operand that opens a group. -/
theorem Fits.enclosed {b : Bool} {t : List Char} (h : Fits escapes b t) (s : List Char) :
    reads escapes (.between true) (t ++ ')' :: s) = (b && reads escapes (.between false) s) := by
  have hclose : run escapes (.between false) [')'] = some (.between false) := rfl
  have hbroken : run escapes (.between true) [')'] = none := rfl
  have hbehind : Behind escapes (')' :: s) := ⟨rfl, reads_of_broken hbroken s⟩
  rw [h _ hbehind]
  exact congrArg _ (reads_of_run hclose s)

/-- A text in the place of an operand, behind which the operand is still owed. -/
def Continues (t : List Char) : Prop :=
  ∀ escapes, run escapes (.between true) t = some (.between true)

instance (t : List Char) : Decidable (Continues t) :=
  inferInstanceAs (Decidable (∀ escapes, run escapes (.between true) t = some (.between true)))

theorem Fits.after {b : Bool} {t x : List Char} (ht : Continues t) (hx : Fits escapes b x) :
    Fits escapes b (t ++ x) := by
  intro s hs
  rw [List.append_assoc, reads_of_run (ht escapes), hx s hs]

/-- A group in parentheses, or a call. -/
theorem Fits.call {b : Bool} {t x : List Char} (ht : Continues t) (hx : Fits escapes b x) :
    Fits escapes b (t ++ (x ++ [')'])) := by
  intro s _
  rw [List.append_assoc, reads_of_run (ht escapes), List.append_assoc]
  exact hx.enclosed s

theorem Operand.lead {b : Bool} {a t x : List Char} (ha : Operand escapes a)
    (ht : Leads t true) (hx : Fits escapes b x) : Fits escapes b (a ++ (t ++ x)) := by
  intro s hs
  rw [List.append_assoc, List.append_assoc, ha _ _ (ht.detached _), ht.reads, hx s hs]

/-! ## Clauses -/

/-- Behind a statement that owes nothing the text is complete or something is missing in it,
and it may not stand in the place of an operand. -/
def Closes (escapes : Bool) (complete : Bool) (t : List Char) : Prop := ∀ s, Behind escapes s →
  Behind escapes (t ++ s) ∧
    reads escapes (.between false) (t ++ s) = (complete && reads escapes (.between false) s)

theorem closes_nil : Closes escapes true [] := fun _ hs => ⟨hs, (Bool.true_and _).symm⟩

theorem Closes.append {b c : Bool} {x y : List Char} (hx : Closes escapes b x)
    (hy : Closes escapes c y) : Closes escapes (b && c) (x ++ y) := by
  intro s hs
  obtain ⟨hbehind, hreads⟩ := hy s hs
  obtain ⟨hbehind', hreads'⟩ := hx _ hbehind
  rw [List.append_assoc]
  exact ⟨hbehind', by rw [hreads', hreads, Bool.and_assoc]⟩

/-- A clause is complete when its operand is. -/
theorem Fits.clause {b : Bool} {t x : List Char} (ht : Joins t) (hx : Fits escapes b x) :
    Closes escapes b (t ++ x) := by
  intro s hs
  rw [List.append_assoc]
  exact ⟨ht.behind _, by rw [ht.1.reads, hx s hs]⟩

/-- A clause whose operand is a group in parentheses. -/
theorem Fits.callClause {b : Bool} {t x : List Char} (ht : Joins t) (hx : Fits escapes b x) :
    Closes escapes b (t ++ (x ++ [')'])) := by
  intro s _
  rw [List.append_assoc]
  refine ⟨ht.behind _, ?_⟩
  rw [ht.1.reads, List.append_assoc]
  exact hx.enclosed s

theorem Fits.closing {b c : Bool} {x y : List Char} (hx : Fits escapes b x)
    (hy : Closes escapes c y) : Fits escapes (b && c) (x ++ y) := by
  intro s hs
  obtain ⟨hbehind, hreads⟩ := hy s hs
  rw [List.append_assoc, hx _ hbehind, hreads, Bool.and_assoc]

/-- A text that fits is read to its end. -/
theorem Fits.reads {b : Bool} {t : List Char} (h : Fits escapes b t) :
    Complete.reads escapes (.between true) t = b := by
  have hread := h [] behind_nil
  rw [List.append_nil] at hread
  exact hread.trans (Bool.and_true b)

/-- A clause with nothing to fill in. -/
theorem closes_text {t : List Char} (ht : Leads t false)
    (hbroken : ∀ escapes, run escapes (.between true) t = none) : Closes escapes true t :=
  fun s _ => ⟨⟨ht.detached s, reads_of_broken (hbroken escapes) s⟩, by rw [ht.reads, Bool.true_and]⟩

end StructuredSql.Complete

/-! ## Pieces -/

namespace StructuredSql.Sql

variable {escapes : Bool}

/-- The pieces are an operand under every prefix that holds no quote. -/
def IsOperand (escapes : Bool) (sql : Sql) : Prop := ∀ tablePrefix : String,
  '"' ∉ tablePrefix.toList → Complete.Operand escapes (sql.chars tablePrefix)

def Fits (escapes complete : Bool) (sql : Sql) : Prop := ∀ tablePrefix : String,
  '"' ∉ tablePrefix.toList → Complete.Fits escapes complete (sql.chars tablePrefix)

def Closes (escapes complete : Bool) (sql : Sql) : Prop := ∀ tablePrefix : String,
  '"' ∉ tablePrefix.toList → Complete.Closes escapes complete (sql.chars tablePrefix)

theorem IsOperand.fits {sql : Sql} (h : IsOperand escapes sql) : Fits escapes true sql :=
  fun p hp => (h p hp).fits

/-! ### Operands -/

/-- The pieces are a name in quotes, or several with points between them. -/
def IsNamed (escapes : Bool) (sql : Sql) : Prop := ∀ tablePrefix : String,
  '"' ∉ tablePrefix.toList → Complete.Named escapes (sql.chars tablePrefix)

theorem IsNamed.operand {sql : Sql} (h : IsNamed escapes sql) : IsOperand escapes sql :=
  fun p hp => (h p hp).operand

theorem isNamed_table {name : String} (h : Name.IsPlain name.toList) :
    IsNamed escapes [.table name] := by
  intro p hp
  have hname : '"' ∉ p.toList ++ name.toList := by
    simpa using ⟨hp, ColumnList.quote_notMem_of_isPlain h⟩
  have hnamed : Complete.Named escapes _ := Complete.named_quoted hname
  simpa using hnamed

theorem isNamed_column {name : String} (h : Name.IsPlain name.toList) :
    IsNamed escapes [.column name] := by
  intro p _
  have hnamed : Complete.Named escapes _ :=
    Complete.named_quoted (ColumnList.quote_notMem_of_isPlain h)
  simpa using hnamed

/-- A name that is qualified by a table. -/
theorem IsNamed.qualified {table : String} (ht : Name.IsPlain table.toList) {sql : Sql}
    (h : IsNamed escapes sql) : IsNamed escapes (.table table :: .text "." :: sql) := by
  intro p hp
  simpa using (isNamed_table ht p hp).point (h p hp)

theorem isNamed_columnName {c : ColumnName} (h : c.IsPlain) : IsNamed escapes c.sql := by
  unfold ColumnName.sql
  split
  · rename_i table ht
    exact (isNamed_column h.name).qualified (h.qualifier table ht)
  · exact isNamed_column h.name

theorem isOperand_column {c : ColumnName} (h : c.IsPlain) : IsOperand escapes c.sql :=
  (isNamed_columnName h).operand

theorem isOperand_placeholder {sql : Sql} (h : sql.IsPlaceholder) : IsOperand escapes sql := by
  obtain ⟨n, rfl⟩ := h
  intro p _ owed s hs
  have hdigits : ∀ c ∈ (Nat.repr n).toList, c.isDigit = true := by
    rw [Nat.toList_repr]
    exact fun c hc => Nat.isDigit_of_mem_toDigits (by decide) (by decide) hc
  have hkey : ∀ c ∈ 'p' :: (Nat.repr n).toList, (c.isDigit || c == 'p') = true :=
    List.forall_mem_cons.2 ⟨by decide, fun c hc => by simp [hdigits c hc]⟩
  have hword : Complete.Operand escapes ('p' :: (Nat.repr n).toList) :=
    Complete.operand_word ((Text.numeral_natRepr n).cons (by decide)) (by simp)
      (Complete.ordinary_of_test (by decide) hkey)
  have hcolon : Complete.run escapes (.between owed) [':'] = some (.between false) := rfl
  rw [chars_cons, chars_nil, List.append_nil, Piece.chars_placeholder]
  show Complete.reads escapes (.between owed) ([':'] ++ ('p' :: (Nat.repr n).toList ++ s)) = _
  rw [Complete.reads_of_run hcolon, hword false s hs]

theorem IsOperand.link {a b : Sql} (ha : IsOperand escapes a) {s : String}
    (hs : Complete.Links s.toList) (hb : IsOperand escapes b) :
    IsOperand escapes (a ++ .text s :: b) := by
  intro p hp
  simpa using (ha p hp).link hs (hb p hp)

theorem IsOperand.trail {a : Sql} (ha : IsOperand escapes a) {s : String}
    (hs : Complete.Ends s.toList) : IsOperand escapes (a ++ text s) := by
  intro p hp
  simpa [text] using (ha p hp).trail hs

/-- An operand that closes a group it has opened. -/
theorem IsOperand.call {a b : Sql} (ha : IsOperand escapes a) {s : String}
    (hs : Complete.Leads s.toList true) (hb : Fits escapes true b) :
    IsOperand escapes (a ++ .text s :: (b ++ text ")")) := by
  intro p hp owed t ht
  have hgroup := (hb p hp).enclosed t
  rw [Bool.true_and] at hgroup
  simp only [chars_append, chars_cons, Piece.chars_text, text, chars_nil, List.append_nil,
    List.append_assoc]
  rw [ha p hp _ _ (hs.detached _), hs.reads]
  exact hgroup

/-! ### Lists, groups and clauses -/

theorem fits_nil : Fits escapes false [] := fun p _ => by
  simpa using Complete.fits_nil

theorem fits_joinWith {s : String} (hs : Complete.Joins s.toList) {bs : List Bool}
    {sqls : List Sql} (h : List.Forall₂ (Fits escapes) bs sqls) :
    Fits escapes (!bs.isEmpty && bs.all id) (joinWith s sqls) := by
  intro p hp
  rw [chars_joinWith]
  refine Complete.fits_intercalate hs ?_
  rw [List.forall₂_map_right_iff]
  exact h.imp fun _ _ hsql => hsql p hp

/-- A list is complete when it has an item and its items are filled. -/
theorem fits_items {α : Type} {filled : α → Bool} {s : String} (hs : Complete.Joins s.toList)
    {items : List α} {sqls : List Sql}
    (h : List.Forall₂ (fun a sql => Fits escapes (filled a) sql) items sqls) :
    Fits escapes (!items.isEmpty && items.all filled) (joinWith s sqls) := by
  have hall : List.Forall₂ (Fits escapes) (items.map filled) sqls := List.forall₂_map_left_iff.2 h
  simpa using fits_joinWith hs hall

/-- A list whose items lack nothing is complete when it is not empty. -/
theorem fits_full {α : Type} {s : String} (hs : Complete.Joins s.toList) {items : List α}
    {sqls : List Sql} (h : List.Forall₂ (fun _ sql => Fits escapes true sql) items sqls) :
    Fits escapes (!items.isEmpty) (joinWith s sqls) := by
  have hlist := fits_items hs h
  rwa [List.all_eq_true.2 fun _ _ => rfl, Bool.and_true] at hlist

/-- A list of operands is complete when it is not empty. -/
theorem fits_operands {s : String} (hs : Complete.Joins s.toList) {sqls : List Sql}
    (h : ∀ sql ∈ sqls, IsOperand escapes sql) : Fits escapes (!sqls.isEmpty) (joinWith s sqls) :=
  fits_full hs (List.forall₂_same.2 fun sql hsql => (h sql hsql).fits)

theorem Fits.after {b : Bool} {s : String} (hs : Complete.Continues s.toList) {sql : Sql}
    (h : Fits escapes b sql) : Fits escapes b (.text s :: sql) := fun p hp => by
  simpa using (h p hp).after hs

theorem Fits.call {b : Bool} {s : String} (hs : Complete.Continues s.toList) {sql : Sql}
    (h : Fits escapes b sql) : Fits escapes b (.text s :: (sql ++ text ")")) := fun p hp => by
  simpa [text] using (h p hp).call hs

theorem Fits.parens {b : Bool} {sql : Sql} (h : Fits escapes b sql) :
    Fits escapes b (Sql.parens sql) := h.call (by decide)

theorem Fits.join {b c : Bool} {x y : Sql} (hx : Fits escapes b x) {s : String}
    (hs : Complete.Joins s.toList) (hy : Fits escapes c y) :
    Fits escapes (b && c) (x ++ .text s :: y) := fun p hp => by
  simpa using (hx p hp).join hs (hy p hp)

theorem IsOperand.lead {b : Bool} {a x : Sql} (ha : IsOperand escapes a) {s : String}
    (hs : Complete.Leads s.toList true) (hx : Fits escapes b x) :
    Fits escapes b (a ++ .text s :: x) := fun p hp => by
  simpa using (ha p hp).lead hs (hx p hp)

theorem closes_nil : Closes escapes true [] := fun p _ => by
  simpa using Complete.closes_nil

theorem Closes.append {b c : Bool} {x y : Sql} (hx : Closes escapes b x)
    (hy : Closes escapes c y) : Closes escapes (b && c) (x ++ y) := fun p hp => by
  simpa using (hx p hp).append (hy p hp)

theorem Fits.clause {b : Bool} {s : String} (hs : Complete.Joins s.toList) {sql : Sql}
    (h : Fits escapes b sql) : Closes escapes b (.text s :: sql) := fun p hp => by
  simpa using (h p hp).clause hs

theorem Fits.callClause {b : Bool} {s : String} (hs : Complete.Joins s.toList) {sql : Sql}
    (h : Fits escapes b sql) : Closes escapes b (.text s :: (sql ++ text ")")) := fun p hp => by
  simpa [text] using (h p hp).callClause hs

theorem Fits.closing {b c : Bool} {x y : Sql} (hx : Fits escapes b x)
    (hy : Closes escapes c y) : Fits escapes (b && c) (x ++ y) := fun p hp => by
  simpa using (hx p hp).closing (hy p hp)

theorem Fits.congr {b : Bool} {x y : Sql} (h : Fits escapes b x)
    (hchars : ∀ p, y.chars p = x.chars p) : Fits escapes b y := fun p hp => by
  rw [hchars]
  exact h p hp

theorem Closes.congr {b : Bool} {x y : Sql} (h : Closes escapes b x)
    (hchars : ∀ p, y.chars p = x.chars p) : Closes escapes b y := fun p hp => by
  rw [hchars]
  exact h p hp

/-- Clauses one behind the other, each of them behind a blank. -/
theorem closes_joinWith {α : Type} {filled : α → Bool} {items : List α} {sqls : List Sql}
    (hne : items ≠ [])
    (h : List.Forall₂ (fun a sql => Closes escapes (filled a) (.text " " :: sql)) items sqls) :
    Closes escapes (items.all filled) (.text " " :: joinWith " " sqls) := by
  induction h with
  | nil => exact absurd rfl hne
  | @cons a sql items sqls ha hrest ih =>
    cases hrest with
    | nil => simpa [joinWith] using ha
    | @cons b next items sqls hb hmore =>
      exact (ha.append (ih (by simp))).congr fun p => by simp [joinWith]

end StructuredSql.Sql
