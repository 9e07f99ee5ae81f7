-- The laws of statements that are put aside: under a dry run and under the debug log no
-- statement and no script reaches the engine, whatever is done and in whatever order. Each is
-- answered with nothing; its text is the query string of a dry run, and else waits in the debug
-- log until it is taken.
import StructuredSql.Proofs.Database.Course
import StructuredSql.Proofs.Database.Log

namespace StructuredSql

variable {σ α β : Type}

/-! ## Texts -/

/-- The readable text of what the operation hands over, unless it is rejected. -/
def Operation.text? (files : FileTree) (c : Compiler) (op : Operation α) : Option String :=
  match op.shaped with
  | some (.error _) => none
  | _ =>
    match op.compiled c with
    | some r => r.toOption.map c.readable
    | none => (op.script files).bind Except.toOption

/-- The readable text of a statement in a transaction of its own, unless that does not begin. -/
def Database.textAlone? (E : Engine σ) (c : Compiled) (db : Database σ) : Option String :=
  if db.inTransaction || (begin E db).1.isOk then some (db.compiler.readable c) else none

/-- The readable text of the statement or the script that the deed comes to, if any. -/
def Deed.text? (E : Engine σ) (files : FileTree) (db : Database σ) : Deed α → Option String
  | .operation op => op.text? files db.compiler
  | .run c => some (db.compiler.readable c)
  | .exec sql params => some (db.compiler.readable ⟨sql, params⟩)
  | .execWith sql params hook => db.textAlone? E ⟨sql, hook params⟩
  | _ => none

/-- The texts that wait to be taken, after the deed. -/
def Deed.wait (E : Engine σ) (files : FileTree) (db : Database σ) (waiting : List String) :
    Deed α → List String
  | .takeCollected => []
  | d => waiting ++ (d.text? E files db).toList

/-- The texts of the deeds. -/
def texts (E : Engine σ) (files : FileTree) (ds : List (Done σ)) : List String :=
  ds.filterMap fun d => d.deed.text? E files d.before

/-- The texts that wait after the deeds, behind those that waited before. -/
def waiting (E : Engine σ) (files : FileTree) (before : List String) (ds : List (Done σ)) :
    List String :=
  ds.foldl (fun waiting d => d.deed.wait E files d.before waiting) before

namespace Operation

variable {files : FileTree} {c : Compiler} {op : Operation α}

/-- An operation that reads a script compiles nothing and shapes nothing. -/
theorem compiled_of_script {r : Except Error String} (h : op.script files = some r) :
    op.compiled c = none ∧ op.shaped = none := by
  cases op with
  | importFile path => exact ⟨rfl, rfl⟩
  | _ => cases h

theorem text?_of_rejected {e : Error} (h : op.Rejected files c e) : op.text? files c = none := by
  unfold text?
  rcases h with h | h | h
  · rw [h]
    split <;> rfl
  · rw [h]
  · obtain ⟨hc, hp⟩ := compiled_of_script h
    rw [hc, hp, h]
    rfl

theorem text?_of_compiled (h : op.Accepted files c) {statement : Compiled}
    (hc : op.compiled c = some (.ok statement)) :
    op.text? files c = some (c.readable statement) := by
  unfold text?
  rw [hc]
  split
  · rename_i e hp
    exact absurd (.inr (.inl hp)) (h e)
  · rfl

theorem text?_of_script {sql : String} (h : op.script files = some (.ok sql)) :
    op.text? files c = some sql := by
  obtain ⟨hc, hp⟩ := compiled_of_script h
  unfold text?
  rw [hc, hp, h]
  rfl

theorem text?_of_misses (h : op.Misses files c) : op.text? files c = none := by
  unfold text?
  rw [h.1, h.2]
  split <;> rfl

end Operation

namespace Database

/-! ## One statement -/

/-- The database with the text put aside. -/
def putAside (text : String) (db : Database σ) : Database σ :=
  if db.options.dryRun then { db with softError := none, queryString := some text }
  else { db with softError := none, collected := db.collected ++ [text] }

section
variable {db : Database σ} (hmode : db.options.dryRun = true ∨ db.options.debugLog = true)
include hmode

theorem attempt_aside (text : String) (c : Compiled) (call : EngineCall σ α) :
    attempt text c call db = (none, putAside text db) := by
  unfold attempt putAside
  by_cases hdry : db.options.dryRun = true
  · simp only [hdry, if_true]
  · have hdebug : db.options.debugLog = true := hmode.resolve_left hdry
    simp only [hdry, hdebug, if_true, if_false, Bool.false_eq_true]

theorem run_aside (E : Engine σ) (c : Compiled) :
    run E c db = (none, putAside (db.compiler.readable c) db) :=
  attempt_aside hmode _ c _

theorem exec_aside (E : Engine σ) (sql : String) (params : Params) :
    exec E sql params db = (none, putAside (db.compiler.readable ⟨sql, params⟩) db) := by
  unfold exec runExecuted
  rw [run_aside hmode]
  rfl

theorem runScript_aside (E : Engine σ) (sql : String) :
    runScript E sql db = (false, putAside sql db) := by
  unfold runScript
  rw [attempt_aside hmode]
  rfl

end

/-! ## One deed -/

/-- No statement was handed over and nothing is left behind; the last of the texts is the query
string of a dry run, and else those that wait are collected. -/
structure Waits (o : Options) (texts waiting : List String) (db : Database (σ × List Heard)) :
    Prop where
  options : db.options = o
  silent : handed db.heard = []
  soft : db.softError = none
  query : o.dryRun = true → db.queryString = texts.getLast?
  collected : o.dryRun = false → db.collected = waiting

section
variable {o : Options} {texts waiting : List String} {db : Database (σ × List Heard)}

theorem Waits.putAside (h : Waits o texts waiting db) (text : String) :
    Waits o (texts ++ [text]) (waiting ++ [text]) (putAside text db) := by
  unfold Database.putAside
  by_cases hdry : db.options.dryRun = true
  · rw [if_pos hdry]
    refine ⟨h.options, h.silent, rfl, fun _ => by simp, fun hrun => ?_⟩
    rw [h.options, hrun] at hdry
    cases hdry
  · rw [if_neg hdry]
    refine ⟨h.options, h.silent, rfl, fun hdry' => ?_, fun hrun => ?_⟩
    · rw [h.options] at hdry
      exact absurd hdry' hdry
    · exact congrArg (· ++ [text]) (h.collected hrun)

/-- Nothing was put aside, and what was asked of the engine was no statement. -/
theorem Waits.of_other (h : Waits o texts waiting db) {db' : Database (σ × List Heard)}
    (hoptions : db'.options = db.options) (hhanded : handed db'.heard = handed db.heard)
    (hsoft : db'.softError = db.softError) (hquery : db'.queryString = db.queryString)
    (hcollected : db'.collected = db.collected) : Waits o texts waiting db' :=
  ⟨hoptions.trans h.options, hhanded.trans h.silent, hsoft.trans h.soft,
    fun hdry => hquery.trans (h.query hdry), fun hrun => hcollected.trans (h.collected hrun)⟩

theorem Waits.begin (h : Waits o texts waiting db) (E : Engine σ) :
    Waits o texts waiting (begin E.watched db).2 := by
  refine h.of_other ?_ (handed_begin E db).1 ?_ ?_ ?_
  all_goals
    obtain ⟨o, engine, _, _, _, _, _⟩ := db
    cases engine with
    | none => rfl
    | some s =>
      unfold Database.begin
      dsimp only
      split <;> rfl

theorem Waits.finish (h : Waits o texts waiting db) {r : EngineRequest}
    (hr : ∀ error, (⟨r, error⟩ : Heard).statement? = none) (call : EngineCall σ Unit) :
    Waits o texts waiting (finish (Engine.watch r call) db).2 := by
  refine h.of_other ?_ (handed_finish r hr call db).1 ?_ ?_ ?_
  all_goals
    obtain ⟨o, engine, _, _, _, _, _⟩ := db
    cases engine <;> rfl

theorem Waits.id (h : Waits o texts waiting db) (E : Engine σ) (sequence : Option String) :
    Waits o texts waiting (id E.watched sequence db).2 := by
  refine h.of_other ?_ (handed_id E sequence db).1 ?_ ?_ ?_
  all_goals
    obtain ⟨o, engine, _, _, _, _, _⟩ := db
    cases engine <;> rfl

theorem Waits.takeCollected (h : Waits o texts waiting db) :
    Waits o texts [] (takeCollected db).2 :=
  ⟨h.options, h.silent, h.soft, h.query, fun _ => rfl⟩

theorem Waits.mode (h : Waits o texts waiting db) (hmode : o.dryRun = true ∨ o.debugLog = true) :
    db.options.dryRun = true ∨ db.options.debugLog = true := by
  rw [h.options]
  exact hmode

end

/-- What becomes of a statement in a transaction of its own: it is put aside, and the transaction
may fail to end; or none begins. -/
inductive Alone (E : Engine σ) (text : String) (db : Database (σ × List Heard)) :
    Except Error (Option Executed) × Database (σ × List Heard) → Prop
  | joined (h : (db.inTransaction || (begin E.watched db).1.isOk) = true) :
      Alone E text db (.ok none, putAside text db)
  | ended {began : Database (σ × List Heard)} (h : begin E.watched db = (.ok (), began)) :
      Alone E text db
        ((commit E.watched (putAside text began)).1.map fun _ => none,
          (commit E.watched (putAside text began)).2)
  | never {e : Error} {began : Database (σ × List Heard)} (hout : db.inTransaction = false)
      (h : begin E.watched db = (.error e, began)) : Alone E text db (.error e, began)

theorem alone (E : Engine σ) {db : Database (σ × List Heard)}
    (hmode : db.options.dryRun = true ∨ db.options.debugLog = true) (sql : String)
    (params : Params) (hook : Params → Params) :
    Alone E (db.compiler.readable ⟨sql, hook params⟩) db
      (execWith E.watched sql params hook db) := by
  unfold execWith
  by_cases hjoined : (db.engine.isNone || db.inTransaction) = true
  · rw [if_pos hjoined]
    unfold always
    rw [exec_aside hmode]
    refine .joined ?_
    rcases Bool.or_eq_true_iff.1 hjoined with hnone | hin
    · have hbegun : (begin E.watched db).1 = .ok () := by
        unfold begin
        rw [Option.isNone_iff_eq_none.1 hnone]
      rw [hbegun, Bool.or_eq_true_iff]
      exact .inr rfl
    · rw [hin, Bool.true_or]
  · rw [if_neg hjoined]
    have hout : db.inTransaction = false := by
      simp only [Bool.or_eq_true, not_or, Bool.not_eq_true] at hjoined
      exact hjoined.2
    have hkept := (kept_begin E.watched db).1
    rcases hbegun : begin E.watched db with ⟨e | _, began⟩
    · exact .never hout hbegun
    · rw [hbegun] at hkept
      have hcompiler : began.compiler = db.compiler := by
        unfold compiler
        rw [hkept]
      have hsoft : (putAside (db.compiler.readable ⟨sql, hook params⟩) began).softError = none := by
        unfold putAside
        split <;> rfl
      dsimp only
      rw [exec_aside (hkept ▸ hmode), hcompiler]
      dsimp only
      rw [hsoft]
      exact .ended hbegun

/-! ## Transactions that are refused -/

/-- The last call on the engine was to begin or to commit a transaction, and the engine refused
it. -/
def Refused (e : Error) (before after : Database (σ × List Heard)) : Prop :=
  ∃ calls last, after.heard = before.heard ++ calls ++ [last] ∧ last.error = some e ∧
    (last.request = .begin ∨ last.request = .commit)

theorem heard_begin (E : Engine σ) (db : Database (σ × List Heard)) :
    ∃ calls, (begin E.watched db).2.heard = db.heard ++ calls ∧
      ∀ e, (begin E.watched db).1 = .error e → calls = [⟨.begin, some e⟩] := by
  obtain ⟨o, engine, _, _, _, _, _⟩ := db
  cases engine with
  | none => exact ⟨[], rfl, fun e he => by cases he⟩
  | some s =>
    unfold begin
    dsimp only [Engine.watched, Engine.watch]
    rcases E.begin s.1 with ⟨e | _, next⟩
    · refine ⟨[⟨.begin, some e⟩], rfl, fun e' he => ?_⟩
      cases he
      rfl
    · exact ⟨[⟨.begin, none⟩], rfl, fun e' he => by cases he⟩

theorem heard_finish (r : EngineRequest) (call : EngineCall σ Unit)
    (db : Database (σ × List Heard)) {e : Error}
    (h : (finish (Engine.watch r call) db).1 = .error e) :
    (finish (Engine.watch r call) db).2.heard = db.heard ++ [⟨r, some e⟩] := by
  obtain ⟨o, engine, _, _, _, _, _⟩ := db
  cases engine with
  | none => cases h
  | some s =>
    have herror : Engine.error? (call s.1).1 = some e := by
      have hcall : (call s.1).1 = .error e := h
      rw [hcall]
      rfl
    show s.2 ++ [⟨r, Engine.error? (call s.1).1⟩] = _
    rw [herror]
    rfl

theorem refused_begin {E : Engine σ} {db began : Database (σ × List Heard)} {e : Error}
    (h : begin E.watched db = (.error e, began)) : Refused e db began := by
  obtain ⟨calls, hheard, hrefused⟩ := heard_begin E db
  rw [h] at hheard hrefused
  rw [hrefused e rfl] at hheard
  exact ⟨[], ⟨.begin, some e⟩, by rw [hheard, List.append_nil], rfl, .inl rfl⟩

theorem refused_commit {E : Engine σ} {db began : Database (σ × List Heard)} {e : Error}
    (h : begin E.watched db = (.ok (), began)) (text : String)
    (hcommit : (commit E.watched (putAside text began)).1 = .error e) :
    Refused e db (commit E.watched (putAside text began)).2 := by
  obtain ⟨calls, hheard, -⟩ := heard_begin E db
  rw [h] at hheard
  have haside : (putAside text began).heard = began.heard := by
    unfold putAside
    split <;> rfl
  have hlast := heard_finish .commit E.commit _ hcommit
  rw [haside, hheard] at hlast
  exact ⟨calls, ⟨.commit, some e⟩, hlast, rfl, .inr rfl⟩

end Database

/-! ## What is given -/

/-- The operation gives nothing, or its input is rejected and nothing has changed. -/
def Operation.GivesNothing (files : FileTree) (op : Operation α) (db : Database σ)
    (result : Except Error α × Database σ) : Prop :=
  (op.Accepted files db.compiler ∧ result.1 = .ok op.nothing) ∨
    ∃ e, op.Rejected files db.compiler e ∧ result = (.error e, db)

/-- A statement in a transaction of its own gives nothing, or the engine refuses to begin or to
commit that. -/
def Database.GivesNothingAlone (db : Database (σ × List Heard))
    (result : Except Error (Option Executed) × Database (σ × List Heard)) : Prop :=
  result.1 = .ok none ∨ ∃ e, result.1 = .error e ∧ Refused e db result.2

/-- The deed gives what it gives when nothing comes back. -/
def Deed.GivesNothing (E : Engine σ) (files : FileTree) (db : Database (σ × List Heard)) :
    Deed α → Prop
  | .operation op => op.GivesNothing files db (op.perform E.watched files db)
  | .run c => (Database.run E.watched c db).1 = none
  | .exec sql params => (Database.exec E.watched sql params db).1 = none
  | .execWith sql params hook =>
    db.GivesNothingAlone (Database.execWith E.watched sql params hook db)
  | _ => True

/-! ## Every deed -/

open Database (Waits)

section
variable {o : Options} {told pending : List String} {db : Database (σ × List Heard)}
  (hmode : o.dryRun = true ∨ o.debugLog = true) (h : Waits o told pending db)
include hmode h

theorem Operation.aside (E : Engine σ) (files : FileTree) (op : Operation α) :
    op.GivesNothing files db (op.perform E.watched files db) ∧
      Waits o (told ++ (op.text? files db.compiler).toList)
        (pending ++ (op.text? files db.compiler).toList) (op.perform E.watched files db).2 := by
  have houtcome := op.outcome E.watched files db
  generalize op.perform E.watched files db = result at houtcome ⊢
  cases houtcome with
  | rejected hrejected =>
    rw [text?_of_rejected hrejected, Option.toList_none, List.append_nil, List.append_nil]
    exact ⟨.inr ⟨_, hrejected, rfl⟩, h⟩
  | ran haccepted hc present hnothing =>
    rw [text?_of_compiled haccepted hc, Database.run_aside (h.mode hmode)]
    exact ⟨.inl ⟨haccepted, congrArg Except.ok hnothing⟩, h.putAside _⟩
  | script haccepted hsql present hnothing =>
    rw [text?_of_script hsql, Database.runScript_aside (h.mode hmode)]
    exact ⟨.inl ⟨haccepted, congrArg Except.ok hnothing⟩, h.putAside _⟩
  | missing haccepted hmisses =>
    rw [text?_of_misses hmisses, Option.toList_none, List.append_nil, List.append_nil]
    exact ⟨.inl ⟨haccepted, rfl⟩, h⟩

theorem Database.execWith_aside (E : Engine σ) (sql : String) (params : Params)
    (hook : Params → Params) :
    db.GivesNothingAlone (execWith E.watched sql params hook db) ∧
      Waits o (told ++ (db.textAlone? E.watched ⟨sql, hook params⟩).toList)
        (pending ++ (db.textAlone? E.watched ⟨sql, hook params⟩).toList)
        (execWith E.watched sql params hook db).2 := by
  have halone := alone E (h.mode hmode) sql params hook
  unfold textAlone?
  generalize execWith E.watched sql params hook db = result at halone ⊢
  cases halone with
  | joined hjoined =>
    rw [if_pos hjoined]
    exact ⟨.inl rfl, h.putAside _⟩
  | @ended began hbegun =>
    have hok : (db.inTransaction || (begin E.watched db).1.isOk) = true := by
      rw [hbegun, Bool.or_eq_true_iff]
      exact .inr rfl
    have hbegan : Waits o told pending began := by
      have hnext := h.begin E
      rwa [hbegun] at hnext
    rw [if_pos hok]
    refine ⟨?_, (hbegan.putAside _).finish (fun _ => rfl) E.commit⟩
    unfold GivesNothingAlone
    dsimp only
    rcases hcommit : (commit E.watched (putAside _ began)).1 with e | _
    · exact .inr ⟨e, rfl, refused_commit hbegun _ hcommit⟩
    · exact .inl rfl
  | @never e began hout hbegun =>
    have hnot : ¬ (db.inTransaction || (begin E.watched db).1.isOk) = true := by
      rw [hbegun, hout]
      exact Bool.false_ne_true
    have hbegan : Waits o told pending began := by
      have hnext := h.begin E
      rwa [hbegun] at hnext
    rw [if_neg hnot, Option.toList_none, List.append_nil, List.append_nil]
    exact ⟨.inr ⟨e, rfl, refused_begin hbegun⟩, hbegan⟩

theorem Deed.aside (E : Engine σ) (files : FileTree) (d : Deed α) :
    d.GivesNothing E files db ∧
      Waits o (told ++ (d.text? E.watched files db).toList)
        (d.wait E.watched files db pending) (d.perform E.watched files db).2 := by
  -- deeds that come to no statement
  have hstill : ∀ {db' : Database (σ × List Heard)}, Waits o told pending db' →
      Waits o (told ++ []) (pending ++ []) db' := by
    intro db' hdb'
    rwa [List.append_nil, List.append_nil]
  cases d with
  | operation op => exact Operation.aside hmode h E files op
  | run c =>
    have hrun := Database.run_aside (h.mode hmode) E.watched c
    refine ⟨congrArg Prod.fst hrun, ?_⟩
    rw [show (Deed.run c).perform E.watched files db = _ from hrun]
    exact h.putAside _
  | exec sql params =>
    have hexec := Database.exec_aside (h.mode hmode) E.watched sql params
    refine ⟨congrArg Prod.fst hexec, ?_⟩
    rw [show (Deed.exec sql params).perform E.watched files db = _ from hexec]
    exact h.putAside _
  | execWith sql params hook => exact Database.execWith_aside hmode h E sql params hook
  | begin => exact ⟨trivial, hstill (h.begin E)⟩
  | commit => exact ⟨trivial, hstill (h.finish (fun _ => rfl) E.commit)⟩
  | rollback => exact ⟨trivial, hstill (h.finish (fun _ => rfl) E.rollback)⟩
  | id sequence => exact ⟨trivial, hstill (h.id E sequence)⟩
  | takeCollected =>
    refine ⟨trivial, ?_⟩
    have htold : told ++ (takeCollected.text? E.watched files db).toList = told :=
      List.append_nil told
    rw [htold]
    exact h.takeCollected
  | info => exact ⟨trivial, hstill h⟩
  | look f => exact ⟨trivial, hstill h⟩

end

/-! ## Every course -/

theorem texts_cons (E : Engine σ) (files : FileTree) (d : Done σ) (ds : List (Done σ)) :
    texts E files (d :: ds) = (d.deed.text? E files d.before).toList ++ texts E files ds := by
  unfold texts
  rw [List.filterMap_cons]
  cases d.deed.text? E files d.before <;> rfl

/-- Before every deed of a course, and in the end. -/
theorem Course.aside {o : Options} (hmode : o.dryRun = true ∨ o.debugLog = true) (E : Engine σ)
    (files : FileTree) (course : Course β) {told pending : List String}
    {db : Database (σ × List Heard)} (h : Waits o told pending db) :
    (∀ before d after, course.trail E.watched files db = before ++ d :: after →
      Waits o (told ++ texts E.watched files before) (waiting E.watched files pending before)
        d.before) ∧
      Waits o (told ++ texts E.watched files (course.trail E.watched files db))
        (waiting E.watched files pending (course.trail E.watched files db))
        (course.run E.watched files db).2 := by
  induction course generalizing told pending db with
  | done b =>
    refine ⟨fun before d after heq => ?_, ?_⟩
    · cases before <;> cases heq
    · show Waits o (told ++ []) pending db
      rwa [List.append_nil]
  | deed d next ih =>
    obtain ⟨hinner, hend⟩ := ih _ (Deed.aside hmode h E files d).2
    constructor
    · intro before done after heq
      cases before with
      | nil =>
        cases heq
        show Waits o (told ++ []) pending db
        rwa [List.append_nil]
      | cons first rest =>
        obtain ⟨rfl, htail⟩ := List.cons.inj heq
        rw [texts_cons, ← List.append_assoc]
        exact hinner rest done after htail
    · unfold Course.trail
      rw [texts_cons, ← List.append_assoc]
      exact hend

theorem Database.Opened.aside {E : Engine σ} {o : Options} {start : Database σ}
    (h : Opened E o start) : Waits o [] [] start.watched := by
  obtain ⟨engine, rfl⟩ := h.eq_ofOptions
  have hsilent : (ofOptions o engine).watched.heard = [] := by cases engine <;> rfl
  exact ⟨rfl, congrArg handed hsilent, rfl, fun _ => rfl, fun _ => rfl⟩

namespace Database

/-- Under a dry run and under the debug log, whatever is done with a database, no statement and no
script reaches its engine, every operation gives nothing and leaves no failure behind. Under a dry
run the query string is the last text; else each time they are taken the collected texts are those
since the last time. Watching changes none of this, and an action is a course. -/
theorem statements_put_aside_never_reach_the_engine (E : Engine σ) (files : FileTree) {o : Options}
    (hmode : o.dryRun = true ∨ o.debugLog = true) {start : Database σ} (hopen : Opened E o start)
    (course : Course β) :
    (∀ h ∈ (course.run E.watched files start.watched).2.heard, h.statement? = none) ∧
    (∀ d ∈ course.trail E.watched files start.watched,
      d.deed.GivesNothing E files d.before ∧ (d.after E.watched files).softError = none) ∧
    (o.dryRun = true → (course.run E.watched files start.watched).2.queryString =
      (texts E.watched files (course.trail E.watched files start.watched)).getLast?) ∧
    (o.dryRun = false → ∀ before db after,
      course.trail E.watched files start.watched = before ++ ⟨.takeCollected, db⟩ :: after →
        (takeCollected db).1 = waiting E.watched files [] before) ∧
    course.run E files start = ((course.run E.watched files start.watched).1,
      (course.run E.watched files start.watched).2.unwatched) ∧
    ∀ inner db, (Course.action inner).run E files db = action E (inner.run E files) db := by
  obtain ⟨hdeeds, hend⟩ := course.aside hmode E files hopen.aside
  refine ⟨?_, ?_, ?_, ?_, ?_, ?_⟩
  · exact List.filterMap_eq_nil_iff.1 hend.silent
  · intro d hd
    obtain ⟨before, after, heq⟩ := List.append_of_mem hd
    obtain ⟨hnothing, hafter⟩ := Deed.aside hmode (hdeeds before d after heq) E files d.deed
    exact ⟨hnothing, hafter.soft⟩
  · exact hend.query
  · intro hrun before db after heq
    exact (hdeeds before _ after heq).collected hrun
  · have hmirrors := course.mirrors_run E files start.watched
    rwa [unwatched_watched] at hmirrors
  · exact Course.run_action

/-- Statements are collected, and the engine refuses to commit. -/
def collectingOptions : Options := { Options.default with debugLog := true }

def refusingCommit : Script :=
  ⟨[], [.ok (), .error lockedError], .ok .null, ⟨"", "", "", "", "", ""⟩⟩

def collectingStart : Database Script := ofOptions collectingOptions (some refusingCommit)

theorem collectingStart_opened : Opened Engine.scripted collectingOptions collectingStart :=
  .session (s := refusingCommit) rfl

/-- A statement, an action around another that the engine refuses to commit, and what was
collected before and after a third. -/
def collecting : Course (List String × List String) :=
  .deed (.exec "SELECT 1" []) fun _ =>
    (Course.action (.deed (.operation (.drop "t")) fun _ => .done (.ok .null))).bind fun _ =>
      .deed .takeCollected fun first =>
        .deed (.execWith "SELECT 2" [] fun params => params) fun _ =>
          .deed .takeCollected fun second => .done (first, second)

theorem collecting_reaches_no_statement :
    (collecting.run Engine.scripted FileTree.empty collectingStart).1 =
        (["SELECT 1", "DROP TABLE IF EXISTS \"t\""], ["SELECT 2"]) ∧
      (collecting.run Engine.scripted.watched FileTree.empty collectingStart.watched).2.heard.length
        = 4 ∧
      ∀ h ∈ (collecting.run Engine.scripted.watched FileTree.empty
        collectingStart.watched).2.heard, h.statement? = none := by
  have hmode : collectingOptions.dryRun = true ∨ collectingOptions.debugLog = true := .inr rfl
  obtain ⟨hsilent, -⟩ := statements_put_aside_never_reach_the_engine Engine.scripted
    FileTree.empty hmode collectingStart_opened collecting
  refine ⟨?_, ?_, hsilent⟩
  · decide +kernel
  · decide +kernel

/-- A statement that was collected is answered with an error when the transaction around it is
not committed. -/
theorem refused_commit_answers_a_collected_statement :
    Opened Engine.scripted collectingOptions collectingStart ∧
      (execWith Engine.scripted "SELECT 1" [] (fun params => params) collectingStart).1 =
        .error lockedError ∧
      (execWith Engine.scripted "SELECT 1" [] (fun params => params) collectingStart).2.collected =
        ["SELECT 1"] := by
  exact ⟨collectingStart_opened, rfl, rfl⟩

end Database
end StructuredSql
