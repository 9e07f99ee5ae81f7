-- What a database can come to: it is opened over an engine, or for a dry run over none, and then
-- anything is done with it, one step after the other. Its options stay, and so does its engine.
-- Watching the engine changes none of the steps.
import Mathlib.Logic.Relation
import StructuredSql.Proofs.Database.Attribution
import StructuredSql.Proofs.Database.Operations

namespace StructuredSql

variable {σ α : Type}

/-! ## Operations over a watched engine -/

namespace Database

theorem mirrors_selectEach (E : Engine σ) (q : Query) :
    Mirrors (selectEach E.watched q) (selectEach E q) := by
  intro db
  refine Mirrors.onOk (fun shape => Mirrors.onOk fun c db => ?_) db
  rw [mirrors_run E c db]

theorem mirrors_count (E : Engine σ) (q : Query) : Mirrors (count E.watched q) (count E q) := by
  intro db
  unfold count
  rw [mirrors_aggregate E .count q db]

theorem mirrors_perform (E : Engine σ) (files : FileTree) (op : Operation α) :
    Mirrors (op.perform E.watched files) (op.perform E files) := by
  cases op with
  | select q => exact mirrors_select E q
  | selectEach q => exact mirrors_selectEach E q
  | get q => exact mirrors_get E q
  | rand q => exact mirrors_rand E q
  | has q => exact mirrors_has E q
  | aggregate f q => exact mirrors_aggregate E f q
  | count q => exact mirrors_count E q
  | insert table rows => exact mirrors_compiled E fun c => c.insert table rows
  | update table data conditions =>
    exact mirrors_compiled E fun c => c.update table data conditions
  | delete table conditions => exact mirrors_compiled E fun c => c.delete table conditions
  | replace table columns conditions =>
    exact mirrors_compiled E fun c => c.replace table columns conditions
  | create table columns options =>
    exact mirrors_compiled E fun c => c.create table columns options
  | drop table => exact mirrors_compiled E fun c => c.drop table
  | query raw => exact mirrors_compiled E fun c => c.fragment raw
  | importFile path => exact mirrors_importFile E files path

/-! ## Opening -/

/-- A database as it is opened: over an engine that has run the first statements, or over none
for a dry run. -/
inductive Opened (E : Engine σ) (o : Options) : Database σ → Prop
  | dry (h : o.dryRun = true) : Opened E o (ofOptions o none)
  | session {s : σ} {db : Database σ} (h : (withEngine E o s).1 = .ok db) : Opened E o db

theorem openBundled_opened {o : Options} {db : Database Memory} (h : openBundled o = .ok db) :
    Opened Engine.memory o db := by
  unfold openBundled at h
  by_cases hdry : o.dryRun = true
  · rw [if_pos hdry] at h
    cases h
    exact .dry hdry
  · rw [if_neg hdry] at h
    split at h
    · exact .session h
    · cases h

theorem Opened.eq_ofOptions {E : Engine σ} {o : Options} {db : Database σ} (h : Opened E o db) :
    ∃ engine, db = ofOptions o engine := by
  cases h with
  | dry => exact ⟨none, rfl⟩
  | session h =>
    unfold withEngine at h
    rcases hinit : runInit E o.initCommands _ with ⟨_ | _, next⟩
    · rw [hinit] at h
      cases h
    · rw [hinit] at h
      cases h
      exact ⟨some next, rfl⟩

theorem Opened.equipped {E : Engine σ} {o : Options} {db : Database σ} (h : Opened E o db) :
    Equipped db := by
  cases h with
  | dry h =>
    intro hrun
    exact absurd h (hrun ▸ Bool.false_ne_true)
  | session h => exact withEngine_equipped h

/-! ## Steps -/

/-- One thing that is done with a database. -/
inductive Act (E : Engine σ) (files : FileTree) (db : Database σ) : Database σ → Prop
  | operation {α : Type} (op : Operation α) : Act E files db (op.perform E files db).2
  | run (c : Compiled) : Act E files db (Database.run E c db).2
  | begin : Act E files db (Database.begin E db).2
  | commit : Act E files db (Database.commit E db).2
  | rollback : Act E files db (Database.rollback E db).2
  | id (sequence : Option String) : Act E files db (Database.id E sequence db).2
  | takeCollected : Act E files db (Database.takeCollected db).2

/-- Some things are done, one after the other. -/
abbrev Leads (E : Engine σ) (files : FileTree) : Database σ → Database σ → Prop :=
  Relation.ReflTransGen (Act E files)

section
variable {E : Engine σ} {files : FileTree}

theorem leads_exec (sql : String) (params : Params) (db : Database σ) :
    Leads E files db (exec E sql params db).2 :=
  .single (.run ⟨sql, params⟩)

theorem leads_execWith (sql : String) (params : Params) (hook : Params → Params)
    (db : Database σ) : Leads E files db (execWith E sql params hook db).2 := by
  have hbegin : Leads E files db (Database.begin E db).2 := .single .begin
  unfold execWith
  split
  · exact leads_exec sql (hook params) db
  · rcases hbegun : Database.begin E db with ⟨e | _, began⟩
    · rw [hbegun] at hbegin
      exact hbegin
    · rw [hbegun] at hbegin
      have hexec := hbegin.trans (leads_exec sql (hook params) began)
      dsimp only
      split
      · exact hexec.tail .rollback
      · exact hexec.tail .commit

/-- What is done inside a transaction is done between two steps. -/
theorem leads_action {f : Op σ (Except Error Value)} (hf : ∀ db, Leads E files db (f db).2)
    (db : Database σ) : Leads E files db (action E f db).2 := by
  have hbegin : Leads E files db (Database.begin E db).2 := .single .begin
  unfold action
  rcases hbegun : Database.begin E db with ⟨e | _, began⟩
  · rw [hbegun] at hbegin
    exact hbegin
  · rw [hbegun] at hbegin
    have hinner := hbegin.trans (hf began)
    dsimp only
    split
    · rename_i heq
      rw [heq] at hinner
      exact hinner.tail .rollback
    · rename_i heq
      rw [heq] at hinner
      exact hinner.tail .commit
    · rename_i heq
      rw [heq] at hinner
      exact hinner.tail .rollback

theorem leads_execute (cmd : Command) (db : Database σ) :
    Leads E files db (execute E files cmd db).2 := by
  rw [execute_snd]
  cases cmd with
  | select q => exact .single (.operation (.select q))
  | get q => exact .single (.operation (.get q))
  | rand q => exact .single (.operation (.rand q))
  | has q => exact .single (.operation (.has q))
  | aggregate f q => exact .single (.operation (.aggregate f q))
  | insert table rows => exact .single (.operation (.insert table rows))
  | update table data conditions => exact .single (.operation (.update table data conditions))
  | delete table conditions => exact .single (.operation (.delete table conditions))
  | replace table columns conditions =>
    exact .single (.operation (.replace table columns conditions))
  | create table columns options => exact .single (.operation (.create table columns options))
  | drop table => exact .single (.operation (.drop table))
  | query raw => exact .single (.operation (.query raw))
  | exec sql params => exact leads_exec sql params db
  | importFile path => exact .single (.operation (.importFile path))
  | begin => exact .single .begin
  | commit => exact .single .commit
  | rollback => exact .single .rollback
  | id sequence => exact .single (.id sequence)
  | debugLog => exact .single .takeCollected
  | info | last | log | property | ping => exact .refl

/-! ## What stays -/

theorem Act.kept {db db' : Database σ} (h : Act E files db db') : Kept db db' := by
  cases h with
  | operation op =>
    have houtcome := op.outcome E files db
    generalize op.perform E files db = result at houtcome ⊢
    cases houtcome with
    | rejected => exact kept_refl db
    | ran => exact kept_attempt _ _ _ db
    | script => exact kept_attempt _ _ _ db
    | missing => exact kept_refl db
  | run c => exact kept_attempt _ c _ db
  | begin => exact kept_begin E db
  | commit => exact kept_finish E.commit db
  | rollback => exact kept_finish E.rollback db
  | id sequence => exact kept_id E sequence db
  | takeCollected => exact ⟨rfl, rfl⟩

theorem Leads.kept {db db' : Database σ} (h : Leads E files db db') : Kept db db' := by
  induction h with
  | refl => exact kept_refl db
  | tail _ hact ih => exact ih.trans hact.kept

/-! ## Watching -/

/-- A step over the watched engine is the same step over the engine. -/
theorem Act.unwatched {db db' : Database (σ × List Heard)} (h : Act E.watched files db db') :
    Act E files db.unwatched db'.unwatched := by
  cases h with
  | operation op =>
    have hstep : Act E files db.unwatched _ := .operation op
    rwa [mirrors_perform E files op db] at hstep
  | run c =>
    have hstep : Act E files db.unwatched _ := .run c
    rwa [mirrors_run E c db] at hstep
  | begin =>
    have hstep : Act E files db.unwatched _ := .begin
    rwa [mirrors_begin E db] at hstep
  | commit =>
    have hstep : Act E files db.unwatched (finish E.commit _).2 := .commit
    rwa [mirrors_finish .commit E.commit db] at hstep
  | rollback =>
    have hstep : Act E files db.unwatched (finish E.rollback _).2 := .rollback
    rwa [mirrors_finish .rollback E.rollback db] at hstep
  | id sequence =>
    have hstep : Act E files db.unwatched _ := .id sequence
    rwa [mirrors_id E sequence db] at hstep
  | takeCollected => exact .takeCollected

/-- Every step over the engine can be watched. -/
theorem Act.watched {db : Database (σ × List Heard)} {next : Database σ}
    (h : Act E files db.unwatched next) :
    ∃ db', Act E.watched files db db' ∧ db'.unwatched = next := by
  cases h with
  | operation op =>
    exact ⟨_, .operation op, (congrArg Prod.snd (mirrors_perform E files op db)).symm⟩
  | run c => exact ⟨_, .run c, (congrArg Prod.snd (mirrors_run E c db)).symm⟩
  | begin => exact ⟨_, .begin, (congrArg Prod.snd (mirrors_begin E db)).symm⟩
  | commit =>
    exact ⟨_, .commit, (congrArg Prod.snd (mirrors_finish .commit E.commit db)).symm⟩
  | rollback =>
    exact ⟨_, .rollback, (congrArg Prod.snd (mirrors_finish .rollback E.rollback db)).symm⟩
  | id sequence => exact ⟨_, .id sequence, (congrArg Prod.snd (mirrors_id E sequence db)).symm⟩
  | takeCollected => exact ⟨_, .takeCollected, rfl⟩

theorem Leads.unwatched {db db' : Database (σ × List Heard)}
    (h : Leads E.watched files db db') : Leads E files db.unwatched db'.unwatched := by
  induction h with
  | refl => exact .refl
  | tail _ hact ih => exact ih.tail hact.unwatched

theorem Leads.watched {db : Database σ} {next : Database σ} (h : Leads E files db next) :
    ∃ db', Leads E.watched files db.watched db' ∧ db'.unwatched = next := by
  induction h with
  | refl => exact ⟨db.watched, .refl, unwatched_watched db⟩
  | tail _ hact ih =>
    obtain ⟨mid, hmid, rfl⟩ := ih
    obtain ⟨db', hlast, hdb'⟩ := hact.watched
    exact ⟨db', hmid.tail hlast, hdb'⟩

end

end Database
end StructuredSql
