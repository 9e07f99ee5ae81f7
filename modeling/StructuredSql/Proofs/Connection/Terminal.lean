-- The laws of closing: once a connection is closed it stays so, its transport is shut down once at
-- most and gets no request from then on, a call that comes later is turned away, and of all closes
-- only the one that closed it can fail.
import StructuredSql.Proofs.Connection.Interleaving

namespace StructuredSql

variable {request : Nat → Request} {w w' : World} {e : Event} {n : Nat}

/-! ## Steps of the link -/

/-- The event is a doing of the call. -/
def Event.OfCall (n : Nat) : Event → Prop
  | .called m | .departed m | .refused m _ | .sent m | .unsent m _ | .handed m _ _ | .lost m _
  | .cancelled m => m = n
  | .answered _ _ | .died | .observed _ | .closing _ | .closed => False

/-- A call that has not come to the link does nothing there. -/
theorem idle_step (hstep : Step request w e w') (hidle : w.phase n = .idle)
    (hcalled : e ≠ .called n) : w'.phase n = .idle ∧ ¬ e.OfCall n := by
  have hcome : ∀ {m : Nat} {p : Phase}, m ≠ n → (w.come m p).phase n = .idle := fun hm =>
    (World.phase_come_ne (Ne.symm hm) _).trans hidle
  have hother : ∀ {m : Nat} {p : Phase}, w.phase m ≠ .idle →
      (w.come m p).phase n = .idle ∧ m ≠ n := by
    intro m p hm
    have hne : m ≠ n := fun hmn => hm (hmn ▸ hidle)
    exact ⟨hcome hne, hne⟩
  cases hstep with
  | @call m h =>
    have hm : m ≠ n := fun hmn => hcalled (hmn ▸ rfl)
    exact ⟨hcome hm, hm⟩
  | depart _ h => exact hother (by simp [h])
  | refuse _ h => exact hother (by simp [h])
  | send h => exact hother (by simp [h])
  | failToSend _ _ h => exact hother (by simp [h])
  | take _ h => exact hother (by simp [h])
  | lose _ _ h => exact hother (by simp [h])
  | cancelQueued h => exact hother (by simp [h])
  | cancel h => exact hother (by rcases h with h | h <;> simp [h])
  | answer | die | observe | close | finishClosing => exact ⟨hidle, id⟩

/-- Only a shutdown closes a link. -/
theorem closed_step (hstep : Step request w e w') (h : ∀ ms, e ≠ .closing ms) :
    w'.link.closed = w.link.closed := by
  cases hstep with
  | depart _ _ _ hstart =>
    obtain ⟨-, rfl⟩ := Link.start_never hstart
    rfl
  | refuse _ _ _ hstart =>
    cases Link.start_atOnce hstart
    rfl
  | close ms => exact absurd rfl (h ms)
  | _ => rfl

theorem closed_closing {ms : Nat} (hstep : Step request w (.closing ms) w') :
    w.holder = none ∧ w'.link.closed = true ∧ w'.phase = w.phase := by
  cases hstep with
  | close _ hfree => exact ⟨hfree, by rw [Link.shutdown_wire], rfl⟩

/-- Where the lock of the link is free, no call has a request in the air. -/
theorem Stands.not_inFlight_of_free {s : Standing} (h : Stands w s) (hfree : w.holder = none)
    (n : Nat) : ¬ w.InFlight n := by
  cases h with
  | calm _ _ hcalls => exact hcalls n
  | leaving m hlock =>
    rw [hfree] at hlock
    cases hlock
  | flying m hlock =>
    rw [hfree] at hlock
    cases hlock
  | adrift _ hcalls => exact hcalls n

/-- No call departs on a closed link. -/
theorem not_departed_of_closed (hstep : Step request w (.departed n) w')
    (h : w.link.closed = true) : False := by
  cases hstep with
  | depart _ _ _ hstart =>
    rw [Link.start_wire] at hstart
    unfold Link.refusal? at hstart
    rw [if_pos h] at hstart
    cases hstart

/-- On a closed link without a request in the air no call gets one there. -/
theorem calm_step (hstep : Step request w e w') (hclosed : w.link.closed = true)
    (h : ∀ n, ¬ w.InFlight n) (n : Nat) : ¬ w'.InFlight n := by
  have hcome : ∀ {m : Nat} {p : Phase}, ¬ p.Flies → ¬ (w.come m p).InFlight n := by
    intro m p hp
    by_cases hn : n = m
    · rw [hn]
      exact World.not_inFlight_come_self hp
    · rw [World.inFlight_come_ne hn]
      exact h n
  cases hstep with
  | call | refuse | failToSend | take | lose | cancelQueued | cancel => exact hcome id
  | depart now hn hfree hstart =>
    exact (not_departed_of_closed (.depart now hn hfree hstart) hclosed).elim
  | send hsend => exact absurd (World.inFlight_of_phase hsend trivial) (h _)
  | answer | die | observe | close | finishClosing => exact h n

namespace Connection

variable {options : Options} {past : List Incident} {c c' : Crowd} {i : Incident} {k : Nat}

/-! ## Who closed the connection -/

/-- The close has begun to close the connection and is not through. -/
def Ending.Active : Ending → Prop
  | .marked | .queued | .shutting => True
  | .away | .come | .through => False

/-- The stage is closed when a close has marked it, and only one has. It holds the lock of the
stage until it has the handle. -/
structure Marked (past : List Incident) (c : Crowd) : Prop where
  closed : c.closed = true ↔ ∃ k, .marked k ∈ past
  one : ∀ j k, .marked j ∈ past → .marked k ∈ past → j = k
  lock : ∀ k, c.stageLock = some k → c.ending k = .marked
  active : ∀ k, (c.ending k).Active → .marked k ∈ past

/-- The connection is closed by nobody new. -/
theorem Marked.step (h : Marked past c) (hi : ∀ j, i ≠ .marked j) (hclosed : c'.closed = c.closed)
    (hlock : ∀ j, c'.stageLock = some j → c'.ending j = .marked)
    (hactive : ∀ j, (c'.ending j).Active → (c.ending j).Active) : Marked (past ++ [i]) c' := by
  have hmem : ∀ j, .marked j ∈ past ++ [i] ↔ .marked j ∈ past := fun j => by
    simp [Ne.symm (hi j)]
  refine ⟨?_, fun j k hj hk => ?_, hlock, fun j hj => ?_⟩
  · simp only [hmem, hclosed]
    exact h.closed
  · exact h.one j k ((hmem j).1 hj) ((hmem k).1 hk)
  · exact (hmem j).2 (h.active j (hactive j hj))

theorem Marked.keep (h : Marked past c) (hi : ∀ j, i ≠ .marked j) (hclosed : c'.closed = c.closed)
    (hlock : c'.stageLock = c.stageLock) (hending : c'.ending = c.ending) :
    Marked (past ++ [i]) c' := by
  refine h.step hi hclosed (fun j hj => ?_) fun j hj => ?_
  · rw [hlock] at hj
    rw [hending]
    exact h.lock j hj
  · rwa [hending] at hj

/-- A close goes on without the lock of the stage. -/
theorem Marked.proceed (h : Marked past c) (hi : ∀ j, i ≠ .marked j) (e : Ending)
    (hactive : e.Active → (c.ending k).Active) (hclosed : c'.closed = c.closed)
    (hlock : c'.stageLock = none ∨ c'.stageLock = c.stageLock ∧ c.ending k ≠ .marked)
    (hending : c'.ending = (c.proceed k e).ending) : Marked (past ++ [i]) c' := by
  refine h.step hi hclosed (fun j hj => ?_) fun j hj => ?_
  · rcases hlock with hnone | ⟨hsame, hk⟩
    · rw [hnone] at hj
      cases hj
    · rw [hsame] at hj
      have hjk : j ≠ k := fun hjk => hk (hjk ▸ h.lock j hj)
      rw [hending, Crowd.ending_proceed_ne hjk]
      exact h.lock j hj
  · rw [hending] at hj
    by_cases hjk : j = k
    · subst hjk
      rw [Crowd.ending_proceed_self] at hj
      exact hactive hj
    · rwa [Crowd.ending_proceed_ne hjk] at hj

/-- A close that does not hold the lock of the stage leaves it as it is. -/
theorem Marked.pass (h : Marked past c) (hi : ∀ j, i ≠ .marked j) (e : Ending)
    (hactive : e.Active → (c.ending k).Active) (hk : c.ending k ≠ .marked)
    (hclosed : c'.closed = c.closed) (hlock : c'.stageLock = c.stageLock)
    (hending : c'.ending = (c.proceed k e).ending) : Marked (past ++ [i]) c' :=
  h.proceed hi e hactive hclosed (.inr ⟨hlock, hk⟩) hending

theorem Marked.mark (h : Marked past c) (hopen : c.closed = false) :
    Marked (past ++ [.marked k])
      { c.proceed k .marked with closed := true, stageLock := some k } := by
  have hnone : ∀ j, .marked j ∉ past := fun j hj => by
    have hclosed := h.closed.2 ⟨j, hj⟩
    rw [hopen] at hclosed
    cases hclosed
  have hmem : ∀ j, .marked j ∈ past ++ [.marked k] ↔ j = k := fun j => by simp [hnone j]
  refine ⟨⟨fun _ => ⟨k, (hmem k).2 rfl⟩, fun _ => rfl⟩, fun i j hi hj => ?_, fun j hj => ?_,
    fun j hj => ?_⟩
  · rw [(hmem i).1 hi, (hmem j).1 hj]
  · cases hj
    exact Crowd.ending_proceed_self k _
  · by_cases hjk : j = k
    · exact (hmem j).2 hjk
    · have hbefore : (c.ending j).Active := by
        have hj' : ((c.proceed k .marked).ending j).Active := hj
        rwa [Crowd.ending_proceed_ne hjk] at hj'
      exact absurd (h.active j hbefore) (hnone j)

theorem marked_step (hstep : Happens options request c i c') (h : Marked past c) :
    Marked (past ++ [i]) c' := by
  cases hstep with
  | call | accept | turnAway | enter | findNoLink | onLink => exact h.keep nofun rfl rfl rfl
  | mark _ _ hopen => exact h.mark hopen
  | close hk => exact h.pass nofun .come False.elim (by simp [hk]) rfl rfl rfl
  | take hk => exact h.proceed nofun .queued (fun _ => by rw [hk]; trivial) rfl (.inl rfl) rfl
  | takeNothing hk => exact h.proceed nofun .through False.elim rfl (.inl rfl) rfl
  | shutDown hk =>
    exact h.pass nofun .shutting (fun _ => by rw [hk]; trivial) (by simp [hk]) rfl rfl rfl
  | findClosed hk | findShut hk | endShutdown _ hk | giveUpQueued hk | giveUpShutdown hk =>
    exact h.pass nofun .through False.elim (by simp [hk]) rfl rfl rfl

/-! ## The transport -/

def Incident.isShutDown : Incident → Bool
  | .shutDown _ _ => true
  | _ => false

/-- The transport was shut down when the link is closed, and once. No request is in the air from
then on. -/
structure Shut (past : List Incident) (c : Crowd) : Prop where
  count : past.countP Incident.isShutDown = if c.world.link.closed then 1 else 0
  calm : c.world.link.closed = true → ∀ n, ¬ c.world.InFlight n

/-- The link is left alone. -/
theorem Shut.keep (h : Shut past c) (hi : i.isShutDown = false) (hworld : c'.world = c.world) :
    Shut (past ++ [i]) c' := by
  refine ⟨?_, ?_⟩
  · rw [List.countP_append, h.count, hworld]
    simp [hi]
  · rw [hworld]
    exact h.calm

/-- The link goes on, and is shut down neither before nor now, or both. -/
theorem Shut.onLink (h : Shut past c) (hi : i.isShutDown = false) {e : Event}
    (hstep : Step request c.world e c'.world)
    (hclosed : c'.world.link.closed = c.world.link.closed) : Shut (past ++ [i]) c' := by
  refine ⟨?_, fun hshut => ?_⟩
  · rw [List.countP_append, h.count, hclosed]
    simp [hi]
  · rw [hclosed] at hshut
    exact calm_step hstep hshut (h.calm hshut)

theorem shut_step (hstep : Happens options request c i c')
    (hstory : Story options request past c) (h : Shut past c) : Shut (past ++ [i]) c' := by
  cases hstep with
  | call | accept | turnAway | findNoLink | close | findClosed | mark | take | takeNothing
  | giveUpQueued => exact h.keep rfl rfl
  | enter _ _ hlink => exact h.onLink rfl hlink (closed_step hlink nofun)
  | onLink hlink hinner =>
    refine h.onLink rfl hlink (closed_step hlink ?_)
    rintro ms rfl
    exact hinner
  | endShutdown _ _ hlink => exact h.onLink rfl hlink (closed_step hlink nofun)
  | giveUpShutdown _ hlink => exact h.onLink rfl hlink (closed_step hlink nofun)
  | findShut _ hclosed hlink =>
    exact h.onLink rfl hlink ((closed_closing hlink).2.1.trans hclosed.symm)
  | @shutDown k w hk hopen hlink =>
    obtain ⟨hfree, hclosed, hphase⟩ := closed_closing hlink
    obtain ⟨events, hevents⟩ := hstory.history
    obtain ⟨s, hs⟩ := hevents.tells
    refine ⟨?_, fun _ n => ?_⟩
    · have hcount := h.count
      rw [hopen] at hcount
      rw [List.countP_append, hcount]
      simp [hclosed, Incident.isShutDown]
    · have hbefore := hs.stands.not_inFlight_of_free hfree n
      show ¬ w.InFlight n
      unfold World.InFlight at hbefore ⊢
      rwa [hphase]

/-! ## Calls that come later -/

/-- The incident is a doing of the call. -/
def Incident.OfCall (n : Nat) : Incident → Prop
  | .called m | .admitted m | .turnedAway m _ => m = n
  | .onLink e => e.OfCall n
  | _ => False

/-- The call came when a close had closed the connection. -/
def Late (past : List Incident) (n : Nat) : Prop :=
  ∃ before after k, past = before ++ .called n :: after ∧ .marked k ∈ before

theorem Late.marked {n : Nat} (h : Late past n) : ∃ k, .marked k ∈ past := by
  obtain ⟨before, after, k, rfl, hk⟩ := h
  exact ⟨k, List.mem_append_left _ hk⟩

/-- A call is late already, or it comes now. -/
theorem Late.of_concat {n : Nat} (h : Late (past ++ [i]) n) :
    Late past n ∨ i = .called n ∧ ∃ k, .marked k ∈ past := by
  obtain ⟨before, after, k, heq, hk⟩ := h
  rcases List.eq_nil_or_concat after with rfl | ⟨inner, last, rfl⟩
  · obtain ⟨rfl, hlast⟩ := List.append_inj' heq rfl
    cases hlast
    exact .inr ⟨rfl, k, hk⟩
  · have hsplit : past ++ [i] = (before ++ .called n :: inner) ++ [last] := by
      rw [heq]
      simp
    obtain ⟨rfl, -⟩ := List.append_inj' hsplit rfl
    exact .inl ⟨before, inner, k, rfl, hk⟩

/-- Calls that have not fetched the link do nothing there, and late ones never fetch it. -/
structure Outside (past : List Incident) (c : Crowd) : Prop where
  idle : ∀ n, c.approach n ≠ .through → c.world.phase n = .idle
  late : ∀ n, Late past n →
    c.world.phase n = .idle ∧ (c.approach n = .come ∨ c.approach n = .through)

/-- No call goes on towards the link. -/
theorem Outside.keep (h : Outside past c) (hi : ∀ n, i ≠ .called n)
    (happroach : c'.approach = c.approach)
    (hphase : ∀ n, c.world.phase n = .idle → c'.world.phase n = .idle) :
    Outside (past ++ [i]) c' := by
  refine ⟨fun n hn => ?_, fun n hn => ?_⟩
  · rw [happroach] at hn
    exact hphase n (h.idle n hn)
  · rcases hn.of_concat with hlate | ⟨hcalled, -⟩
    · rw [happroach]
      exact ⟨hphase n (h.late n hlate).1, (h.late n hlate).2⟩
    · exact absurd hcalled (hi n)

/-- A call goes on, and the others do not. -/
theorem Outside.advance (h : Outside past c) {m : Nat} (a : Approach)
    (hi : ∀ n, i = .called n → n = m) (happroach : c'.approach = (c.advance m a).approach)
    (hother : ∀ n, n ≠ m → c.world.phase n = .idle → c'.world.phase n = .idle)
    (hself : a ≠ .through → c'.world.phase m = .idle)
    (hlate : Late (past ++ [i]) m → c'.world.phase m = .idle ∧ (a = .come ∨ a = .through)) :
    Outside (past ++ [i]) c' := by
  refine ⟨fun n hn => ?_, fun n hn => ?_⟩
  · rw [happroach] at hn
    by_cases hnm : n = m
    · subst hnm
      rw [Crowd.approach_advance_self] at hn
      exact hself hn
    · rw [Crowd.approach_advance_ne hnm] at hn
      exact hother n hnm (h.idle n hn)
  · rw [happroach]
    by_cases hnm : n = m
    · subst hnm
      rw [Crowd.approach_advance_self]
      exact hlate hn
    · rw [Crowd.approach_advance_ne hnm]
      rcases hn.of_concat with hbefore | ⟨hcalled, -⟩
      · exact ⟨hother n hnm (h.late n hbefore).1, (h.late n hbefore).2⟩
      · exact absurd (hi n hcalled) hnm

theorem outside_step (hstep : Happens options request c i c') (hmarked : Marked past c)
    (h : Outside past c) : Outside (past ++ [i]) c' := by
  have hphase : ∀ {e : Event} {w : World}, Step request c.world e w → (∀ n, e ≠ .called n) →
      ∀ n, c.world.phase n = .idle → w.phase n = .idle :=
    fun hlink hcalled n hn => (idle_step hlink hn (hcalled n)).1
  cases hstep with
  | @call m hm =>
    have hidle := h.idle m (by simp [hm])
    exact h.advance .come (fun n hn => by cases hn; rfl) rfl (fun _ _ hn => hn) (fun _ => hidle)
      fun _ => ⟨hidle, .inl rfl⟩
  | @accept m hm hfree hopen =>
    have hidle := h.idle m (by simp [hm])
    refine h.advance .admitted nofun rfl (fun _ _ hn => hn) (fun _ => hidle) fun hlate => ?_
    rcases hlate.of_concat with hbefore | ⟨hcalled, -⟩
    · have hclosed := hmarked.closed.2 hbefore.marked
      rw [hopen] at hclosed
      cases hclosed
    · cases hcalled
  | @turnAway m hm =>
    have hidle := h.idle m (by simp [hm])
    exact h.advance .through nofun rfl (fun _ _ hn => hn) (fun _ => hidle)
      fun _ => ⟨hidle, .inr rfl⟩
  | @findNoLink m hm =>
    have hidle := h.idle m (by simp [hm])
    exact h.advance .through nofun rfl (fun _ _ hn => hn) (fun _ => hidle)
      fun _ => ⟨hidle, .inr rfl⟩
  | @enter m w hm _ hlink =>
    refine h.advance .through nofun rfl (fun n hn hidle => ?_) (absurd rfl) fun hlate => ?_
    · refine (idle_step hlink hidle ?_).1
      rintro ⟨⟩
      exact hn rfl
    · rcases hlate.of_concat with hbefore | ⟨hcalled, -⟩
      · rcases (h.late m hbefore).2 with hcome | hthrough
        · simp [hm] at hcome
        · simp [hm] at hthrough
      · cases hcalled
  | onLink hlink hinner =>
    refine h.keep nofun rfl (hphase hlink ?_)
    rintro n rfl
    exact hinner
  | close | findClosed | mark | take | takeNothing | giveUpQueued =>
    exact h.keep nofun rfl fun _ hn => hn
  | shutDown _ _ hlink => exact h.keep nofun rfl (hphase hlink nofun)
  | findShut _ _ hlink => exact h.keep nofun rfl (hphase hlink nofun)
  | endShutdown _ _ hlink => exact h.keep nofun rfl (hphase hlink nofun)
  | giveUpShutdown _ hlink => exact h.keep nofun rfl (hphase hlink nofun)

/-- All that a late call can do is to be turned away. -/
theorem turned_away_of_late (hstep : Happens options request c i c') (hmarked : Marked past c)
    (houtside : Outside past c) {n : Nat} (hlate : Late past n) (hi : i.OfCall n) :
    i = .turnedAway n Link.closedError := by
  obtain ⟨hidle, hwhere⟩ := houtside.late n hlate
  have hclosed := hmarked.closed.2 hlate.marked
  cases hstep with
  | call h =>
    cases hi
    simp [h] at hwhere
  | accept _ _ hopen =>
    rw [hclosed] at hopen
    cases hopen
  | turnAway h =>
    cases hi
    simp [Crowd.connection, hclosed, notConnected]
  | findNoLink h =>
    cases hi
    rfl
  | enter h =>
    cases hi
    simp [h] at hwhere
  | @onLink e w hlink hinner =>
    refine absurd hi (idle_step hlink hidle ?_).2
    rintro rfl
    exact hinner
  | close | findClosed | mark | take | takeNothing | shutDown | findShut | endShutdown
  | giveUpQueued | giveUpShutdown => exact hi.elim

/-! ## Every story -/

/-- What holds of a connection that was connected, whatever happened. -/
structure Sound (past : List Incident) (c : Crowd) : Prop where
  marked : Marked past c
  shut : Shut past c
  outside : Outside past c

theorem Sound.gathered {w : World} (hopen : w.link.closed = false) : Sound [] (.gathered w) := by
  refine ⟨⟨?_, nofun, nofun, fun k hk => hk.elim⟩, ⟨?_, fun hclosed => ?_⟩, ⟨fun n hn => ?_, ?_⟩⟩
  · simp [Crowd.gathered]
  · show 0 = if w.link.closed = true then 1 else 0
    simp [hopen]
  · have hclosed' : w.link.closed = true := hclosed
    rw [hopen] at hclosed'
    cases hclosed'
  · by_cases hphase : w.phase n = .idle
    · exact hphase
    · exact absurd (if_neg hphase) hn
  · rintro n ⟨before, after, k, heq, -⟩
    cases before <;> cases heq

theorem Story.sound (h : Story options request past c) : Sound past c := by
  induction h with
  | connected _ hopen => exact .gathered hopen
  | snoc hstory hstep ih =>
    exact ⟨marked_step hstep ih.marked, shut_step hstep hstory ih.shut,
      outside_step hstep ih.marked ih.outside⟩

/-- A close lets go of the lock of the stage. -/
def Incident.Unlocks : Incident → Prop
  | .taken _ | .closeEnded _ (.ok ()) => True
  | _ => False

/-- The lock of the stage gets free, and nobody else goes on. -/
theorem Story.unlocked (h : Story options request past c) :
    ∃ between c', Story options request (past ++ between) c' ∧ c'.stageLock = none ∧
      c'.closed = c.closed ∧ c'.approach = c.approach ∧
      (∀ k, c.ending k = .come → c'.ending k = .come) ∧ ∀ i ∈ between, i.Unlocks := by
  cases hlock : c.stageLock with
  | none =>
    refine ⟨[], c, ?_, hlock, rfl, rfl, fun _ hk => hk, nofun⟩
    rwa [List.append_nil]
  | some j =>
    have hj := h.sound.marked.lock j hlock
    have hothers : ∀ e k, c.ending k = .come → (c.proceed j e).ending k = .come := by
      intro e k hk
      have hkj : k ≠ j := by
        rintro rfl
        simp [hj] at hk
      rwa [Crowd.ending_proceed_ne hkj]
    cases hhandle : c.handle with
    | true =>
      refine ⟨[.taken j], _, h.snoc (.take hj hhandle), rfl, rfl, rfl, hothers .queued, ?_⟩
      simp [Incident.Unlocks]
    | false =>
      refine ⟨[.closeEnded j (.ok ())], _, h.snoc (.takeNothing hj hhandle), rfl, rfl, rfl,
        hothers .through, ?_⟩
      simp [Incident.Unlocks]

/-- A close that did not close the connection does not fail. -/
theorem ok_of_closeEnded (hstep : Happens options request c i c') (hmarked : Marked past c)
    {r : Except CallError Unit} (hi : i = .closeEnded k r) (hk : .marked k ∉ past) :
    r = .ok () := by
  cases hstep with
  | findClosed | takeNothing | findShut =>
    cases hi
    rfl
  | endShutdown _ h =>
    cases hi
    have hactive : (c.ending k).Active := by
      rw [h]
      trivial
    exact absurd (hmarked.active k hactive) hk
  | _ => cases hi

/-- The transport gets no request when it was shut down. -/
theorem not_sent_of_shutDown (hstep : Happens options request c i c') (hshut : Shut past c)
    {ms : Nat} (hpast : .shutDown k ms ∈ past) (n : Nat) :
    i ≠ .onLink (.departed n) ∧ i ≠ .onLink (.sent n) := by
  have hclosed : c.world.link.closed = true := by
    by_cases hopen : c.world.link.closed = true
    · exact hopen
    · have hcount := hshut.count
      rw [if_neg hopen, List.countP_eq_zero] at hcount
      exact absurd rfl (hcount _ hpast)
  constructor
  · rintro rfl
    cases hstep with
    | onLink hlink => exact not_departed_of_closed hlink hclosed
  · rintro rfl
    cases hstep with
    | onLink hlink =>
      cases hlink with
      | send hn => exact hshut.calm hclosed n (World.inFlight_of_phase hn trivial)

/-- However calls and closes of any number of clones interleave, and whatever the host and its
shutdown do: one close at most closes the connection, and it stays closed; the transport is shut
down once at most, and no request goes out from then on; all that a call can do that comes later is
to be turned away, and it can be; and all closes but the one that closed the connection end well,
and can end. -/
theorem closed_is_the_end (h : Story options request past c) :
    (∀ j k, .marked j ∈ past → .marked k ∈ past →
      j = k ∧ (c.connection options).stage = .closed (some c.world.link)) ∧
    past.countP Incident.isShutDown ≤ 1 ∧
    (∀ i c', Happens options request c i c' →
      (∀ k ms n, .shutDown k ms ∈ past → i ≠ .onLink (.departed n) ∧ i ≠ .onLink (.sent n)) ∧
      (∀ n, Late past n → i.OfCall n → i = .turnedAway n Link.closedError) ∧
      ∀ k r, i = .closeEnded k r → .marked k ∉ past → r = .ok ()) ∧
    (∀ n, Late past n → c.approach n = .come → ∃ between c', (∀ i ∈ between, i.Unlocks) ∧
      Story options request (past ++ between ++ [.turnedAway n Link.closedError]) c') ∧
    ∀ j k, .marked j ∈ past → c.ending k = .come → ∃ between c', (∀ i ∈ between, i.Unlocks) ∧
      Story options request (past ++ between ++ [.closeEnded k (.ok ())]) c' := by
  obtain ⟨hmarked, hshut, houtside⟩ := h.sound
  have hclosed : ∀ k, .marked k ∈ past → c.closed = true := fun k hk => hmarked.closed.2 ⟨k, hk⟩
  obtain ⟨between, c', hstory, hfree, hsame, happroach, hending, hunlocks⟩ := h.unlocked
  refine ⟨fun j k hj hk => ⟨hmarked.one j k hj hk, ?_⟩, ?_, fun i c' hstep => ⟨?_, ?_, ?_⟩, ?_, ?_⟩
  · simp [Crowd.connection, hclosed j hj]
  · rw [hshut.count]
    split <;> decide
  · exact fun k ms n hk => not_sent_of_shutDown hstep hshut hk n
  · exact fun n hlate hi => turned_away_of_late hstep hmarked houtside hlate hi
  · exact fun k r hi hk => ok_of_closeEnded hstep hmarked hi hk
  · intro n hlate hn
    obtain ⟨k, hk⟩ := hlate.marked
    have hclosed' : c'.closed = true := hsame.trans (hclosed k hk)
    have haway := hstory.snoc (.turnAway (happroach ▸ hn) hfree hclosed')
    have herror : notConnected (c'.connection options).stage = Link.closedError := by
      simp [Crowd.connection, hclosed', notConnected]
    rw [herror] at haway
    exact ⟨between, _, hunlocks, haway⟩
  · intro j k hj hk
    have hend := hstory.snoc (.findClosed (hending k hk) hfree (hsame.trans (hclosed j hj)))
    exact ⟨between, _, hunlocks, hend⟩

/-- A call that found the connection connected gets to the link behind the close, and is answered.
One that comes then is late, and so is a second close. The shutdown fails. -/
def racing : List Incident :=
  [.called 0, .admitted 0, .closeCalled 0, .marked 0, .onLink (.called 0), .taken 0,
    .onLink (.departed 0), .onLink (.sent 0), .called 1, .onLink (.answered 0 (.ok .ready)),
    .onLink (.handed 0 0 (.ok .ready)), .shutDown 0 Options.default.closeTimeout,
    .closeCalled 1, .closeEnded 0 (.error Link.hostGone)]

theorem racing_story : ∃ c, Story Options.default (fun _ => .call .ping) racing c ∧
    c.approach 1 = .come ∧ c.ending 1 = .come := by
  have hstart : Story Options.default (fun _ => .call .ping) [] (.gathered (.fresh 0 true)) :=
    .connected (.fresh 0 true) rfl
  have hadmitted := (hstart.snoc (.call (n := 0) rfl)).snoc (.accept (n := 0) rfl rfl rfl)
  have hmarked := (hadmitted.snoc (.close (k := 0) rfl)).snoc (.mark (k := 0) rfl rfl rfl)
  have htaken := (hmarked.snoc (.enter (n := 0) rfl rfl (.call rfl))).snoc (.take (k := 0) rfl rfl)
  have hsent := (htaken.snoc (.onLink (.depart (n := 0) 1 rfl rfl rfl) trivial)).snoc
    (.onLink (.send (n := 0) rfl rfl) trivial)
  have hlate := hsent.snoc (.call (n := 1) rfl)
  have hanswered := (hlate.snoc (.onLink (.answer (.ok .ready) rfl rfl) trivial)).snoc
    (.onLink (.take (n := 0) 2 rfl rfl) trivial)
  have hshut := hanswered.snoc (.shutDown (k := 0) rfl rfl (.close _ rfl))
  have hended := (hshut.snoc (.close (k := 1) rfl)).snoc
    (.endShutdown (k := 0) (.error Link.hostGone) rfl (.finishClosing rfl))
  exact ⟨_, hended, rfl, rfl⟩

theorem late_racing : Late racing 1 :=
  ⟨racing.take 8, racing.drop 9, 0, rfl, by simp [racing]⟩

theorem racing_closes_for_good :
    ∃ c, Story Options.default (fun _ => .call .ping) racing c ∧
      (∀ i c', Happens Options.default (fun _ => .call .ping) c i c' →
        (∀ n, i ≠ .onLink (.departed n) ∧ i ≠ .onLink (.sent n)) ∧
        (i.OfCall 1 → i = .turnedAway 1 Link.closedError)) ∧
      (∃ between c', Story Options.default (fun _ => .call .ping)
        (racing ++ between ++ [.turnedAway 1 Link.closedError]) c') ∧
      ∃ between c', Story Options.default (fun _ => .call .ping)
        (racing ++ between ++ [.closeEnded 1 (.ok ())]) c' := by
  obtain ⟨c, hstory, hcall, hclose⟩ := racing_story
  obtain ⟨-, -, hnext, hturned, hended⟩ := closed_is_the_end hstory
  refine ⟨c, hstory, fun i c' hstep => ⟨fun n => ?_, ?_⟩, ?_, ?_⟩
  · exact (hnext i c' hstep).1 0 Options.default.closeTimeout n (by simp [racing])
  · exact (hnext i c' hstep).2.1 1 late_racing
  · obtain ⟨between, c', -, haway⟩ := hturned 1 late_racing hcall
    exact ⟨between, c', haway⟩
  · obtain ⟨between, c', -, hend⟩ := hended 0 1 (by simp [racing]) hclose
    exact ⟨between, c', hend⟩

end Connection
end StructuredSql
