-- Single flight: whatever the order of steps, a request is sent only when nothing is on
-- the way, a caller is handed the response to its own request, and a call that is given up
-- behind its request is the last that sends one. What a link does for one caller, through
-- an exchange or one that is given up, and what a shutdown does, are courses of steps in
-- which no other caller has a part.
import StructuredSql.Proofs.Link.Standing

namespace StructuredSql

/-! ## Whole histories -/

namespace History

variable {request : Nat → Request} {past : List Event} {w : World}

/-- What an event brings about and no step undoes holds ever after. -/
theorem remember {P : World → Prop} {e₀ : Event}
    (hmake : ∀ {w w'}, Step request w e₀ w' → P w')
    (hkeep : ∀ {w e w'}, Step request w e w' → P w → P w') (h : History request past w)
    (hmem : e₀ ∈ past) : P w := by
  induction h with
  | fresh => exact absurd hmem List.not_mem_nil
  | snoc h hstep ih =>
    rcases List.mem_append.mp hmem with hold | hnew
    · exact hkeep hstep (ih hold)
    · cases List.mem_singleton.mp hnew
      exact hmake hstep

/-- What only one event brings about tells that the event has been. -/
theorem origin {P : World → Prop} {e₀ : Event} (hfresh : ∀ now alive, ¬ P (.fresh now alive))
    (hback : ∀ {w e w'}, Step request w e w' → P w' → P w ∨ e = e₀) (h : History request past w)
    (hw : P w) : e₀ ∈ past := by
  induction h with
  | fresh now alive => exact absurd hw (hfresh now alive)
  | snoc h hstep ih =>
    rcases hback hstep hw with hold | rfl
    · exact List.mem_append_left _ (ih hold)
    · exact List.mem_append_right _ (List.mem_singleton_self _)

end History

/-- How far along a phase is. -/
def Phase.rank : Phase → Nat
  | .idle => 0
  | .queued => 1
  | .departed => 2
  | .sent => 3
  | .over => 4

theorem World.rank_come {w : World} {n : Nat} {p : Phase} (h : (w.phase n).rank ≤ p.rank)
    (k : Nat) : (w.phase k).rank ≤ ((w.come n p).phase k).rank := by
  by_cases hk : k = n
  · rw [hk, phase_come_self]
    exact h
  · exact Nat.le_of_eq (congrArg Phase.rank (phase_come_ne hk p).symm)

/-- No call goes back. -/
theorem rank_step {request : Nat → Request} {w w' : World} {e : Event}
    (hstep : Step request w e w') (k : Nat) : (w.phase k).rank ≤ (w'.phase k).rank := by
  cases hstep with
  | call hn | depart _ hn | refuse _ hn | send hn | failToSend _ _ hn | take _ hn | lose _ _ hn
  | cancelQueued hn =>
    refine World.rank_come ?_ k
    rw [hn]
    decide
  | cancel hn =>
    refine World.rank_come ?_ k
    rcases hn with hn | hn <;> rw [hn] <;> decide
  | answer | die | observe | close | finishClosing => exact Nat.le_refl _

theorem gone_step {request : Nat → Request} {w w' : World} {e : Event}
    (hstep : Step request w e w') (h : w.wire.gone = true) : w'.wire.gone = true := by
  cases hstep with
  | depart now hn hfree hstart =>
    obtain ⟨-, rfl⟩ := Link.start_never hstart
    exact h
  | refuse now hn hfree hstart =>
    cases Link.start_atOnce hstart
    exact h
  | die => rfl
  | close =>
    rw [Link.shutdown_wire]
    exact h
  | _ => exact h

namespace History

variable {request : Nat → Request} {past : List Event} {w : World}

theorem rank_of_sent (h : History request past w) {n : Nat} (hn : .sent n ∈ past) :
    3 ≤ (w.phase n).rank :=
  h.remember (P := fun w => 3 ≤ (w.phase n).rank)
    (fun hstep => by
      cases hstep with
      | send hn hhost =>
        show 3 ≤ ((World.come _ n .sent).phase n).rank
        rw [World.phase_come_self]
        decide)
    (fun hstep hw => Nat.le_trans hw (rank_step hstep n)) hn

theorem rank_of_cancelled (h : History request past w) {n : Nat} (hn : .cancelled n ∈ past) :
    4 ≤ (w.phase n).rank :=
  h.remember (P := fun w => 4 ≤ (w.phase n).rank)
    (fun hstep => by
      have hover (w : World) : 4 ≤ ((w.come n .over).phase n).rank := by
        rw [World.phase_come_self]
        decide
      cases hstep with
      | cancelQueued hn => exact hover _
      | cancel hn => exact hover _)
    (fun hstep hw => Nat.le_trans hw (rank_step hstep n)) hn

theorem gone_of_lost (h : History request past w) {n : Nat} {e : CallError}
    (hn : .lost n e ∈ past) : w.wire.gone = true :=
  h.remember (P := fun w => w.wire.gone = true)
    (fun hstep => by
      cases hstep with
      | lose now e hn hread hhost => exact hhost)
    gone_step hn

theorem sent_of_phase (h : History request past w) {n : Nat} (hn : w.phase n = .sent) :
    .sent n ∈ past := by
  refine h.origin (P := fun w => w.phase n = .sent) (fun _ _ => nofun) ?_ hn
  intro w e w' hstep hw
  have hcome (m : Nat) (p : Phase) (hp : p ≠ .sent) (h : (w.come m p).phase n = .sent) :
      w.phase n = .sent := (World.phase_come_eq h).resolve_right fun h => hp h.2
  cases hstep with
  | send hn hhost => exact (World.phase_come_eq hw).imp_right fun h => by rw [h.1]
  | call => exact .inl (hcome _ .queued nofun hw)
  | depart => exact .inl (hcome _ .departed nofun hw)
  | refuse | failToSend | take | lose | cancelQueued | cancel =>
    exact .inl (hcome _ .over nofun hw)
  | answer | die | observe | close | finishClosing => exact .inl hw

/-- Only the host makes responses. -/
theorem answered_of_unread (h : History request past w) {n : Nat} {a : Except CallError Response}
    (hn : (n, a) ∈ w.wire.unread) : .answered n a ∈ past :=
  h.origin (P := fun w => (n, a) ∈ w.wire.unread) (fun _ _ => List.not_mem_nil)
    (fun hstep hw => by
      cases hstep with
      | answer a' hpending hhost =>
        rcases List.mem_append.mp hw with hold | hnew
        · exact .inl hold
        · cases List.mem_singleton.mp hnew
          exact .inr rfl
      | take now hn hread =>
        refine .inl ?_
        rw [hread]
        exact List.mem_cons_of_mem _ hw
      | depart now hn hfree hstart =>
        obtain ⟨-, rfl⟩ := Link.start_never hstart
        exact .inl hw
      | refuse now hn hfree hstart =>
        cases Link.start_atOnce hstart
        exact .inl hw
      | close =>
        rw [Link.shutdown_wire] at hw
        exact .inl hw
      | _ => exact .inl hw)
    hn

end History

/-- The response to the request of a call was read by the call, or the call has learned that
there will be none. -/
def Settled (past : List Event) (m : Nat) : Prop :=
  (∃ a, .handed m m a ∈ past) ∨ ∃ e, .lost m e ∈ past

theorem Settled.snoc {past : List Event} {m : Nat} (h : Settled past m) (e : Event) :
    Settled (past ++ [e]) m :=
  h.imp (fun ⟨a, ha⟩ => ⟨a, List.mem_append_left _ ha⟩)
    fun ⟨e', he⟩ => ⟨e', List.mem_append_left _ he⟩

/-- What the past says of how a link stands. -/
structure Tells (past : List Event) (w : World) (s : Standing) : Prop where
  stands : Stands w s
  settled : ∀ m, .sent m ∈ past → Settled past m ∨ s = .flying m ∨ s = .adrift
  adrift : ∀ n, .sent n ∈ past → .cancelled n ∈ past → s = .adrift

/-- A link that is adrift stays so. -/
theorem Moves.adrift_eq {e : Event} {s : Standing} (h : Moves .adrift e s) : s = .adrift := by
  cases h
  rfl

/-- A request that was sent is read, is lost, is still in the air, or sets the link adrift. -/
theorem Tells.settled_step {past : List Event} {w : World} {s s' : Standing} {e : Event}
    (h : Tells past w s) (hmoves : Moves s e s') {m : Nat} (hm : .sent m ∈ past ++ [e]) :
    Settled (past ++ [e]) m ∨ s' = .flying m ∨ s' = .adrift := by
  have hlast : e ∈ past ++ [e] := List.mem_append_right _ (List.mem_singleton_self e)
  rcases List.mem_append.mp hm with hold | hnew
  · rcases h.settled m hold with hsettled | rfl | rfl
    · exact .inl (hsettled.snoc e)
    · cases hmoves with
      | take n a => exact .inl (.inl ⟨a, hlast⟩)
      | lose n e => exact .inl (.inr ⟨e, hlast⟩)
      | cancelSent n => exact .inr (.inr rfl)
      | stay h => exact .inr (.inl rfl)
    · exact .inr (.inr hmoves.adrift_eq)
  · cases List.mem_singleton.mp hnew
    cases hmoves with
    | send n => exact .inr (.inl rfl)
    | stay h => exact absurd h not_false

/-- A call that is given up behind its request sets the link adrift. -/
theorem Tells.adrift_step {request : Nat → Request} {past : List Event} {w w' : World}
    {s s' : Standing} {e : Event} (hpast : History request past w) (h : Tells past w s)
    (hstep : Step request w e w') (hmoves : Moves s e s') {n : Nat}
    (hsent : .sent n ∈ past ++ [e]) (hcancelled : .cancelled n ∈ past ++ [e]) : s' = .adrift := by
  rcases List.mem_append.mp hsent with hs | hs
  · rcases List.mem_append.mp hcancelled with hc | hc
    · cases h.adrift n hs hc
      exact hmoves.adrift_eq
    · cases List.mem_singleton.mp hc
      have hrank := hpast.rank_of_sent hs
      cases hstep with
      | cancelQueued hn =>
        rw [hn] at hrank
        exact absurd hrank (by decide)
      | cancel hn =>
        rcases hn with hn | hn
        · rw [hn] at hrank
          exact absurd hrank (by decide)
        · obtain ⟨rfl, -⟩ := h.stands.of_sent hn
          cases hmoves with
          | cancelSent => rfl
          | stay hignores => exact absurd rfl hignores
  · cases List.mem_singleton.mp hs
    rcases List.mem_append.mp hcancelled with hc | hc
    · have hrank := hpast.rank_of_cancelled hc
      cases hstep with
      | send hn hhost =>
        rw [hn] at hrank
        exact absurd hrank (by decide)
    · exact nomatch List.mem_singleton.mp hc

theorem History.tells {request : Nat → Request} {past : List Event} {w : World}
    (h : History request past w) : ∃ s, Tells past w s := by
  induction h with
  | fresh now alive =>
    exact ⟨.calm, .fresh now alive, fun _ hm => absurd hm List.not_mem_nil,
      fun _ hn => absurd hn List.not_mem_nil⟩
  | snoc hpast hstep ih =>
    obtain ⟨s, hs⟩ := ih
    obtain ⟨s', hmoves, hs'⟩ := stands_step hstep hs.stands
    exact ⟨s', hs', fun m hm => hs.settled_step hmoves hm,
      fun n hsent hcancelled => hs.adrift_step hpast hstep hmoves hsent hcancelled⟩

/-! ## Single flight -/

/-- Whatever has happened on a link, by any number of callers and in any order: the next
request is sent only when no request waits for its answer and no response waits to be read,
so that each call that sent one has read the response to it; a call is handed the response
that the host gave to its own request; and behind a call that was given up after its request
was sent, no request is sent any more. -/
theorem a_link_has_one_request_in_the_air {request : Nat → Request} {past : List Event}
    {w w' : World} {e : Event} (hpast : History request past w) (hstep : Step request w e w') :
    (∀ n, e = .sent n → w.wire.pending = [] ∧ w.wire.unread = [] ∧
      ∀ m, .sent m ∈ past → ∃ a, .handed m m a ∈ past) ∧
    (∀ n m a, e = .handed n m a → m = n ∧ .sent n ∈ past ∧ .answered n a ∈ past) ∧
    (∀ n, .sent n ∈ past → .cancelled n ∈ past → ∀ m, e ≠ .sent m) := by
  obtain ⟨s, hs⟩ := hpast.tells
  refine ⟨?_, ?_, ?_⟩
  · rintro n rfl
    cases hstep with
    | send hn hhost =>
      obtain ⟨rfl, -, -, hwire, -⟩ := hs.stands.of_departed hn
      refine ⟨hwire.1, hwire.2, fun m hm => ?_⟩
      rcases hs.settled m hm with (hread | ⟨e, hlost⟩) | hflying | hadrift
      · exact hread
      · rw [hpast.gone_of_lost hlost] at hhost
        cases hhost
      · cases hflying
      · cases hadrift
  · rintro n m a rfl
    obtain ⟨s', hmoves, -⟩ := stands_step hstep hs.stands
    have hown : m = n := by
      cases hmoves with
      | take => rfl
      | stay h => exact absurd h not_false
    cases hstep with
    | take now hn hread =>
      rw [hown] at hread
      exact ⟨hown, hpast.sent_of_phase hn,
        hpast.answered_of_unread (hread ▸ List.mem_cons_self)⟩
  · rintro n hsent hcancelled m rfl
    cases hs.adrift n hsent hcancelled
    cases hstep with
    | send hn hhost => exact nomatch (hs.stands.of_departed hn).1

/-- Two callers come, and the first one sends. -/
def twoCallers : List Event := [.called 0, .called 1, .departed 0, .sent 0]

/-- The first is handed its own response, and the second one sends behind it. Had the first
given up while it waited, the second one would be refused. -/
theorem two_callers_share_a_link :
    (∃ w w', History (fun _ => .call .ping) (twoCallers ++ [.answered 0 (.ok .ready)]) w ∧
      Step (fun _ => .call .ping) w (.handed 0 0 (.ok .ready)) w' ∧
      .answered 0 (.ok .ready) ∈ twoCallers ++ [.answered 0 (.ok .ready)]) ∧
    (∃ w w', History (fun _ => .call .ping)
        (twoCallers ++ [.answered 0 (.ok .ready)] ++ [.handed 0 0 (.ok .ready)] ++
          [.departed 1]) w ∧
      Step (fun _ => .call .ping) w (.sent 1) w' ∧ w.wire.pending = [] ∧ w.wire.unread = []) ∧
    ∃ w w', History (fun _ => .call .ping) (twoCallers ++ [.cancelled 0]) w ∧
      Step (fun _ => .call .ping) w (.refused 1 Link.outOfStep) w' ∧
      ∀ m, .refused 1 Link.outOfStep ≠ Event.sent m := by
  have hwaiting : History (fun _ => .call .ping) twoCallers _ :=
    ((((History.fresh 0 true).snoc (.call rfl)).snoc (.call rfl)).snoc
      (.depart 1 rfl rfl rfl)).snoc (.send rfl rfl)
  have hanswered := hwaiting.snoc (.answer (.ok .ready) rfl rfl)
  have hdeparted := (hanswered.snoc (.take (n := 0) 2 rfl rfl)).snoc
    (.depart (n := 1) 3 rfl rfl rfl)
  have hcancelled := hwaiting.snoc (.cancel (n := 0) (.inr rfl))
  refine ⟨⟨_, _, hanswered, .take 2 rfl rfl, ?_⟩, ⟨_, _, hdeparted, .send rfl rfl, ?_⟩,
    ⟨_, _, hcancelled, .refuse 2 rfl rfl rfl, ?_⟩⟩
  · have h := a_link_has_one_request_in_the_air hanswered (.take (n := 0) 2 rfl rfl)
    exact (h.2.1 0 0 _ rfl).2.2
  · have h := a_link_has_one_request_in_the_air hdeparted (.send (n := 1) rfl rfl)
    obtain ⟨hpending, hunread, -⟩ := h.1 1 rfl
    exact ⟨hpending, hunread⟩
  · have h := a_link_has_one_request_in_the_air hcancelled (.refuse (n := 1) 2 rfl rfl rfl)
    exact h.2.2 0 (by simp [twoCallers]) (by simp [twoCallers])

/-! ## The ends of an exchange -/

namespace Link

variable {τ : Type} {T : Transport τ} {l l' : Link τ} {now : Nat} {r : Request}

/-- Where an exchange stands when its caller has to wait, or is through. -/
theorem start_cases {trip : Trip} (h : l.start T now r = (trip, l')) :
    (∃ e, l.refusal? T = some e ∧ trip = .atOnce (.error e) ∧ l' = l) ∨
      (l.refusal? T = none ∧ ∃ t,
        ((∃ a, trip = .atOnce a) ∧ l' = Link.arrive now { l with transport := t }) ∨
          ((∀ a, trip ≠ .atOnce a) ∧ l' = { l with transport := t, inFlight := true })) := by
  unfold start depart at h
  cases hrefusal : l.refusal? T with
  | some e =>
    rw [hrefusal] at h
    cases h
    exact .inl ⟨e, rfl, rfl, rfl⟩
  | none =>
    rw [hrefusal] at h
    refine .inr ⟨rfl, (T.roundTrip r l.transport).2, ?_⟩
    rcases htrip : T.roundTrip r l.transport with ⟨_ | _ | _, t⟩ <;> simp only [htrip] at h <;>
      cases h
    · exact .inl ⟨⟨_, rfl⟩, rfl⟩
    · exact .inr ⟨nofun, rfl⟩
    · exact .inr ⟨nofun, rfl⟩

/-- An exchange that has an end was refused, or its response was taken. -/
theorem exchange_some {a : Except CallError Response} (h : l.exchange T now r = (some a, l')) :
    (∃ e, l.refusal? T = some e ∧ a = .error e ∧ l' = l) ∨
      (l.refusal? T = none ∧ ∃ t, l' = Link.arrive now { l with transport := t }) := by
  unfold exchange at h
  split at h
  · cases h
  rcases hstart : l.start T now r with ⟨trip, l₁⟩
  rw [hstart] at h
  rcases start_cases hstart with
    ⟨e, hrefusal, rfl, rfl⟩ | ⟨hnone, t, ⟨⟨b, rfl⟩, rfl⟩ | ⟨hwait, rfl⟩⟩
  · cases h
    exact .inl ⟨e, hrefusal, rfl, rfl⟩
  · cases h
    exact .inr ⟨hnone, t, rfl⟩
  · cases trip with
    | atOnce b => exact absurd rfl (hwait b)
    | later b =>
      cases h
      exact .inr ⟨hnone, t, rfl⟩
    | never => cases h

/-- An exchange that is given up inside leaves its request behind. -/
theorem giveUp_false (hheld : l.held = false) (h : l.giveUp T now r = (false, l')) :
    l.refusal? T = none ∧ ∃ t, l' = { l with transport := t, inFlight := true } := by
  unfold giveUp at h
  rw [hheld, if_neg Bool.false_ne_true] at h
  rcases hstart : l.start T now r with ⟨trip, l₁⟩
  rw [hstart] at h
  rcases start_cases hstart with ⟨e, -, rfl, -⟩ | ⟨hnone, t, ⟨⟨b, rfl⟩, -⟩ | ⟨hwait, rfl⟩⟩
  · cases h
  · cases h
  · cases trip with
    | atOnce b => exact absurd rfl (hwait b)
    | later b =>
      cases h
      exact ⟨hnone, t, rfl⟩
    | never =>
      cases h
      exact ⟨hnone, t, rfl⟩

end Link

/-! ## Courses -/

/-- The link of a world has the flags of a link over a transport where nobody is inside, and
says the same of its host. -/
structure World.Shows {τ : Type} (w : World) (T : Transport τ) (l : Link τ) : Prop where
  held : l.held = false
  inFlight : w.link.inFlight = l.inFlight
  closed : w.link.closed = l.closed
  alive : w.wire.alive = T.isAlive l.transport

section

variable {τ : Type} {T : Transport τ} {l l' : Link τ} {w : World}

/-- Both refuse the same calls. -/
theorem World.Shows.refusal? (h : w.Shows T l) : w.link.refusal? Wire.transport = l.refusal? T := by
  unfold Link.refusal?
  rw [h.inFlight, h.closed, ← h.alive]
  rfl

variable {request : Nat → Request} {past course : List Event} {n now : Nat}

/-- A course grows by a step. -/
theorem History.further (h : History request (past ++ course) w) {e : Event} {w' : World}
    (hstep : Step request w e w') : History request (past ++ (course ++ [e])) w' := by
  rw [← List.append_assoc]
  exact h.snoc hstep

/-- A call that is let in, up to where it waits. -/
theorem History.send_alone (h : History request past w) (hshows : w.Shows T l)
    (hn : w.phase n = .idle) (hfree : w.holder = none) (hhost : w.wire.gone = false)
    (hnone : l.refusal? T = none) :
    ∃ w', History request (past ++ [.called n, .departed n, .sent n]) w' ∧ w'.phase n = .sent ∧
      w'.wire.pending = [n] ∧ w'.wire.unread = [] ∧ w'.wire.gone = false ∧
      w'.link.inFlight = true ∧ w'.link.closed = l.closed := by
  obtain ⟨s, hs⟩ := h.tells
  have hrefusal := hshows.refusal?.trans hnone
  cases hs.stands.of_free hfree (Link.inFlight_of_refusal?_none hrefusal)
  obtain ⟨-, hwire, -⟩ := hs.stands
  have hstart : w.link.start Wire.transport 0 (request n) =
      (.never, { w.link with inFlight := true }) := by
    rw [Link.start_wire, hrefusal]
  have hcalled := h.snoc (.call hn)
  have hdeparted := hcalled.further (.depart 0 (World.phase_come_self n _) hfree hstart)
  have hsent := hdeparted.further (.send (World.phase_come_self n _) hhost)
  refine ⟨_, hsent, World.phase_come_self n _, ?_, hwire.2, hhost, rfl, hshows.closed⟩
  show w.wire.pending ++ [n] = [n]
  rw [hwire.1]
  rfl

/-- An exchange with an end is refused, or goes from its call to the handing over of its
response. -/
theorem History.exchange (h : History request past w) (hshows : w.Shows T l)
    (hn : w.phase n = .idle) (hfree : w.holder = none) (hhost : w.wire.gone = false)
    {a : Except CallError Response} (hx : l.exchange T now (request n) = (some a, l')) :
    ∃ course w', History request (past ++ course) w' ∧ w'.Shows T l' ∧ w'.holder = none ∧
      ((∃ e, a = .error e ∧ .refused n e ∈ course) ∨ .handed n n a ∈ course) := by
  rcases Link.exchange_some hx with ⟨e, hrefusal, rfl, rfl⟩ | ⟨hnone, t, rfl⟩
  · have hstart : w.link.start Wire.transport now (request n) = (.atOnce (.error e), w.link) := by
      rw [Link.start_wire, hshows.refusal?, hrefusal]
    have hcalled := h.snoc (.call hn)
    have hrefused := hcalled.further (.refuse now (World.phase_come_self n _) hfree hstart)
    refine ⟨_, _, hrefused, ⟨hshows.held, hshows.inFlight, hshows.closed, hshows.alive⟩, rfl,
      .inl ⟨e, rfl, ?_⟩⟩
    simp
  · obtain ⟨w', hsent, hphase, hpending, hunread, hhost', -, hclosed⟩ :=
      h.send_alone hshows hn hfree hhost hnone
    have hanswered := hsent.further (.answer a hpending hhost')
    have hread : w'.wire.unread ++ [(n, a)] = [(n, a)] := by
      rw [hunread]
      rfl
    have hhanded := hanswered.further (.take now hphase hread)
    have hseen := hhanded.further (.observe (T.isAlive t))
    exact ⟨_, _, hseen, ⟨hshows.held, rfl, hclosed, rfl⟩, rfl, .inr (by simp)⟩

/-- An exchange that is given up before its end goes from its call to the sending of its
request, and is cancelled there. -/
theorem History.giveUp (h : History request past w) (hshows : w.Shows T l)
    (hn : w.phase n = .idle) (hfree : w.holder = none) (hhost : w.wire.gone = false)
    (hx : l.giveUp T now (request n) = (false, l')) :
    ∃ course w', History request (past ++ course) w' ∧ w'.Shows T l' ∧ w'.holder = none ∧
      .sent n ∈ course ∧ .cancelled n ∈ course := by
  obtain ⟨hnone, t, rfl⟩ := Link.giveUp_false hshows.held hx
  obtain ⟨w', hsent, hphase, -, -, -, hflag, hclosed⟩ :=
    h.send_alone hshows hn hfree hhost hnone
  have hcancelled := hsent.further (.cancel (.inr hphase))
  have hseen := hcancelled.further (.observe (T.isAlive t))
  exact ⟨_, _, hseen, ⟨hshows.held, hflag, hclosed, rfl⟩, rfl, by simp, by simp⟩

/-- A shutdown leaves the lock to the others. -/
theorem History.shutdown (h : History request past w) (hshows : w.Shows T l)
    (hfree : w.holder = none) (milliseconds : Nat) :
    ∃ course w', History request (past ++ course) w' ∧
      w'.Shows T (l.shutdown T milliseconds).2 ∧ w'.holder = none ∧
      .closing milliseconds ∈ course := by
  have hclosing := h.snoc (.close milliseconds hfree)
  rw [Link.shutdown_wire, hshows.closed] at hclosing
  unfold Link.shutdown
  cases hl : l.closed with
  | true =>
    rw [hl] at hclosing
    exact ⟨_, _, hclosing, ⟨hshows.held, hshows.inFlight, hl.symm, hshows.alive⟩, rfl,
      List.mem_singleton_self _⟩
  | false =>
    rw [hl] at hclosing
    have hclosed := hclosing.further (.finishClosing rfl)
    have hseen := hclosed.further (.observe (T.isAlive (T.shutdown milliseconds l.transport).2))
    exact ⟨_, _, hseen, ⟨rfl, hshows.inFlight, rfl, rfl⟩, rfl, by simp⟩

end

end StructuredSql
