-- How a link stands: whether a call has a request in the air, and whether one was given up
-- behind its request. Each step of the callers, of the host and of a shutdown moves it as its
-- event says.
import StructuredSql.Proofs.Link.Interleaving

namespace StructuredSql

/-! ## Entering the link -/

namespace Link

theorem inFlight_of_refusal?_none {τ : Type} {T : Transport τ} {l : Link τ}
    (h : l.refusal? T = none) : l.inFlight = false := by
  unfold refusal? at h
  split at h
  · cases h
  · split at h
    · cases h
    · rename_i hflag
      exact Bool.eq_false_iff.mpr hflag

/-- Over a wire a call is refused, or it has the link and begins to wait. -/
theorem start_wire (now : Nat) (r : Request) (l : Link Wire) :
    l.start Wire.transport now r =
      match l.refusal? Wire.transport with
      | some e => (.atOnce (.error e), l)
      | none => (.never, { l with inFlight := true }) := by
  unfold start
  cases l.refusal? Wire.transport <;> rfl

theorem start_never {now : Nat} {r : Request} {l l' : Link Wire}
    (h : l.start Wire.transport now r = (.never, l')) :
    l.inFlight = false ∧ l' = { l with inFlight := true } := by
  rw [start_wire] at h
  split at h
  · cases h
  · rename_i hnone
    cases h
    exact ⟨inFlight_of_refusal?_none hnone, rfl⟩

theorem start_atOnce {now : Nat} {r : Request} {l l' : Link Wire} {a : Except CallError Response}
    (h : l.start Wire.transport now r = (.atOnce a, l')) : l' = l := by
  rw [start_wire] at h
  split at h
  · cases h
    rfl
  · cases h

theorem shutdown_wire (milliseconds : Nat) (l : Link Wire) :
    (l.shutdown Wire.transport milliseconds).2 =
      { l with closed := true, held := l.closed && l.held } := by
  obtain ⟨wire, inFlight, closed, lastUsed, held⟩ := l
  cases closed <;> rfl

end Link

/-! ## How a link stands -/

/-- Which call has a request in the air. -/
inductive Standing
  /-- None, and nothing is on the way. -/
  | calm
  /-- The call may send. -/
  | leaving (n : Nat)
  /-- The call waits for its response. -/
  | flying (n : Nat)
  /-- None that could take what may be on the way. The link refuses all. -/
  | adrift

/-- The event is no matter of the request in the air. -/
def Standing.Ignores (s : Standing) : Event → Prop
  | .departed _ | .sent _ | .unsent _ _ | .handed _ _ _ | .lost _ _ => False
  | .cancelled m =>
    match s with
    | .leaving n | .flying n => m ≠ n
    | .calm | .adrift => True
  | _ => True

/-- What an event does to the standing. -/
inductive Moves : Standing → Event → Standing → Prop
  | depart (n : Nat) : Moves .calm (.departed n) (.leaving n)
  | send (n : Nat) : Moves (.leaving n) (.sent n) (.flying n)
  | failToSend (n : Nat) (e : CallError) : Moves (.leaving n) (.unsent n e) .calm
  | take (n : Nat) (a : Except CallError Response) : Moves (.flying n) (.handed n n a) .calm
  | lose (n : Nat) (e : CallError) : Moves (.flying n) (.lost n e) .calm
  | cancelUnsent (n : Nat) : Moves (.leaving n) (.cancelled n) .adrift
  | cancelSent (n : Nat) : Moves (.flying n) (.cancelled n) .adrift
  | stay {s : Standing} {e : Event} (h : s.Ignores e) : Moves s e s

namespace Wire

/-- All that may be on the way is the request of the call, or the response to it. -/
inductive Awaits (w : Wire) (n : Nat) : Prop
  | request (hpending : w.pending = [n]) (hunread : w.unread = []) (hhost : w.gone = false)
  | response (a : Except CallError Response) (hpending : w.pending = [])
      (hunread : w.unread = [(n, a)])
  | nothing (h : w.Quiet)

variable {w : Wire} {n m : Nat} {rest : List Nat}

theorem not_quiet_of_pending (h : w.pending = n :: rest) : ¬ w.Quiet := by
  rintro ⟨hpending, -⟩
  rw [h] at hpending
  cases hpending

/-- The host answers a request that it has. -/
theorem Awaits.answer (h : w.Awaits n) (hm : w.pending = m :: rest)
    (a : Except CallError Response) :
    Awaits { w with pending := rest, unread := w.unread ++ [(m, a)] } n := by
  cases h with
  | request hpending hunread hhost =>
    rw [hm] at hpending
    cases hpending
    refine .response a rfl ?_
    show w.unread ++ [(n, a)] = [(n, a)]
    rw [hunread]
    rfl
  | response a' hpending hunread =>
    rw [hm] at hpending
    cases hpending
  | nothing h => exact absurd h (not_quiet_of_pending hm)

/-- A request is lost with the host, and a response is not. -/
theorem Awaits.die (h : w.Awaits n) : Awaits { w with pending := [], gone := true } n := by
  cases h with
  | request hpending hunread hhost => exact .nothing ⟨rfl, hunread⟩
  | response a hpending hunread => exact .response a rfl hunread
  | nothing h => exact .nothing ⟨rfl, h.2⟩

theorem Awaits.observe (h : w.Awaits n) (alive : Bool) : Awaits { w with alive := alive } n := by
  cases h with
  | request hpending hunread hhost => exact .request hpending hunread hhost
  | response a hpending hunread => exact .response a hpending hunread
  | nothing h => exact .nothing h

/-- What is read is the response that is awaited, and nothing is on the way behind it. -/
theorem Awaits.of_read (h : w.Awaits n) {a : Except CallError Response}
    {later : List (Nat × Except CallError Response)} (hread : w.unread = (m, a) :: later) :
    m = n ∧ w.pending = [] ∧ later = [] := by
  cases h with
  | request hpending hunread hhost =>
    rw [hread] at hunread
    cases hunread
  | response a' hpending hunread =>
    rw [hread] at hunread
    cases hunread
    exact ⟨rfl, hpending, rfl⟩
  | nothing h =>
    rw [h.2] at hread
    cases hread

/-- Where the host is gone and nothing is left to read, nothing is on the way. -/
theorem Awaits.quiet_of_gone (h : w.Awaits n) (hread : w.unread = []) (hhost : w.gone = true) :
    w.Quiet := by
  cases h with
  | request hpending hunread hthere =>
    rw [hhost] at hthere
    cases hthere
  | response a hpending hunread =>
    rw [hread] at hunread
    cases hunread
  | nothing h => exact h

end Wire

/-- A call that has the link for itself. -/
def Phase.Flies : Phase → Prop
  | .departed | .sent => True
  | .idle | .queued | .over => False

def World.InFlight (w : World) (n : Nat) : Prop := (w.phase n).Flies

/-- The flags of the link, the wire and the phases agree on how the link stands. -/
inductive Stands (w : World) : Standing → Prop
  | calm (hflag : w.link.inFlight = false) (hwire : w.wire.Quiet) (hcalls : ∀ k, ¬ w.InFlight k) :
      Stands w .calm
  | leaving (n : Nat) (hlock : w.holder = some (.call n)) (hflag : w.link.inFlight = true)
      (hwire : w.wire.Quiet) (hphase : w.phase n = .departed)
      (hcalls : ∀ k, w.InFlight k → k = n) : Stands w (.leaving n)
  | flying (n : Nat) (hlock : w.holder = some (.call n)) (hflag : w.link.inFlight = true)
      (hwire : w.wire.Awaits n) (hphase : w.phase n = .sent)
      (hcalls : ∀ k, w.InFlight k → k = n) : Stands w (.flying n)
  | adrift (hflag : w.link.inFlight = true) (hcalls : ∀ k, ¬ w.InFlight k) : Stands w .adrift

namespace World

variable {w : World} {n : Nat} {p : Phase}

theorem inFlight_of_phase (h : w.phase n = p) (hp : p.Flies) : w.InFlight n := by
  unfold InFlight
  rw [h]
  exact hp

theorem not_inFlight_of_phase (h : w.phase n = p) (hp : ¬ p.Flies) : ¬ w.InFlight n := by
  unfold InFlight
  rw [h]
  exact hp

theorem phase_come_self (n : Nat) (p : Phase) : (w.come n p).phase n = p := if_pos rfl

theorem phase_come_ne {k : Nat} (h : k ≠ n) (p : Phase) : (w.come n p).phase k = w.phase k :=
  if_neg h

/-- The other calls are in flight as before. -/
theorem inFlight_come_ne {k : Nat} (h : k ≠ n) : (w.come n p).InFlight k ↔ w.InFlight k := by
  unfold InFlight
  rw [phase_come_ne h]

theorem not_inFlight_come_self (hp : ¬ p.Flies) : ¬ (w.come n p).InFlight n :=
  not_inFlight_of_phase (phase_come_self n p) hp

/-- A call that stands at a phase was there before, or has just come. -/
theorem phase_come_eq {m k : Nat} {q : Phase} (h : (w.come m p).phase k = q) :
    w.phase k = q ∨ k = m ∧ p = q := by
  by_cases hk : k = m
  · subst hk
    rw [phase_come_self] at h
    exact .inr ⟨rfl, h⟩
  · rw [phase_come_ne hk] at h
    exact .inl h

/-- A call that leaves a link to which nobody else holds the lock. -/
theorem leave_of_free (h : w.holder = none) : w.leave n w.link = w.come n .over := by
  obtain ⟨link, holder, phase⟩ := w
  cases h
  rfl

/-- The only call in flight leaves. -/
theorem not_inFlight_leave (h : ∀ k, w.InFlight k → k = n) (l : Link Wire) (k : Nat) :
    ¬ (w.leave n l).InFlight k := by
  show ¬ (w.come n .over).InFlight k
  by_cases hk : k = n
  · rw [hk]
    exact not_inFlight_come_self not_false
  · rw [inFlight_come_ne hk]
    exact fun hf => hk (h k hf)

/-- Behind a call that is in flight or begins to be, no other one is. -/
theorem eq_of_inFlight_come (h : ∀ k, w.InFlight k → k = n) (k : Nat)
    (hk : (w.come n p).InFlight k) : k = n := by
  by_cases hkn : k = n
  · exact hkn
  · exact h k ((inFlight_come_ne hkn).1 hk)

end World

/-! ## One step -/

namespace Stands

variable {w w' : World} {s : Standing} {n : Nat}

theorem fresh (now : Nat) (alive : Bool) : Stands (.fresh now alive) .calm :=
  .calm rfl ⟨rfl, rfl⟩ fun _ => not_false

/-- A step that changes neither the flag nor the calls in flight, that takes the lock from no
call, and that brings nothing on the way that was not awaited. -/
theorem keep (h : Stands w s) (hflag : w'.link.inFlight = w.link.inFlight)
    (hlock : ∀ k, w.holder = some (.call k) → w'.holder = some (.call k))
    (hphase : ∀ k, w.InFlight k → w'.phase k = w.phase k)
    (hcalls : ∀ k, w'.InFlight k → w.InFlight k)
    (hquiet : w.wire.Quiet → w'.wire.Quiet) (hawaits : ∀ k, w.wire.Awaits k → w'.wire.Awaits k) :
    Stands w' s := by
  cases h with
  | calm hf hw hc => exact .calm (hflag.trans hf) (hquiet hw) fun k hk => hc k (hcalls k hk)
  | leaving n hl hf hw hp hc =>
    exact .leaving n (hlock n hl) (hflag.trans hf) (hquiet hw)
      ((hphase n (World.inFlight_of_phase hp trivial)).trans hp) fun k hk => hc k (hcalls k hk)
  | flying n hl hf hw hp hc =>
    exact .flying n (hlock n hl) (hflag.trans hf) (hawaits n hw)
      ((hphase n (World.inFlight_of_phase hp trivial)).trans hp) fun k hk => hc k (hcalls k hk)
  | adrift hf hc => exact .adrift (hflag.trans hf) fun k hk => hc k (hcalls k hk)

/-- A call outside the link goes on outside it. -/
theorem come (h : Stands w s) {p : Phase} (hn : ¬ w.InFlight n) (hp : ¬ p.Flies) :
    Stands (w.come n p) s := by
  have hne (k : Nat) (hk : (w.come n p).InFlight k) : k ≠ n := fun hkn =>
    World.not_inFlight_come_self hp (hkn ▸ hk)
  exact h.keep rfl (fun _ hl => hl)
    (fun k hk => World.phase_come_ne (fun hkn : k = n => hn (hkn ▸ hk)) p)
    (fun k hk => (World.inFlight_come_ne (hne k hk)).1 hk) (fun hw => hw) (fun _ hw => hw)

/-- A change on the wire that brings nothing that was not awaited. -/
theorem onWire (h : Stands w s) {wire : Wire} (hquiet : w.wire.Quiet → wire.Quiet)
    (hawaits : ∀ k, w.wire.Awaits k → wire.Awaits k) : Stands (w.onWire wire) s :=
  h.keep rfl (fun _ hl => hl) (fun _ _ => rfl) (fun _ hk => hk) hquiet hawaits

/-- A call that may send is the one that the link stands for, and nothing is on the way. -/
theorem of_departed (h : Stands w s) (hn : w.phase n = .departed) :
    s = .leaving n ∧ w.holder = some (.call n) ∧ w.link.inFlight = true ∧ w.wire.Quiet ∧
      ∀ k, w.InFlight k → k = n := by
  have hf : w.InFlight n := World.inFlight_of_phase hn trivial
  cases h with
  | calm _ _ hc => exact absurd hf (hc n)
  | leaving m hl hflag hw _ hc =>
    cases hc n hf
    exact ⟨rfl, hl, hflag, hw, hc⟩
  | flying m _ _ _ hp hc =>
    rw [← hc n hf, hn] at hp
    cases hp
  | adrift _ hc => exact absurd hf (hc n)

/-- So is a call that waits, and only what it waits for is on the way. -/
theorem of_sent (h : Stands w s) (hn : w.phase n = .sent) :
    s = .flying n ∧ w.link.inFlight = true ∧ w.wire.Awaits n ∧ ∀ k, w.InFlight k → k = n := by
  have hf : w.InFlight n := World.inFlight_of_phase hn trivial
  cases h with
  | calm _ _ hc => exact absurd hf (hc n)
  | leaving m _ _ _ hp hc =>
    rw [← hc n hf, hn] at hp
    cases hp
  | flying m _ hflag hw _ hc =>
    cases hc n hf
    exact ⟨rfl, hflag, hw, hc⟩
  | adrift _ hc => exact absurd hf (hc n)

/-- Where the lock is free and the flag is down, nothing is on the way. -/
theorem of_free (h : Stands w s) (hfree : w.holder = none) (hflag : w.link.inFlight = false) :
    s = .calm := by
  cases h with
  | calm => rfl
  | leaving n hl =>
    rw [hfree] at hl
    cases hl
  | flying n hl =>
    rw [hfree] at hl
    cases hl
  | adrift hf =>
    rw [hflag] at hf
    cases hf

theorem ignores_cancelled (h : Stands w s) (hn : ¬ w.InFlight n) : s.Ignores (.cancelled n) := by
  cases h with
  | calm => exact trivial
  | adrift => exact trivial
  | leaving m _ _ _ hp =>
    rintro rfl
    exact hn (World.inFlight_of_phase hp trivial)
  | flying m _ _ _ hp =>
    rintro rfl
    exact hn (World.inFlight_of_phase hp trivial)

end Stands

/-- Each step keeps flag, wire and phases in agreement. -/
theorem stands_step {request : Nat → Request} {w w' : World} {e : Event}
    (hstep : Step request w e w') {s : Standing} (h : Stands w s) :
    ∃ s', Moves s e s' ∧ Stands w' s' := by
  cases hstep with
  | call hn =>
    exact ⟨s, .stay trivial, h.come (World.not_inFlight_of_phase hn not_false) not_false⟩
  | @depart n l now hn hfree hstart =>
    obtain ⟨hflag, rfl⟩ := Link.start_never hstart
    cases h.of_free hfree hflag
    obtain ⟨-, hwire, hcalls⟩ := h
    refine ⟨.leaving n, .depart n, .leaving n rfl rfl hwire (World.phase_come_self n _) ?_⟩
    exact World.eq_of_inFlight_come fun k hk => absurd hk (hcalls k)
  | @refuse n e l now hn hfree hstart =>
    cases Link.start_atOnce hstart
    rw [World.leave_of_free hfree]
    exact ⟨s, .stay trivial, h.come (World.not_inFlight_of_phase hn not_false) not_false⟩
  | @send n hn hhost =>
    obtain ⟨rfl, hlock, hflag, hwire, hcalls⟩ := h.of_departed hn
    have hpending : w.wire.pending ++ [n] = [n] := by
      rw [hwire.1]
      rfl
    exact ⟨.flying n, .send n, .flying n hlock hflag (.request hpending hwire.2 hhost)
      (World.phase_come_self n _) (World.eq_of_inFlight_come hcalls)⟩
  | @failToSend n now e hn =>
    obtain ⟨rfl, -, -, hwire, hcalls⟩ := h.of_departed hn
    exact ⟨.calm, .failToSend n e, .calm rfl hwire (World.not_inFlight_leave hcalls _)⟩
  | answer a hpending hhost =>
    exact ⟨s, .stay trivial, h.onWire (absurd · (Wire.not_quiet_of_pending hpending))
      fun _ hawaits => hawaits.answer hpending a⟩
  | @take n m a rest now hn hread =>
    obtain ⟨rfl, -, hawaits, hcalls⟩ := h.of_sent hn
    obtain ⟨rfl, hpending, rfl⟩ := hawaits.of_read hread
    exact ⟨.calm, .take m a, .calm rfl ⟨hpending, rfl⟩ (World.not_inFlight_leave hcalls _)⟩
  | @lose n now e hn hread hhost =>
    obtain ⟨rfl, -, hawaits, hcalls⟩ := h.of_sent hn
    exact ⟨.calm, .lose n e, .calm rfl (hawaits.quiet_of_gone hread hhost)
      (World.not_inFlight_leave hcalls _)⟩
  | cancelQueued hn =>
    have hout := World.not_inFlight_of_phase hn not_false
    exact ⟨s, .stay (h.ignores_cancelled hout), h.come hout not_false⟩
  | @cancel n hn =>
    rcases hn with hn | hn
    · obtain ⟨rfl, -, hflag, -, hcalls⟩ := h.of_departed hn
      exact ⟨.adrift, .cancelUnsent n, .adrift hflag (World.not_inFlight_leave hcalls _)⟩
    · obtain ⟨rfl, hflag, -, hcalls⟩ := h.of_sent hn
      exact ⟨.adrift, .cancelSent n, .adrift hflag (World.not_inFlight_leave hcalls _)⟩
  | die =>
    exact ⟨s, .stay trivial, h.onWire (fun hquiet => ⟨rfl, hquiet.2⟩) fun _ hawaits => hawaits.die⟩
  | observe alive =>
    exact ⟨s, .stay trivial, h.onWire (fun hw => hw) fun _ hawaits => hawaits.observe alive⟩
  | close milliseconds hfree =>
    rw [Link.shutdown_wire]
    exact ⟨s, .stay trivial, h.keep rfl (fun k hlock => nomatch hfree.symm.trans hlock)
      (fun _ _ => rfl) (fun _ hk => hk) (fun hw => hw) fun _ hw => hw⟩
  | finishClosing hlock =>
    exact ⟨s, .stay trivial, h.keep rfl (fun k hk => nomatch hlock.symm.trans hk)
      (fun _ _ => rfl) (fun _ hk => hk) (fun hw => hw) fun _ hw => hw⟩

end StructuredSql
