-- What happens to a registry: connections are asked for, idle ones are evicted, all are closed,
-- and in between the connections change under those who hold them. A fingerprint keeps at most
-- one connection, whose options have it.
import StructuredSql.Registry
import StructuredSql.Proofs.Transport.Watched
import Mathlib.Data.List.Nodup

namespace StructuredSql

variable {τ : Type}

/-! ## A connection that is closed -/

namespace Connection

/-- What a close of a connection comes to, and what it leaves. A host is shut down once, with
the patience that the options ask for. -/
inductive Closes (T : Transport τ) : Connection τ → Except CallError Unit → Connection τ → Prop
  | already (o : Options) (link : Option (Link τ)) :
      Closes T ⟨o, .closed link⟩ (.ok ()) ⟨o, .closed link⟩
  | unconnected (o : Options) : Closes T ⟨o, .unconnected⟩ (.ok ()) ⟨o, .closed none⟩
  /-- The host was shut down before, through the same link. -/
  | shutBefore {c : Connection τ} {link : Link τ}
      (hstage : c.stage = .connecting link ∨ c.stage = .connected link)
      (hlink : link.closed = true) : Closes T c (.ok ()) ⟨c.options, .closed (some link)⟩
  | shut {c : Connection τ} {link : Link τ} {how : Except CallError Shutdown} {t : τ}
      (hstage : c.stage = .connecting link ∨ c.stage = .connected link)
      (hlink : link.closed = false)
      (hhost : T.shutdown c.options.closeTimeout link.transport = (how, t)) :
      Closes T c (how.map fun _ => ())
        ⟨c.options, .closed (some ⟨t, link.inFlight, true, link.lastUsed, false⟩)⟩

theorem closes_close (T : Transport τ) (c : Connection τ) :
    Closes T c (c.close T).1 (c.close T).2 := by
  have hlink : ∀ link, c.stage = .connecting link ∨ c.stage = .connected link →
      Closes T c ((link.shutdown T c.options.closeTimeout).1.map fun _ => ())
        ⟨c.options, .closed (some (link.shutdown T c.options.closeTimeout).2)⟩ := by
    intro link hstage
    unfold Link.shutdown
    cases hclosed : link.closed with
    | true => exact .shutBefore hstage hclosed
    | false => exact .shut hstage hclosed rfl
  obtain ⟨o, stage⟩ := c
  cases stage with
  | unconnected => exact .unconnected o
  | connecting link => exact hlink link (.inl rfl)
  | connected link => exact hlink link (.inr rfl)
  | closed link => exact .already o link

/-- There is one way to close a connection. -/
theorem Closes.unique {T : Transport τ} {c c₁ c₂ : Connection τ} {r₁ r₂ : Except CallError Unit}
    (h₁ : Closes T c r₁ c₁) (h₂ : Closes T c r₂ c₂) : r₁ = r₂ ∧ c₁ = c₂ := by
  cases h₁ <;> cases h₂ <;> grind

theorem close_options (T : Transport τ) (c : Connection τ) :
    (c.close T).2.options = c.options := by
  obtain ⟨options, stage⟩ := c
  cases stage <;> rfl

end Connection

namespace Registry

/-! ## What happens -/

/-- What is done with a registry and the connections that it gave out. An operation that is
interrupted, given up halfway, or kept waiting by a call that never ends, is some of its steps:
entries that go and connections that change. -/
inductive Act (τ : Type)
  /-- A connection is asked for. The host may not start, or not get ready. -/
  | connect (start : Options → Except CallError τ) (now : Nat) (options : Options)
  | evictIdle (now : Nat)
  | closeAll
  /-- An entry goes, and its connection is not closed yet. -/
  | forget (key : UInt64)
  /-- The connection at a place comes to another stage: one who holds it calls, is answered or
  closes, or its host dies. -/
  | change (n : Nat) (stage : Stage τ)

def Act.perform (T : Transport τ) (r : Registry τ) : Act τ → Registry τ
  | connect start now options => (r.connect T start now options).2
  | evictIdle now => (r.evictIdle T now).2
  | closeAll => (r.closeAll T).2
  | forget key => r.forget key
  | change n stage =>
    { r with connections := r.connections.modify n fun c => { c with stage := stage } }

/-- A registry after one act after the other. -/
def run (T : Transport τ) (acts : List (Act τ)) (r : Registry τ) : Registry τ :=
  acts.foldl (Act.perform T) r

variable {T : Transport τ} {r r' : Registry τ} {n : Nat} {c c' : Connection τ}

/-! ## Connections that are closed one after the other -/

/-- Every connection stays at its place, with its options. -/
def Stays (r r' : Registry τ) : Prop :=
  ∀ (n : Nat) (c : Connection τ), r.connections[n]? = some c →
    ∃ c', r'.connections[n]? = some c' ∧ c'.options = c.options

theorem stays_of_map {f : Nat → Connection τ → Connection τ}
    (hf : ∀ n c, (f n c).options = c.options)
    (h : ∀ n, r'.connections[n]? = r.connections[n]?.map (f n)) : Stays r r' := by
  intro n c hc
  exact ⟨f n c, by rw [h, hc]; rfl, hf n c⟩

theorem getElem?_closeAt (T : Transport τ) (r : Registry τ) (n m : Nat) :
    (r.closeAt T n).2.connections[m]? =
      r.connections[m]?.map fun c => if m = n then (c.close T).2 else c := by
  unfold closeAt
  cases hc : r.connections[n]? with
  | none =>
    by_cases hm : m = n
    · subst hm
      simp [hc]
    · simp [hm]
  | some c =>
    by_cases hm : m = n
    · subst hm
      have hset := List.getElem?_set_self (a := (c.close T).2) (List.getElem?_eq_some_iff.1 hc).1
      simpa [put, hc] using hset
    · simp [put, hm, List.getElem?_set_ne (Ne.symm hm)]

@[simp] theorem closeAt_entries (T : Transport τ) (r : Registry τ) (n : Nat) :
    (r.closeAt T n).2.entries = r.entries := by
  unfold closeAt
  cases r.connections[n]? <;> rfl

@[simp] theorem closeEach_entries (T : Transport τ) (places : List Nat) (r : Registry τ) :
    (closeEach T places r).2.entries = r.entries := by
  induction places generalizing r with
  | nil => rfl
  | cons n rest ih => exact (ih _).trans (closeAt_entries T r n)

/-- Different places are closed each once, and nothing else changes. -/
theorem getElem?_closeEach {places : List Nat} (h : places.Nodup) (r : Registry τ) (m : Nat) :
    (closeEach T places r).2.connections[m]? =
      r.connections[m]?.map fun c => if m ∈ places then (c.close T).2 else c := by
  induction places generalizing r with
  | nil => simp [closeEach]
  | cons n rest ih =>
    obtain ⟨hn, hrest⟩ := List.nodup_cons.1 h
    show (closeEach T rest (r.closeAt T n).2).2.connections[m]? = _
    rw [ih hrest, getElem?_closeAt, Option.map_map]
    congr 1
    funext c
    by_cases hm : m = n
    · subst hm
      simp [hn]
    · simp [hm]

theorem closeAt_outcome (T : Transport τ) (h : r.connections[n]? = some c) :
    (r.closeAt T n).1 = (c.close T).1 := by
  rw [closeAt, h]

/-- The outcome is that of one of the closes, and a good one only if all are. -/
theorem closeEach_outcome {places : List Nat} (h : places.Nodup)
    (hfound : ∀ n ∈ places, ∃ c, r.connections[n]? = some c) :
    ((closeEach T places r).1 = .ok () ∧
        ∀ n ∈ places, ∀ c, r.connections[n]? = some c → (c.close T).1 = .ok ()) ∨
      ∃ e, (closeEach T places r).1 = .error e ∧
        ∃ n ∈ places, ∃ c, r.connections[n]? = some c ∧ (c.close T).1 = .error e := by
  induction places generalizing r with
  | nil => exact .inl ⟨rfl, fun _ hn => by cases hn⟩
  | cons n rest ih =>
    obtain ⟨hn, hrest⟩ := List.nodup_cons.1 h
    obtain ⟨c, hc⟩ := hfound n List.mem_cons_self
    have hfirst : ∀ e, (c.close T).1 = .error e → (closeEach T (n :: rest) r).1 = .error e := by
      intro e he
      rw [← closeAt_outcome T hc] at he
      simp only [closeEach, he]
    have hlater : (c.close T).1 = .ok () →
        (closeEach T (n :: rest) r).1 = (closeEach T rest (r.closeAt T n).2).1 := by
      intro hok
      rw [← closeAt_outcome T hc] at hok
      simp only [closeEach, hok]
    -- The first close leaves the connections of the rest alone.
    have hsame : ∀ m ∈ rest, (r.closeAt T n).2.connections[m]? = r.connections[m]? := by
      intro m hm
      have hne : m ≠ n := fun heq => hn (heq ▸ hm)
      simp [getElem?_closeAt, hne]
    have hfoundRest : ∀ m ∈ rest, ∃ c, (r.closeAt T n).2.connections[m]? = some c := by
      intro m hm
      rw [hsame m hm]
      exact hfound m (List.mem_cons_of_mem _ hm)
    cases hclose : (c.close T).1 with
    | error e => exact .inr ⟨e, hfirst e hclose, n, List.mem_cons_self, c, hc, hclose⟩
    | ok =>
      rcases ih hrest hfoundRest with ⟨hok, hall⟩ | ⟨e, he, m, hm, d, hd, hdclose⟩
      · refine .inl ⟨(hlater hclose).trans hok, fun m hm d hd => ?_⟩
        rcases List.mem_cons.1 hm with rfl | hm
        · cases hc.symm.trans hd
          exact hclose
        · exact hall m hm d ((hsame m hm).trans hd)
      · exact .inr ⟨e, (hlater hclose).trans he, m, List.mem_cons_of_mem _ hm, d,
          (hsame m hm).symm.trans hd, hdclose⟩

/-! ## One connection under a fingerprint -/

/-- A fingerprint has at most one entry and a connection at most one fingerprint: that of its
options. -/
structure Sound (r : Registry τ) : Prop where
  keys : (r.entries.map (·.1)).Nodup
  places : (r.entries.map (·.2)).Nodup
  fits : ∀ e ∈ r.entries, ∃ c, r.connections[e.2]? = some c ∧ c.options.fingerprint = e.1

/-- A registry stays sound when entries go and connections change. -/
theorem Sound.sublist (h : Sound r) (hentries : r'.entries.Sublist r.entries)
    (hstays : Stays r r') : Sound r' := by
  refine ⟨h.keys.sublist (hentries.map _), h.places.sublist (hentries.map _), fun e he => ?_⟩
  obtain ⟨c, hc, hfits⟩ := h.fits e (hentries.subset he)
  obtain ⟨c', hc', hoptions⟩ := hstays _ _ hc
  exact ⟨c', hc', by rw [hoptions, hfits]⟩

theorem nodup_map_concat {α β : Type} {f : α → β} {l : List α} {a : α} (h : (l.map f).Nodup)
    (hnew : ∀ e ∈ l, f e ≠ f a) : ((l ++ [a]).map f).Nodup := by
  rw [List.map_append]
  refine List.nodup_append.2 ⟨h, List.nodup_singleton _, ?_⟩
  intro b hb c hc
  obtain ⟨e, he, rfl⟩ := List.mem_map.1 hb
  rw [List.mem_singleton.1 hc]
  exact hnew e he

theorem Sound.register (h : Sound r) {key : UInt64} (hkey : ∀ e ∈ r.entries, e.1 ≠ key)
    (hoptions : c.options.fingerprint = key) : Sound (r.register key c) := by
  have hlt : ∀ e ∈ r.entries, e.2 < r.connections.length := by
    intro e he
    obtain ⟨d, hd, -⟩ := h.fits e he
    exact (List.getElem?_eq_some_iff.1 hd).1
  refine ⟨nodup_map_concat h.keys hkey, nodup_map_concat h.places fun e he =>
    Nat.ne_of_lt (hlt e he), ?_⟩
  intro e he
  rcases List.mem_append.1 he with he | he
  · obtain ⟨d, hd, hfits⟩ := h.fits e he
    exact ⟨d, (List.getElem?_append_left (hlt e he)).trans hd, hfits⟩
  · rw [List.mem_singleton.1 he]
    exact ⟨c, by simp [Registry.register], hoptions⟩

/-! ## Look-ups -/

/-- In a sound registry the entries are what is found. -/
theorem Sound.get?_eq_some_iff (h : Sound r) {key : UInt64} :
    r.get? key = some (n, c) ↔ (key, n) ∈ r.entries ∧ r.connections[n]? = some c := by
  have hplace : r.place? key = some n ↔ (key, n) ∈ r.entries := by
    unfold place?
    constructor
    · intro hlookup
      obtain ⟨before, after, hsplit, -⟩ := List.lookup_eq_some_iff.1 hlookup
      rw [hsplit]
      exact List.mem_append_right _ List.mem_cons_self
    · intro hmem
      cases hlookup : r.entries.lookup key with
      | none => simpa using List.lookup_eq_none_iff.1 hlookup _ hmem
      | some m =>
        obtain ⟨before, after, hsplit, -⟩ := List.lookup_eq_some_iff.1 hlookup
        have hm : (key, m) ∈ r.entries := by
          rw [hsplit]
          exact List.mem_append_right _ List.mem_cons_self
        exact congrArg some (Prod.mk.inj (List.inj_on_of_nodup_map h.keys hm hmem rfl)).2
  rw [← hplace]
  unfold get?
  cases hp : r.place? key with
  | none => simp
  | some m =>
    cases hm : r.connections[m]? with
    | none =>
      simp only [Option.bind_eq_bind, Option.bind_some, hm]
      grind
    | some d =>
      simp only [Option.bind_eq_bind, Option.bind_some, hm]
      grind

/-- Every entry is found, with a connection. -/
theorem Sound.get?_of_mem (h : Sound r) {e : UInt64 × Nat} (he : e ∈ r.entries) :
    ∃ c, r.get? e.1 = some (e.2, c) := by
  obtain ⟨c, hc, -⟩ := h.fits e he
  exact ⟨c, h.get?_eq_some_iff.2 ⟨he, hc⟩⟩

theorem Sound.get?_eq_none_iff (h : Sound r) {key : UInt64} :
    r.get? key = none ↔ ∀ e ∈ r.entries, e.1 ≠ key := by
  constructor
  · rintro hnone e he rfl
    obtain ⟨c, hc⟩ := h.get?_of_mem he
    rw [hnone] at hc
    cases hc
  · intro hkeys
    cases hget : r.get? key with
    | none => rfl
    | some found =>
      obtain ⟨n, c⟩ := found
      exact absurd rfl (hkeys _ (h.get?_eq_some_iff.1 hget).1)

/-! ## A new connection -/

/-- What comes of a new connection. A host is started and asked once, to take the options. -/
inductive Opens (T : Transport τ) (start : Options → Except CallError τ) (now : Nat)
    (options : Options) : Answer (Connection τ) → Prop
  | notStarted {e : CallError} (h : start options = .error e) :
      Opens T start now options (some (.error e))
  /-- The host was gone before it was asked. -/
  | gone {t : τ} (h : start options = .ok t) (hhost : T.isAlive t = false) :
      Opens T start now options (some (.error Link.hostGone))
  | ready {t t' : τ} {trip : Trip} (h : start options = .ok t) (hhost : T.isAlive t = true)
      (htrip : T.roundTrip (.configure options) t = (trip, t'))
      (hready : trip.answer? = some (.ok .ready)) :
      Opens T start now options (some (.ok ⟨options, .connected (.ofTransport now t')⟩))
  | notReady {t t' : τ} {trip : Trip} {a : Except CallError Response} {e : CallError}
      (h : start options = .ok t) (hhost : T.isAlive t = true)
      (htrip : T.roundTrip (.configure options) t = (trip, t')) (hanswer : trip.answer? = some a)
      (he : a.bind Link.configured = .error e) : Opens T start now options (some (.error e))
  | waits {t t' : τ} {trip : Trip} (h : start options = .ok t) (hhost : T.isAlive t = true)
      (htrip : T.roundTrip (.configure options) t = (trip, t')) (hnever : trip.answer? = none) :
      Opens T start now options none

variable {start : Options → Except CallError τ} {now : Nat} {options : Options}

/-- A new connection is connected, with the options that were asked for. -/
theorem Opens.connected (h : Opens T start now options (some (.ok c))) :
    ∃ link, c = ⟨options, .connected link⟩ := by
  cases h with
  | ready => exact ⟨_, rfl⟩

theorem configured_ready {a : Except CallError Response}
    (h : a.bind Link.configured = .ok ()) : a = .ok .ready := by
  rcases a with _ | _ | _ | _
  · cases h
  · rfl
  · cases h
  · cases h

/-- What a link that was just made says when it takes the options. -/
theorem configure_ofTransport (T : Transport τ) (now : Nat) (options : Options) (t : τ) :
    ((Link.ofTransport now t).configure T now options).1 =
        (if T.isAlive t then (T.roundTrip (.configure options) t).1.answer?
          else some (.error Link.hostGone)).map (·.bind Link.configured) ∧
      (((Link.ofTransport now t).configure T now options).1.isSome = true → T.isAlive t = true →
        ((Link.ofTransport now t).configure T now options).2 =
          .ofTransport now (T.roundTrip (.configure options) t).2) := by
  unfold Link.configure Link.exchange Link.start Link.refusal? Link.depart Link.ofTransport
  cases T.isAlive t with
  | false => exact ⟨rfl, nofun⟩
  | true =>
    rcases T.roundTrip (.configure options) t with ⟨_ | _ | _, t'⟩
    · exact ⟨rfl, fun _ _ => rfl⟩
    · exact ⟨rfl, fun _ _ => rfl⟩
    · exact ⟨rfl, nofun⟩

/-- What a registry answers for a new connection, and what it registers. -/
theorem connectNew_opens (T : Transport τ) (start : Options → Except CallError τ) (now : Nat)
    (options : Options) (r : Registry τ) :
    ∃ new, Opens T start now options new ∧ connectNew T start now options r =
      match new with
      | none => (none, r)
      | some (.error e) => (some (.error e), r)
      | some (.ok c) =>
        (some (.ok r.connections.length), r.register options.fingerprint c) := by
  unfold connectNew
  cases hstart : start options with
  | error e => exact ⟨_, .notStarted hstart, rfl⟩
  | ok t =>
    obtain ⟨hsaid, hlink⟩ := configure_ofTransport T now options t
    unfold Connection.connectWith
    dsimp only
    rcases hconfigured : (Link.ofTransport now t).configure T now options with ⟨said, link⟩
    rw [hconfigured] at hsaid hlink
    cases halive : T.isAlive t with
    | false =>
      rw [halive] at hsaid
      cases hsaid
      exact ⟨_, .gone hstart halive, rfl⟩
    | true =>
      rw [halive, if_pos rfl] at hsaid
      dsimp only at hsaid hlink
      rcases said with _ | e | u
      · exact ⟨_, .waits hstart halive rfl (Option.map_eq_none_iff.1 hsaid.symm), rfl⟩
      · obtain ⟨a, hanswer, he⟩ := Option.map_eq_some_iff.1 hsaid.symm
        exact ⟨_, .notReady hstart halive rfl hanswer he, rfl⟩
      · obtain ⟨a, hanswer, hok⟩ := Option.map_eq_some_iff.1 hsaid.symm
        cases configured_ready hok
        cases hlink rfl halive
        exact ⟨_, .ready hstart halive rfl hanswer, rfl⟩

/-- What was under a fingerprint is forgotten and closed. -/
def vacate (T : Transport τ) (key : UInt64) (r : Registry τ) : Registry τ :=
  match r.get? key with
  | none => r
  | some (n, _) => ((r.forget key).closeAt T n).2

/-- A live connection is given out as it is. -/
theorem connect_of_alive (h : r.get? options.fingerprint = some (n, c))
    (halive : c.isAlive T = true) : connect T start now options r = (some (.ok n), r) := by
  simp [connect, h, halive]

/-- Without a live connection the fingerprint is vacated for a new one. -/
theorem connect_of_not_alive
    (h : ∀ n c, r.get? options.fingerprint = some (n, c) → c.isAlive T = false) :
    connect T start now options r =
      connectNew T start now options (r.vacate T options.fingerprint) := by
  simp only [connect, vacate]
  cases hget : r.get? options.fingerprint with
  | none => rfl
  | some found =>
    obtain ⟨n, c⟩ := found
    simp only [h n c hget, Bool.false_eq_true, if_false]

/-- A caller changes nothing, or the fingerprint is vacated for a new connection. -/
theorem connect_cases (T : Transport τ) (start : Options → Except CallError τ) (now : Nat)
    (options : Options) (r : Registry τ) :
    (connect T start now options r).2 = r ∨ connect T start now options r =
      connectNew T start now options (r.vacate T options.fingerprint) := by
  by_cases halive : ∃ n c, r.get? options.fingerprint = some (n, c) ∧ c.isAlive T = true
  · obtain ⟨n, c, hget, halive⟩ := halive
    rw [connect_of_alive hget halive]
    exact .inl rfl
  · exact .inr (connect_of_not_alive fun n c hget =>
      Bool.eq_false_iff.2 fun hc => halive ⟨n, c, hget, hc⟩)

theorem getElem?_vacate (T : Transport τ) (r : Registry τ) (key : UInt64) (m : Nat) :
    (r.vacate T key).connections[m]? =
      r.connections[m]?.map fun c =>
        if (r.get? key).map (·.1) = some m then (c.close T).2 else c := by
  unfold vacate
  cases hget : r.get? key with
  | none => simp
  | some found =>
    obtain ⟨n, d⟩ := found
    simp [getElem?_closeAt, forget, eq_comm]

theorem Sound.vacate_entries (h : Sound r) (T : Transport τ) (key : UInt64) :
    (r.vacate T key).entries = r.entries.filter fun e => e.1 != key := by
  unfold vacate
  cases hget : r.get? key with
  | none =>
    refine (List.filter_eq_self.2 fun e he => ?_).symm
    simpa using h.get?_eq_none_iff.1 hget e he
  | some found => exact closeAt_entries T _ _

theorem Sound.vacate (h : Sound r) (T : Transport τ) (key : UInt64) : Sound (r.vacate T key) := by
  refine h.sublist ?_ (stays_of_map (fun m c => ?_) (getElem?_vacate T r key))
  · rw [h.vacate_entries]
    exact List.filter_sublist
  · split
    · exact c.close_options T
    · rfl

/-- Nothing is under a fingerprint that was vacated. -/
theorem Sound.get?_vacate_self (h : Sound r) (T : Transport τ) (key : UInt64) :
    (r.vacate T key).get? key = none := by
  refine (h.vacate T key).get?_eq_none_iff.2 fun e he => ?_
  rw [h.vacate_entries] at he
  simpa using (List.mem_filter.1 he).2

/-! ## What an act preserves -/

theorem Sound.connect (h : Sound r) (T : Transport τ) (start : Options → Except CallError τ)
    (now : Nat) (options : Options) : Sound (r.connect T start now options).2 := by
  rcases connect_cases T start now options r with hsame | hnew
  · rw [hsame]
    exact h
  · have hvacant := h.vacate T options.fingerprint
    obtain ⟨new, hopens, heq⟩ :=
      connectNew_opens T start now options (r.vacate T options.fingerprint)
    rw [hnew, heq]
    rcases new with _ | e | c
    · exact hvacant
    · exact hvacant
    · obtain ⟨link, rfl⟩ := hopens.connected
      exact hvacant.register (hvacant.get?_eq_none_iff.1 (h.get?_vacate_self T _)) rfl

/-- The entries that are picked go, and their connections are closed. -/
def shut (T : Transport τ) (pick : UInt64 × Nat → Bool) (r : Registry τ) : Registry τ :=
  (closeEach T ((r.entries.filter pick).map (·.2))
    { r with entries := r.entries.filter fun e => !pick e }).2

theorem evictIdle_of_none (h : r.idleLimit = none) (T : Transport τ) (now : Nat) :
    r.evictIdle T now = (0, r) := by
  obtain ⟨idleLimit, connections, entries⟩ := r
  cases h
  rfl

theorem evictIdle_of_some {limit : Nat} (h : r.idleLimit = some limit) (T : Transport τ)
    (now : Nat) :
    r.evictIdle T now = ((r.idleEntries limit now).length,
      r.shut T fun e => (r.connections[e.2]?).all (isIdle limit now)) := by
  obtain ⟨idleLimit, connections, entries⟩ := r
  cases h
  rfl

theorem closeAll_eq_shut (T : Transport τ) (r : Registry τ) :
    (r.closeAll T).2 = r.shut T fun _ => true := by
  simp [closeAll, shut]

@[simp] theorem shut_entries (T : Transport τ) (pick : UInt64 × Nat → Bool) (r : Registry τ) :
    (r.shut T pick).entries = r.entries.filter fun e => !pick e :=
  closeEach_entries T _ _

/-- No connection is registered twice, so those that are picked are closed each once. -/
theorem Sound.getElem?_shut (h : Sound r) (pick : UInt64 × Nat → Bool) (m : Nat) :
    (r.shut T pick).connections[m]? = r.connections[m]?.map fun c =>
      if m ∈ (r.entries.filter pick).map (·.2) then (c.close T).2 else c :=
  getElem?_closeEach (h.places.sublist (List.filter_sublist.map _)) _ m

/-- Of a registered connection its own entry decides. -/
theorem Sound.getElem?_shut_of_mem (h : Sound r) (pick : UInt64 × Nat → Bool) {e : UInt64 × Nat}
    (he : e ∈ r.entries) : (r.shut T pick).connections[e.2]? =
      if pick e = true then r.connections[e.2]?.map fun c => (c.close T).2
      else r.connections[e.2]? := by
  have hpicked : e.2 ∈ (r.entries.filter pick).map (·.2) ↔ pick e = true := by
    constructor
    · intro hmem
      obtain ⟨d, hd, heq⟩ := List.mem_map.1 hmem
      rw [List.mem_filter] at hd
      exact List.inj_on_of_nodup_map h.places hd.1 he heq ▸ hd.2
    · intro hp
      exact List.mem_map_of_mem (List.mem_filter.2 ⟨he, hp⟩)
  rw [h.getElem?_shut]
  simp only [hpicked]
  split <;> simp

theorem Sound.shut (h : Sound r) (T : Transport τ) (pick : UInt64 × Nat → Bool) :
    Sound (r.shut T pick) := by
  refine h.sublist ?_ (stays_of_map (fun m c => ?_) (h.getElem?_shut pick))
  · rw [shut_entries]
    exact List.filter_sublist
  · split
    · exact c.close_options T
    · rfl

theorem Sound.evictIdle (h : Sound r) (T : Transport τ) (now : Nat) :
    Sound (r.evictIdle T now).2 := by
  cases hlimit : r.idleLimit with
  | none =>
    rw [evictIdle_of_none hlimit]
    exact h
  | some limit =>
    rw [evictIdle_of_some hlimit]
    exact h.shut T _

theorem Sound.closeAll (h : Sound r) (T : Transport τ) : Sound (r.closeAll T).2 := by
  rw [closeAll_eq_shut]
  exact h.shut T _

theorem Sound.perform (h : Sound r) (T : Transport τ) (a : Act τ) : Sound (a.perform T r) := by
  cases a with
  | connect start now options => exact h.connect T start now options
  | evictIdle now => exact h.evictIdle T now
  | closeAll => exact h.closeAll T
  | forget key => exact h.sublist List.filter_sublist fun _ c hc => ⟨c, hc, rfl⟩
  | change n stage =>
    refine h.sublist (List.Sublist.refl _) (stays_of_map
      (f := fun m c => if n = m then { c with stage := stage } else c) (fun m c => ?_) fun m => ?_)
    · split <;> rfl
    · exact List.getElem?_modify _ _ _ _

theorem Sound.run (h : Sound r) (T : Transport τ) (acts : List (Act τ)) : Sound (r.run T acts) := by
  induction acts generalizing r with
  | nil => exact h
  | cons a rest ih => exact ih (h.perform T a)

end Registry
end StructuredSql
