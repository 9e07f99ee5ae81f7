-- What is promised of a registry, after whatever was done with it: a live connection is shared, a
-- dead one gives way to one new connection, idle ones are evicted and counted, and all of them can
-- be closed.
import StructuredSql.Proofs.Registry.Sharing

namespace StructuredSql.Registry

variable {τ : Type}

/-! ## The promises -/

/-- A connection was unused for longer than a limit, or it has no link. -/
def Unused (limit now : Nat) (c : Connection τ) : Prop :=
  ∀ used, c.lastUsed? = some used → used + limit < now

/-- The connection at a place is what a close of that one left. -/
def ClosedAt (T : Transport τ) (n : Nat) (c : Connection τ) (r : Registry τ) : Prop :=
  ∃ outcome c', c.Closes T outcome c' ∧ r.connections[n]? = some c'

/-- The registered connections of a kind are closed and forgotten, and nothing else happens. -/
structure Shuts (T : Transport τ) (kind : Connection τ → Prop) (r r' : Registry τ) : Prop where
  left : ∀ key n c, r'.get? key = some (n, c) ↔ r.get? key = some (n, c) ∧ ¬kind c
  closed : ∀ key n c, r.get? key = some (n, c) → kind c → ClosedAt T n c r'
  others : ∀ n, (∀ key c, r.get? key = some (n, c) → ¬kind c) →
    r'.connections[n]? = r.connections[n]?

/-- What is under the fingerprint of options is closed, whether or not that succeeds, and the new
connection takes its place, if there is one. -/
structure Replaces (T : Transport τ) (options : Options) (new : Answer (Connection τ))
    (r : Registry τ) (answer : Answer Nat) (r' : Registry τ) : Prop where
  closed : ∀ n c, r.get? options.fingerprint = some (n, c) → ClosedAt T n c r'
  others : ∀ n < r.connections.length, (∀ c, r.get? options.fingerprint ≠ some (n, c)) →
    r'.connections[n]? = r.connections[n]?
  entries : ∀ key ≠ options.fingerprint, r'.get? key = r.get? key
  made : ∀ c, new = some (.ok c) →
    c.options = options ∧ answer = some (.ok r.connections.length) ∧
      r'.get? options.fingerprint = some (r.connections.length, c) ∧
      r'.connections.length = r.connections.length + 1
  failed : ∀ e, new = some (.error e) →
    answer = some (.error e) ∧ r'.get? options.fingerprint = none ∧
      r'.connections.length = r.connections.length
  waits : new = none →
    answer = none ∧ r'.get? options.fingerprint = none ∧
      r'.connections.length = r.connections.length

/-- A caller gets the registered connection while it lives, and a new one otherwise. For a live one
no host is started: it makes no difference what would come of one. -/
structure Connects (T : Transport τ) (r : Registry τ) (now : Nat) (options : Options) : Prop where
  shares : ∀ n c, r.get? options.fingerprint = some (n, c) → c.isAlive T = true →
    ∀ start, r.connect T start now options = (some (.ok n), r)
  replaces : (∀ n c, r.get? options.fingerprint = some (n, c) → c.isAlive T = false) →
    ∀ start, ∃ new, Opens T start now options new ∧
      Replaces T options new r (r.connect T start now options).1
        (r.connect T start now options).2

/-- Idle connections are evicted, and the answer is how many there were. -/
structure Evicts (T : Transport τ) (idleLimit : Option Nat) (r : Registry τ) (now : Nat) :
    Prop where
  unlimited : idleLimit = none → r.evictIdle T now = (0, r)
  shuts : ∀ limit, idleLimit = some limit → Shuts T (Unused limit now) r (r.evictIdle T now).2
  counts : ∀ limit, idleLimit = some limit →
    ∃ keys : List UInt64, keys.Nodup ∧ (r.evictIdle T now).1 = keys.length ∧
      ∀ key, key ∈ keys ↔ ∃ n c, r.get? key = some (n, c) ∧ Unused limit now c

/-- All connections are closed, and the answer is an error when one of the closes fails. -/
structure ClosesAll (T : Transport τ) (r : Registry τ) : Prop where
  empty : (r.closeAll T).2.size = 0
  shuts : Shuts T (fun _ => True) r (r.closeAll T).2
  ok_iff : (r.closeAll T).1 = .ok () ↔
    ∀ key n c, r.get? key = some (n, c) → ∃ c', c.Closes T (.ok ()) c'
  error : ∀ e, (r.closeAll T).1 = .error e →
    ∃ key n c c', r.get? key = some (n, c) ∧ c.Closes T (.error e) c'

/-! ## Closing and forgetting -/

section

variable {T : Transport τ} {r : Registry τ} {now : Nat} {options : Options}

theorem isIdle_iff {limit : Nat} {c : Connection τ} :
    isIdle limit now c = true ↔ Unused limit now c := by
  unfold isIdle Unused
  cases c.lastUsed? with
  | none => simp
  | some used =>
    simp only [decide_eq_true_eq, Option.some.injEq, forall_eq']
    omega

/-- Entries are picked by their connections: the connections of a kind are closed and go. -/
theorem Sound.shuts (h : Sound r) (T : Transport τ) {kind : Connection τ → Prop}
    {pick : UInt64 × Nat → Bool}
    (hpick : ∀ e ∈ r.entries, ∀ c, r.connections[e.2]? = some c → (pick e = true ↔ kind c)) :
    Shuts T kind r (r.shut T pick) := by
  refine ⟨fun key n c => ?_, fun key n c hget hkind => ?_, fun n hn => ?_⟩
  · rw [(h.shut T pick).get?_eq_some_iff, h.get?_eq_some_iff, shut_entries, List.mem_filter]
    constructor
    · rintro ⟨⟨hmem, hp⟩, hc⟩
      have hkept : pick (key, n) ≠ true := by simpa using hp
      rw [h.getElem?_shut_of_mem pick hmem, if_neg hkept] at hc
      exact ⟨⟨hmem, hc⟩, fun hkind => hkept ((hpick _ hmem c hc).2 hkind)⟩
    · rintro ⟨⟨hmem, hc⟩, hkind⟩
      have hkept : pick (key, n) ≠ true := fun hp => hkind ((hpick _ hmem c hc).1 hp)
      rw [h.getElem?_shut_of_mem pick hmem, if_neg hkept]
      exact ⟨⟨hmem, by simpa using hkept⟩, hc⟩
  · obtain ⟨hmem, hc⟩ := h.get?_eq_some_iff.1 hget
    refine ⟨_, _, c.closes_close T, ?_⟩
    rw [h.getElem?_shut_of_mem pick hmem, if_pos ((hpick _ hmem c hc).2 hkind), hc]
    rfl
  · have hout : n ∉ (r.entries.filter pick).map (·.2) := by
      intro hin
      obtain ⟨e, he, rfl⟩ := List.mem_map.1 hin
      rw [List.mem_filter] at he
      obtain ⟨c, hget⟩ := h.get?_of_mem he.1
      exact hn _ _ hget ((hpick e he.1 c (h.get?_eq_some_iff.1 hget).2).1 he.2)
    rw [h.getElem?_shut]
    simp only [hout, if_false, Option.map_id']

theorem Sound.evicts (h : Sound r) (T : Transport τ) (now : Nat) :
    Evicts T r.idleLimit r now := by
  have hpick : ∀ limit, ∀ e ∈ r.entries, ∀ c, r.connections[e.2]? = some c →
      ((r.connections[e.2]?).all (isIdle limit now) = true ↔ Unused limit now c) := by
    intro limit e _ c hc
    rw [hc]
    exact isIdle_iff
  refine ⟨fun hnone => evictIdle_of_none hnone T now, fun limit hlimit => ?_,
    fun limit hlimit => ?_⟩
  · rw [evictIdle_of_some hlimit]
    exact h.shuts T (hpick limit)
  · rw [evictIdle_of_some hlimit]
    refine ⟨(r.idleEntries limit now).map (·.1), h.keys.sublist (List.filter_sublist.map _),
      List.length_map _ |>.symm, fun key => ?_⟩
    constructor
    · intro hmem
      obtain ⟨e, he, rfl⟩ := List.mem_map.1 hmem
      obtain ⟨he, hidle⟩ := List.mem_filter.1 he
      obtain ⟨c, hget⟩ := h.get?_of_mem he
      exact ⟨e.2, c, hget, (hpick limit e he c (h.get?_eq_some_iff.1 hget).2).1 hidle⟩
    · rintro ⟨n, c, hget, hunused⟩
      obtain ⟨hmem, hc⟩ := h.get?_eq_some_iff.1 hget
      exact List.mem_map.2 ⟨(key, n),
        List.mem_filter.2 ⟨hmem, (hpick limit _ hmem c hc).2 hunused⟩, rfl⟩

theorem Sound.closesAll (h : Sound r) (T : Transport τ) : ClosesAll T r := by
  have hshuts : Shuts T (fun _ => True) r (r.closeAll T).2 := by
    rw [closeAll_eq_shut]
    exact h.shuts T fun _ _ _ _ => by simp
  have hempty : (r.closeAll T).2.size = 0 := by
    rw [closeAll_eq_shut]
    simp [size]
  have hfound : ∀ n ∈ r.entries.map (·.2), ∃ c, r.connections[n]? = some c := by
    intro n hn
    obtain ⟨e, he, rfl⟩ := List.mem_map.1 hn
    obtain ⟨c, hc, -⟩ := h.fits e he
    exact ⟨c, hc⟩
  rcases closeEach_outcome (r := { r with entries := [] }) (T := T) h.places hfound with
    ⟨hok, hall⟩ | ⟨e, he, n, hn, c, hc, hclose⟩
  · refine ⟨hempty, hshuts, ⟨fun _ key n c hget => ?_, fun _ => hok⟩, fun e he => ?_⟩
    · obtain ⟨hmem, hc⟩ := h.get?_eq_some_iff.1 hget
      have hcloses := c.closes_close T
      rw [hall n (List.mem_map_of_mem hmem) c hc] at hcloses
      exact ⟨_, hcloses⟩
    · cases hok.symm.trans he
  · obtain ⟨e', hmem, rfl⟩ := List.mem_map.1 hn
    have hget := h.get?_eq_some_iff.2 ⟨hmem, hc⟩
    have hcloses := c.closes_close T
    rw [hclose] at hcloses
    refine ⟨hempty, hshuts, ⟨fun hok => ?_, fun hall => ?_⟩, fun e'' he' => ?_⟩
    · cases he.symm.trans hok
    · obtain ⟨c', hgood⟩ := hall _ _ _ hget
      cases (hcloses.unique hgood).1
    · cases he.symm.trans he'
      exact ⟨_, _, _, _, hget, hcloses⟩

/-! ## Asking for a connection -/

theorem length_vacate (T : Transport τ) (key : UInt64) (r : Registry τ) :
    (r.vacate T key).connections.length = r.connections.length := by
  unfold vacate
  cases r.get? key with
  | none => rfl
  | some found =>
    simp only [closeAt, forget]
    cases r.connections[found.1]? <;> simp [put]

/-- What is under another fingerprint stays, because it has another place. -/
theorem Sound.get?_vacate_of_ne (h : Sound r) (T : Transport τ) {key other : UInt64}
    (hne : other ≠ key) : (r.vacate T key).get? other = r.get? other := by
  refine Option.ext fun ⟨n, c⟩ => ?_
  rw [(h.vacate T key).get?_eq_some_iff, h.get?_eq_some_iff, h.vacate_entries, List.mem_filter,
    getElem?_vacate]
  have hout : (other, n) ∈ r.entries → (r.get? key).map (·.1) ≠ some n := by
    intro hmem hfound
    obtain ⟨⟨m, d⟩, hget, rfl⟩ := Option.map_eq_some_iff.1 hfound
    have hplace := (h.get?_eq_some_iff.1 hget).1
    exact hne (Prod.mk.inj (List.inj_on_of_nodup_map h.places hmem hplace rfl)).1
  constructor
  · rintro ⟨⟨hmem, -⟩, hc⟩
    simp only [hout hmem, if_false, Option.map_id'] at hc
    exact ⟨hmem, hc⟩
  · rintro ⟨hmem, hc⟩
    simp only [hout hmem, if_false, Option.map_id']
    exact ⟨⟨hmem, by simpa using hne⟩, hc⟩

theorem Sound.get?_register_self (h : Sound r) {c : Connection τ} {key : UInt64}
    (hkey : r.get? key = none) (hoptions : c.options.fingerprint = key) :
    (r.register key c).get? key = some (r.connections.length, c) := by
  refine (h.register (h.get?_eq_none_iff.1 hkey) hoptions).get?_eq_some_iff.2 ⟨?_, ?_⟩
  · simp [Registry.register]
  · simp [Registry.register]

theorem Sound.get?_register_of_ne (h : Sound r) {c : Connection τ} {key other : UInt64}
    (hkey : r.get? key = none) (hoptions : c.options.fingerprint = key) (hne : other ≠ key) :
    (r.register key c).get? other = r.get? other := by
  refine Option.ext fun ⟨n, d⟩ => ?_
  rw [(h.register (h.get?_eq_none_iff.1 hkey) hoptions).get?_eq_some_iff, h.get?_eq_some_iff]
  have hmem : (other, n) ∈ (r.register key c).entries ↔ (other, n) ∈ r.entries := by
    simp [Registry.register, hne]
  rw [hmem]
  refine and_congr_right fun hin => ?_
  obtain ⟨d', hd, -⟩ := h.fits _ hin
  rw [Registry.register, List.getElem?_append_left (List.getElem?_eq_some_iff.1 hd).1]

/-- Whatever comes of the new connection, the old one is closed, and the rest stays. -/
theorem Sound.replaces (h : Sound r) (T : Transport τ) (start : Options → Except CallError τ)
    (now : Nat) (options : Options) :
    ∃ new, Opens T start now options new ∧ Replaces T options new r
      (connectNew T start now options (r.vacate T options.fingerprint)).1
      (connectNew T start now options (r.vacate T options.fingerprint)).2 := by
  have hvacant := h.get?_vacate_self T options.fingerprint
  have hsound := h.vacate T options.fingerprint
  have hlength := length_vacate T options.fingerprint r
  have hclosed : ∀ n c, r.get? options.fingerprint = some (n, c) →
      ClosedAt T n c (r.vacate T options.fingerprint) := by
    intro n c hget
    refine ⟨_, _, c.closes_close T, ?_⟩
    rw [getElem?_vacate, hget, (h.get?_eq_some_iff.1 hget).2]
    simp
  have hothers : ∀ n, (∀ c, r.get? options.fingerprint ≠ some (n, c)) →
      (r.vacate T options.fingerprint).connections[n]? = r.connections[n]? := by
    intro n hn
    have hout : (r.get? options.fingerprint).map (·.1) ≠ some n := by
      intro hfound
      obtain ⟨⟨m, d⟩, hget, rfl⟩ := Option.map_eq_some_iff.1 hfound
      exact hn d hget
    rw [getElem?_vacate]
    simp only [hout, if_false, Option.map_id']
  have hentries : ∀ key ≠ options.fingerprint,
      (r.vacate T options.fingerprint).get? key = r.get? key :=
    fun key hne => h.get?_vacate_of_ne T hne
  obtain ⟨new, hopens, heq⟩ :=
    connectNew_opens T start now options (r.vacate T options.fingerprint)
  refine ⟨new, hopens, ?_⟩
  rw [heq]
  rcases new with _ | e | c
  · refine ⟨hclosed, fun n _ => hothers n, hentries, ?_, ?_, fun _ => ⟨rfl, hvacant, hlength⟩⟩
    · intro c hc
      cases hc
    · intro e he
      cases he
  · refine ⟨hclosed, fun n _ => hothers n, hentries, ?_, ?_, ?_⟩
    · intro c hc
      cases hc
    · intro e' he
      cases he
      exact ⟨rfl, hvacant, hlength⟩
    · intro hnone
      cases hnone
  · obtain ⟨link, rfl⟩ := hopens.connected
    have hown : (⟨options, .connected link⟩ : Connection τ).options.fingerprint =
        options.fingerprint := rfl
    -- The new connection stands behind the others.
    have hbefore : ∀ n < r.connections.length,
        ((r.vacate T options.fingerprint).register options.fingerprint
          ⟨options, .connected link⟩).connections[n]? =
            (r.vacate T options.fingerprint).connections[n]? :=
      fun n hn => List.getElem?_append_left (hlength ▸ hn)
    refine ⟨fun n c hget => ?_, fun n hn hfound => ?_, fun key hne => ?_, fun c hc => ?_, ?_, ?_⟩
    · have hn := (List.getElem?_eq_some_iff.1 (h.get?_eq_some_iff.1 hget).2).1
      obtain ⟨outcome, c', hcloses, hplace⟩ := hclosed n c hget
      exact ⟨outcome, c', hcloses, (hbefore n hn).trans hplace⟩
    · exact (hbefore n hn).trans (hothers n hfound)
    · exact (hsound.get?_register_of_ne hvacant hown hne).trans (hentries key hne)
    · cases hc
      refine ⟨rfl, by rw [hlength], ?_, by simp [Registry.register, hlength]⟩
      rw [← hlength]
      exact hsound.get?_register_self hvacant hown
    · intro e he
      cases he
    · intro hnone
      cases hnone

theorem Sound.connects (h : Sound r) (T : Transport τ) (now : Nat) (options : Options) :
    Connects T r now options := by
  refine ⟨fun n c hget halive start => connect_of_alive hget halive, fun hdead start => ?_⟩
  rw [connect_of_not_alive hdead]
  exact h.replaces T start now options

end

/-! ## After whatever was done -/

/-- Everything that is promised of a registry. -/
structure Lawful (T : Transport τ) (idleLimit : Option Nat) (r : Registry τ) : Prop where
  sound : Sound r
  connects : ∀ now options, Connects T r now options
  evicts : ∀ now, Evicts T idleLimit r now
  closesAll : ClosesAll T r

/-- A host that gets ready, and then keeps a call waiting. -/
def slowHost : Replies := ⟨[.response .ready, .hang], [], true, []⟩

/-- The connection to it, with that call inside. -/
def busy : Connection Replies :=
  ((Connection.connectWith Transport.scripted 0 Options.default slowHost).2.call
    Transport.scripted 1 .ping).2

end StructuredSql.Registry
