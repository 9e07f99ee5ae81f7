-- What a host says to an arrival, and where it stands after it, whatever its channel. A channel
-- that takes the response carries it; a channel of frames that the response is too long for
-- carries a failure of the transport in its place, or nothing.
import StructuredSql.Proofs.Host.Exchange
import StructuredSql.Proofs.Message.ReadBack

namespace StructuredSql.Host

variable {σ ω : Type} {setting : Setting σ}

/-- A failure at a site. -/
def refusal (setting : Setting σ) (what : String) (e : CallError) : Response :=
  .failure (.ofError e (setting.site what))

/-- The response to an arrival and the host after it. A host that is gone gives none. -/
def reaction (setting : Setting σ) (a : Arrival) : Host σ → Option Response × Host σ
  | .waiting =>
    match a with
    | .ok (.configure options) =>
      match setting.openDatabase options with
      | .ok db => (some .ready, .serving (.ofDatabase db))
      | .error e => (some (refusal setting "configure" (.ofError e)), .ended (.error (.ofError e)))
    | .ok (.call cmd) =>
      (some (refusal setting "configure" (received cmd)), .ended (.error (received cmd)))
    | .error e => (some (refusal setting "configure" e), .ended (.error e))
  | .serving s =>
    match a with
    | .ok (.configure _) => (some (refusal setting "configure" alreadyConfigured), .serving s)
    | .ok (.call cmd) =>
      (some (answer setting s cmd), .serving (s.execute setting.engine setting.files cmd).2)
    | .error e => (some (refusal setting "recv" e), .ended (.error e))
  | .ended outcome => (none, .ended outcome)

theorem reaction_of_ended {host : Host σ} (h : host.isEnded = true) (a : Arrival) :
    host.reaction setting a = (none, host) := by
  cases host with
  | waiting => cases h
  | serving s => cases h
  | ended outcome => rfl

/-- A host that is there says something. -/
theorem reaction_of_alive {host : Host σ} (h : host.isEnded = false) (a : Arrival) :
    ∃ response, (host.reaction setting a).1 = some response := by
  unfold reaction
  cases host with
  | waiting =>
    rcases a with e | options | cmd
    · exact ⟨_, rfl⟩
    · dsimp only
      split <;> exact ⟨_, rfl⟩
    · exact ⟨_, rfl⟩
  | serving s => rcases a with e | options | cmd <;> exact ⟨_, rfl⟩
  | ended outcome => cases h

/-! ## Turns -/

theorem report_eq (O : Outlet ω) (what : String) (e : CallError) (out : ω) :
    report O setting what e out = (O.send (refusal setting what e) out).2 :=
  rfl

theorem deliver_of_ok {O : Outlet ω} {r : Response} {out sent : ω}
    (h : O.send r out = (.ok (), sent)) (what : String) :
    deliver O setting what r out = (.ok (), sent) := by
  unfold deliver
  rw [h]

theorem deliver_of_error {O : Outlet ω} {r : Response} {e : CallError} {out unchanged : ω}
    (h : O.send r out = (.error e, unchanged)) (what : String) :
    deliver O setting what r out = O.send (refusal setting what (unsent what e)) unchanged := by
  unfold deliver
  rw [h]
  rfl

/-- The host after a response that was sent, or that could not be. -/
def afterwards (next : Host σ) : Except CallError Unit × ω → Host σ × ω
  | (.ok (), out) => (next, out)
  | (.error e, out) => (.ended (.error e), out)

@[simp] theorem afterwards_snd (next : Host σ) (sent : Except CallError Unit × ω) :
    (afterwards next sent).2 = sent.2 := by
  rcases sent with ⟨_ | _, out⟩ <;> rfl

/-- A turn is its reaction on a channel: a failure is reported, readiness is sent, and the answer
to a command is delivered. -/
theorem turn_of_reaction (O : Outlet ω) {host next : Host σ} {a : Arrival} {response : Response}
    (h : host.reaction setting a = (some response, next)) (out : ω) :
    (∃ what e, response = refusal setting what e ∧
        host.turn O setting a out = (next, report O setting what e out)) ∨
      (response = .ready ∧ host.turn O setting a out = afterwards next (O.send .ready out)) ∨
      ∃ what, host.turn O setting a out =
        afterwards next (deliver O setting what response out) := by
  unfold reaction at h
  cases host with
  | waiting =>
    rcases a with e | options | cmd
    · cases h
      exact .inl ⟨"configure", e, rfl, rfl⟩
    · dsimp only at h
      rcases hopen : setting.openDatabase options with e | db
      · rw [hopen] at h
        cases h
        refine .inl ⟨"configure", .ofError e, rfl, ?_⟩
        simp only [turn, configure, hopen]
      · rw [hopen] at h
        cases h
        refine .inr (.inl ⟨rfl, ?_⟩)
        simp only [turn, configure, hopen]
        rfl
    · cases h
      exact .inl ⟨"configure", received cmd, rfl, rfl⟩
  | serving s =>
    rcases a with e | options | cmd
    · cases h
      exact .inl ⟨"recv", e, rfl, rfl⟩
    · cases h
      exact .inl ⟨"configure", alreadyConfigured, rfl, rfl⟩
    · cases h
      refine .inr (.inr ⟨cmd.name, ?_⟩)
      simp only [turn, serve]
      rfl
  | ended outcome => cases h

/-- A channel that takes the response carries it. -/
theorem turn_of_sent (O : Outlet ω) {host next : Host σ} {a : Arrival} {response : Response}
    (h : host.reaction setting a = (some response, next)) {out sent : ω}
    (hsend : O.send response out = (.ok (), sent)) :
    host.turn O setting a out = (next, sent) := by
  obtain ⟨what, e, rfl, hturn⟩ | ⟨rfl, hturn⟩ | ⟨what, hturn⟩ := turn_of_reaction O h out
  · rw [hturn, report_eq, hsend]
  · rw [hturn, hsend]
    rfl
  · rw [hturn, deliver_of_ok hsend]
    rfl

/-! ## Responses that are too long for a frame -/

/-- What is on the stream when a response is too long for a frame: a failure of the transport in
its place, or nothing. -/
def StandsIn (setting : Setting σ) (out : List UInt8) : Prop :=
  out = [] ∨ ∃ what e, (refusal setting what (unsent what e)).encode.length ≤ Frame.limit ∧
    out = Frame.framed (refusal setting what (unsent what e)).encode

theorem deliver_oversized {what : String} {r : Response} (h : Frame.limit < r.encode.length) :
    StandsIn setting (deliver Outlet.frames setting what r []).2 := by
  rw [deliver_of_error (send_oversized h [])]
  rcases Nat.lt_or_ge Frame.limit
    (refusal setting what (unsent what (Frame.tooLong r.encode.length))).encode.length with
    hlong | hfits
  · rw [send_oversized hlong]
    exact .inl rfl
  · rw [send_fitting hfits]
    exact .inr ⟨what, _, hfits, rfl⟩

theorem turn_oversized {host next : Host σ} {a : Arrival} {response : Response}
    (h : host.reaction setting a = (some response, next))
    (hlong : Frame.limit < response.encode.length) :
    StandsIn setting (host.turn Outlet.frames setting a []).2 := by
  obtain ⟨what, e, rfl, hturn⟩ | ⟨rfl, hturn⟩ | ⟨what, hturn⟩ :=
    turn_of_reaction Outlet.frames h []
  · rw [hturn, report_eq, send_oversized hlong]
    exact .inl rfl
  · exact absurd fits_ready (Nat.not_le.mpr hlong)
  · rw [hturn, afterwards_snd]
    exact deliver_oversized hlong

end StructuredSql.Host
