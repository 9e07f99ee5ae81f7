-- Where a host runs makes no difference to a connection while every message fits into a frame:
-- on a thread and in a process the calls are answered alike, one by one. A message that is too
-- long for a frame is carried on a thread, and in a process it fails.
import StructuredSql.Proofs.Connection.Transparent
import StructuredSql.Proofs.Host.Reaction

namespace StructuredSql

variable {σ : Type} {setting : Host.Setting σ}

/-! ## What is said -/

namespace Host

/-- What the caller of a request is told, and the host after it. One that is gone is not asked. -/
def told (setting : Setting σ) (r : Request) (host : Host σ) :
    Except CallError Response × Host σ :=
  match host.reaction setting (Request.decode r.encode) with
  | (some response, next) => (Response.decode response.encode, next)
  | (none, next) => (.error Link.hostGone, next)

/-- What a caller learns when he connects, and the host behind the connection, if that is open. -/
def opened (setting : Setting σ) (options : Options) :
    Except CallError Unit × Option (Host σ) :=
  match (told setting (.configure options) .waiting).1.bind Link.configured with
  | .ok () => (.ok (), some (told setting (.configure options) .waiting).2)
  | .error e => (.error e, none)

/-- What a caller is told by a connection with that host, or by a closed one. -/
def heard (setting : Setting σ) (cmd : Command) :
    Option (Host σ) → Except CallError Output × Option (Host σ)
  | none => (.error Link.closedError, none)
  | some host => ((told setting (.call cmd) host).1.bind (Link.called cmd),
      some (told setting (.call cmd) host).2)

/-- The request and its response fit into frames. A host that is gone exchanges nothing. -/
def InFrames (setting : Setting σ) (r : Request) (host : Host σ) : Prop :=
  host.isEnded = false → r.encode.length ≤ Frame.limit ∧
    ∀ response, (host.reaction setting (Request.decode r.encode)).1 = some response →
      response.encode.length ≤ Frame.limit

theorem told_of_ended {host : Host σ} (h : host.isEnded = true) (r : Request) :
    host.told setting r = (.error Link.hostGone, host) := by
  unfold told
  rw [reaction_of_ended h]

theorem told_of_reaction {host next : Host σ} {r : Request} {response : Response}
    (h : host.reaction setting (Request.decode r.encode) = (some response, next)) :
    host.told setting r = (Response.decode response.encode, next) := by
  unfold told
  rw [h]

theorem told_configure {options : Options} {db : Database σ}
    (hopen : setting.openDatabase options = .ok db)
    (hdecode : Request.decode (Request.configure options).encode = .ok (.configure options)) :
    told setting (.configure options) .waiting = (.ok .ready, .serving (.ofDatabase db)) := by
  have hready : Response.decode Response.ready.encode = .ok .ready :=
    Response.ready_travels.decode trivial
  have hreaction : reaction setting (.ok (.configure options)) .waiting =
      (some .ready, .serving (.ofDatabase db)) := by
    unfold reaction
    dsimp only
    rw [hopen]
  rw [← hdecode] at hreaction
  rw [told_of_reaction hreaction, hready]

theorem opened_of_ok {options : Options} {db : Database σ}
    (hopen : setting.openDatabase options = .ok db)
    (hdecode : Request.decode (Request.configure options).encode = .ok (.configure options)) :
    opened setting options = (.ok (), some (.serving (.ofDatabase db))) := by
  unfold opened
  rw [told_configure hopen hdecode]
  rfl

theorem reaction_call (setting : Setting σ) (s : Session σ) {cmd : Command}
    (hdecode : Request.decode (Request.call cmd).encode = .ok (.call cmd)) :
    (serving s).reaction setting (Request.decode (Request.call cmd).encode) =
      (some (answer setting s cmd), .serving (s.execute setting.engine setting.files cmd).2) := by
  rw [hdecode]
  rfl

theorem heard_call (setting : Setting σ) (s : Session σ) {cmd : Command}
    (hdecode : Request.decode (Request.call cmd).encode = .ok (.call cmd)) :
    heard setting cmd (some (.serving s)) =
      ((Response.decode (answer setting s cmd).encode).bind (Link.called cmd),
        some (.serving (s.execute setting.engine setting.files cmd).2)) := by
  unfold heard
  dsimp only
  rw [told_of_reaction (reaction_call setting s hdecode)]

theorem inFrames_configure {options : Options} {db : Database σ}
    (hopen : setting.openDatabase options = .ok db) (hsized : options.Sized)
    (hrequest : (Request.configure options).Travels) :
    (waiting : Host σ).InFrames setting (.configure options) := by
  have hlawful : (Request.configure options).Lawful := hsized
  intro _
  refine ⟨hrequest.length, fun response hsaid => ?_⟩
  unfold reaction at hsaid
  rw [hrequest.decode hlawful] at hsaid
  dsimp only at hsaid
  rw [hopen] at hsaid
  cases hsaid
  exact fits_ready

theorem inFrames_call {s : Session σ} {cmd : Command} (hkeyed : cmd.Keyed)
    (hrequest : (Request.call cmd).Travels)
    (hresponse : (answer setting s cmd).encode.length ≤ Frame.limit) :
    (serving s).InFrames setting (.call cmd) := by
  have hreaction := reaction_call setting s (hrequest.decode hkeyed)
  intro halive
  refine ⟨hrequest.length, fun response hsaid => ?_⟩
  rw [hreaction] at hsaid
  cases hsaid
  exact hresponse

end Host

/-! ## Places -/

/-- Where a host runs. -/
inductive HostPlace
  | thread
  | process

namespace HostPlace

/-- The transport to a host at the place. -/
def hosted : HostPlace → Host σ → Hosted σ
  | thread, host => .thread ⟨host, true⟩
  | process, host => .process ⟨.ofHost host, true⟩

/-- A thread takes messages of any length, a process takes frames. -/
def Carries (setting : Host.Setting σ) (r : Request) (host : Host σ) : HostPlace → Prop
  | thread => True
  | process => host.InFrames setting r

theorem ofHost_of_alive {host : Host σ} (h : host.isEnded = false) :
    Child.ofHost host = .worker host := by
  unfold Child.ofHost
  rw [h]
  rfl

theorem isAlive_hosted (place : HostPlace) (host : Host σ) :
    (place.hosted host).isAlive = !host.isEnded := by
  cases place with
  | thread => exact Bool.true_and _
  | process =>
    by_cases h : host.isEnded
    · simp [hosted, Hosted.isAlive, Process.isAlive, Child.ofHost, h]
    · simp [hosted, Hosted.isAlive, Process.isAlive, Child.ofHost, h]

/-- One round trip, at either place. -/
theorem roundTrip_hosted {place : HostPlace} {host : Host σ} {r : Request}
    (halive : host.isEnded = false) (h : place.Carries setting r host) :
    (place.hosted host).roundTrip setting r =
      ((host.told setting r).1, place.hosted (host.told setting r).2) := by
  have hsaid : ∃ response,
      (host.reaction setting (Request.decode r.encode)).1 = some response :=
    Host.reaction_of_alive halive _
  rcases hreaction : host.reaction setting (Request.decode r.encode) with ⟨_ | response, next⟩
  · rw [hreaction] at hsaid
    simp at hsaid
  rw [Host.told_of_reaction hreaction]
  cases place with
  | thread =>
    have hturn := Host.turn_of_sent Outlet.messages hreaction
      (show Outlet.messages.send response [] = (.ok (), [response.encode]) from rfl)
    simp only [hosted, Hosted.roundTrip, Thread.roundTrip, halive, hturn, Thread.firstResponse]
    simp
  | process =>
    obtain ⟨hrequest, hresponse⟩ := h halive
    have hback : response.encode.length ≤ Frame.limit :=
      hresponse response (congrArg Prod.fst hreaction)
    have hturn := Host.turn_of_sent Outlet.frames hreaction (Host.send_fitting hback [])
    simp only [hosted, Hosted.roundTrip, ofHost_of_alive halive]
    rw [Process.roundTrip_worker hrequest, hturn, List.nil_append,
      Process.firstResponse_framed hback]

/-- A request that is too long for a frame does not reach the process. -/
theorem roundTrip_long {r : Request} (h : Frame.limit < r.encode.length) (host : Host σ) :
    ((process.hosted host).roundTrip setting r).1 = .error (Frame.tooLong r.encode.length) := by
  simp only [hosted, Hosted.roundTrip, Process.roundTrip, Frame.write_oversized h]

/-- A process fails with a message that is too long for a frame, or answers that it failed. -/
theorem roundTrip_oversized {host : Host σ} {r : Request} (h : ¬ host.InFrames setting r) :
    ∃ reason, ((process.hosted host).roundTrip setting r).1 = .error (.transport reason) ∨
      ∃ site, ((process.hosted host).roundTrip setting r).1 =
        .ok (.failure (.ofError (.transport reason) site)) := by
  unfold Host.InFrames at h
  simp only [Classical.not_imp, not_and, Classical.not_forall, Nat.not_le] at h
  obtain ⟨halive, htoo⟩ := h
  by_cases hfits : r.encode.length ≤ Frame.limit
  · simp only [hosted, Hosted.roundTrip, ofHost_of_alive halive]
    obtain ⟨response, hsaid, hlong⟩ := htoo hfits
    rcases hreaction : host.reaction setting (Request.decode r.encode) with ⟨said, next⟩
    rw [hreaction] at hsaid
    cases hsaid
    rw [Process.roundTrip_worker hfits]
    rcases Host.turn_oversized hreaction hlong with hnothing | ⟨what, e, hshort, hframe⟩
    · rw [hnothing]
      exact ⟨_, .inl rfl⟩
    · have hshallow : 1 ≤ messageRoom := by decide
      have hback : (Host.refusal setting what (Host.unsent what e)).Travels := ⟨hshallow, hshort⟩
      rw [hframe]
      dsimp only
      rw [Process.firstResponse_framed hshort, hback.decode trivial]
      exact ⟨_, .inr ⟨_, rfl⟩⟩
  · exact ⟨_, .inl (roundTrip_long (Nat.lt_of_not_le hfits) host)⟩

/-! ## Links -/

/-- The link to a host at the place, with no request on its way. -/
def link (place : HostPlace) (host : Host σ) (used : Nat) : Link (Hosted σ) :=
  ⟨place.hosted host, false, false, used, false⟩

theorem refusal?_link (place : HostPlace) (host : Host σ) (used : Nat) :
    (place.link host used).refusal? (Transport.hosted setting) =
      if host.isEnded then some Link.hostGone else none := by
  have halive : (Transport.hosted setting).isAlive (place.link host used).transport =
      !host.isEnded := place.isAlive_hosted host
  unfold Link.refusal?
  rw [halive]
  by_cases hended : host.isEnded
  · simp [link, hended]
  · simp [link, hended]

/-- An exchange on the link is a round trip, unless the host is gone. -/
theorem exchange_link (place : HostPlace) {host : Host σ} (halive : host.isEnded = false)
    (used now : Nat) (r : Request) :
    (place.link host used).exchange (Transport.hosted setting) now r =
      (some ((place.hosted host).roundTrip setting r).1,
        ⟨((place.hosted host).roundTrip setting r).2, false, false, now, false⟩) := by
  unfold Link.exchange Link.start
  rw [refusal?_link, halive]
  rfl

/-- The caller is told what the host says, and the host behind the link is the one after it. -/
theorem exchange_told {place : HostPlace} {host : Host σ} {r : Request}
    (h : place.Carries setting r host) (used now : Nat) :
    ∃ last, (place.link host used).exchange (Transport.hosted setting) now r =
      (some (host.told setting r).1, place.link (host.told setting r).2 last) := by
  by_cases hended : host.isEnded
  · refine ⟨used, ?_⟩
    rw [Host.told_of_ended hended]
    unfold Link.exchange Link.start
    rw [refusal?_link, if_pos hended]
    rfl
  · have halive : host.isEnded = false := by simpa using hended
    refine ⟨now, ?_⟩
    rw [exchange_link place halive, roundTrip_hosted halive h]
    rfl

/-! ## Connections -/

/-- The connection has that host at the place behind it, or is closed. -/
inductive Stands (place : HostPlace) : Option (Host σ) → Connection (Hosted σ) → Prop
  | connected (options : Options) (host : Host σ) (used : Nat) :
      Stands place (some host) ⟨options, .connected (place.link host used)⟩
  | closed (options : Options) (left : Option (Link (Hosted σ))) :
      Stands place none ⟨options, .closed left⟩

theorem connectWith_stands (place : HostPlace) {options : Options}
    (h : place.Carries setting (.configure options) .waiting) (now : Nat) :
    ∃ c, Connection.connectWith (Transport.hosted setting) now options (place.hosted .waiting) =
        (some (Host.opened setting options).1, c) ∧
      place.Stands (Host.opened setting options).2 c := by
  obtain ⟨last, hexchange⟩ := exchange_told h now now
  unfold Connection.connectWith Link.configure Host.opened
  rw [show Link.ofTransport now (place.hosted .waiting) = place.link .waiting now from rfl,
    hexchange]
  dsimp only [Option.map_some]
  rcases (Host.told setting (.configure options) .waiting).1.bind Link.configured with e | ready
  · exact ⟨_, rfl, .closed _ _⟩
  · exact ⟨_, rfl, .connected _ _ _⟩

theorem Stands.call {place : HostPlace} {host? : Option (Host σ)} {c : Connection (Hosted σ)}
    (hc : place.Stands host? c) {cmd : Command}
    (h : ∀ host, host? = some host → place.Carries setting (.call cmd) host) (now : Nat) :
    ∃ c', c.call (Transport.hosted setting) now cmd =
        (some (Host.heard setting cmd host?).1, c') ∧
      place.Stands (Host.heard setting cmd host?).2 c' := by
  cases hc with
  | connected options host used =>
    obtain ⟨last, hexchange⟩ := exchange_told (h host rfl) used now
    refine ⟨⟨options, .connected (place.link _ last)⟩, ?_, .connected options _ last⟩
    unfold Connection.call Link.call
    dsimp only
    rw [hexchange]
    rfl
  | closed options left => exact ⟨_, rfl, .closed options left⟩

/-- The messages of the calls are carried, each with the host that the calls before it left. -/
def CarriesAll (place : HostPlace) (setting : Host.Setting σ) (cmds : List Command)
    (host? : Option (Host σ)) : Prop :=
  ∀ i cmd host, cmds[i]? = some cmd →
    (turns (Host.heard setting) (cmds.take i) host?).2 = some host →
    place.Carries setting (.call cmd) host

/-- Induction on the calls: at either place they are answered as they are heard. -/
theorem Stands.callAll {place : HostPlace} {host? : Option (Host σ)}
    {c : Connection (Hosted σ)} (hc : place.Stands host? c) (calls : List (Nat × Command))
    (h : place.CarriesAll setting (calls.map Prod.snd) host?) :
    (c.callAll (Transport.hosted setting) calls).1 =
        (turns (Host.heard setting) (calls.map Prod.snd) host?).1.map some ∧
      place.Stands (turns (Host.heard setting) (calls.map Prod.snd) host?).2
        (c.callAll (Transport.hosted setting) calls).2 := by
  induction calls generalizing host? c with
  | nil => exact ⟨rfl, hc⟩
  | cons timed calls ih =>
    obtain ⟨now, cmd⟩ := timed
    obtain ⟨c', hcall, hc'⟩ := hc.call (fun host hhost => h 0 cmd host rfl hhost) now
    obtain ⟨hanswers, hend⟩ := ih hc' fun i next host hi hhost => h (i + 1) next host hi hhost
    unfold Connection.callAll turns
    dsimp only
    rw [hcall]
    exact ⟨congrArg (_ :: ·) hanswers, hend⟩

theorem carries_thread (setting : Host.Setting σ) (r : Request) (host : Host σ) :
    thread.Carries setting r host := trivial

/-- A call whose request is too long for a frame does not leave for the process. -/
theorem Stands.call_long {host : Host σ} {c : Connection (Hosted σ)}
    (hc : process.Stands (some host) c) (halive : host.isEnded = false) {cmd : Command}
    (h : Frame.limit < (Request.call cmd).encode.length) (now : Nat) :
    (c.call (Transport.hosted setting) now cmd).1 =
      some (.error (Frame.tooLong (Request.call cmd).encode.length)) := by
  cases hc with
  | connected options host used =>
    unfold Connection.call Link.call
    dsimp only
    rw [exchange_link process halive, roundTrip_long h]
    rfl

/-- A call whose message is too long for a frame fails in a process. -/
theorem Stands.call_oversized {host : Host σ} {c : Connection (Hosted σ)}
    (hc : process.Stands (some host) c) {cmd : Command}
    (h : ¬ host.InFrames setting (.call cmd)) (now : Nat) :
    ∃ reason,
      (c.call (Transport.hosted setting) now cmd).1 = some (.error (.transport reason)) := by
  have halive : host.isEnded = false := by
    by_contra hended
    exact h fun halive => absurd halive hended
  cases hc with
  | connected options host used =>
    obtain ⟨reason, hfailed⟩ := roundTrip_oversized h
    refine ⟨reason, ?_⟩
    unfold Connection.call Link.call
    dsimp only
    rw [exchange_link process halive]
    rcases hfailed with hfailed | ⟨site, hfailed⟩
    · rw [hfailed]
      rfl
    · rw [hfailed]
      rfl

end HostPlace

namespace Connection

open HostPlace (thread process)

/-! ## A long statement -/

/-- A statement whose text is as long as a frame may be. -/
def longStatement : Command := .exec (String.ofList (List.replicate Frame.limit 'a')) []

theorem utf8ByteSize_replicate (n : Nat) :
    (String.ofList (List.replicate n 'a')).utf8ByteSize = n := by
  induction n with
  | zero => rfl
  | succ n ih =>
    have hone : 'a'.utf8Size = 1 := rfl
    rw [List.replicate_succ, Text.utf8ByteSize_ofList_cons, ih, hone, Nat.add_comm]

theorem length_exec (sql : String) :
    (Request.call (.exec sql [])).encode.length =
      (MessagePack.textHead sql.utf8ByteSize).length + sql.utf8ByteSize + 25 := by
  have hencode : (Request.call (.exec sql [])).encode =
      MessagePack.mapHead 1 ++ (MessagePack.text "Call" ++ (MessagePack.mapHead 1 ++
        (MessagePack.text "Exec" ++ (MessagePack.mapHead 2 ++
          (MessagePack.text "sql" ++ MessagePack.text sql ++
            (MessagePack.text "params" ++ MessagePack.listHead 0 ++ []))) ++ [])) ++ []) := rfl
  have hone : (MessagePack.mapHead 1).length = 1 := rfl
  have htwo : (MessagePack.mapHead 2).length = 1 := rfl
  have hnone : (MessagePack.listHead 0).length = 1 := rfl
  have hcall : (MessagePack.text "Call").length = 5 := rfl
  have hexec : (MessagePack.text "Exec").length = 5 := rfl
  have hsql : (MessagePack.text "sql").length = 4 := rfl
  have hparams : (MessagePack.text "params").length = 7 := rfl
  have htext : (MessagePack.text sql).length =
      (MessagePack.textHead sql.utf8ByteSize).length + sql.utf8ByteSize := by
    unfold MessagePack.text
    rw [List.length_append, Text.length_encode]
  rw [hencode]
  simp only [List.length_append, List.length_nil]
  omega

theorem decode_exec {sql : String} (h : sql.utf8ByteSize ≤ Frame.limit) :
    Request.decode (Request.call (.exec sql [])).encode = .ok (.call (.exec sql [])) := by
  have hlength := length_exec sql
  have hhead := MessagePack.length_textHead_le sql.utf8ByteSize
  have hlimit : Frame.limit + 30 < Nat.pow 2 32 := by decide
  have hcounted : MessagePack.Countable (Request.call (.exec sql [])).toDatum :=
    MessagePack.countable_of_length (show (Request.call (.exec sql [])).encode.length < _ by omega)
  have hlawful : (Request.call (.exec sql [])).Lawful := trivial
  have hshallow : (Request.call (.exec sql [])).nesting ≤ messageRoom :=
    Nat.le_of_ble_eq_true rfl
  rw [Request.decode_encode hlawful hcounted, if_pos hshallow]

theorem size_longStatement :
    (String.ofList (List.replicate Frame.limit 'a')).utf8ByteSize = Frame.limit :=
  utf8ByteSize_replicate Frame.limit

theorem length_longStatement : (Request.call longStatement).encode.length = 268435486 := by
  have hhead : (MessagePack.textHead Frame.limit).length = 5 := by decide
  have hlimit : Frame.limit = 268435456 := rfl
  unfold longStatement
  rw [length_exec, size_longStatement, hhead, hlimit]

theorem longStatement_long : Frame.limit < (Request.call longStatement).encode.length := by
  rw [length_longStatement]
  decide

theorem longStatement_not_inFrames (s : Session σ) :
    ¬ (Host.serving s).InFrames setting (.call longStatement) := by
  intro hfits
  exact absurd (hfits rfl).1 (Nat.not_le.mpr longStatement_long)

/-- A session on a dry run. -/
def drySession : Session Memory := .ofDatabase (.ofOptions Host.dryOptions none)

theorem dryOptions_sized : Host.dryOptions.Sized := ⟨nofun, by decide⟩

theorem dryOptions_travel : (Request.configure Host.dryOptions).Travels :=
  ⟨by decide, by decide +kernel⟩

theorem dryOptions_inFrames :
    (Host.waiting : Host Memory).InFrames Host.emptySetting (.configure Host.dryOptions) :=
  Host.inFrames_configure rfl dryOptions_sized dryOptions_travel

theorem opened_dry :
    Host.opened Host.emptySetting Host.dryOptions = (.ok (), some (.serving drySession)) :=
  Host.opened_of_ok rfl (dryOptions_travel.decode dryOptions_sized)

theorem heard_longStatement :
    (Host.heard Host.emptySetting longStatement (some (.serving drySession))).1 =
      .ok (.statement none) := by
  have hread : (Response.success (.statement none)).Travels := ⟨by decide, by decide⟩
  have hanswer : Host.answer Host.emptySetting drySession longStatement =
      .success (.statement none) := rfl
  have hlawful : (Response.success (.statement none)).Lawful := nofun
  unfold longStatement at hanswer ⊢
  rw [Host.heard_call Host.emptySetting drySession (decode_exec (Nat.le_of_eq size_longStatement)),
    hanswer, hread.decode hlawful]
  rfl

/-! ## On a thread and in a process -/

/-- As long as requests and responses fit into frames, a host on a thread and one in a process
connect alike and answer every call alike, one by one. The first call that brings a longer message
is answered on the thread with what the host says, and fails in the process. -/
theorem messages_in_frames_work_over_both {options : Options} (now : Nat)
    (calls : List (Nat × Command))
    (hconfigure : (Host.waiting : Host σ).InFrames setting (.configure options))
    (hcalls : process.CarriesAll setting (calls.map Prod.snd) (Host.opened setting options).2) :
    ∃ answer onThread inProcess,
      connectWith (Transport.hosted setting) now options (.thread .start) = (answer, onThread) ∧
      connectWith (Transport.hosted setting) now options
        (.process ⟨Program.worker.child, true⟩) = (answer, inProcess) ∧
      (onThread.callAll (Transport.hosted setting) calls).1 =
        (inProcess.callAll (Transport.hosted setting) calls).1 ∧
      ∀ (host : Host σ) (later : Nat) (cmd : Command),
        (turns (Host.heard setting) (calls.map Prod.snd) (Host.opened setting options).2).2 =
          some host →
        ¬ host.InFrames setting (.call cmd) →
        (((onThread.callAll (Transport.hosted setting) calls).2.call
            (Transport.hosted setting) later cmd).1 =
          some ((host.told setting (.call cmd)).1.bind (Link.called cmd))) ∧
        ∃ reason, ((inProcess.callAll (Transport.hosted setting) calls).2.call
            (Transport.hosted setting) later cmd).1 = some (.error (.transport reason)) := by
  obtain ⟨onThread, hthread, hstands⟩ := HostPlace.connectWith_stands thread
    (HostPlace.carries_thread setting (.configure options) .waiting) now
  obtain ⟨inProcess, hprocess, hstands'⟩ := HostPlace.connectWith_stands process hconfigure now
  obtain ⟨hanswers, hend⟩ := hstands.callAll calls
    fun _ cmd host _ _ => HostPlace.carries_thread setting (.call cmd) host
  obtain ⟨hanswers', hend'⟩ := hstands'.callAll calls hcalls
  refine ⟨_, onThread, inProcess, hthread, hprocess, hanswers.trans hanswers'.symm, ?_⟩
  intro host later cmd hhost hlong
  rw [hhost] at hend hend'
  constructor
  · obtain ⟨c', hcall, -⟩ := hend.call
      (fun host _ => HostPlace.carries_thread setting (.call cmd) host) later
    rw [hcall]
    rfl
  · exact hend'.call_oversized hlong later

/-- Both tell of a short statement alike, and the process does not take the long one. -/
theorem longStatement_fails_in_a_process :
    ∃ answer onThread inProcess,
      connectWith (Transport.hosted Host.emptySetting) 0 Host.dryOptions (.thread .start) =
        (answer, onThread) ∧
      connectWith (Transport.hosted Host.emptySetting) 0 Host.dryOptions
        (.process ⟨Program.worker.child, true⟩) = (answer, inProcess) ∧
      (onThread.callAll (Transport.hosted Host.emptySetting) [(1, .exec "SELECT 1" [])]).1 =
        (inProcess.callAll (Transport.hosted Host.emptySetting) [(1, .exec "SELECT 1" [])]).1 ∧
      ∃ reason, ((inProcess.callAll (Transport.hosted Host.emptySetting)
        [(1, .exec "SELECT 1" [])]).2.call (Transport.hosted Host.emptySetting) 2
          longStatement).1 = some (.error (.transport reason)) := by
  have hshort : (Request.call (.exec "SELECT 1" [])).Travels := ⟨by decide, by decide⟩
  have hcalls : process.CarriesAll Host.emptySetting [.exec "SELECT 1" []]
      (Host.opened Host.emptySetting Host.dryOptions).2 := by
    intro i cmd host hi hhost
    rw [opened_dry] at hhost
    match i, hi with
    | 0, rfl =>
      cases hhost
      exact Host.inFrames_call trivial hshort (by decide)
    | i + 1, hi => nomatch hi
  obtain ⟨answer, onThread, inProcess, hthread, hprocess, hanswers, hlong⟩ :=
    messages_in_frames_work_over_both 0 [(1, .exec "SELECT 1" [])] dryOptions_inFrames hcalls
  have hhost : (turns (Host.heard Host.emptySetting) [.exec "SELECT 1" []]
      (Host.opened Host.emptySetting Host.dryOptions).2).2 = some (.serving
        (drySession.execute Engine.memory FileTree.empty (.exec "SELECT 1" [])).2) := by
    rw [opened_dry]
    exact congrArg Prod.snd (Host.heard_call Host.emptySetting drySession (hshort.decode trivial))
  exact ⟨answer, onThread, inProcess, hthread, hprocess, hanswers,
    (hlong _ 2 longStatement hhost (longStatement_not_inFrames _)).2⟩

/-- The long statement is carried out on a thread, as any other, and never reaches a process. -/
theorem longStatement_works_over_one :
    ((connectWith (Transport.hosted Host.emptySetting) 0 Host.dryOptions
        (.thread .start)).2.callAll (Transport.hosted Host.emptySetting) [(1, longStatement)]).1 =
      [some (.ok (.statement none))] ∧
    ((connectWith (Transport.hosted Host.emptySetting) 0 Host.dryOptions
        (.process ⟨Program.worker.child, true⟩)).2.callAll (Transport.hosted Host.emptySetting)
          [(1, longStatement)]).1 =
      [some (.error (Frame.tooLong 268435486))] := by
  constructor
  · obtain ⟨c, hconnect, hstands⟩ := HostPlace.connectWith_stands thread
      (HostPlace.carries_thread Host.emptySetting (.configure Host.dryOptions) .waiting) 0
    have hconnect : connectWith (Transport.hosted Host.emptySetting) 0 Host.dryOptions
      (.thread .start) = _ := hconnect
    obtain ⟨hanswers, -⟩ := hstands.callAll [(1, longStatement)]
      fun _ cmd host _ _ => HostPlace.carries_thread Host.emptySetting (.call cmd) host
    rw [hconnect, hanswers, opened_dry]
    exact congrArg (fun answer => [some answer]) heard_longStatement
  · obtain ⟨c, hconnect, hstands⟩ := HostPlace.connectWith_stands process dryOptions_inFrames 0
    have hconnect : connectWith (Transport.hosted Host.emptySetting) 0 Host.dryOptions
      (.process ⟨Program.worker.child, true⟩) = _ := hconnect
    rw [opened_dry] at hstands
    rw [hconnect, ← length_longStatement]
    exact congrArg (fun answer => [answer]) (hstands.call_long rfl longStatement_long 1)

end Connection
end StructuredSql
