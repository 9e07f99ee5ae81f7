-- A connection to a host is as good as the session behind it: each command is answered with
-- what the session answers, outcome and error alike, as long as the messages keep within what
-- a reader and a frame can hold.
import StructuredSql.Connection.Basic
import StructuredSql.Proofs.Transport.Hosted
import StructuredSql.Proofs.Turns
import StructuredSql.Transport.Start

namespace StructuredSql

variable {σ : Type} {setting : Host.Setting σ}

/-! ## Links -/

namespace Link

/-- The link can be used, and the host behind it is at that stage. -/
structure Reaches (host : Host σ) (l : Link (Hosted σ)) : Prop where
  opened : l.closed = false
  idle : l.inFlight = false
  free : l.held = false
  runs : Hosted.Runs host l.transport

theorem Reaches.exchange {host next : Host σ} {r : Request} {response : Response}
    {l : Link (Hosted σ)} (hl : Reaches host l) (hhost : host.isEnded = false)
    (hnext : next.isEnded = false) (hr : r.Lawful) (hrequest : r.Travels)
    (hresponse : response.Lawful) (hback : response.Travels)
    (h : Host.Answers setting host r response next) (now : Nat) :
    ∃ l', Reaches next l' ∧
      l.exchange (Transport.hosted setting) now r = (some (.ok response), l') := by
  obtain ⟨t', hruns, htrip⟩ :=
    Hosted.roundTrip_of_answers hhost hnext hr hrequest hresponse hback h hl.runs
  have halive : (Transport.hosted setting).isAlive l.transport = true := hl.runs.isAlive hhost
  have hrefusal : l.refusal? (Transport.hosted setting) = none := by
    unfold refusal?
    rw [hl.opened, hl.idle, halive]
    rfl
  have hcarried : (Transport.hosted setting).roundTrip r l.transport =
      (.later (.ok response), t') := by
    show (Trip.later (l.transport.roundTrip setting r).1, (l.transport.roundTrip setting r).2) = _
    rw [htrip]
  refine ⟨⟨t', false, l.closed, now, l.held⟩, ⟨hl.opened, rfl, hl.free, hruns⟩, ?_⟩
  unfold Link.exchange start depart
  rw [if_neg (Bool.eq_false_iff.1 hl.free), hrefusal, hcarried]
  rfl

/-- What a response to a command means is what the session said. -/
theorem called_respond (cmd : Command) (answer : Except CallError Output) :
    called cmd (Host.respond setting cmd.name answer) = answer := by
  cases answer with
  | ok output => rfl
  | error e => exact congrArg Except.error (Failure.toError_ofError e _)

end Link

/-! ## Connections -/

/-- A transport to a host that was only just started. -/
def Hosted.Fresh (t : Hosted σ) : Prop :=
  t = .thread .start ∨ t = .process ⟨Program.worker.child, true⟩

theorem Hosted.Fresh.runs {t : Hosted σ} (h : Fresh t) : Runs .waiting t := by
  rcases h with rfl | rfl
  · exact .thread
  · exact .process

namespace Connection

/-- The connection can be used, and the session behind it is that one. -/
def Reaches (s : Session σ) (c : Connection (Hosted σ)) : Prop :=
  ∃ link, c.stage = .connected link ∧ link.Reaches (.serving s)

/-- Options that open a database connect, with a session on that database behind. -/
theorem connectWith_reaches {options : Options} {db : Database σ} {t : Hosted σ}
    (ht : t.Fresh) (hopen : setting.openDatabase options = .ok db) (hsized : options.Sized)
    (hrequest : (Request.configure options).Travels) (now : Nat) :
    ∃ c, connectWith (Transport.hosted setting) now options t = (some (.ok ()), c) ∧
      Reaches (.ofDatabase db) c := by
  have hl : (Link.ofTransport now t).Reaches .waiting := ⟨rfl, rfl, rfl, ht.runs⟩
  have hlawful : (Request.configure options).Lawful := hsized
  have hready : Response.ready.Lawful := trivial
  obtain ⟨link, hlink, hexchange⟩ := hl.exchange rfl rfl hlawful hrequest hready
    Response.ready_travels (Host.answers_configure hopen) now
  refine ⟨⟨options, .connected link⟩, ?_, link, rfl, hlink⟩
  unfold connectWith Link.configure
  rw [hexchange]
  rfl

/-- The response of a session to a command. -/
def responseTo (setting : Host.Setting σ) (s : Session σ) (cmd : Command) : Response :=
  Host.respond setting cmd.name (s.execute setting.engine setting.files cmd).1

/-- One command is answered as the session answers it, and the session goes on as it would. -/
theorem Reaches.call {s : Session σ} {c : Connection (Hosted σ)} (h : Reaches s c)
    (hE : setting.engine.Lawful) {cmd : Command} (hkeyed : cmd.Keyed)
    (hrequest : (Request.call cmd).Travels) (hresponse : (responseTo setting s cmd).Travels)
    (now : Nat) :
    ∃ c', c.call (Transport.hosted setting) now cmd =
        (some (s.execute setting.engine setting.files cmd).1, c') ∧
      Reaches (s.execute setting.engine setting.files cmd).2 c' := by
  obtain ⟨options, stage⟩ := c
  obtain ⟨link, rfl, hlink⟩ := h
  have hlawful : (Request.call cmd).Lawful := hkeyed
  obtain ⟨link', hlink', hexchange⟩ := hlink.exchange rfl rfl hlawful hrequest
    (Host.lawful_respond hE s cmd) hresponse (Host.answers_call s cmd) now
  refine ⟨⟨options, .connected link'⟩, ?_, link', rfl, hlink'⟩
  unfold Connection.call Link.call
  dsimp only
  rw [hexchange]
  show (some (Link.called cmd _), _) = _
  rw [Link.called_respond]

/-! ## Many commands -/

/-- Calls at their times, one after the other. -/
def callAll {τ : Type} (T : Transport τ) (calls : List (Nat × Command)) (c : Connection τ) :
    List (Answer Output) × Connection τ :=
  turns (fun timed c => c.call T timed.1 timed.2) calls c

/-- Requests and responses keep within the limits while a session carries out the commands. -/
structure Travel (setting : Host.Setting σ) (s : Session σ) (cmds : List Command) : Prop where
  requests : ∀ cmd ∈ cmds, (Request.call cmd).Travels
  responses : ∀ i cmd, cmds[i]? = some cmd →
    (responseTo setting (s.run setting.engine setting.files (cmds.take i)).2 cmd).Travels

theorem Travel.tail {s : Session σ} {cmd : Command} {rest : List Command}
    (h : Travel setting s (cmd :: rest)) :
    Travel setting (s.execute setting.engine setting.files cmd).2 rest :=
  ⟨fun next hnext => h.requests next (List.mem_cons_of_mem cmd hnext),
    fun i next hnext => h.responses (i + 1) next hnext⟩

/-- Induction on the calls: the session behind the connection carries out what is called. -/
theorem Reaches.callAll (hE : setting.engine.Lawful) {calls : List (Nat × Command)}
    {s : Session σ} {c : Connection (Hosted σ)} (h : Reaches s c)
    (hkeyed : ∀ cmd ∈ calls.map Prod.snd, cmd.Keyed)
    (htravel : Travel setting s (calls.map Prod.snd)) :
    (c.callAll (Transport.hosted setting) calls).1 =
        (s.run setting.engine setting.files (calls.map Prod.snd)).1.map some ∧
      Reaches (s.run setting.engine setting.files (calls.map Prod.snd)).2
        (c.callAll (Transport.hosted setting) calls).2 := by
  induction calls generalizing s c with
  | nil => exact ⟨rfl, h⟩
  | cons timed calls ih =>
    obtain ⟨now, cmd⟩ := timed
    obtain ⟨c', hcall, hc'⟩ := h.call hE (hkeyed cmd List.mem_cons_self)
      (htravel.requests cmd List.mem_cons_self) (htravel.responses 0 cmd rfl) now
    obtain ⟨hanswers, hend⟩ := ih hc'
      (fun next hnext => hkeyed next (List.mem_cons_of_mem cmd hnext)) htravel.tail
    unfold Connection.callAll turns
    dsimp only
    rw [hcall]
    exact ⟨congrArg (_ :: ·) hanswers, hend⟩

/-- A connection to a fresh host opens with every configuration that opens a database, and its
calls, at whatever times, are answered one by one as a session on that database answers their
commands: the same outputs, and the same errors with all that is in them. -/
theorem a_connection_is_transparent (hE : setting.engine.Lawful) {options : Options}
    {db : Database σ} (hopen : setting.openDatabase options = .ok db) (hsized : options.Sized)
    (hconfigure : (Request.configure options).Travels) {t : Hosted σ} (ht : t.Fresh) (now : Nat)
    {calls : List (Nat × Command)} (hkeyed : ∀ cmd ∈ calls.map Prod.snd, cmd.Keyed)
    (htravel : Travel setting (.ofDatabase db) (calls.map Prod.snd)) :
    ∃ c, connectWith (Transport.hosted setting) now options t = (some (.ok ()), c) ∧
      (c.callAll (Transport.hosted setting) calls).1 =
        ((Session.ofDatabase db).run setting.engine setting.files
          (calls.map Prod.snd)).1.map some := by
  obtain ⟨c, hconnect, hc⟩ := connectWith_reaches ht hopen hsized hconfigure now
  exact ⟨c, hconnect, (hc.callAll hE hkeyed htravel).1⟩

def taggedRow : Fields := [("id", .int 300), ("tags", .object [("a", .array [.null])])]

/-- An engine that gives one row, once, and is busy from then on. -/
def rowThenBusy : Engine Bool where
  execute _ _ busy :=
    (if busy then .error (.engine "database is locked" (some "5"))
      else .ok ⟨["id", "tags"], [taggedRow], 1⟩, true)
  batch _ busy := (.ok (), busy)
  lastId _ busy := (.ok (.int 0), busy)
  info _ := ⟨"", "", "", "", "", ""⟩

theorem rowThenBusy_lawful : rowThenBusy.Lawful := by
  refine ⟨fun sql params busy r hr => ?_, fun sequence busy v hv => ?_⟩
  · cases busy with
    | true => cases hr
    | false =>
      cases hr
      refine ⟨fun row hrow => ?_, by decide⟩
      cases List.mem_singleton.mp hrow
      have hdistinct : (Entries.keys taggedRow).Nodup := by decide
      have htags : (Entries.keys [("a", Value.array [.null])]).Nodup := by decide
      exact ⟨hdistinct, trivial, ⟨htags, ⟨trivial, trivial⟩, trivial⟩, trivial⟩
  · cases hv
    exact trivial

/-- A setting whose databases have that engine. -/
def busySetting : Host.Setting Bool :=
  ⟨"host", FileTree.empty, rowThenBusy, fun options => .ok (.ofOptions options (some false))⟩

def busyCalls : List (Nat × Command) :=
  [(1, .begin), (2, .exec "SELECT 1" []), (3, .exec "SELECT 2" []), (5, .commit), (8, .commit)]

theorem busyCalls_travel : Travel busySetting
    (.ofDatabase (.ofOptions Options.default (some false))) (busyCalls.map Prod.snd) := by
  refine ⟨fun cmd hcmd => ?_, fun i cmd hi => ?_⟩
  · simp only [busyCalls, List.map, List.mem_cons, List.not_mem_nil, or_false] at hcmd
    rcases hcmd with rfl | rfl | rfl | rfl | rfl <;> exact ⟨by decide, by decide⟩
  · match i, hi with
    | 0, rfl => exact ⟨by decide, by decide⟩
    | 1, rfl => exact ⟨by decide, by decide +kernel⟩
    | 2, rfl => exact ⟨by decide, by decide +kernel⟩
    | 3, rfl => exact ⟨by decide, by decide⟩
    | 4, rfl => exact ⟨by decide, by decide⟩
    | i + 5, hi => nomatch hi

/-- In a process, a row, a refusal of the engine and a refusal of the session all come back. -/
theorem busyCalls_are_answered :
    ∃ c, connectWith (Transport.hosted busySetting) 0 Options.default
        (.process ⟨Program.worker.child, true⟩) = (some (.ok ()), c) ∧
      (c.callAll (Transport.hosted busySetting) busyCalls).1 =
        [some (.ok .unit),
          some (.ok (.statement (some ⟨"SELECT 1", ["id", "tags"], [taggedRow], 1⟩))),
          some (.error (.engine "database is locked" (some "5") (some "exec: SELECT 2"))),
          some (.ok .unit), some (.error .noTransaction)] := by
  have hopen : busySetting.openDatabase Options.default =
      .ok (.ofOptions Options.default (some false)) := rfl
  have hsized : Options.default.Sized := ⟨nofun, by decide⟩
  have hkeyed : ∀ cmd ∈ busyCalls.map Prod.snd, cmd.Keyed := by
    intro cmd hcmd
    simp only [busyCalls, List.map, List.mem_cons, List.not_mem_nil, or_false] at hcmd
    rcases hcmd with rfl | rfl | rfl | rfl | rfl <;> exact trivial
  have hconfigure : (Request.configure Options.default).Travels := ⟨by decide, by decide +kernel⟩
  exact a_connection_is_transparent rowThenBusy_lawful hopen hsized hconfigure (.inr rfl) 0
    hkeyed busyCalls_travel

end Connection
end StructuredSql
