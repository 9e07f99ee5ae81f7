-- A host behind a transport, on a thread or in a process: a request that the host answers, and
-- whose message and answer keep within the limits, comes back as that answer, with the host
-- where it went by it.
import StructuredSql.Proofs.Database.Lawful
import StructuredSql.Proofs.Host.Exchange
import StructuredSql.Proofs.Message.ReadBack
import StructuredSql.Transport.Hosted

namespace StructuredSql

variable {σ : Type} {setting : Host.Setting σ}

/-! ## The host -/

namespace Host

/-- Wherever the response can be sent, it is what the host gives for the request. -/
def Answers (setting : Setting σ) (host : Host σ) (r : Request) (response : Response)
    (next : Host σ) : Prop :=
  ∀ {ω : Type} (O : Outlet ω) (out sent : ω), O.send response out = (.ok (), sent) →
    host.turn O setting (.ok r) out = (next, sent)

theorem answers_configure {options : Options} {db : Database σ}
    (hopen : setting.openDatabase options = .ok db) :
    Answers setting .waiting (.configure options) .ready (.serving (.ofDatabase db)) := by
  intro ω O out sent hsend
  unfold turn configure
  dsimp only
  rw [hopen]
  dsimp only
  rw [hsend]

theorem answers_call (s : Session σ) (cmd : Command) :
    Answers setting (.serving s) (.call cmd)
      (respond setting cmd.name (s.execute setting.engine setting.files cmd).1)
      (.serving (s.execute setting.engine setting.files cmd).2) := by
  intro ω O out sent hsend
  unfold turn serve
  dsimp only
  unfold deliver
  rw [hsend]

/-- Answers and refusals are written and read as what they are. -/
theorem lawful_respond (hE : setting.engine.Lawful) (s : Session σ) (cmd : Command) :
    (respond setting cmd.name (s.execute setting.engine setting.files cmd).1).Lawful := by
  have houtput := Session.yields_execute hE setting.files cmd s
  rcases hanswer : (s.execute setting.engine setting.files cmd).1 with e | output
  · exact trivial
  · exact houtput output hanswer

end Host

/-! ## Transports -/

/-- The transport has the host behind it, and its input is open. -/
inductive Hosted.Runs (host : Host σ) : Hosted σ → Prop
  | thread : Runs host (.thread ⟨host, true⟩)
  | process : Runs host (.process ⟨.worker host, true⟩)

/-- One frame brings one arrival. -/
theorem Arrival.ofStream_framed {payload : List UInt8} (h : payload.length ≤ Frame.limit) :
    ofStream (Frame.framed payload) = [Request.decode payload] := by
  have hframes : Frame.readAll (Frame.framed payload) = ([payload], none) := by
    have hfits : Frame.Fitting [payload] := by
      intro p hp
      rw [List.mem_singleton.mp hp]
      exact h
    have hread := Frame.readAll_framed hfits
    rwa [List.flatMap_singleton] at hread
  unfold ofStream
  rw [hframes]
  rfl

/-- A worker takes one frame in one turn. -/
theorem Child.take_framed {payload : List UInt8} (h : payload.length ≤ Frame.limit)
    (host : Host σ) :
    Child.take setting (Frame.framed payload) (.worker host) =
      ((host.turn Outlet.frames setting (Request.decode payload) []).2,
        .ofHost (host.turn Outlet.frames setting (Request.decode payload) []).1) := by
  unfold Child.take
  dsimp only
  rw [Arrival.ofStream_framed h, List.foldl_cons, List.foldl_nil]

theorem Process.firstResponse_framed {payload : List UInt8} (h : payload.length ≤ Frame.limit) :
    firstResponse (Frame.framed payload) = Response.decode payload := by
  have hpayload : Octets.take? payload.length payload = some (payload, []) := by
    have htaken := Octets.take?_append (show payload.length = _ from rfl) []
    rwa [List.append_nil] at htaken
  unfold firstResponse Frame.framed
  rw [Octets.take?_append (Octets.length_little _ _)]
  dsimp only
  rw [Frame.length_little h]
  dsimp only
  rw [hpayload]

/-- A request that fits into a frame is taken in one turn of the host. -/
theorem Process.roundTrip_worker {r : Request} (h : r.encode.length ≤ Frame.limit)
    (host : Host σ) :
    Process.roundTrip setting r ⟨.worker host, true⟩ =
      (firstResponse (host.turn Outlet.frames setting (Request.decode r.encode) []).2,
        ⟨.ofHost (host.turn Outlet.frames setting (Request.decode r.encode) []).1, true⟩) := by
  have halive : isAlive (⟨.worker host, true⟩ : Process σ) = true := rfl
  unfold roundTrip
  rw [Frame.write_fitting h, halive]
  dsimp only
  rw [Child.take_framed h]
  rfl

section
variable {host next : Host σ} {r : Request} {response : Response}

theorem Thread.roundTrip_of_answers (hhost : host.isEnded = false) (hr : r.Lawful)
    (hrequest : r.Travels) (hresponse : response.Lawful) (hback : response.Travels)
    (h : Host.Answers setting host r response next) :
    Thread.roundTrip setting r ⟨host, true⟩ = (.ok response, ⟨next, true⟩) := by
  have hturn := h Outlet.messages [] [response.encode] rfl
  unfold roundTrip
  dsimp only
  rw [hhost, hrequest.decode hr, hturn]
  show (Response.decode response.encode, _) = _
  rw [hback.decode hresponse]

theorem Process.roundTrip_of_answers (hnext : next.isEnded = false) (hr : r.Lawful)
    (hrequest : r.Travels) (hresponse : response.Lawful) (hback : response.Travels)
    (h : Host.Answers setting host r response next) :
    Process.roundTrip setting r ⟨.worker host, true⟩ = (.ok response, ⟨.worker next, true⟩) := by
  have hsend : Outlet.frames.send response [] = (.ok (), Frame.framed response.encode) :=
    Host.send_fitting hback.length []
  have hturn := h Outlet.frames [] (Frame.framed response.encode) hsend
  rw [roundTrip_worker hrequest.length, hrequest.decode hr, hturn]
  dsimp only
  rw [firstResponse_framed hback.length, hback.decode hresponse]
  unfold Child.ofHost
  rw [hnext]
  rfl

/-- One round trip, on either transport. -/
theorem Hosted.roundTrip_of_answers (hhost : host.isEnded = false) (hnext : next.isEnded = false)
    (hr : r.Lawful) (hrequest : r.Travels) (hresponse : response.Lawful)
    (hback : response.Travels) (h : Host.Answers setting host r response next) {t : Hosted σ}
    (ht : Runs host t) :
    ∃ t', Runs next t' ∧ t.roundTrip setting r = (.ok response, t') := by
  cases ht with
  | thread =>
    have htrip := Thread.roundTrip_of_answers hhost hr hrequest hresponse hback h
    refine ⟨_, .thread, ?_⟩
    unfold roundTrip
    dsimp only
    rw [htrip]
  | process =>
    have htrip := Process.roundTrip_of_answers hnext hr hrequest hresponse hback h
    refine ⟨_, .process, ?_⟩
    unfold roundTrip
    dsimp only
    rw [htrip]

theorem Hosted.Runs.isAlive (hhost : host.isEnded = false) {t : Hosted σ} (ht : Runs host t) :
    t.isAlive = true := by
  cases ht with
  | thread =>
    show (true && !host.isEnded) = true
    rw [hhost]
    rfl
  | process => rfl

end
end StructuredSql
