-- What a host says about itself always fits into a frame: the greeting, the refusal of
-- further options, and the failure that stands in for a response that is too long. And
-- a whole run of a host over frames: a stream of readable requests, the first of which
-- opens the database, is answered with one frame each, in order, by the session that the
-- commands before have left, and the host ends well.
import StructuredSql.Host
import StructuredSql.Proofs.Frame.Pieces
import StructuredSql.Proofs.Message.Depth
import StructuredSql.Proofs.Text.Numeral
import StructuredSql.Proofs.Turns

namespace StructuredSql

/-! ## Lengths of messages -/

theorem MessagePack.length_marked (marker : UInt8) (width n : Nat) :
    (marked marker width n).length = width + 1 := by
  unfold marked
  rw [List.length_cons, Octets.length_big]

theorem MessagePack.length_textHead_le (n : Nat) : (textHead n).length ≤ 5 := by
  unfold textHead
  split
  · exact Nat.le_of_ble_eq_true rfl
  · split
    · rw [length_marked]
      omega
    · split
      · rw [length_marked]
        omega
      · exact Nat.le_of_eq (length_marked _ _ _)

theorem MessagePack.length_text_le (s : String) : (text s).length ≤ s.utf8ByteSize + 5 := by
  unfold text
  have hhead := length_textHead_le (Text.Utf8.encode s).length
  rw [List.length_append, Text.length_encode] at *
  omega

theorem ErrorKind.size_name_le (k : ErrorKind) : k.name.utf8ByteSize ≤ 24 := by
  cases k <;> decide

/-- A failure with a site, and with no code and no trace. -/
theorem Response.length_failure_le (k : ErrorKind) (message site : String) :
    (Response.encode (.failure ⟨k, message, none, some site, none⟩)).length ≤
      message.utf8ByteSize + site.utf8ByteSize + 100 := by
  have hcase : (MessagePack.text "Failure").length ≤ 12 := MessagePack.length_text_le "Failure"
  have hkind : (MessagePack.text "kind").length ≤ 9 := MessagePack.length_text_le "kind"
  have hmessage : (MessagePack.text "message").length ≤ 12 := MessagePack.length_text_le "message"
  have hsite : (MessagePack.text "site").length ≤ 9 := MessagePack.length_text_le "site"
  have hencode : Response.encode (.failure ⟨k, message, none, some site, none⟩) =
      MessagePack.mapHead 1 ++ (MessagePack.text "Failure" ++ (MessagePack.mapHead 3 ++
        (MessagePack.text "kind" ++ MessagePack.text k.name ++
          (MessagePack.text "message" ++ MessagePack.text message ++
            (MessagePack.text "site" ++ MessagePack.text site ++ [])))) ++ []) := rfl
  have hname := MessagePack.length_text_le k.name
  have htext := MessagePack.length_text_le message
  have hplace := MessagePack.length_text_le site
  have hk := k.size_name_le
  rw [hencode]
  simp only [List.length_append, List.length_nil]
  have hone : (MessagePack.mapHead 1).length = 1 := rfl
  have hthree : (MessagePack.mapHead 3).length = 1 := rfl
  omega

/-! ## The host's own responses -/

theorem Command.size_name_le (cmd : Command) : cmd.name.utf8ByteSize ≤ 9 := by
  cases cmd <;> exact Nat.le_of_ble_eq_true rfl

namespace Host

variable {σ : Type} {setting : Setting σ}

/-- The host has a short name, such as the 36 characters of a random identifier. -/
def Setting.ShortId (setting : Setting σ) : Prop := setting.id.utf8ByteSize ≤ 255

instance (setting : Setting σ) : Decidable setting.ShortId :=
  inferInstanceAs (Decidable (setting.id.utf8ByteSize ≤ 255))

/-- A failure that a host with a short name describes in a few words. -/
theorem fits_failure (hid : setting.ShortId) {e : CallError} (hcode : e.code? = none)
    (htrace : e.trace? = none) (hreason : e.reason.utf8ByteSize ≤ 255) {what : String}
    (hwhat : what.utf8ByteSize ≤ 9) :
    (Response.encode (.failure (.ofError e (setting.site what)))).length ≤ Frame.limit := by
  have hsite : (setting.id ++ "/" ++ what).utf8ByteSize ≤ 265 := by
    have hslash : "/".utf8ByteSize = 1 := rfl
    have hshort : setting.id.utf8ByteSize ≤ 255 := hid
    rw [String.utf8ByteSize_append, String.utf8ByteSize_append, hslash]
    omega
  have hlength := Response.length_failure_le e.kind e.reason (setting.id ++ "/" ++ what)
  have hlimit : Frame.limit = 268435456 := rfl
  unfold Failure.ofError Setting.site
  rw [hcode, htrace, hlimit]
  omega

theorem fits_ready : Response.ready.encode.length ≤ Frame.limit := by decide

theorem fits_alreadyConfigured (hid : setting.ShortId) :
    (Response.encode (.failure (.ofError alreadyConfigured (setting.site "configure")))).length ≤
      Frame.limit :=
  fits_failure hid rfl rfl (by decide) (by decide)

/-- A payload that was made is held in memory, whose places have numbers of 64 bits. -/
def Held (payload : List UInt8) : Prop := payload.length < Nat.pow 2 64

instance (payload : List UInt8) : Decidable (Held payload) :=
  inferInstanceAs (Decidable (payload.length < Nat.pow 2 64))

theorem size_reason_unsent_le {what : String} (hwhat : what.utf8ByteSize ≤ 9) {n : Nat}
    (hn : n < Nat.pow 2 64) : (unsent what (Frame.tooLong n)).reason.utf8ByteSize ≤ 255 := by
  have hdigits : n.repr.utf8ByteSize ≤ 80 :=
    Text.utf8ByteSize_repr_le (k := 20) (by decide) (Nat.lt_trans hn (by decide))
  have hreason : (unsent what (Frame.tooLong n)).reason =
      what ++ " response could not be sent: " ++
        ("frame of " ++ n.repr ++ " bytes exceeds the " ++ "268435456" ++ " byte limit") := rfl
  have hsent : " response could not be sent: ".utf8ByteSize = 29 := rfl
  have hframe : "frame of ".utf8ByteSize = 9 := rfl
  have hexceeds : " bytes exceeds the ".utf8ByteSize = 19 := rfl
  have hlimit : "268435456".utf8ByteSize = 9 := rfl
  have hbyte : " byte limit".utf8ByteSize = 11 := rfl
  rw [hreason]
  simp only [String.utf8ByteSize_append]
  omega

theorem fits_unsent (hid : setting.ShortId) (cmd : Command) {payload : List UInt8}
    (h : Held payload) :
    (Response.encode (.failure (.ofError (unsent cmd.name (Frame.tooLong payload.length))
      (setting.site cmd.name)))).length ≤ Frame.limit :=
  fits_failure hid rfl rfl (size_reason_unsent_le cmd.size_name_le h) cmd.size_name_le

end Host

/-! ## Requests and answers -/

/-- The command that a request brings, if it brings one. -/
def Request.command? : Request → Option Command
  | .configure _ => none
  | .call cmd => some cmd

namespace Host

variable {σ : Type}

/-! ## One request -/

/-- The response, or the failure that stands in for one that is too long for a frame. -/
def fitted (setting : Setting σ) (what : String) (r : Response) : Response :=
  if r.encode.length ≤ Frame.limit then r
  else .failure (.ofError (unsent what (Frame.tooLong r.encode.length)) (setting.site what))

/-- What a session answers to a command, before it is sent. -/
def answer (setting : Setting σ) (s : Session σ) (cmd : Command) : Response :=
  respond setting cmd.name (s.execute setting.engine setting.files cmd).1

/-- What is sent for a request while the session is open. -/
def reply (setting : Setting σ) (s : Session σ) : Request → Response
  | .configure _ => .failure (.ofError alreadyConfigured (setting.site "configure"))
  | .call cmd => fitted setting cmd.name (answer setting s cmd)

/-- The session after a request. -/
def after (setting : Setting σ) (s : Session σ) : Request → Session σ
  | .configure _ => s
  | .call cmd => (s.execute setting.engine setting.files cmd).2

def exchange (setting : Setting σ) (r : Request) (s : Session σ) : Response × Session σ :=
  (reply setting s r, after setting s r)

/-- The answer to a command can be held in memory. -/
def Answerable (setting : Setting σ) (s : Session σ) (r : Request) : Prop :=
  ∀ cmd, r = .call cmd → Held (answer setting s cmd).encode

/-! ## Sending -/

variable {setting : Setting σ}

theorem send_fitting {r : Response} (h : r.encode.length ≤ Frame.limit) (out : List UInt8) :
    Outlet.frames.send r out = (.ok (), out ++ Frame.framed r.encode) := by
  unfold Outlet.frames
  dsimp only
  rw [Frame.write_fitting h]

theorem send_oversized {r : Response} (h : Frame.limit < r.encode.length) (out : List UInt8) :
    Outlet.frames.send r out = (.error (Frame.tooLong r.encode.length), out) := by
  unfold Outlet.frames
  dsimp only
  rw [Frame.write_oversized h]

/-- A response, or what stands in for it, is one frame. -/
theorem deliver_frames (hid : setting.ShortId) (cmd : Command) {r : Response}
    (h : Held r.encode) (out : List UInt8) :
    deliver Outlet.frames setting cmd.name r out =
      (.ok (), out ++ Frame.framed (fitted setting cmd.name r).encode) := by
  unfold deliver fitted
  by_cases hfits : r.encode.length ≤ Frame.limit
  · rw [send_fitting hfits, if_pos hfits]
  · rw [send_oversized (Nat.lt_of_not_le hfits), if_neg hfits]
    exact send_fitting (fits_unsent hid cmd h) out

theorem fits_fitted (hid : setting.ShortId) (cmd : Command) {r : Response}
    (h : Held r.encode) : (fitted setting cmd.name r).encode.length ≤ Frame.limit := by
  unfold fitted
  split
  · assumption
  · exact fits_unsent hid cmd h

theorem fits_reply (hid : setting.ShortId) {s : Session σ} {r : Request}
    (h : Answerable setting s r) : (reply setting s r).encode.length ≤ Frame.limit := by
  cases r with
  | configure options => exact fits_alreadyConfigured hid
  | call cmd => exact fits_fitted hid cmd (h cmd rfl)

/-! ## One turn -/

theorem serve_frames (hid : setting.ShortId) {s : Session σ} {r : Request}
    (h : Answerable setting s r) (out : List UInt8) :
    serve Outlet.frames setting s (.ok r) out =
      (.serving (after setting s r), out ++ Frame.framed (reply setting s r).encode) := by
  cases r with
  | configure options =>
    unfold serve report
    dsimp only
    rw [send_fitting (fits_alreadyConfigured hid)]
    rfl
  | call cmd =>
    unfold serve
    dsimp only
    rw [show respond setting cmd.name (s.execute setting.engine setting.files cmd).1 =
      answer setting s cmd from rfl, deliver_frames hid cmd (h cmd rfl)]
    rfl

theorem configure_frames {options : Options} {db : Database σ}
    (hopen : setting.openDatabase options = .ok db) (out : List UInt8) :
    configure Outlet.frames setting (.ok (.configure options)) out =
      (.serving (.ofDatabase db), out ++ Frame.framed Response.ready.encode) := by
  unfold configure
  dsimp only
  rw [hopen]
  dsimp only
  rw [send_fitting fits_ready]

/-! ## A whole run -/

/-- The session after some requests is the session after their commands. -/
theorem turns_exchange_snd (requests : List Request) (s : Session σ) :
    (turns (exchange setting) requests s).2 =
      (s.run setting.engine setting.files (requests.filterMap Request.command?)).2 := by
  induction requests generalizing s with
  | nil => rfl
  | cons r rest ih =>
    cases r with
    | configure options => exact ih s
    | call cmd => exact ih (s.execute setting.engine setting.files cmd).2

/-- Every command among the requests has an answer that can be held. -/
def AllAnswerable (setting : Setting σ) (requests : List Request) (s : Session σ) : Prop :=
  ∀ i r, requests[i]? = some r →
    Answerable setting (turns (exchange setting) (requests.take i) s).2 r

theorem run_serving (hid : setting.ShortId) {requests : List Request} {s : Session σ}
    (h : AllAnswerable setting requests s) (out : List UInt8) :
    run Outlet.frames setting (.serving s) (requests.map .ok) out =
      ⟨.ok (), out ++ ((turns (exchange setting) requests s).1.map Response.encode).flatMap
        Frame.framed, []⟩ := by
  induction requests generalizing s out with
  | nil =>
    show Run.mk (.ok ()) out [] = ⟨.ok (), out ++ [], []⟩
    rw [List.append_nil]
  | cons r rest ih =>
    have hhead : Answerable setting s r := h 0 r rfl
    have htail := ih (s := after setting s r) (fun i r' hi => h (i + 1) r' hi)
    show run Outlet.frames setting (serve Outlet.frames setting s (.ok r) out).1 (rest.map .ok)
      (serve Outlet.frames setting s (.ok r) out).2 = _
    rw [serve_frames hid hhead, htail, List.append_assoc]
    rfl

theorem fits_turns (hid : setting.ShortId) {requests : List Request} {s : Session σ}
    (h : AllAnswerable setting requests s) :
    ∀ r ∈ (turns (exchange setting) requests s).1, r.encode.length ≤ Frame.limit := by
  induction requests generalizing s with
  | nil => exact fun _ hmem => absurd hmem List.not_mem_nil
  | cons r rest ih =>
    intro response hmem
    rcases List.mem_cons.mp hmem with rfl | hmem
    · exact fits_reply hid (h 0 r rfl)
    · exact ih (fun i r' hi => h (i + 1) r' hi) response hmem

/-- What arrives on a stream of frames that are all readable. -/
theorem ofStream_writeAll {payloads : List (List UInt8)} {requests : List Request}
    (hdecode : payloads.map Request.decode = requests.map .ok) {stream : List UInt8}
    (hstream : Frame.writeAll payloads = .ok stream) :
    Arrival.ofStream stream = requests.map .ok := by
  unfold Arrival.ofStream
  rw [Frame.readAll_writeAll hstream]
  exact (List.append_nil _).trans hdecode

/-- The responses to the requests behind the first. -/
def responses (setting : Setting σ) (db : Database σ) (requests : List Request) : List Response :=
  .ready :: (turns (exchange setting) requests (.ofDatabase db)).1

theorem run_frames (hid : setting.ShortId) {options : Options} {db : Database σ}
    (hopen : setting.openDatabase options = .ok db) {requests : List Request}
    (h : AllAnswerable setting requests (.ofDatabase db)) :
    run Outlet.frames setting .waiting ((Request.configure options :: requests).map .ok) [] =
      ⟨.ok (), ((responses setting db requests).map Response.encode).flatMap Frame.framed, []⟩ := by
  show run Outlet.frames setting
    (configure Outlet.frames setting (.ok (.configure options)) []).1 (requests.map .ok)
    (configure Outlet.frames setting (.ok (.configure options)) []).2 = _
  rw [configure_frames hopen, run_serving hid h]
  rfl

/-- The session before the request at a place: the commands of the requests before it have
been carried out. -/
def sessionBefore (setting : Setting σ) (db : Database σ) (requests : List Request) (i : Nat) :
    Session σ :=
  ((Session.ofDatabase db).run setting.engine setting.files
    ((requests.take i).filterMap Request.command?)).2

/-- The run of a host over a stream of frames: the frames hold options that open a database,
and any requests behind them. The host ends well, and what it has sent is one frame that
says ready and one frame for each request, in order. Options that come again are refused
and leave the session as it is. A command is answered by the session on what the commands
before have left, and an answer that is too long for a frame is replaced by a failure,
while what the command did stays. -/
theorem each_request_has_one_frame (hid : setting.ShortId) {options : Options} {db : Database σ}
    (hopen : setting.openDatabase options = .ok db) {payloads : List (List UInt8)}
    {requests : List Request}
    (hdecode : payloads.map Request.decode = (Request.configure options :: requests).map .ok)
    {stream : List UInt8} (hstream : Frame.writeAll payloads = .ok stream)
    (hheld : ∀ i cmd, requests[i]? = some (.call cmd) →
      Held (answer setting (sessionBefore setting db requests i) cmd).encode) :
    ∃ (sent : List Response) (out : List UInt8),
      run Outlet.frames setting .waiting (Arrival.ofStream stream) [] = ⟨.ok (), out, []⟩ ∧
      Frame.writeAll (sent.map Response.encode) = .ok out ∧
      sent.length = requests.length + 1 ∧ sent[0]? = some .ready ∧
      ∀ i r, requests[i]? = some r →
        sent[i + 1]? = some (reply setting (sessionBefore setting db requests i) r) := by
  have hall : AllAnswerable setting requests (.ofDatabase db) := by
    intro i r hi cmd hr
    rw [turns_exchange_snd]
    exact hheld i cmd (hr ▸ hi)
  have hfits : Frame.Fitting ((responses setting db requests).map Response.encode) := by
    intro payload hmem
    obtain ⟨r, hr, rfl⟩ := List.mem_map.mp hmem
    rcases List.mem_cons.mp hr with rfl | hr
    · exact fits_ready
    · exact fits_turns hid hall r hr
  refine ⟨responses setting db requests, _, ?_, Frame.writeAll_fitting hfits,
    congrArg (· + 1) (turns_length _ _ _), rfl, fun i r hi => ?_⟩
  · rw [ofStream_writeAll hdecode hstream]
    exact run_frames hid hopen hall
  · show (turns (exchange setting) requests (.ofDatabase db)).1[i]? = _
    rw [turns_getElem? _ hi, turns_exchange_snd]
    rfl

/-- Options that ask for a dry run and leave the rest as it is by default. -/
def dryPayload : List UInt8 :=
  [0x81, 0xa9] ++ Text.Utf8.encode "Configure" ++ [0x81, 0xa7] ++
    Text.Utf8.encode "dry_run" ++ [0xc3]

def pingPayload : List UInt8 :=
  [0x81, 0xa4] ++ Text.Utf8.encode "Call" ++ [0xa4] ++ Text.Utf8.encode "Ping"

def dryOptions : Options := { Options.default with dryRun := true }

/-- A host that has the bundled engine and no files. -/
def emptySetting : Setting Memory := .bundled "host" FileTree.empty

theorem ping_and_options_are_answered :
    ∃ (sent : List Response) (out : List UInt8),
      run Outlet.frames emptySetting .waiting (Arrival.ofStream
        ([dryPayload, pingPayload, dryPayload].flatMap Frame.framed)) [] = ⟨.ok (), out, []⟩ ∧
      Frame.writeAll (sent.map Response.encode) = .ok out ∧ sent.length = 3 ∧
      sent[1]? = some (.success (.pong "0.1.0")) ∧
      sent[2]? = some (.failure (.ofError alreadyConfigured (some "host/configure"))) := by
  have hfits : Frame.Fitting [dryPayload, pingPayload, dryPayload] := by
    unfold Frame.Fitting
    decide
  have hheld (i : Nat) (cmd : Command)
      (hi : [Request.call .ping, .configure dryOptions][i]? = some (.call cmd)) :
      Held (answer emptySetting (sessionBefore emptySetting (.ofOptions dryOptions none)
        [.call .ping, .configure dryOptions] i) cmd).encode := by
    match i, hi with
    | 0, rfl => decide
    | 1, hi => nomatch hi
    | i + 2, hi => nomatch hi
  have hopen : emptySetting.openDatabase dryOptions = .ok (.ofOptions dryOptions none) := rfl
  have hdecode : [dryPayload, pingPayload, dryPayload].map Request.decode =
      [.configure dryOptions, .call .ping, .configure dryOptions].map .ok := rfl
  obtain ⟨sent, out, hrun, hwrite, hlength, -, hsent⟩ :=
    each_request_has_one_frame (by decide) hopen hdecode (Frame.writeAll_fitting hfits) hheld
  exact ⟨sent, out, hrun, hwrite, hlength, hsent 0 _ rfl, hsent 1 _ rfl⟩

/-! ## Requests that cannot be read -/

/-- The first payload that cannot be read ends the host, with the error that it gave. -/
theorem run_unreadable {options : Options} {db : Database σ}
    (hopen : setting.openDatabase options = .ok db) {first second : List UInt8}
    (hfirst : Request.decode first = .ok (.configure options)) {e : CallError}
    (hsecond : Request.decode second = .error e) {stream : List UInt8}
    (hstream : Frame.writeAll [first, second] = .ok stream) :
    (run Outlet.frames setting .waiting (Arrival.ofStream stream) []).outcome = .error e := by
  have harrivals : Arrival.ofStream stream = [.ok (.configure options), .error e] := by
    unfold Arrival.ofStream
    rw [Frame.readAll_writeAll hstream]
    show [Request.decode first, Request.decode second] = _
    rw [hfirst, hsecond]
  rw [harrivals]
  show (run Outlet.frames setting
    (configure Outlet.frames setting (.ok (.configure options)) []).1 [.error e]
    (configure Outlet.frames setting (.ok (.configure options)) []).2).outcome = _
  rw [configure_frames hopen]
  rfl

/-- A request can be written whose frame ends the host: it nests 1100 lists. -/
theorem deep_request_ends_the_host :
    ∃ stream, Frame.writeAll [dryPayload, (Request.binding (.nested 1100)).encode] = .ok stream ∧
      (run Outlet.frames emptySetting .waiting (Arrival.ofStream stream) []).outcome =
        .error undecodable := by
  have hfits : Frame.Fitting [dryPayload, (Request.binding (.nested 1100)).encode] := by
    intro payload hmem
    rcases List.mem_cons.mp hmem with rfl | hmem
    · decide
    · rw [List.mem_singleton.mp hmem, Request.length_binding]
      decide
  have hopen : emptySetting.openDatabase dryOptions = .ok (.ofOptions dryOptions none) := rfl
  have hfirst : Request.decode dryPayload = .ok (.configure dryOptions) := rfl
  exact ⟨_, Frame.writeAll_fitting hfits, run_unreadable hopen hfirst
    (Request.decode_nested (by decide)) (Frame.writeAll_fitting hfits)⟩

end Host
end StructuredSql
