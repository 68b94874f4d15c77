import HyperionWebos.CStrings
import HyperionWebos.DaemonMatch
import HyperionWebos.HyperionClient
import HyperionWebos.RequestTraces

/-! The buffers of fixed size on the way of a request: the URL and the command line, the
response, the path of a local socket. What comes from the settings, from the serialised
body or from the daemon is put into them at whatever length it has. -/

namespace HyperionWebos.FixedBuffers
open Runs OwnedArray Pbnjson SettingsLoad JsonRpcClient ServiceLoop ByteBlocks CStrings DaemonMatch
  RequestTraces

def pathMax : Nat := 4096

def maxResponseBufSz : Nat := 1024 * 8

/-- `sizeof(((struct sockaddr_un*)0)->sun_path)`. -/
def sunPathSize : Nat := 108

def utf8 (s : String) : List UInt8 := s.toList.flatMap String.utf8EncodeChar

def cBytes (s : String) : List UInt8 := utf8 (cstr s)

/-- What one `curl` writes to its pipe and the status it ends with. -/
structure CurlRun where
  output : List UInt8
  status : Int

/-- `curl` is `none` where `popen` fails. -/
def doHttpPost (curl : Option CurlRun) (url postBody : String) (responseBody : Block)
    (outBufSz : Nat) : Except Fault (Int × Block) := do
  let _ ← writeString (calloc pathMax) (utf8 (curlCommand url postBody))
  match curl with
  | none => .ok (-2, responseBody)
  | some run => do
    let responseBody ← write responseBody (run.output.take outBufSz)
    .ok (if run.status ≠ 0 then -3 else 0, responseBody)

/-- `send_rpc_message` with its buffers; `parse` is `jdom_parse` of the bytes. -/
def sendRpcMessageBytes (jvalueTostringSimple : JVal → String) (parse : List UInt8 → JVal)
    (curl : Option CurlRun) (host : String) (port : Nat) (body : JVal) (r : Rpc) :
    Except Fault (Int × JVal × Rpc) := do
  let url := rpcUrl (cstr host) port
  let response := calloc maxResponseBufSz
  let _ ← writeString (calloc pathMax) (utf8 url)
  let postBody := cstr (jvalueTostringSimple body)
  let (ret, response) ← doHttpPost curl url postBody response maxResponseBufSz
  if ret ≠ 0 then .ok (sendRpcMessage (fun _ => .httpFailed) host port body r)
  else do
    let text ← readString response
    .ok (sendRpcMessage (fun _ => .parsed (parse text)) host port body r)

def Prepared (o : HyperionClient.ConnectOutcome) : Prop :=
  o.socket ≠ -1 ∧ o.sndtimeo = true ∧ o.rcvtimeo = true

instance (o : HyperionClient.ConnectOutcome) : Decidable (Prepared o) :=
  inferInstanceAs (Decidable (_ ∧ _))

/-- `hyperion_client` as the connection thread calls it, with `sun_path`. -/
def hyperionClientBytes (s : Settings) (o : HyperionClient.ConnectOutcome)
    (c : HyperionClient.Client) : Except Fault (Int × HyperionClient.Client) :=
  let client :=
    HyperionClient.hyperionClient "webos" s.address s.port s.unixSocket s.priority o c
  if s.unixSocket = true ∧ Prepared o then do
    let _ ← writeString (calloc sunPathSize) (cBytes s.address)
    .ok client
  else .ok client

/-! ### Lengths -/

def ResponseEnds (curl : Option CurlRun) : Prop :=
  ∀ run, curl = some run → run.status = 0 →
    run.output.length < maxResponseBufSz ∨ 0 ∈ run.output.take maxResponseBufSz

section Lengths

variable {jvalueTostringSimple : JVal → String} {parse : List UInt8 → JVal}
  {curl : Option CurlRun} {host url postBody : String} {port : Nat} {body : JVal} {r : Rpc}
  {ret : Int} {response : Block}

theorem utf8_append (s t : String) : utf8 (s ++ t) = utf8 s ++ utf8 t := by
  unfold utf8
  rw [String.toList_append, List.flatMap_append]

theorem rpcUrl_length :
    (utf8 (rpcUrl host port)).length =
      7 + (utf8 host).length + 1 + (utf8 (toString port)).length + 9 := by
  have scheme : (utf8 "http://").length = 7 := by decide
  have colon : (utf8 ":").length = 1 := by decide
  have path : (utf8 "/json-rpc").length = 9 := by decide
  unfold rpcUrl
  rw [utf8_append, utf8_append, utf8_append, utf8_append, List.length_append, List.length_append,
    List.length_append, List.length_append, scheme, colon, path]

theorem curlCommand_length :
    (utf8 (curlCommand url postBody)).length =
      22 + (utf8 url).length + 5 + (utf8 postBody).length + 1 := by
  have opening : (utf8 "curl --silent -X POST ").length = 22 := by decide
  have option : (utf8 " -d '").length = 5 := by decide
  have close : (utf8 "'").length = 1 := by decide
  unfold curlCommand
  rw [utf8_append, utf8_append, utf8_append, utf8_append, List.length_append, List.length_append,
    List.length_append, List.length_append, opening, option, close]

theorem write_response (output : List UInt8) :
    ∃ b, write (calloc maxResponseBufSz) (output.take maxResponseBufSz) = .ok b :=
  ⟨_, write_eq_ok.mpr ⟨List.length_take_le _ _, rfl⟩⟩

theorem doHttpPost_eq_ok {run : CurlRun} {b : Block} {n : Nat} {v : Int × Block} :
    doHttpPost (some run) url postBody b n = .ok v ↔
      (utf8 (curlCommand url postBody)).length < pathMax ∧
        ∃ b', write b (run.output.take n) = .ok b' ∧
          (if run.status ≠ 0 then -3 else 0, b') = v := by
  rw [← writeString_calloc_iff]
  unfold doHttpPost
  simp only [bind_eq_ok, Except.ok.injEq]
  exact ⟨fun ⟨_, command, rest⟩ => ⟨⟨_, command⟩, rest⟩,
    fun ⟨⟨_, command⟩, rest⟩ => ⟨_, command, rest⟩⟩

theorem doHttpPost_none {b : Block} {n : Nat} {v : Int × Block} :
    doHttpPost none url postBody b n = .ok v ↔
      (utf8 (curlCommand url postBody)).length < pathMax ∧ (-2, b) = v := by
  rw [← writeString_calloc_iff]
  unfold doHttpPost
  simp only [bind_eq_ok, Except.ok.injEq]
  exact ⟨fun ⟨_, command, rest⟩ => ⟨⟨_, command⟩, rest⟩,
    fun ⟨⟨_, command⟩, rest⟩ => ⟨_, command, rest⟩⟩

theorem url_fits (command : (utf8 (curlCommand url postBody)).length < pathMax) :
    (utf8 url).length < pathMax := by
  rw [curlCommand_length] at command
  omega

def responseText (run : CurlRun) : List UInt8 :=
  (run.output.take maxResponseBufSz).takeWhile (· ≠ 0)

def replyOf (parse : List UInt8 → JVal) (curl : Option CurlRun) : Reply :=
  match curl with
  | none => .httpFailed
  | some run => if run.status ≠ 0 then .httpFailed else .parsed (parse (responseText run))

theorem readString_response {run : CurlRun} {b : Block} {text : List UInt8}
    (written : write (calloc maxResponseBufSz) (run.output.take maxResponseBufSz) = .ok b) :
    readString b = .ok text ↔
      (run.output.length < maxResponseBufSz ∨ 0 ∈ run.output.take maxResponseBufSz) ∧
        responseText run = text := by
  have reads := readString_written_iff written
  have short : (run.output.take maxResponseBufSz).length < maxResponseBufSz ↔
      run.output.length < maxResponseBufSz := by
    rw [List.length_take]
    omega
  rw [short] at reads
  constructor
  · intro read
    exact ⟨reads.mp ⟨text, read⟩, (readString_written written read).symm⟩
  · rintro ⟨ends, rfl⟩
    obtain ⟨text, read⟩ := reads.mpr ends
    rw [read, readString_written written read]
    rfl

theorem sendRpcMessageBytes_posted {v : Int × JVal × Rpc} :
    sendRpcMessageBytes jvalueTostringSimple parse curl host port body r = .ok v ↔
      (utf8 (rpcUrl (cstr host) port)).length < pathMax ∧ ∃ ret response,
        doHttpPost curl (rpcUrl (cstr host) port) (cstr (jvalueTostringSimple body))
          (calloc maxResponseBufSz) maxResponseBufSz = .ok (ret, response) ∧
        (if ret ≠ 0 then .ok (sendRpcMessage (fun _ => .httpFailed) host port body r)
          else readString response >>= fun text =>
            .ok (sendRpcMessage (fun _ => .parsed (parse text)) host port body r)) = .ok v := by
  rw [← writeString_calloc_iff]
  unfold sendRpcMessageBytes
  simp only [bind_eq_ok, Prod.exists]
  exact ⟨fun ⟨_, url, rest⟩ => ⟨⟨_, url⟩, rest⟩, fun ⟨⟨_, url⟩, rest⟩ => ⟨_, url, rest⟩⟩

section Posts

variable {v : Int × JVal × Rpc} {run : CurlRun} {b : Block}

theorem doHttpPost_answered {b₀ : Block} {n : Nat} {w : Int × Block}
    (written : write b₀ (run.output.take n) = .ok b) (answered : run.status = 0) :
    doHttpPost (some run) url postBody b₀ n = .ok w ↔
      (utf8 (curlCommand url postBody)).length < pathMax ∧ (0, b) = w := by
  rw [doHttpPost_eq_ok, written, if_neg (not_not.mpr answered)]
  simp only [Except.ok.injEq, exists_eq_left']

theorem doHttpPost_failed {b₀ : Block} {n : Nat} {w : Int × Block}
    (written : write b₀ (run.output.take n) = .ok b) (failed : run.status ≠ 0) :
    doHttpPost (some run) url postBody b₀ n = .ok w ↔
      (utf8 (curlCommand url postBody)).length < pathMax ∧ (-3, b) = w := by
  rw [doHttpPost_eq_ok, written, if_pos failed]
  simp only [Except.ok.injEq, exists_eq_left']

theorem sendRpcMessageBytes_unread (failed : ret ≠ 0)
    (post : ∀ w, doHttpPost curl (rpcUrl (cstr host) port) (cstr (jvalueTostringSimple body))
        (calloc maxResponseBufSz) maxResponseBufSz = .ok w ↔
      (utf8 (curlCommand (rpcUrl (cstr host) port) (cstr (jvalueTostringSimple body)))).length <
        pathMax ∧ (ret, b) = w) :
    sendRpcMessageBytes jvalueTostringSimple parse curl host port body r = .ok v ↔
      (utf8 (curlCommand (rpcUrl (cstr host) port) (cstr (jvalueTostringSimple body)))).length <
        pathMax ∧ sendRpcMessage (fun _ => .httpFailed) host port body r = v := by
  rw [sendRpcMessageBytes_posted]
  simp only [post]
  constructor
  · rintro ⟨_, _, _, ⟨command, same⟩, rest⟩
    cases same
    rw [if_pos failed] at rest
    exact ⟨command, Except.ok.inj rest⟩
  · rintro ⟨command, same⟩
    refine ⟨url_fits command, ret, b, ⟨command, rfl⟩, ?_⟩
    rw [if_pos failed, same]

theorem sendRpcMessageBytes_read
    (written : write (calloc maxResponseBufSz) (run.output.take maxResponseBufSz) = .ok b)
    (post : ∀ w, doHttpPost curl (rpcUrl (cstr host) port) (cstr (jvalueTostringSimple body))
        (calloc maxResponseBufSz) maxResponseBufSz = .ok w ↔
      (utf8 (curlCommand (rpcUrl (cstr host) port) (cstr (jvalueTostringSimple body)))).length <
        pathMax ∧ (0, b) = w) :
    sendRpcMessageBytes jvalueTostringSimple parse curl host port body r = .ok v ↔
      ((utf8 (curlCommand (rpcUrl (cstr host) port) (cstr (jvalueTostringSimple body)))).length <
        pathMax ∧
        (run.output.length < maxResponseBufSz ∨ 0 ∈ run.output.take maxResponseBufSz)) ∧
        sendRpcMessage (fun _ => .parsed (parse (responseText run))) host port body r = v := by
  rw [sendRpcMessageBytes_posted]
  simp only [post]
  constructor
  · rintro ⟨_, _, _, ⟨command, same⟩, rest⟩
    cases same
    rw [if_neg (not_not.mpr rfl)] at rest
    obtain ⟨text, read, same⟩ := bind_eq_ok.mp rest
    obtain ⟨ends, rfl⟩ := (readString_response written).mp read
    exact ⟨⟨command, ends⟩, Except.ok.inj same⟩
  · rintro ⟨⟨command, ends⟩, same⟩
    refine ⟨url_fits command, 0, b, ⟨command, rfl⟩, ?_⟩
    rw [if_neg (not_not.mpr rfl), (readString_response written).mpr ⟨ends, rfl⟩, ← same]
    rfl

theorem responseEnds_none : ResponseEnds none :=
  fun _ here => absurd here (by simp)

theorem responseEnds_failed (failed : run.status ≠ 0) : ResponseEnds (some run) :=
  fun _ here status => absurd (Option.some.inj here ▸ status) failed

theorem responseEnds_answered (answered : run.status = 0) :
    ResponseEnds (some run) ↔
      run.output.length < maxResponseBufSz ∨ 0 ∈ run.output.take maxResponseBufSz :=
  ⟨fun ends => ends run rfl answered, fun ends _ here _ => Option.some.inj here ▸ ends⟩

theorem sendRpcMessageBytes_eq_ok :
    sendRpcMessageBytes jvalueTostringSimple parse curl host port body r = .ok v ↔
      ((utf8 (curlCommand (rpcUrl (cstr host) port) (cstr (jvalueTostringSimple body)))).length <
          pathMax ∧ ResponseEnds curl) ∧
        sendRpcMessage (fun _ => replyOf parse curl) host port body r = v := by
  cases curl with
  | none =>
    rw [sendRpcMessageBytes_unread (by decide) fun _ => doHttpPost_none,
      and_iff_left responseEnds_none]
    rfl
  | some run =>
    obtain ⟨b, written⟩ := write_response run.output
    by_cases answered : run.status = 0
    · rw [sendRpcMessageBytes_read written fun _ => doHttpPost_answered written answered,
        responseEnds_answered answered]
      simp only [replyOf, answered, ne_eq, not_true_eq_false, if_false]
    · rw [sendRpcMessageBytes_unread (by decide) fun _ => doHttpPost_failed written answered,
        and_iff_left (responseEnds_failed answered)]
      simp only [replyOf, answered, ne_eq, not_false_eq_true, if_true]

end Posts

theorem request_length (jvalueTostringSimple : JVal → String) (host : String) (body : JVal) :
    (utf8 (curlCommand (rpcUrl (cstr host) rpcPort) (cstr (jvalueTostringSimple body)))).length =
      (cBytes host).length + (cBytes (jvalueTostringSimple body)).length + 49 := by
  have digits : (utf8 (toString rpcPort)).length = 4 := by decide
  rw [curlCommand_length, rpcUrl_length, digits]
  unfold cBytes
  omega

theorem hyperionClientBytes_runs_iff {s : Settings} {o : HyperionClient.ConnectOutcome}
    {c : HyperionClient.Client} :
    (∃ v, hyperionClientBytes s o c = .ok v) ↔
      (s.unixSocket = true → Prepared o → (cBytes s.address).length < sunPathSize) := by
  unfold hyperionClientBytes
  by_cases copies : s.unixSocket = true ∧ Prepared o
  · rw [if_pos copies]
    have fits : (∃ b, writeString (calloc sunPathSize) (cBytes s.address) = .ok b) ↔
        (cBytes s.address).length < sunPathSize := writeString_calloc_iff
    constructor
    · rintro ⟨_, ran⟩ - -
      obtain ⟨b, copied, -⟩ := bind_eq_ok.mp ran
      exact fits.mp ⟨b, copied⟩
    · intro short
      obtain ⟨b, copied⟩ := fits.mpr (short copies.1 copies.2)
      exact ⟨_, bind_eq_ok.mpr ⟨b, copied, rfl⟩⟩
  · rw [if_neg copies]
    exact ⟨fun _ socket prepared => absurd ⟨socket, prepared⟩ copies, fun _ => ⟨_, rfl⟩⟩

end Lengths

/-! ### The requests of the HDR callback -/

section Callback

variable {hdrType : String} {hdrEnabled : Bool} {env : Env} {s s' : Service}

theorem hdrCallback_sends
    (h : hdrCallback hdrType hdrEnabled env s = .ok s') :
    Sends (fun q => q.host = rpcAddress s.settings ∧ q.port = rpcPort) s.rpc s'.rpc := by
  have sent := hdrCallback_ok h
  unfold hdrRpc at sent
  have state : Sends (fun q => q.host = rpcAddress s.settings ∧ q.port = rpcPort) s.rpc
      (setHdrState env.replies (rpcAddress s.settings) rpcPort hdrEnabled s.rpc).2 :=
    setHdrState_sends ⟨rfl, rfl⟩ ⟨rfl, rfl⟩ s.rpc
  dsimp only at sent
  split at sent
  · obtain ⟨picked, -, sent⟩ := bind_eq_ok.mp sent
    cases picked with
    | none =>
      rw [← Except.ok.inj sent]
      exact state
    | some a =>
      obtain ⟨⟨ret, r⟩, posted, done⟩ := bind_eq_ok.mp sent
      rw [← Except.ok.inj done]
      exact state.trans (hyperionSetAdjustments_sends ⟨rfl, rfl⟩ (fun _ => ⟨rfl, rfl⟩)
        (fun _ _ => ⟨rfl, rfl⟩) posted)
  · rw [← Except.ok.inj sent]
    exact state

/-- With `curl j` the process of request `j`, every request of the callback goes through
its buffers exactly when its body leaves room for the address and its response ends. -/
theorem hdrCallback_fits_iff (jvalueTostringSimple : JVal → String)
    (parse : List UInt8 → JVal) (curl : Nat → Option CurlRun)
    (h : hdrCallback hdrType hdrEnabled env s = .ok s') :
    (∀ j q, s.rpc.sent.length ≤ j → s'.rpc.sent[j]? = some q →
      ∃ v, sendRpcMessageBytes jvalueTostringSimple parse (curl j) q.host q.port q.body s.rpc =
        .ok v) ↔
    ∀ j q, s.rpc.sent.length ≤ j → s'.rpc.sent[j]? = some q →
      (cBytes (rpcAddress s.settings)).length + (cBytes (jvalueTostringSimple q.body)).length +
          49 < pathMax ∧ ResponseEnds (curl j) := by
  have sends := hdrCallback_sends h
  refine forall₂_congr fun j q => forall₂_congr fun later here => ?_
  obtain ⟨host, port⟩ := sends.get later here
  rw [host, port]
  simp only [sendRpcMessageBytes_eq_ok, request_length]
  exact ⟨fun ⟨_, fits, _⟩ => fits, fun fits => ⟨_, fits, rfl⟩⟩

end Callback

/-- A request to the address of the settings and a connection to it stay inside their
buffers exactly when 4047 bytes hold address and body together, the response is shorter
than its block or has a NUL in it, and a local socket's path is shorter than `sun_path`. -/
theorem fixed_buffers_iff (jvalueTostringSimple : JVal → String) (parse : List UInt8 → JVal)
    (s : Settings) (body : JVal) (curl : Option CurlRun) (r : Rpc)
    (o : HyperionClient.ConnectOutcome) (c : HyperionClient.Client) :
    ((∃ v, sendRpcMessageBytes jvalueTostringSimple parse curl (rpcAddress s) rpcPort body r =
        .ok v) ∧ ∃ v, hyperionClientBytes s o c = .ok v) ↔
      (cBytes (rpcAddress s)).length + (cBytes (jvalueTostringSimple body)).length + 49 <
          pathMax ∧
        ResponseEnds curl ∧
        (s.unixSocket = true → Prepared o → (cBytes s.address).length < sunPathSize) := by
  rw [hyperionClientBytes_runs_iff, ← and_assoc]
  simp only [sendRpcMessageBytes_eq_ok, request_length]
  exact and_congr_left fun _ => ⟨fun ⟨_, fits, _⟩ => fits, fun fits => ⟨_, fits, rfl⟩⟩

/-- A local socket whose path is as long as `sun_path`, which leaves its NUL outside. -/
def socketPath : String := String.ofList ('/' :: List.replicate 107 's')

def localSocket : JVal :=
  .object [("address", .string socketPath), ("unix_socket", .boolean true)]

theorem fixed_buffers_overrun :
    ¬ ∀ (jvalueTostringSimple : JVal → String) (parse : List UInt8 → JVal) (source : JVal)
      (s : Settings), settingsLoadJson settingsInit source = .ok s →
      ∀ (body : JVal) (curl : Option CurlRun) (r : Rpc) (o : HyperionClient.ConnectOutcome)
        (c : HyperionClient.Client),
        (∃ v, sendRpcMessageBytes jvalueTostringSimple parse curl (rpcAddress s) rpcPort body r =
          .ok v) ∧ ∃ v, hyperionClientBytes s o c = .ok v := by
  intro fits
  have load : settingsLoadJson settingsInit localSocket =
      .ok { settingsInit with address := socketPath, unixSocket := true } := by
    decide +kernel
  have both := fits (fun _ => "\x7b\x7d") (fun _ => .null) localSocket _ load .null none
    ⟨.notSet, []⟩ ⟨3, true, true, true, true⟩ HyperionClient.zeroed
  have short := hyperionClientBytes_runs_iff.mp both.2 rfl (by decide)
  exact absurd short (by decide +kernel)

end HyperionWebos.FixedBuffers
