import RtMessage.Sending
import RtMessage.DataProvider.Assignments
import RtMessage.DataProvider.Results

/- `dmProviderHostImpl::requestHandler`, from the frame that arrives to the response: which
   requests it answers and which ones it does not survive. -/
namespace RtMessage.DataProvider

section Handler
variable {σ : Type}

/-- The host, the connection and the system after a frame. A payload that is not JSON leaves a
    null message, which `decodeOperation` reads from. -/
def dmProviderHostImplRequestHandler (J : CJsonLib) (F : FloatText) (fuel : Nat)
    (host : DmProviderHost σ) (hdr : RtMessageHeader) (buff : Bytes) (con : RtConnection)
    (os : Os) : Except Fault (DmProviderHost σ × RtConnection × Os) := do
  if !rtMessageHeaderIsRequest hdr then .ok (host, con, os)
  else
    match rtMessageFromBytes J buff with
    | none => .error .undefinedBehaviour
    | some req =>
      let out ← host.requestHandler req
      let res := encodeResult F rtMessageCreate out.result
      let (_, con, os) ← rtConnectionSendResponse J fuel con hdr res os
      .ok (out.host, con, os)

/-- The handler gets to the end with one call of `rtConnection_SendResponse`, whatever the
    connection does then; on an open connection that takes it this sends one frame, on the
    reply topic. -/
def Answers (J : CJsonLib) (F : FloatText) (host : DmProviderHost σ) (f : Frame) (buff : Bytes) :
    Prop :=
  ∃ host' res,
    (∀ fuel con os, dmProviderHostImplRequestHandler J F fuel host f.header buff con os =
      rtConnectionSendResponse J fuel con f.header res os >>= fun r => .ok (host', r.2)) ∧
    ∀ con os sock, con.fd = some sock → os.sends.head = .complete → os.sends.tail.head = .complete →
      ∃ answer con', answer.topic = f.replyTopic ∧ answer.flags = rtMessageFlagsResponse ∧
        ∀ fuel, dmProviderHostImplRequestHandler J F (fuel + 1) host f.header buff con os =
          .ok (host', con', os.afterFrame sock answer)

/-- A get needs a name that is not empty, a set a value that is empty or a name. -/
def Decodable (req : CJson) : Prop :=
  ∃ operation item, rtMessageGetString req (ascii "method") = some (some operation) ∧
    rtMessageGetMessage req (ascii "params") = some item ∧
    if operation = ascii "set" then
      (stringMember item (ascii "value")).getD [] = [] ∨ (stringMember item (ascii "name")).isSome
    else ∃ name, stringMember item (ascii "name") = some name ∧ name ≠ []

def Readable (J : CJsonLib) (buff : Bytes) : Prop :=
  ∃ req, rtMessageFromBytes J buff = some req ∧ Decodable req

end Handler

/-! Decoding. -/

section Decoding
variable {σ : Type} {db : ModelDb} {req item : CJson}

theorem isWildcard_isOk {s : Bytes} (h : s ≠ []) : ∃ w, isWildcard (some s) = .ok w := by
  rw [isWildcard, List.getLast?_eq_some_getLast h]
  exact ⟨_, rfl⟩

theorem decodeGetRequest_ok_iff (hitem : rtMessageGetMessage req (ascii "params") = some item) :
    (∃ r, decodeGetRequest db req = .ok r) ↔
    ∃ name, stringMember item (ascii "name") = some name ∧ name ≠ [] := by
  rw [decodeGetRequest, paramsItem, hitem]
  simp only [ok_bind]
  constructor
  · intro h
    obtain ⟨r, hr⟩ := h
    obtain ⟨w, hw, hr⟩ := bind_eq_ok.mp hr
    obtain ⟨s, hs, _⟩ := bind_eq_ok.mp hr
    have hname := stdString_ok hs
    rw [hname] at hw
    exact ⟨s, hname, (isWildcard_ok hw).1⟩
  · intro h
    obtain ⟨name, hname, hne⟩ := h
    obtain ⟨w, hw⟩ := isWildcard_isOk hne
    rw [hname, hw, ok_bind, stdString, ok_bind]
    split
    · exact ⟨_, rfl⟩
    · cases w with
      | true => exact ⟨_, rfl⟩
      | false => exact ⟨_, rfl⟩

theorem getProviderByPropertyName_isOk (db : ModelDb) (s : Bytes) (b : Bool) :
    ∃ r, getProviderByPropertyName db s b = .ok r := by
  rw [getProviderByPropertyName]
  by_cases hs : s = []
  · rw [if_pos hs]
    exact ⟨_, rfl⟩
  · obtain ⟨w, hw⟩ := isWildcard_isOk hs
    rw [if_neg hs, hw, ok_bind]
    cases w with
    | true => exact ⟨_, rfl⟩
    | false => exact ⟨_, rfl⟩

theorem decodeAssignments_ok_iff (db : ModelDb) (value : Bytes) {name : Option Bytes} :
    (∃ r, decodeAssignments db name value = .ok r) ↔ name.isSome := by
  cases name with
  | none => simp [decodeAssignments, stdString]
  | some target =>
    simp only [decodeAssignments, stdString, ok_bind, Option.isSome_some, iff_true]
    cases parseMultisetValue value with
    | some nameVals => exact ⟨_, rfl⟩
    | none =>
      obtain ⟨r, hr⟩ := getProviderByPropertyName_isOk db target false
      simp only [hr, ok_bind]
      exact ⟨_, rfl⟩

theorem decodeSetRequest_ok_iff (hitem : rtMessageGetMessage req (ascii "params") = some item) :
    (∃ r, decodeSetRequest db req = .ok r) ↔
    (stringMember item (ascii "value")).getD [] = [] ∨ (stringMember item (ascii "name")).isSome := by
  rw [decodeSetRequest, paramsItem, hitem]
  simp only [ok_bind]
  cases stringMember item (ascii "value") with
  | none => simp
  | some value =>
    cases value with
    | nil => simp
    | cons c cs =>
      simp only [Option.getD_some, List.cons_ne_nil, false_or]
      rw [← decodeAssignments_ok_iff db (c :: cs)]
      constructor
      · intro h
        obtain ⟨r, hr⟩ := h
        obtain ⟨p, hp, _⟩ := bind_eq_ok.mp hr
        exact ⟨p, hp⟩
      · intro h
        obtain ⟨⟨found, nameVals⟩, hp⟩ := h
        rw [hp, ok_bind]
        cases found with
        | none => exact ⟨_, rfl⟩
        | some o => exact ⟨_, rfl⟩

theorem decodeOperation_eq {operation : Bytes}
    (h : rtMessageGetString req (ascii "method") = some (some operation)) :
    decodeOperation req = .ok (if operation = ascii "set" then .set else .get) := by
  rw [decodeOperation, h]

theorem decodeOperation_ok {op : DmProviderOperation} (h : decodeOperation req = .ok op) :
    ∃ operation, rtMessageGetString req (ascii "method") = some (some operation) := by
  unfold decodeOperation at h
  split at h
  · next operation hmethod => exact ⟨operation, hmethod⟩
  · cases h

theorem bind_isOk_iff {α β : Type} {x : Except Fault α} {g : α → β} :
    (∃ r, (x >>= fun p => .ok (g p)) = .ok r) ↔ ∃ p, x = .ok p := by
  constructor
  · intro h
    obtain ⟨r, hr⟩ := h
    obtain ⟨p, hp, _⟩ := bind_eq_ok.mp hr
    exact ⟨p, hp⟩
  · intro h
    obtain ⟨p, hp⟩ := h
    exact ⟨g p, bind_eq_ok.mpr ⟨p, hp, rfl⟩⟩

theorem decodeRequest_ok_iff (db : ModelDb) {operation : Bytes}
    (hmethod : rtMessageGetString req (ascii "method") = some (some operation)) :
    (∃ r, decodeRequest db req = .ok r) ↔
    if operation = ascii "set" then ∃ r, decodeSetRequest db req = .ok r
    else ∃ r, decodeGetRequest db req = .ok r := by
  rw [decodeRequest, decodeOperation_eq hmethod, ok_bind]
  by_cases hset : operation = ascii "set"
  · rw [if_pos hset, if_pos hset]
    exact bind_isOk_iff
  · rw [if_neg hset, if_neg hset]
    exact bind_isOk_iff

theorem params_of_decodeRequest {r : HostRequest} (h : decodeRequest db req = .ok r) :
    ∃ item, rtMessageGetMessage req (ascii "params") = some item := by
  cases hitem : rtMessageGetMessage req (ascii "params") with
  | some item => exact ⟨item, rfl⟩
  | none =>
    rw [decodeRequest] at h
    obtain ⟨op, _, h⟩ := bind_eq_ok.mp h
    cases op with
    | get => simp [decodeGetRequest, paramsItem, hitem] at h
    | set => simp [decodeSetRequest, paramsItem, hitem] at h

theorem decodeRequest_decodable (db : ModelDb) :
    (∃ r, decodeRequest db req = .ok r) ↔ Decodable req := by
  constructor
  · intro h
    have hdecoded := h
    obtain ⟨r, hr⟩ := h
    obtain ⟨item, hitem⟩ := params_of_decodeRequest hr
    rw [decodeRequest] at hr
    obtain ⟨op, hop, _⟩ := bind_eq_ok.mp hr
    obtain ⟨operation, hmethod⟩ := decodeOperation_ok hop
    rw [decodeRequest_ok_iff db hmethod, decodeSetRequest_ok_iff hitem,
      decodeGetRequest_ok_iff hitem] at hdecoded
    exact ⟨operation, item, hmethod, hitem, hdecoded⟩
  · intro h
    obtain ⟨operation, item, hmethod, hitem, hnames⟩ := h
    rw [decodeRequest_ok_iff db hmethod, decodeSetRequest_ok_iff hitem,
      decodeGetRequest_ok_iff hitem]
    exact hnames

/-- The handler gets through a parsed message if and only if it can be decoded. -/
theorem requestHandler_ok_iff (host : DmProviderHost σ) (req : CJson) :
    (∃ out, host.requestHandler req = .ok out) ↔ Decodable req := by
  rw [← decodeRequest_decodable host.db]
  exact bind_isOk_iff

end Decoding

/-! The answer. -/

section Answer
variable {σ : Type} {J : CJsonLib} {F : FloatText} {host : DmProviderHost σ} {f : Frame}
  {buff : Bytes}

theorem cut_topic (t : Topic) : Topic.cut t.str = t := by
  have hstr : cstr (t.str.take 127) = t.str := by
    rw [List.take_of_length_le t.length_le, cstr_of_not_mem t.nul_free]
  cases t
  simp only [Topic.cut, Topic.mk.injEq]
  exact hstr

/-- The response of a request that was carried out, on a connection that takes it. -/
theorem sendResponse_complete (res : CJson) {con : RtConnection} {os : Os} {sock : Nat}
    (hfd : con.fd = some sock) (hheader : os.sends.head = .complete)
    (hpayload : os.sends.tail.head = .complete) :
    ∃ answer con', answer.topic = f.replyTopic ∧ answer.flags = rtMessageFlagsResponse ∧
      ∀ fuel, rtConnectionSendResponse J (fuel + 1) con f.header res os =
        .ok (.ok, con', os.afterFrame sock answer) := by
  obtain ⟨sendBuffer, hsend⟩ := sendInternal_whole J con f.header.replyTopic.str
    (rtMessageToByteArray J res) (some f.header.topic.str) rtMessageFlagsResponse os rfl hfd
    (by rw [hheader]; rfl) (by rw [hpayload]; rfl)
  refine ⟨_, _, ?_, rfl, hsend⟩
  rw [sentFrame, f.header_replyTopic_str]
  exact cut_topic f.replyTopic

theorem handler_eq (hreq : rtMessageHeaderIsRequest f.header = true) {req : CJson}
    (hparse : rtMessageFromBytes J buff = some req) {out : Handled σ}
    (hout : host.requestHandler req = .ok out) (fuel : Nat) (con : RtConnection) (os : Os) :
    dmProviderHostImplRequestHandler J F fuel host f.header buff con os =
      rtConnectionSendResponse J fuel con f.header (encodeResult F rtMessageCreate out.result) os
        >>= fun r => .ok (out.host, r.2) := by
  rw [dmProviderHostImplRequestHandler, hreq, if_neg (by decide), hparse]
  dsimp only
  rw [hout, ok_bind]

/-- **A request is answered**, by one response on its reply topic, if and only if its payload
    can be read; one that cannot is the end of the host. -/
theorem request_answered_iff (J : CJsonLib) (F : FloatText) (host : DmProviderHost σ)
    (hreq : rtMessageHeaderIsRequest f.header = true) (buff : Bytes) :
    Answers J F host f buff ↔ Readable J buff := by
  constructor
  · intro h
    obtain ⟨host', res, _, hcomplete⟩ := h
    obtain ⟨answer, con', _, _, hok⟩ :=
      hcomplete openConnection (Os.idle (Stream'.const .complete)) 0 rfl rfl rfl
    have hrun := hok 0
    rw [dmProviderHostImplRequestHandler, hreq, if_neg (by decide)] at hrun
    cases hparse : rtMessageFromBytes J buff with
    | none =>
      rw [hparse] at hrun
      cases hrun
    | some req =>
      rw [hparse] at hrun
      obtain ⟨out, hout, _⟩ := bind_eq_ok.mp hrun
      exact ⟨req, hparse, (requestHandler_ok_iff host req).mp ⟨out, hout⟩⟩
  · intro h
    obtain ⟨req, hparse, hdecodable⟩ := h
    obtain ⟨out, hout⟩ := (requestHandler_ok_iff host req).mpr hdecodable
    have hhandler := handler_eq (F := F) hreq hparse hout
    refine ⟨out.host, _, hhandler, ?_⟩
    intro con os sock hfd hheader hpayload
    obtain ⟨answer, con', htopic, hflags, hsend⟩ := sendResponse_complete (J := J) (f := f)
      (encodeResult F rtMessageCreate out.result) hfd hheader hpayload
    refine ⟨answer, con', htopic, hflags, ?_⟩
    intro fuel
    rw [hhandler, hsend, ok_bind]

end Answer

/-! A request without a method, and a set of `X` in the object `B`. -/

/-- A request for the object `B` with the payload `{}`. -/
def emptyRequest : Frame where
  sequenceNumber := 1
  flags := rtMessageFlagsRequest
  controlData := 0
  topic := ⟨ascii "RDK.MODEL.B", by decide, by decide⟩
  replyTopic := ⟨ascii "DMCLI.INBOX.7", by decide, by decide⟩
  payload := ascii "\x7b\x7d"
  payload_lt := by decide

/-- A library that knows the text `{}`. -/
def emptyLib : CJsonLib where
  parse text := if text = ascii "\x7b\x7d" then some (.object []) else none
  print _ := ascii "\x7b\x7d"

/-- A library that knows the texts of a request and of a response. -/
def exchangeLib (text answer : Bytes) (req res : CJson) : CJsonLib where
  parse t := if t = text then some req else if t = answer then some res else none
  print m := if (cJSONGetObjectItem m (ascii "method")).isSome then text else answer

section Exchange
variable {text answer : Bytes} {req res : CJson}

theorem exchangeLib_request (hreq : (cJSONGetObjectItem req (ascii "method")).isSome)
    (htext : 0 ∉ text) : Keeps (exchangeLib text answer req res) req := by
  intro _
  rw [rtMessageFromBytes, rtMessageToByteArray, exchangeLib]
  dsimp only
  rw [if_pos hreq, cstr_of_not_mem htext, cstr_of_not_mem htext, if_pos rfl]

theorem exchangeLib_response (hres : cJSONGetObjectItem res (ascii "method") = none)
    (hanswer : 0 ∉ answer) (hne : answer ≠ text) :
    Keeps (exchangeLib text answer req res) res := by
  intro _
  rw [rtMessageFromBytes, rtMessageToByteArray, exchangeLib]
  dsimp only
  rw [hres, cstr_of_not_mem (zero_not_mem_cstr _), cstr_of_not_mem (by exact hanswer)]
  exact (if_neg hne).trans (if_pos rfl)

end Exchange

def setQuery : DmQueryImpl :=
  ⟨ascii "B" ++ dot :: ascii "X", ascii "1", ascii "set", ascii "B", some relayInfo⟩

def setText : Bytes := ascii ("\x7b\"method\":\"set\",\"provider\":\"B\"," ++
  "\"params\":\x7b\"name\":\"B.X\",\"value\":\"1\"\x7d\x7d")

/-- What the provider of the relay answers. -/
def setResult : DmQueryResult :=
  { values := [{ value := .string (ascii "1"), info := relayValue.info }] }

def setAnswerText : Bytes := ascii ("\x7b\"result\":[\x7b\"params\":[\x7b\"name\":\"B.X\"," ++
  "\"value\":\"1\",\"status\":0,\"status_msg\":\"\"\x7d]," ++
  "\"status\":0,\"status_msg\":\"\"\x7d]\x7d")

def setLib : CJsonLib :=
  exchangeLib setText setAnswerText setQuery.request
    (encodeResult noFloats rtMessageCreate setResult)

theorem zero_not_mem_setText : 0 ∉ setText ∧ 0 ∉ setAnswerText := by
  simp only [setText, setAnswerText, ascii_append, List.mem_append, not_or]
  refine ⟨⟨?_, ?_⟩, ⟨?_, ?_⟩, ?_⟩ <;> decide +kernel

theorem setText_length : (0 < setText.length ∧ setText.length ≤ 200) ∧
    0 < setAnswerText.length ∧ setAnswerText.length ≤ 200 := by
  simp only [setText, setAnswerText, ascii_append, List.length_append]
  decide +kernel

theorem setAnswerText_ne : setAnswerText ≠ setText := by
  intro h
  have hsecond : setAnswerText[2]? = setText[2]? := by rw [h]
  exact absurd hsecond (by decide +kernel)

theorem setLib_request : rtMessageToByteArray setLib setQuery.request = setText := by
  rw [rtMessageToByteArray, setLib, exchangeLib]
  exact cstr_of_not_mem zero_not_mem_setText.1

theorem setLib_answer :
    rtMessageToByteArray setLib (encodeResult noFloats rtMessageCreate setResult) =
      setAnswerText := by
  rw [rtMessageToByteArray, setLib, exchangeLib]
  exact cstr_of_not_mem zero_not_mem_setText.2

/-- A request with that text. -/
def setRequestFrame : Frame :=
  { emptyRequest with
    payload := setText
    payload_lt := by
      have := setText_length.1
      omega }

theorem setText_readable : Readable setLib setText := by
  refine ⟨setQuery.request, ?_, ascii "set", _, rfl, rfl, ?_⟩
  · rw [rtMessageFromBytes, setLib, exchangeLib, cstr_of_not_mem zero_not_mem_setText.1]
    dsimp only
    rw [if_pos rfl]
  · exact .inr rfl

theorem request_answered_iff_example :
    Answers setLib noFloats relayHost setRequestFrame setText ∧
    ¬ Answers emptyLib noFloats relayHost emptyRequest emptyRequest.payload := by
  refine ⟨(request_answered_iff setLib noFloats relayHost rfl setText).mpr setText_readable, ?_⟩
  rw [request_answered_iff emptyLib noFloats relayHost rfl emptyRequest.payload]
  rintro ⟨req, hparse, operation, item, hmethod, -⟩
  cases hparse
  cases hmethod

/-- `decodeOperation` gives the null pointer that stands for the missing method to `strcmp`. -/
theorem request_crashes_host : ¬ ∀ (σ : Type) (J : CJsonLib) (F : FloatText)
    (host : DmProviderHost σ) (f : Frame) (buff : Bytes),
    rtMessageHeaderIsRequest f.header = true → Answers J F host f buff := by
  intro h
  obtain ⟨host', res, _, hcomplete⟩ :=
    h _ emptyLib noFloats relayHost emptyRequest emptyRequest.payload rfl
  obtain ⟨answer, con', _, _, hok⟩ :=
    hcomplete openConnection (Os.idle (Stream'.const .complete)) 0 rfl rfl rfl
  have hrun := hok 0
  have hfault : relayHost.requestHandler (.object []) = .error .undefinedBehaviour := rfl
  have hparse : rtMessageFromBytes emptyLib emptyRequest.payload = some (.object []) := rfl
  rw [dmProviderHostImplRequestHandler, if_neg (by decide), hparse] at hrun
  dsimp only at hrun
  rw [hfault, error_bind] at hrun
  cases hrun

end RtMessage.DataProvider
