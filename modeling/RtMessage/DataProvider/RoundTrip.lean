import RtMessage.Creation
import RtMessage.DataProvider.HostRun

/- A query from end to end: the client's request, the router, the provider's host, and the
   response on its way back.

   Every part is the code of the process it is in. The client has a connection of its own for the
   query, with nothing but its inbox; the router has one route for the object and one for the inbox;
   the host has the provider. Then the query's results are the provider's (`query_round_trip`).
   Without a route they are the router's refusal (`query_refused`), and without an answer there are
   none, which is no failure (`executed_query_reports`). -/
namespace RtMessage
open Lib

/-! A request that is answered while it is waited for. -/

section Request
variable {J : CJsonLib} {con : RtConnection} {os : Os} {sock : Nat} {f : Frame} {res : CJson}

/-- A connection with these listeners stores `res` when the frame is delivered. -/
def Stores (J : CJsonLib) (con : RtConnection) (f : Frame) (res : CJson) : Prop :=
  ∀ k : RtConnection, k.listeners = con.listeners →
    (∃ rest, k.recvBuffer.data.drop f.headerLength = f.payload ++ 0 :: rest) →
    ∃ con' call, deliverFrame J f.header k = .ok (con', call) ∧ con'.response = some res

/-- A request sends its frame and returns the response that is stored. -/
theorem sendRequest_stored (req : CJson) (topic : Bytes) {timeout : Int} {rest : Bytes}
    (hfd : con.fd = some sock) (hsends : os.sends = Stream'.const .complete)
    (hdelivers : Delivers os.recvs) (htimeout : 0 < timeout.tdiv 1000)
    (hin : os.input sock = f.bytes ++ rest) (hsize : f.size < 8192) (hstores : Stores J con f res) :
    ∃ fuel con' os', rtConnectionSendRequest J fuel con req topic timeout os =
        .ok (.ok, some res, con', os') ∧
      wire sock os'.sent = wire sock os.sent ++ (requestFrame J req topic con).bytes := by
  obtain ⟨sendBuffer, hsent⟩ := sendRequest_sent J req topic hfd hsends timeout
  let con₁ : RtConnection := { con with sequenceNumber := con.sequenceNumber + 1, sendBuffer }
  let os₁ : Os := (os.afterFrame sock (requestFrame J req topic con)).time.2
  obtain ⟨recvs', hanswers, -⟩ := hdelivers.frame f 4
  have hfd₁ : con₁.fd = some sock := hfd
  have hin₁ : os₁.input sock = f.bytes ++ rest := hin
  obtain ⟨evs, buffer, hw, -, -, hreturns⟩ := timedDispatch_frame (J := J) hfd₁ hin₁ hsize hanswers
  obtain ⟨con', call, hd, hresponse⟩ :=
    hstores { con₁ with recvBuffer := buffer } rfl (frame_in_buffer hw)
  obtain ⟨enough, hfuel⟩ := hreturns con' call hd
  have hgo : RequestState.goesOn os.clock.head timeout ⟨os.clock.head, none, con₁, os₁⟩ = true := by
    simp [RequestState.goesOn, htimeout]
  have hturn : requestTurn J (enough+1) ⟨os.clock.head, none, con₁, os₁⟩ =
      .ok ⟨os.clock.head, some (.ok, some res), { con' with response := none },
        os₁.consume sock f.size evs recvs'⟩ := by
    rw [requestTurn, hfuel (enough+1) (Nat.le_succ _), ok_bind, if_neg (by simp)]
    simp only [hresponse]
    rfl
  refine ⟨enough+1, { con' with response := none }, os₁.consume sock f.size evs recvs', ?_, ?_⟩
  · rw [hsent, loop_step hgo hturn, loop_done]
    · rfl
    · simp [RequestState.goesOn]
  · change wire sock (os.afterFrame sock (requestFrame J req topic con)).sent = _
    rw [wire_afterFrame (by rw [hsends]; rfl) (by rw [hsends]; rfl), if_pos rfl]

variable {inbox : Bytes} {id : UInt32}

theorem OnlyInbox.callable (h : OnlyInbox inbox id con) : con.Callable := by
  intro l hl huse
  rw [h.listeners] at hl
  cases List.mem_cons.mp hl with
  | inl heq =>
    rw [heq]
    exact Option.some_ne_none _
  | inr hfree =>
    rw [List.eq_of_mem_replicate hfree] at huse
    cases huse

theorem inbox_stores {k : RtConnection} {rest : Bytes}
    (hflags : f.flags &&& rtMessageFlagsResponse ≠ 0)
    (hres : rtMessageFromBytes J f.payload = some res) :
    (calledBack J f.header (f.payload ++ 0 :: rest) .onInboxMessage k).response = some res := by
  rw [calledBack, onInboxMessage, if_pos (show f.header.flags &&& _ ≠ 0 from hflags), ← hres]
  simp only [rtMessageFromBytes, cstr_append_nul]

theorem OnlyInbox.stores_response (h : OnlyInbox inbox id con) (hid : f.controlData = id)
    (hroute : f.Routed) (hflags : f.flags &&& rtMessageFlagsResponse ≠ 0)
    (hres : rtMessageFromBytes J f.payload = some res) : Stores J con f res := by
  intro k hk hbuf
  obtain ⟨rest, hbuf⟩ := hbuf
  have hcallable : k.Callable := by
    rw [RtConnection.Callable, hk]
    exact h.callable
  obtain ⟨⟨con', call⟩, hd⟩ := deliverFrame_returns J f.header hcallable
  have hfor : k.listenerFor f = some (inboxListener inbox id) := by
    rw [RtConnection.listenerFor, hk, h.listeners, List.find?_cons_of_pos]
    rw [hid]
    exact beq_self_eq_true id
  refine ⟨con', call, hd, ?_⟩
  obtain ⟨hnone, -⟩ | ⟨i, l, cb, hl, hcb, rfl, -⟩ := deliverFrame_listenerFor hroute hbuf hd
  · cases hfor.symm.trans hnone
  · cases hfor.symm.trans hl
    cases hcb
    exact inbox_stores hflags hres

/-- The router's refusal takes the id from the inbox, and is stored. -/
theorem OnlyInbox.stores_refusal (h : OnlyInbox inbox id con) (g : Frame)
    (hres : rtMessageFromBytes J (refusalFrame J g).payload = some res) :
    Stores J con (refusalFrame J g) res := by
  intro k hk hbuf
  obtain ⟨rest, hbuf⟩ := hbuf
  have hnoRoute : strstr (refusalFrame J g).header.replyTopic.str noRouteTopic = true := by
    rw [Frame.header_replyTopic_str]
    exact (by decide : strstr (Topic.cut noRouteTopic).str noRouteTopic = true)
  have hfind : findListener (strstr (refusalFrame J g).header.replyTopic.str noRouteTopic)
      (refusalFrame J g).header.controlData k.listeners =
      ({ inboxListener inbox id with subscriptionId := 0 } :: List.replicate 63 .free, some 0) := by
    rw [hnoRoute, hk, h.listeners]
    rfl
  have hl : (k.searched (refusalFrame J g).header).listeners[0]? =
      some { inboxListener inbox id with subscriptionId := 0 } := by
    change (findListener _ _ k.listeners).1[0]? = _
    rw [hfind]
    rfl
  refine ⟨_, _, deliverFrame_some (congrArg Prod.snd hfind) hl rfl, ?_⟩
  rw [(refusalFrame J g).header_headerLength, hbuf]
  exact inbox_stores (by decide : rtMessageFlagsResponse &&& rtMessageFlagsResponse ≠ 0) hres

end Request

/-! The router. -/

/-- The topic has one route, to the client under this id. -/
def OnlyRoute (table : List Subscription) (topic : Bytes) (client : Nat) (id : UInt32) : Prop :=
  ∃ expression, table.filter (fun u => rtRoutedIsTopicMatch topic u.expression) =
    [⟨client, id, expression⟩]

/-- The dispatch of the frame `f` of `sender` sends `g` to `target` and nothing else, whatever was
    sent before, and leaves the clients and the routes. -/
def PassesOn (J : CJsonLib) (clients : List RtConnectedClient) (routes : List RtRouteEntry)
    (sender : RtConnectedClient) (f : Frame) (target : RtConnectedClient) (g : Frame) : Prop :=
  ∀ (r : RtRouted Os) (full : RtConnectedClient) (rest : Bytes), r.clients = clients →
    r.routes = routes → Takes r.env.sends → full.ptr = sender.ptr → full.fd = sender.fd →
    full.header = f.header → full.readBuffer.data = f.bytes ++ rest →
    ∃ r', (∀ fuel, routes.length < fuel →
        rtRouterDispatchMessageFromClient J fuel full r = .ok r') ∧
      r'.clients = clients ∧ r'.routes = routes ∧ Takes r'.env.sends ∧
      ∀ k, wire k r'.env.sent = wire k r.env.sent ++ if target.fd = k then g.bytes else []

section Passing
variable {J : CJsonLib} {clients : List RtConnectedClient} {routes : List RtRouteEntry}
  {sender target : RtConnectedClient} {f : Frame}

theorem onSockets_single (hdistinct : DistinctClients clients) (ht : target ∈ clients) (g : Frame) :
    onSockets clients [(target.ptr, g)] = [(target.fd, g)] := by
  rw [onSockets, List.map_singleton, hdistinct.socketOf ht]

theorem passes_of_outputs (hdistinct : DistinctClients clients) (hroutes : RoutesOf clients routes)
    (hs : sender ∈ clients) (ht : target ∈ clients) (hf : f.Admissible J)
    (hsub : f.topic.str ≠ subscribeTopic) {g : Frame}
    (hout : outputs J (ownExpressions routes) (subscriptions routes) (sender.ptr, f) =
      [(target.ptr, g)]) :
    PassesOn J clients routes sender f target g := by
  rintro r full rest rfl rfl htakes hptr hfd hheader hbuffer
  obtain ⟨a, -, ha, r', rfl, -, hdispatch⟩ :=
    dispatch_outputs hdistinct hroutes htakes hf hs hptr hfd hheader hbuffer
  have hnone : a = none := by
    rw [Frame.subscription, if_neg hsub] at ha
    exact Option.map_eq_none_iff.mp ha.symm
  subst hnone
  rw [hout, onSockets_single hdistinct ht] at hdispatch
  refine ⟨_, hdispatch, rfl, rfl, afterFrames_takes htakes _, fun k => ?_⟩
  exact wire_afterFrame (htakes 0) (htakes 1) k target.fd g

variable {own : List Bytes} {table : List Subscription}

theorem outputs_only {client : Nat} {id : UInt32} (honly : OnlyRoute table f.topic.str client id)
    (ptr : Nat) : outputs J own table (ptr, f) = [(client, f.withControlData id)] := by
  obtain ⟨expression, hfilter⟩ := honly
  have hcopies : copies table f = [(client, f.withControlData id)] := by
    rw [copies, show table.filter (·.matches f) = _ from hfilter]
    rfl
  have hany : table.any (·.matches f) = true := by
    have hmem : ⟨client, id, expression⟩ ∈ table.filter (·.matches f) := by
      rw [show table.filter (·.matches f) = _ from hfilter]
      exact List.mem_cons_self
    obtain ⟨hmem, hmatch⟩ := List.mem_filter.mp hmem
    exact List.any_eq_true.mpr ⟨_, hmem, hmatch⟩
  rw [outputs, hcopies, refusals, hasRoute, hany, Bool.or_true]
  rfl

theorem outputs_refused (hnone : hasRoute own table f = false)
    (hreq : rtMessageHeaderIsRequest f.header = true) (ptr : Nat) :
    outputs J own table (ptr, f) = [(ptr, refusalFrame J f)] := by
  have hcopies : copies table f = [] := by
    rw [hasRoute, Bool.or_eq_false_iff] at hnone
    rw [copies, List.map_eq_nil_iff, List.filter_eq_nil_iff]
    exact fun u hu hm => Bool.false_ne_true (hnone.2.symm.trans (List.any_eq_true.mpr ⟨u, hu, hm⟩))
  rw [outputs, hcopies, refusals, hnone, hreq]
  rfl

end Passing

end RtMessage

namespace RtMessage.DataProvider
open Lib

/-! The client. -/

/-- The topic of an object. -/
def objectTopic (O : Bytes) : Bytes := ascii "RDK.MODEL." ++ O

section Source
variable (J : CJsonLib) (fuel : Nat) (q : DmQueryImpl)

/-- The results of a query have not been added to before. -/
def DmQueryImpl.makeRequest (providerInfo : DmProviderInfo) (topic : Bytes) (con : RtConnection)
    (os : Os) : Except Fault (DmQueryResult × RtConnection × Os) := do
  let (err, res, con, os) ← rtConnectionSendRequest J fuel con q.request topic 2000 os
  if err ≠ .ok then return ({}, con, os)
  match res with
  | some res => return (receiveResponse providerInfo q.instanceName res, con, os)
  | none => throw .undefinedBehaviour

/-- `exec` on the connection of the query: what it returns, and `results()` afterwards. -/
def DmQueryImpl.execute (con : RtConnection) (os : Os) :
    Except Fault (Bool × DmQueryResult × RtConnection × Os) :=
  match q.providerInfo with
  | none => .ok (false, {}, con, os)
  | some providerInfo => do
    let r ← q.makeRequest J fuel providerInfo (objectTopic q.instanceName) con os
    return (true, r)

end Source

/-- The query string `s` is made the query `q`, which asks for `r` of the object `o` under the path
    `O`: for all its properties, for one of them, or for one to be set. -/
inductive Asks (o : DmProviderInfo) (O : Bytes) :
    DmProviderOperation → Bytes → DmQueryImpl → HostRequest → Prop where
  | get {s : Bytes} {w : Bool} (hs : isWildcard (some s) = .ok w)
      (hO : (if w then trimWildcard s else trimProperty s) = O) :
      Asks o O .get s ⟨s, [], ascii "get", O, some o⟩
        (.get O (if w then o.properties else [requestedProperty o s]))
  | set {N v : Bytes} {info : DmPropertyInfo} (hO : equals ∉ O) (hdot : dot ∉ N) (heq : equals ∉ N)
      (hinfo : o.property? N = some info) (hne : v ≠ []) (hv : v.head? ≠ some openBrace) :
      Asks o O .set (O ++ dot :: N ++ equals :: v) ⟨O ++ dot :: N, v, ascii "set", O, some o⟩
        (.set O [{ info, value := .string v }])

section Query
variable {σ : Type} {host : DmProviderHost σ} {p : DmProvider σ} {o : DmProviderInfo}
  {O s : Bytes} {op : DmProviderOperation} {q : DmQueryImpl} {r : HostRequest}

theorem Asks.instanceName (h : Asks o O op s q r) : q.instanceName = O := by
  cases h <;> rfl

theorem Asks.providerInfo (h : Asks o O op s q r) : q.providerInfo = some o := by
  cases h <;> rfl

/-- Client and host agree on what is asked for. -/
theorem Asks.decoded (h : Asks o O op s q r) (ho : host.db.resolve O = some o) :
    (∃ fuel, createQuery host.db fuel op (some s) = .ok (some q)) ∧
    decodeRequest host.db q.request = .ok r := by
  cases h with
  | get hs hO =>
    exact ⟨⟨0, createQuery_get 0 hs hO ho⟩, decode_get hs hO ho _ rfl rfl rfl⟩
  | set hO hdot heq hinfo hne hv =>
    exact ⟨⟨_, createQuery_set hO hdot heq hv ho⟩,
      decode_set hdot hinfo hv hne ho _ rfl rfl rfl rfl⟩

theorem Asks.performed (h : Asks o O op s q r) (hp : host.providers O = some p) :
    (host.perform r).result = (p.carriesOut r).result := by
  cases h with
  | get hs hO => exact (DmProviderHost.withProvider_some hp).1
  | set hO hdot heq hinfo hne hv => exact (DmProviderHost.withProvider_some hp).1

theorem paramsItem_portable (hquery : 0 ∉ q.query) (hvalue : 0 ∉ q.value) :
    Portable q.paramsItem := by
  have hname : 0 ∉ ascii "name" := by decide
  unfold DmQueryImpl.paramsItem
  dsimp only
  split
  · apply portable_object
    intro m hm
    simp only [List.nil_append, List.cons_append, List.mem_cons, List.not_mem_nil, or_false] at hm
    obtain rfl | rfl := hm
    · exact ⟨hname, .string hquery⟩
    · exact ⟨(by decide : 0 ∉ ascii "value"), .string hvalue⟩
  · apply portable_object
    intro m hm
    rw [List.mem_singleton.mp hm]
    exact ⟨hname, .string hquery⟩

theorem request_portable (hop : 0 ∉ q.operation) (hinstance : 0 ∉ q.instanceName)
    (hquery : 0 ∉ q.query) (hvalue : 0 ∉ q.value) : Portable q.request := by
  apply portable_object
  intro m hm
  simp only [List.nil_append, List.cons_append, List.mem_cons, List.not_mem_nil, or_false] at hm
  obtain rfl | rfl | rfl := hm
  · exact ⟨(by decide : 0 ∉ ascii "method"), .string hop⟩
  · exact ⟨(by decide : 0 ∉ ascii "provider"), .string hinstance⟩
  · exact ⟨(by decide : 0 ∉ ascii "params"), paramsItem_portable hquery hvalue⟩

theorem Asks.portable (h : Asks o O op s q r) (hs : 0 ∉ s) (hO : 0 ∉ O) : Portable q.request := by
  cases h with
  | get hw htrim =>
    exact request_portable (by decide : 0 ∉ ascii "get") hO hs List.not_mem_nil
  | @set N v info hequals hdot heq hinfo hne hv =>
    simp only [List.mem_append, List.mem_cons, not_or] at hs
    obtain ⟨⟨-, hN⟩, -, hv⟩ := hs
    refine request_portable (by decide : 0 ∉ ascii "set") hO ?_ hv
    simp only [List.mem_append, List.mem_cons, not_or]
    exact ⟨hO, hN⟩

end Query

theorem receiveResponse_encodeResult {F : FloatText} {o : DmProviderInfo} (hloaded : o.Loaded)
    (hdots : ∀ p ∈ o.properties, dot ∉ p.name) {result : DmQueryResult} (h : result.Portable F)
    (O : Bytes) :
    ∃ received, receiveResponse o O (encodeResult F rtMessageCreate result) =
        ⟨result.status, received, result.statusMsg, O⟩ ∧
      List.Forall₂ (SameEntry F o) result.values received := by
  obtain ⟨received, hreceived, hsame⟩ := receiveItem_resultItem hloaded hdots h
  refine ⟨received, ?_, hsame⟩
  rw [receiveResponse, encodeResult_eq, overItems_array rfl, List.foldl_cons, List.foldl_nil,
    hreceived]

theorem noRouteMessage_portable : Portable noRouteMessage := by
  have hitem : Portable (.object [(ascii "name", .string (ascii " ")),
      (ascii "value", .string (ascii " ")),
      (ascii "status_msg", .string (ascii "No Route found for this Parameter")),
      (ascii "status", .number 1)]) := by
    apply portable_object
    intro m hm
    simp only [List.mem_cons, List.not_mem_nil, or_false] at hm
    obtain rfl | rfl | rfl | rfl := hm
    · exact ⟨(by decide : 0 ∉ ascii "name"), .string (by decide : 0 ∉ ascii " ")⟩
    · exact ⟨(by decide : 0 ∉ ascii "value"), .string (by decide : 0 ∉ ascii " ")⟩
    · exact ⟨(by decide : 0 ∉ ascii "status_msg"),
        .string (by decide : 0 ∉ ascii "No Route found for this Parameter")⟩
    · exact ⟨(by decide : 0 ∉ ascii "status"), .number (by decide)⟩
  apply portable_object
  intro m hm
  rw [List.mem_singleton.mp hm]
  refine ⟨(by decide : 0 ∉ ascii "result"), .array fun item hmem => ?_⟩
  rw [List.mem_singleton.mp hmem]
  exact hitem

/-- The frame carries the message through a router and into the buffer of a connection. -/
structure CarriesMessage (J : CJsonLib) (f : Frame) (m : CJson) : Prop where
  payload : f.payload = rtMessageToByteArray J m
  keeps : Keeps J m
  payload_pos : 0 < f.payload.length
  size_lt : f.size < 8192
  not_hello : f.topic.str ≠ helloTopic
  not_subscribe : f.topic.str ≠ subscribeTopic
  routed : f.Routed

section Carries
variable {J : CJsonLib} {f : Frame} {m : CJson}

theorem CarriesMessage.admissible (h : CarriesMessage J f m) : f.Admissible J :=
  ⟨h.payload_pos, Nat.le_of_lt h.size_lt, h.not_hello, fun hsub => absurd hsub h.not_subscribe⟩

theorem CarriesMessage.parsed (h : CarriesMessage J f m) (hm : Portable m) :
    rtMessageFromBytes J f.payload = some m := by
  rw [h.payload]
  exact h.keeps hm

end Carries

section Execute
variable {J : CJsonLib} {con : RtConnection} {os : Os} {sock : Nat} {f : Frame} {res : CJson}
  {q : DmQueryImpl} {o : DmProviderInfo}

theorem execute_stored (hq : q.providerInfo = some o) {rest : Bytes} (hfd : con.fd = some sock)
    (hsends : os.sends = Stream'.const .complete) (hdelivers : Delivers os.recvs)
    (hin : os.input sock = f.bytes ++ rest) (hsize : f.size < 8192) (hstores : Stores J con f res) :
    ∃ fuel con' os', q.execute J fuel con os =
        .ok (true, receiveResponse o q.instanceName res, con', os') ∧
      wire sock os'.sent = wire sock os.sent ++
        (requestFrame J q.request (objectTopic q.instanceName) con).bytes := by
  have htimeout : 0 < (2000 : Int).tdiv 1000 := by decide
  obtain ⟨fuel, con', os', hrequest, hwire⟩ := sendRequest_stored q.request
    (objectTopic q.instanceName) hfd hsends hdelivers htimeout hin hsize hstores
  refine ⟨fuel, con', os', ?_, hwire⟩
  rw [DmQueryImpl.execute, hq]
  dsimp only
  rw [DmQueryImpl.makeRequest, hrequest]
  rfl

end Execute

/-! From end to end. -/

section RoundTrip
variable {σ : Type} {J : CJsonLib} {F : FloatText} {host : DmProviderHost σ} {p : DmProvider σ}
  {o : DmProviderInfo} {O s inbox : Bytes} {op : DmProviderOperation} {q : DmQueryImpl}
  {r : HostRequest} {clients : List RtConnectedClient} {routes : List RtRouteEntry}
  {asker provider : RtConnectedClient} {con : RtConnection} {os : Os} {sock : Nat} {rest : Bytes}
  {aid : UInt32}

theorem host_answers {s₀ : HostProcess σ} {psock : Nat} {pid : UInt32} {f g : Frame}
    (hasks : Asks o O op s q r) (ho : s₀.host.db.resolve O = some o)
    (hp : s₀.host.providers O = some p) (hcarries : CarriesMessage J f q.request) (hs : 0 ∉ s)
    (hO : 0 ∉ O) (hwaiting : s₀.Waiting psock [] [f.withControlData pid])
    (htakes : s₀.con.takesRequest (f.withControlData pid) = true)
    (hg : g = answerFrame J F s₀.con.sequenceNumber f (p.carriesOut r).result) :
    ∃ s₁ enough, (∀ fuel, enough ≤ fuel → dmProviderHostImplTurn J F fuel s₀ = .ok s₁) ∧
      s₁.host = (s₀.host.perform r).host ∧
      wire psock s₁.os.sent = wire psock s₀.os.sent ++ g.bytes := by
  have hdecode := (hasks.decoded ho).2
  have hparsed := hcarries.parsed (hasks.portable hs hO)
  have hout : s₀.host.requestHandler q.request = .ok (s₀.host.perform r) := by
    rw [DmProviderHost.requestHandler, hdecode]
    rfl
  have hsize : (f.withControlData pid).size < 8192 := by
    rw [Frame.withControlData_size]
    exact hcarries.size_lt
  obtain ⟨honly, hreturns⟩ := hwaiting.turn J F hsize hcarries.routed
  obtain ⟨s₁, enough, hturn⟩ := hreturns fun _ =>
    ⟨q.request, hparsed, (decodeRequest_decodable s₀.host.db).mp ⟨r, hdecode⟩⟩
  obtain ⟨-, -, gs, -, hanswered, hsent⟩ := honly enough s₁ (hturn enough (Nat.le_refl _))
  rw [List.filter_cons, if_pos htakes] at hanswered
  cases hanswered with
  | cons hparse hout' hrest =>
    cases hparsed.symm.trans hparse
    cases hout.symm.trans hout'
    generalize hhost : s₁.host = host', s₁.con.sequenceNumber = n at hrest
    cases hrest
    refine ⟨s₁, enough, hturn, hhost, ?_⟩
    rw [hsent, if_pos rfl, List.flatMap_singleton, hg, hasks.performed hp]
    rfl

/-- **A query round trip**: the client creates the query for the string and sends it; the router
    passes its frame on to the host and nothing else to nobody else; the host carries it out and
    sends one response, which the router passes back; and the query's results have the status, the
    message and the entries that the provider gave. -/
theorem query_round_trip {s₀ : HostProcess σ} {psock : Nat} {pid : UInt32} {f g : Frame}
    (hasks : Asks o O op s q r) (hs : 0 ∉ s) (hO : 0 ∉ O)
    -- the client
    (hinbox : OnlyInbox inbox aid con) (hfd : con.fd = some sock)
    (hf : f = requestFrame J q.request (objectTopic O) con)
    (hcarries : CarriesMessage J f q.request)
    -- the router
    (hdistinct : DistinctClients clients) (hroutes : RoutesOf clients routes)
    (hasker : asker ∈ clients) (hprovider : provider ∈ clients)
    (hthere : OnlyRoute (subscriptions routes) f.topic.str provider.ptr pid)
    (hback : OnlyRoute (subscriptions routes) g.topic.str asker.ptr aid)
    -- the host
    (ho : s₀.host.db.resolve O = some o) (hp : s₀.host.providers O = some p)
    (hloaded : o.Loaded) (hdots : ∀ p ∈ o.properties, dot ∉ p.name)
    (hwaiting : s₀.Waiting psock [] [f.withControlData pid])
    (htakes : s₀.con.takesRequest (f.withControlData pid) = true)
    (hportable : (p.carriesOut r).result.Portable F)
    (hg : g = answerFrame J F s₀.con.sequenceNumber f (p.carriesOut r).result)
    (hanswer : CarriesMessage J g (encodeResult F rtMessageCreate (p.carriesOut r).result))
    -- the client's wait
    (hsends : os.sends = Stream'.const .complete) (hdelivers : Delivers os.recvs)
    (hin : os.input sock = (g.withControlData aid).bytes ++ rest) :
    (∃ fuel, createQuery s₀.host.db fuel op (some s) = .ok (some q)) ∧
    PassesOn J clients routes asker f provider (f.withControlData pid) ∧
    (∃ s₁ enough, (∀ fuel, enough ≤ fuel → dmProviderHostImplTurn J F fuel s₀ = .ok s₁) ∧
      s₁.host = (s₀.host.perform r).host ∧
      wire psock s₁.os.sent = wire psock s₀.os.sent ++ g.bytes) ∧
    PassesOn J clients routes provider g asker (g.withControlData aid) ∧
    ∃ fuel con' os' results, q.execute J fuel con os = .ok (true, results, con', os') ∧
      wire sock os'.sent = wire sock os.sent ++ f.bytes ∧
      results.status = (p.carriesOut r).result.status ∧
      results.statusMsg = (p.carriesOut r).result.statusMsg ∧ results.objectName = O ∧
      List.Forall₂ (SameEntry F o) (p.carriesOut r).result.values results.values := by
  obtain ⟨hcreate, hdecode⟩ := hasks.decoded ho
  refine ⟨hcreate, ?_, ?_, ?_, ?_⟩
  · exact passes_of_outputs hdistinct hroutes hasker hprovider hcarries.admissible
      hcarries.not_subscribe (outputs_only hthere _)
  · exact host_answers hasks ho hp hcarries hs hO hwaiting htakes hg
  · exact passes_of_outputs hdistinct hroutes hprovider hasker hanswer.admissible
      hanswer.not_subscribe (outputs_only hback _)
  · have hflags : (g.withControlData aid).flags &&& rtMessageFlagsResponse ≠ 0 := by
      rw [hg]
      exact (by decide : rtMessageFlagsResponse &&& rtMessageFlagsResponse ≠ 0)
    have hstores : Stores J con (g.withControlData aid) _ := hinbox.stores_response rfl
      hanswer.routed hflags (hanswer.parsed (encodeResult_portable hportable))
    have hsize : (g.withControlData aid).size < 8192 := by
      rw [Frame.withControlData_size]
      exact hanswer.size_lt
    obtain ⟨fuel, con', os', hexecute, hwire⟩ :=
      execute_stored hasks.providerInfo hfd hsends hdelivers hin hsize hstores
    obtain ⟨received, hreceived, hsame⟩ :=
      receiveResponse_encodeResult hloaded hdots hportable q.instanceName
    rw [hreceived] at hexecute
    rw [hasks.instanceName, ← hf] at hwire
    exact ⟨fuel, con', os', _, hexecute, hwire, rfl, rfl, hasks.instanceName, hsame⟩

/-- **A query without a route** is refused by the router, which answers instead of the provider: the
    results have the status and the message of the refusal, and no entries. -/
theorem query_refused {f : Frame} (hq : q.providerInfo = some o)
    (hinbox : OnlyInbox inbox aid con) (hfd : con.fd = some sock)
    (hf : f = requestFrame J q.request (objectTopic q.instanceName) con)
    (hcarries : CarriesMessage J f q.request) (hdistinct : DistinctClients clients)
    (hroutes : RoutesOf clients routes) (hasker : asker ∈ clients)
    (hnone : hasRoute (ownExpressions routes) (subscriptions routes) f = false)
    (hrefusal : (refusalFrame J f).payload = rtMessageToByteArray J noRouteMessage)
    (hkeeps : Keeps J noRouteMessage) (hsize : (refusalFrame J f).size < 8192)
    (hsends : os.sends = Stream'.const .complete) (hdelivers : Delivers os.recvs)
    (hin : os.input sock = (refusalFrame J f).bytes ++ rest) :
    PassesOn J clients routes asker f asker (refusalFrame J f) ∧
    ∃ fuel con' os', q.execute J fuel con os =
        .ok (true, ⟨rtError, [], ascii "No Route found for this Parameter", q.instanceName⟩, con',
          os') ∧
      wire sock os'.sent = wire sock os.sent ++ f.bytes := by
  constructor
  · have hreq : rtMessageHeaderIsRequest f.header = true := by
      rw [hf]
      exact (by decide :
        (rtMessageFlagsRequest &&& rtMessageFlagsRequest == rtMessageFlagsRequest) = true)
    exact passes_of_outputs hdistinct hroutes hasker hasker hcarries.admissible
      hcarries.not_subscribe (outputs_refused hnone hreq _)
  · have hres : rtMessageFromBytes J (refusalFrame J f).payload = some noRouteMessage := by
      rw [hrefusal]
      exact hkeeps noRouteMessage_portable
    have hstores := hinbox.stores_refusal f hres
    rw [hf]
    exact execute_stored hq hfd hsends hdelivers hin hsize hstores

end RoundTrip

/-! Whatever the system does. -/

/-- The items under `result` all say that they are fine. -/
def AllOk (res : CJson) : Prop :=
  ∀ idx < rtMessageGetArrayLength res (ascii "result"), ∀ item,
    rtMessageGetMessageItem res (ascii "result") idx = some item →
      (rtMessageGetInt32 item (ascii "status")).getD 0 = rtOk

section Reports
variable {J : CJsonLib} {α : Type} {frame : α → Frame} {unread : Nat → List α} {fuel : Nat}
  {q : DmQueryImpl} {con con' : RtConnection} {os os' : Os} {b : Bool} {results : DmQueryResult}

theorem foldl_iff {β γ : Type} {f : β → γ → β} {P : β → Prop} {Q : γ → Prop}
    (h : ∀ b c, P (f b c) ↔ P b ∧ Q c) (b : β) (cs : List γ) :
    P (cs.foldl f b) ↔ P b ∧ ∀ c ∈ cs, Q c := by
  induction cs generalizing b with
  | nil => simp
  | cons c cs ih => rw [List.foldl_cons, ih, h, List.forall_mem_cons, and_assoc]

/-- The entries of an item do not bear on the status. -/
theorem receiveParams_status (o : DmProviderInfo) (item : CJson) (results : DmQueryResult) :
    (overItems item (ascii "params") (receiveParam o) results).status = results.status := by
  unfold overItems
  induction List.range (rtMessageGetArrayLength item (ascii "params")) generalizing results with
  | nil => rfl
  | cons idx rest ih =>
    rw [List.foldl_cons, ih]
    cases rtMessageGetMessageItem item (ascii "params") idx with
    | none => rfl
    | some p =>
      simp only [Option.elim_some, receiveParam]
      split <;> rfl

theorem receiveItem_status (o : DmProviderInfo) (results : DmQueryResult) (item : CJson) :
    (receiveItem o results item).status = rtOk ↔
      results.status = rtOk ∧ (rtMessageGetInt32 item (ascii "status")).getD 0 = rtOk := by
  rw [receiveItem, receiveParams_status]
  generalize (rtMessageGetInt32 item (ascii "status")).getD 0 = status
  by_cases hs : status = 0
  · subst hs
    cases stringMember item (ascii "status_msg") <;> simp [rtOk]
  · cases stringMember item (ascii "status_msg") <;> simp [rtOk, hs]

/-- The results of a response are a success exactly if all its items are. -/
theorem receiveResponse_status (o : DmProviderInfo) (instanceName : Bytes) (res : CJson) :
    (receiveResponse o instanceName res).status = rtOk ↔ AllOk res := by
  have hturn : ∀ results idx,
      ((rtMessageGetMessageItem res (ascii "result") idx).elim results
        (receiveItem o results)).status = rtOk ↔
      results.status = rtOk ∧ ∀ item, rtMessageGetMessageItem res (ascii "result") idx = some item →
        (rtMessageGetInt32 item (ascii "status")).getD 0 = rtOk := by
    intro results idx
    cases rtMessageGetMessageItem res (ascii "result") idx with
    | none => simp
    | some item => simpa using receiveItem_status o results item
  have hloop := foldl_iff (P := fun results : DmQueryResult => results.status = rtOk) hturn {}
    (List.range (rtMessageGetArrayLength res (ascii "result")))
  simp only [List.mem_range, true_and] at hloop
  exact hloop

/-- **What an executed query reports**, whatever the system does: nothing, as a success, if it was
    not sent or not answered in time; or the results of a response that was read for it. These are
    a success exactly if all the items of the response are, whatever its entries say. -/
theorem executed_query_reports (h : q.execute J fuel con os = .ok (b, results, con', os'))
    (harriving : Arriving frame unread os) (hnone : con.response = none) :
    b = q.providerInfo.isSome ∧
    (results = {} ∨ ∃ o res sock, q.providerInfo = some o ∧
      (con.fd = some sock ∨ os.nextSock ≤ sock) ∧ StoredFrom J frame (unread sock) (some res) ∧
      results = receiveResponse o q.instanceName res ∧ (results.status = rtOk ↔ AllOk res)) := by
  rw [DmQueryImpl.execute] at h
  cases hq : q.providerInfo with
  | none =>
    rw [hq] at h
    cases h
    exact ⟨rfl, .inl rfl⟩
  | some o =>
    rw [hq] at h
    obtain ⟨⟨results', con₁, os₁⟩, hmake, h⟩ := bind_eq_ok.mp h
    cases h
    refine ⟨rfl, ?_⟩
    obtain ⟨⟨err, res, con₂, os₂⟩, hrequest, hmake⟩ := bind_eq_ok.mp hmake
    dsimp only at hmake
    by_cases herr : err = .ok
    · rw [if_neg (not_not_intro herr)] at hmake
      obtain ⟨-, hstored⟩ := sendRequest_cases hrequest harriving
      obtain ⟨hsome, sock, hsock, hfrom⟩ := hstored hnone herr
      obtain ⟨res, rfl⟩ := Option.ne_none_iff_exists'.mp hsome
      cases hmake
      exact .inr ⟨o, res, sock, rfl, hsock, hfrom, rfl, receiveResponse_status o _ res⟩
    · rw [if_pos herr] at hmake
      cases hmake
      exact .inl rfl

end Reports

/-! A set of `X` in the object `B`. -/

theorem setQuery_asks : Asks relayInfo (ascii "B") .set
    (ascii "B" ++ dot :: ascii "X" ++ equals :: ascii "1") setQuery
    (.set (ascii "B") [relayValue]) :=
  .set (by decide) (by decide) (by decide) rfl (by decide) (by decide)

/-- The connection of a query, with its inbox in the first slot. -/
def queryConnection : RtConnection :=
  { (rtConnectionInit .inet (ascii "DMCLI.INBOX.7")).withListener 0
      (inboxListener (ascii "DMCLI.INBOX.7") 1) with fd := some 0 }

theorem queryConnection_inbox : OnlyInbox (ascii "DMCLI.INBOX.7") 1 queryConnection :=
  ⟨rfl, rfl, rfl⟩

def bothClients : List RtConnectedClient := [rtConnectedClientInit 1 5, rtConnectedClientInit 2 6]

/-- Client 1 has an inbox, and client 2 is the host. -/
def bothRoutes : List RtRouteEntry :=
  [internalRoute 0, ⟨1, .forwardMessage ⟨10, 1, 2⟩, .pad 128 (ascii "RDK.MODEL.B")⟩,
    ⟨2, .forwardMessage ⟨11, 1, 1⟩, .pad 128 (ascii "DMCLI.INBOX.7")⟩]

theorem bothRoutes_of : RoutesOf bothClients bothRoutes := by
  refine ⟨⟨0, _, rfl, ?_⟩, ?_⟩
  · intro e he
    simp only [List.mem_cons, List.not_mem_nil, or_false] at he
    obtain rfl | rfl := he <;> exact fun h => by cases h
  · intro e he ptr howner
    simp only [bothRoutes, List.mem_cons, List.not_mem_nil, or_false] at he
    obtain rfl | rfl | rfl := he <;> cases howner
    · exact ⟨_, List.mem_cons_of_mem _ List.mem_cons_self, rfl⟩
    · exact ⟨_, List.mem_cons_self, rfl⟩

def setFrame : Frame :=
  requestFrame setLib setQuery.request (objectTopic (ascii "B")) queryConnection

def setAnswer : Frame := answerFrame setLib noFloats 1 setFrame setResult

theorem setFrame_carries : CarriesMessage setLib setFrame setQuery.request := by
  have hlength := setText_length.1
  have hpayload : setFrame.payload = rtMessageToByteArray setLib setQuery.request := by
    refine sentFrame_payload _ _ _ _ ?_
    rw [setLib_request]
    omega
  have hsize := setFrame.size_le
  rw [hpayload, setLib_request] at hsize
  refine ⟨hpayload, exchangeLib_request rfl zero_not_mem_setText.1, ?_, by omega, by decide,
    by decide, (by decide : strstr setFrame.replyTopic.str noRouteTopic = false)⟩
  rw [hpayload, setLib_request]
  exact hlength.1

theorem setAnswer_carries :
    CarriesMessage setLib setAnswer (encodeResult noFloats rtMessageCreate setResult) := by
  have hlength := setText_length.2
  have hpayload : setAnswer.payload =
      rtMessageToByteArray setLib (encodeResult noFloats rtMessageCreate setResult) := by
    refine sentFrame_payload openConnection setFrame.replyTopic.str (some setFrame.topic.str)
      rtMessageFlagsResponse ?_
    rw [setLib_answer]
    omega
  have hsize := setAnswer.size_le
  rw [hpayload, setLib_answer] at hsize
  refine ⟨hpayload, exchangeLib_response rfl zero_not_mem_setText.2 setAnswerText_ne, ?_, by omega,
    by decide, by decide, (by decide : strstr setAnswer.replyTopic.str noRouteTopic = false)⟩
  rw [hpayload, setLib_answer]
  exact hlength.1

theorem bothRoutes_only :
    OnlyRoute (subscriptions bothRoutes) setFrame.topic.str 2 1 ∧
    OnlyRoute (subscriptions bothRoutes) setAnswer.topic.str 1 1 :=
  ⟨⟨ascii "RDK.MODEL.B", by decide⟩, ascii "DMCLI.INBOX.7", by decide⟩

/-- The host of the relay when the request has arrived. -/
def relayProcess : HostProcess (Option DmValue) where
  host := relayHost
  con := listeningConnection
  os := { Os.idle (Stream'.const .complete) with
    input := fun _ => (setFrame.withControlData 1).bytes }

/-- The system of a client for which the frame has arrived. -/
def arrivedOs (f : Frame) : Os :=
  { Os.idle (Stream'.const .complete) with input := fun _ => f.bytes }

theorem arrivedOs_input (f : Frame) : (arrivedOs f).input 0 = f.bytes ++ [] :=
  (List.append_nil _).symm

theorem query_round_trip_example : ∃ fuel con' os' results,
    setQuery.execute setLib fuel queryConnection (arrivedOs (setAnswer.withControlData 1)) =
      .ok (true, results, con', os') ∧
    results.status = rtOk ∧ results.objectName = ascii "B" ∧
    List.Forall₂ (SameEntry noFloats relayInfo) setResult.values results.values := by
  have hwaiting : relayProcess.Waiting 0 [] [setFrame.withControlData 1] := by
    refine ⟨rfl, listeningConnection_callable, fun _ => rfl, fun _ => ⟨8191, rfl⟩, ?_⟩
    rw [List.flatMap_singleton, List.append_nil]
    rfl
  have hloaded : relayInfo.Loaded := by
    intro p hp
    rw [List.mem_singleton.mp hp]
    exact .inl rfl
  have hportable : setResult.Portable noFloats := by
    refine ⟨by decide, by decide, fun param hparam => ?_⟩
    rw [List.mem_singleton.mp hparam]
    exact ⟨by decide, by decide, by decide, by decide⟩
  have hdistinct : DistinctClients bothClients := ⟨by decide, by decide⟩
  have hasker : rtConnectedClientInit 1 5 ∈ bothClients := List.mem_cons_self
  have hprovider : rtConnectedClientInit 2 6 ∈ bothClients :=
    List.mem_cons_of_mem _ List.mem_cons_self
  have hdelivers : Delivers (arrivedOs (setAnswer.withControlData 1)).recvs := fun _ => ⟨8191, rfl⟩
  obtain ⟨-, -, -, -, fuel, con', os', results, hexecute, -, hstatus, -, hname, hsame⟩ :=
    query_round_trip setQuery_asks (by decide) (by decide) queryConnection_inbox rfl rfl
      setFrame_carries hdistinct bothRoutes_of hasker hprovider bothRoutes_only.1 bothRoutes_only.2
      rfl rfl hloaded (by decide) hwaiting (by decide) hportable rfl setAnswer_carries rfl hdelivers
      (arrivedOs_input _)
  exact ⟨fuel, con', os', results, hexecute, hstatus, hname, hsame⟩

/-! The same query without a provider. -/

def refusalText : Bytes := ascii ("\x7b\"result\":[\x7b\"name\":\" \",\"value\":\" \"," ++
  "\"status_msg\":\"No Route found for this Parameter\",\"status\":1\x7d]\x7d")

def refusalLib : CJsonLib := exchangeLib setText refusalText setQuery.request noRouteMessage

def refusedFrame : Frame :=
  requestFrame refusalLib setQuery.request (objectTopic (ascii "B")) queryConnection

theorem zero_not_mem_refusalText : 0 ∉ refusalText := by
  simp only [refusalText, ascii_append, List.mem_append, not_or]
  refine ⟨?_, ?_⟩ <;> decide +kernel

theorem refusalText_length : refusalText.length ≤ 200 := by
  simp only [refusalText, ascii_append, List.length_append]
  decide +kernel

theorem refusalText_ne : refusalText ≠ setText := by
  intro h
  have hsecond : refusalText[2]? = setText[2]? := by rw [h]
  exact absurd hsecond (by decide +kernel)

theorem refusedFrame_carries : CarriesMessage refusalLib refusedFrame setQuery.request := by
  have hlength := setText_length.1
  have htext : rtMessageToByteArray refusalLib setQuery.request = setText := by
    rw [rtMessageToByteArray, refusalLib, exchangeLib]
    exact cstr_of_not_mem zero_not_mem_setText.1
  have hpayload : refusedFrame.payload = rtMessageToByteArray refusalLib setQuery.request := by
    refine sentFrame_payload _ _ _ _ ?_
    rw [htext]
    omega
  have hsize := refusedFrame.size_le
  rw [hpayload, htext] at hsize
  refine ⟨hpayload, exchangeLib_request rfl zero_not_mem_setText.1, ?_, by omega, by decide,
    by decide, (by decide : strstr refusedFrame.replyTopic.str noRouteTopic = false)⟩
  rw [hpayload, htext]
  exact hlength.1

theorem refusalLib_keeps : Keeps refusalLib noRouteMessage :=
  exchangeLib_response rfl zero_not_mem_refusalText refusalText_ne

theorem refusal_fits :
    (refusalFrame refusalLib refusedFrame).payload =
      rtMessageToByteArray refusalLib noRouteMessage ∧
    (refusalFrame refusalLib refusedFrame).size < 8192 := by
  have hlength := refusalText_length
  have htext : rtMessageToByteArray refusalLib noRouteMessage = refusalText := by
    rw [rtMessageToByteArray, refusalLib, exchangeLib]
    exact cstr_of_not_mem zero_not_mem_refusalText
  have hpayload : (refusalFrame refusalLib refusedFrame).payload =
      rtMessageToByteArray refusalLib noRouteMessage := by
    refine sentFrame_payload (errorConnection 0) refusedFrame.replyTopic.str (some noRouteTopic)
      rtMessageFlagsResponse ?_
    rw [htext]
    omega
  have hsize := Frame.size_le (refusalFrame refusalLib refusedFrame)
  rw [hpayload, htext] at hsize
  exact ⟨hpayload, by omega⟩

theorem query_refused_example : ∃ fuel con' os',
    setQuery.execute refusalLib fuel queryConnection
        (arrivedOs (refusalFrame refusalLib refusedFrame)) =
      .ok (true, ⟨rtError, [], ascii "No Route found for this Parameter", ascii "B"⟩, con',
        os') := by
  have hdistinct : DistinctClients [rtConnectedClientInit 1 5] := ⟨by decide, by decide⟩
  have hroutes : RoutesOf [rtConnectedClientInit 1 5] [internalRoute 0] := by
    refine ⟨⟨0, [], rfl, fun e he => by cases he⟩, fun e he ptr howner => ?_⟩
    rw [List.mem_singleton.mp he] at howner
    cases howner
  have hdelivers : Delivers (arrivedOs (refusalFrame refusalLib refusedFrame)).recvs :=
    fun _ => ⟨8191, rfl⟩
  obtain ⟨-, fuel, con', os', hexecute, -⟩ := query_refused (q := setQuery) rfl
    queryConnection_inbox rfl rfl refusedFrame_carries hdistinct hroutes List.mem_cons_self
    (by decide) refusal_fits.1 refusalLib_keeps refusal_fits.2 rfl hdelivers (arrivedOs_input _)
  exact ⟨fuel, con', os', hexecute⟩

theorem executed_query_reports_example : ∃ fuel con' os' results,
    setQuery.execute refusalLib fuel queryConnection
        (arrivedOs (refusalFrame refusalLib refusedFrame)) = .ok (true, results, con', os') ∧
    (results = {} ∨ ∃ o res sock, some relayInfo = some o ∧
      (queryConnection.fd = some sock ∨
        (arrivedOs (refusalFrame refusalLib refusedFrame)).nextSock ≤ sock) ∧
      StoredFrom refusalLib id [refusalFrame refusalLib refusedFrame] (some res) ∧
      results = receiveResponse o (ascii "B") res ∧ (results.status = rtOk ↔ AllOk res)) := by
  have hdelivers : Delivers (arrivedOs (refusalFrame refusalLib refusedFrame)).recvs :=
    fun _ => ⟨8191, rfl⟩
  have hres : rtMessageFromBytes refusalLib (refusalFrame refusalLib refusedFrame).payload =
      some noRouteMessage := by
    rw [refusal_fits.1]
    exact refusalLib_keeps noRouteMessage_portable
  have hstores := queryConnection_inbox.stores_refusal refusedFrame hres
  obtain ⟨fuel, con', os', hexecute, -⟩ := execute_stored (q := setQuery) rfl rfl rfl hdelivers
    (arrivedOs_input _) refusal_fits.2 hstores
  have harriving : Arriving id (fun _ => [refusalFrame refusalLib refusedFrame])
      (arrivedOs (refusalFrame refusalLib refusedFrame)) := by
    refine ⟨fun _ => (List.flatMap_singleton ..).symm, fun _ g hg => ?_, hdelivers⟩
    rw [List.mem_singleton.mp hg]
    exact refusal_fits.2
  exact ⟨fuel, con', os', _, hexecute, (executed_query_reports hexecute harriving rfl).2⟩

end RtMessage.DataProvider
