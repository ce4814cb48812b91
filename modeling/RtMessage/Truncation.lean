import RtMessage.Listeners
import RtMessage.OwnBytes

/- The three bounded copies that a topic and a listener's expression go through.

   `rtConnection_SendInternal` cuts a topic at 127 bytes and terminates it, and so both
   headers hold what is left of it. `rtRouted_AddRoute` copies up to 128 bytes of an
   expression, and leaves them unterminated where there are no fewer. `Exchange` is a listener
   that was added and a message that was sent, with the two dispatches by the router;
   `no_silent_truncation_iff` says for which expressions and topics the message is forwarded
   as the full strings want it. -/
namespace RtMessage
open Lib

/-- A call of `rtConnection_AddListener` that returned `RT_OK`, on a connection whose sends all
    go through. The parser reads the SUBSCRIBE payload back, whatever follows it. -/
structure ListenerAdded (J : CJsonLib) (expression : Bytes) where
  con : RtConnection
  sock : Nat
  fd_eq : con.fd = some sock
  os : Os
  takes : Takes os.sends
  nextId : UInt32
  returned : ∃ fuel callback result,
    rtConnectionAddListener J fuel con expression callback nextId os = .ok result ∧ result.err = .ok
  fits : (rtMessageToByteArray J (subscribeMessage expression nextId)).length ≤ 8192
  parses : ∀ rest,
    J.parse (cstr (rtMessageToByteArray J (subscribeMessage expression nextId) ++ rest)) =
      some (subscribeMessage expression nextId)

/-- The SUBSCRIBE that the call sends. -/
def ListenerAdded.frame {J : CJsonLib} {expression : Bytes} (a : ListenerAdded J expression) :
    Frame :=
  sentFrame a.con subscribeTopic (rtMessageToByteArray J (subscribeMessage expression a.nextId))
    none 0

/-- A call of `rtConnection_SendMessage` that returned `RT_OK`, on such a connection. -/
structure MessageSent (J : CJsonLib) (topic : Bytes) where
  con : RtConnection
  sock : Nat
  fd_eq : con.fd = some sock
  os : Os
  takes : Takes os.sends
  msg : CJson
  returned : ∃ fuel con' os', rtConnectionSendMessage J fuel con msg topic os = .ok (.ok, con', os')

def MessageSent.frame {J : CJsonLib} {topic : Bytes} (b : MessageSent J topic) : Frame :=
  sentFrame b.con topic (rtMessageToByteArray J b.msg) none 0

/-- The router dispatches the frame, which the reader of its client `full` has completed. -/
structure DispatchesFrame (J : CJsonLib) (f : Frame) (full : RtConnectedClient) (r r' : RtRouted Os) :
    Prop where
  distinct : DistinctClients r.clients
  routes : RoutesOf r.clients r.routes
  takes : Takes r.env.sends
  served : ∃ clnt ∈ r.clients, full.ptr = clnt.ptr ∧ full.fd = clnt.fd
  header : full.header = f.header
  buffer : ∃ rest, full.readBuffer.data = f.bytes ++ rest
  returned : ∃ fuel, rtRouterDispatchMessageFromClient J fuel full r = .ok r'

section Sent
variable {J : CJsonLib} {expression topic : Bytes}

theorem ListenerAdded.sent (a : ListenerAdded J expression) {fuel : Nat}
    {callback : RtMessageCallback} {result : AddResult}
    (h : rtConnectionAddListener J fuel a.con expression callback a.nextId a.os = .ok result)
    (hok : result.err = .ok) :
    wire a.sock result.os.sent = wire a.sock a.os.sent ++ a.frame.bytes := by
  rcases addListener_cases h with ⟨-, rfl⟩ | ⟨i, hslot, -⟩
  · cases hok
  · cases fuel with
    | zero =>
      unfold rtConnectionAddListener at h
      simp only [hslot] at h
      obtain ⟨x, hx, -⟩ := bind_eq_ok.mp h
      cases hx
    | succ fuel =>
      have hheader : a.os.sends.head = .complete := a.takes 0
      have hpayload : a.os.sends.tail.head = .complete := a.takes 1
      obtain ⟨sendBuffer, hadd⟩ := addListener_complete J fuel callback hslot
        (show a.frame = _ from rfl) a.fd_eq (by rw [hheader]; rfl) (by rw [hpayload]; rfl)
      rw [h] at hadd
      cases hadd
      exact (wire_afterFrame (a.takes 0) (a.takes 1) a.sock a.sock a.frame).trans (by rw [if_pos rfl])

theorem MessageSent.sent (b : MessageSent J topic) {fuel : Nat} {con' : RtConnection} {os' : Os}
    (h : rtConnectionSendMessage J fuel b.con b.msg topic b.os = .ok (.ok, con', os')) :
    wire b.sock os'.sent = wire b.sock b.os.sent ++ b.frame.bytes := by
  cases fuel with
  | zero => cases h
  | succ fuel =>
    have hheader : b.os.sends.head = .complete := b.takes 0
    have hpayload : b.os.sends.tail.head = .complete := b.takes 1
    obtain ⟨sendBuffer, hsend⟩ := sendInternal_complete J fuel b.con topic
      (rtMessageToByteArray J b.msg) none 0 b.os (show b.frame = _ from rfl) b.fd_eq
      (by rw [hheader]; rfl) (by rw [hpayload]; rfl)
    cases h.symm.trans hsend
    exact (wire_afterFrame (b.takes 0) (b.takes 1) b.sock b.sock b.frame).trans (by rw [if_pos rfl])

theorem MessageSent.frame_topic (b : MessageSent J topic) (hnul : 0 ∉ topic) :
    b.frame.topic.str = topic.take 127 := by
  change cstr (topic.take 127) = topic.take 127
  exact cstr_of_not_mem fun hmem => hnul (List.mem_of_mem_take hmem)

theorem MessageSent.frame_not_request (b : MessageSent J topic) :
    rtMessageHeaderIsRequest b.frame.header = false := by
  have hflags : b.frame.header.flags = 0 := rfl
  rw [rtMessageHeaderIsRequest, hflags]
  decide

theorem getString_subscribeMessage (expression : Bytes) (id : UInt32) :
    rtMessageGetString (subscribeMessage expression id) (ascii "topic") =
      some (some expression) := rfl

theorem getInt32_subscribeMessage (expression : Bytes) (id : UInt32) :
    rtMessageGetInt32 (subscribeMessage expression id) (ascii "route_id") = some (toInt32 id) := rfl

theorem ListenerAdded.frame_topic (a : ListenerAdded J expression) :
    a.frame.topic.str = subscribeTopic := by
  change cstr (subscribeTopic.take 127) = subscribeTopic
  decide

theorem ListenerAdded.controlRoute (a : ListenerAdded J expression) (rest : Bytes) :
    controlRoute J a.frame.header (a.frame.payload ++ rest) = .ok (some (expression, a.nextId)) := by
  have htopic : a.frame.header.topic.str = subscribeTopic :=
    a.frame.header_topic_str.trans a.frame_topic
  have hpayload : a.frame.payload =
      rtMessageToByteArray J (subscribeMessage expression a.nextId) :=
    sentFrame_payload _ _ _ _ (Nat.lt_of_le_of_lt a.fits (by decide))
  rw [RtMessage.controlRoute, if_pos htopic, controlMessage, rtMessageFromBytes, hpayload, a.parses]
  simp only [ok_bind, getString_subscribeMessage, getInt32_subscribeMessage, Option.getD_some,
    toUInt32_toInt32, pure_eq_ok]

end Sent

/-! The dispatches. -/

section Dispatch
variable {J : CJsonLib} {f : Frame} {full : RtConnectedClient} {r r' : RtRouted Os}

theorem DispatchesFrame.message (h : DispatchesFrame J f full r r') :
    ∃ rest, full.readBuffer.data = f.bytes ++ rest ∧
      full.message = ⟨full.ptr, f.header, f.payload ++ rest⟩ := by
  obtain ⟨rest, hbuffer⟩ := h.buffer
  refine ⟨rest, hbuffer, ?_⟩
  rw [RtConnectedClient.message, h.header, hbuffer, f.header_headerLength, Frame.bytes,
    List.append_assoc, List.drop_left' f.headerBytes_length]

/-- A dispatch that returns has got past the internal route: what the message asks for, if its
    topic is one of the router's inbox, could be read. -/
theorem DispatchesFrame.asks (h : DispatchesFrame J f full r r') :
    ∃ rest a, full.readBuffer.data = f.bytes ++ rest ∧
      controlRoute J f.header (f.payload ++ rest) = .ok a ∧
      (f.topic.str ≠ subscribeTopic → f.topic.str ≠ helloTopic → a = none) := by
  obtain ⟨rest, hbuffer, hmessage⟩ := h.message
  refine ⟨rest, ?_⟩
  by_cases hcontrol : f.topic.str = subscribeTopic ∨ f.topic.str = helloTopic
  · cases hasked : controlRoute J f.header (f.payload ++ rest) with
    | ok a =>
      refine ⟨a, hbuffer, rfl, fun hs hh => ?_⟩
      exact absurd hcontrol (not_or.mpr ⟨hs, hh⟩)
    | error e =>
      -- the first turn of the loop fails
      obtain ⟨fuel, hreturned⟩ := h.returned
      obtain ⟨ptr, own, hroutes, -⟩ := h.routes.internal
      obtain ⟨x, hloop, -⟩ := bind_eq_ok.mp hreturned
      obtain ⟨s, hs, -⟩ := bind_eq_ok.mp hloop
      have hget : r.routes[0]? = some (internalRoute ptr) := by rw [hroutes]; rfl
      have hselects : full.message.selects (internalRoute ptr) = true := by
        refine control_selects ptr ?_
        rw [hmessage]
        exact f.header_topic_str.symm ▸ hcontrol
      have hhandler : messageHandler J forwardMessage full.message (internalRoute ptr) r =
          .error e := by
        rw [messageHandler, internalRoute, hmessage]
        dsimp only
        rw [onMessage_eq, hasked, error_bind]
      have hgoes : DispatchState.goesOn ⟨0, r.routes.length, false, r⟩ = true := by
        refine decide_eq_true ?_
        rw [hroutes]
        exact Nat.zero_lt_succ _
      rcases loop_ok_cases hs with ⟨hdone, -⟩ | ⟨fuel', u, -, -, hturn, -⟩
      · cases hgoes.symm.trans hdone
      · cases (turn_fault hget hselects hhandler).symm.trans hturn
  · obtain ⟨hs, hh⟩ := not_or.mp hcontrol
    refine ⟨none, hbuffer, ?_, fun _ _ => rfl⟩
    rw [controlRoute, f.header_topic_str, if_neg hs, if_neg hh, pure_eq_ok]

/-- **The dispatch of a SUBSCRIBE** appends the route, with the expression as it is copied. -/
theorem ListenerAdded.route {expression : Bytes} (a : ListenerAdded J expression)
    (h : DispatchesFrame J a.frame full r r') :
    r'.routes = r.routes ++ [clientRoute r.nextPtr full.ptr expression a.nextId] := by
  obtain ⟨rest, hbuffer⟩ := h.buffer
  obtain ⟨clnt, hmem, hptr, hfd⟩ := h.served
  obtain ⟨fuel, hreturned⟩ := h.returned
  obtain ⟨x, rfl, honly, -⟩ := dispatch_frame h.distinct h.routes h.takes hmem hptr hfd h.header
    hbuffer (a.controlRoute rest) (fun hne _ => absurd a.frame_topic hne)
  rw [honly fuel r' hreturned, hptr]
  rfl

/-- **The dispatch of a message that is no request** sends each client the copies that the
    routes of the table want. -/
theorem DispatchesFrame.sent (h : DispatchesFrame J f full r r')
    (hrequest : rtMessageHeaderIsRequest f.header = false) {k : RtConnectedClient}
    (hk : k ∈ r.clients) : wire k.fd r'.env.sent = wire k.fd r.env.sent ++
      (framesTo k.ptr (copies (subscriptions r.routes) f)).flatMap Frame.bytes := by
  obtain ⟨rest, a, hbuffer, ha, hnone⟩ := h.asks
  obtain ⟨clnt, hmem, hptr, hfd⟩ := h.served
  obtain ⟨fuel, hreturned⟩ := h.returned
  obtain ⟨x, rfl, honly, -⟩ := dispatch_frame h.distinct h.routes h.takes hmem hptr hfd h.header
    hbuffer ha hnone
  have hrefusals : refusals J (ownExpressions r.routes) (subscriptions r.routes) (clnt.ptr, f) = [] := by
    rw [refusals, hrequest, Bool.and_false]
    rfl
  rw [honly fuel r' hreturned, RtRouted.subscribe_env, wire_afterFrames h.takes,
    h.distinct.framesTo hk (outputs_clients h.routes hmem f), outputs, hrefusals, List.append_nil]

end Dispatch

/-! The stored expression. -/

section Stored
variable {expression : Bytes}

theorem stored_terminated_iff (hnul : 0 ∉ expression) (ptr clnt : Nat) (id : UInt32) :
    0 ∈ (clientRoute ptr clnt expression id).expression.data ↔ expression.length ≤ 127 := by
  rw [CArray.terminated_iff, clientRoute_str, cstr_of_not_mem hnul, List.length_take,
    RTMSG_MAX_EXPRESSION_LEN]
  omega

theorem stored_expression (hnul : 0 ∉ expression) (hlen : expression.length ≤ 127) (ptr clnt : Nat)
    (id : UInt32) : (clientRoute ptr clnt expression id).expression.str = expression := by
  rw [clientRoute_str, cstr_of_not_mem hnul]
  exact List.take_of_length_le (Nat.le_succ_of_le hlen)

end Stored

/-! Forwarding. -/

/-- Between the copies for the routes `pre` and those for the routes `post` the client is sent
    one with the id. -/
def ForwardedBetween (f : Frame) (id : UInt32) (pre post : List RtRouteEntry)
    (k : RtConnectedClient) (r r' : RtRouted Os) : Prop :=
  wire k.fd r'.env.sent = wire k.fd r.env.sent ++
    (framesTo k.ptr (copies (subscriptions pre) f) ++ f.withControlData id ::
      framesTo k.ptr (copies (subscriptions post) f)).flatMap Frame.bytes

theorem copies_between {pre post : List RtRouteEntry} {route : RtRouteEntry} {u : Subscription}
    (hu : route.subscription = some u) (f : Frame) :
    framesTo u.client (copies (subscriptions (pre ++ route :: post)) f) =
      framesTo u.client (copies (subscriptions pre) f) ++
        ((if u.matches f then [f.withControlData u.id] else []) ++
          framesTo u.client (copies (subscriptions post) f)) := by
  have hsplit : subscriptions (pre ++ route :: post) =
      subscriptions pre ++ ([u] ++ subscriptions post) := by
    rw [subscriptions, List.filterMap_append, List.filterMap_cons_some hu]
    rfl
  have hcopies : ∀ a b, copies (a ++ b) f = copies a f ++ copies b f := fun a b => by
    rw [copies, List.filter_append, List.map_append]
    rfl
  rw [hsplit, hcopies, hcopies, framesTo_append, framesTo_append]
  congr 2
  rw [copies, List.filter_singleton]
  cases u.matches f with
  | false => rfl
  | true =>
    simp only [cond_true, List.map_singleton, framesTo, List.filterMap_cons, List.filterMap_nil,
      if_true]

/-- A copy is sent for a route exactly if the route matches. -/
theorem forwardedBetween_iff {J : CJsonLib} {f : Frame} {full k : RtConnectedClient}
    {r r' : RtRouted Os} (h : DispatchesFrame J f full r r')
    (hrequest : rtMessageHeaderIsRequest f.header = false) {pre post : List RtRouteEntry}
    {route : RtRouteEntry} (htable : r.routes = pre ++ route :: post) {u : Subscription}
    (hu : route.subscription = some u) (hk : k ∈ r.clients) (hptr : k.ptr = u.client) :
    ForwardedBetween f u.id pre post k r r' ↔ u.matches f = true := by
  have hsent := h.sent hrequest hk
  rw [htable, hptr, copies_between hu] at hsent
  rw [ForwardedBetween, hptr, hsent, List.append_cancel_left_eq]
  by_cases hm : u.matches f = true
  · rw [if_pos hm, List.singleton_append]
    exact iff_of_true rfl hm
  · rw [if_neg hm, List.nil_append]
    refine iff_of_false (fun heq => ?_) hm
    have hlen := congrArg List.length heq
    have hpos := (f.withControlData u.id).size_pos
    rw [List.flatMap_append, List.flatMap_append, List.flatMap_cons, List.length_append,
      List.length_append, List.length_append, Frame.bytes_length] at hlen
    omega

/-- **When nothing is silently cut**: the expression leaves room for its NUL, and the first 127
    bytes of the topic match it exactly if the whole topic does. -/
theorem no_silent_truncation_iff {J : CJsonLib} {expression topic : Bytes}
    (hexpression : 0 ∉ expression) (htopic : 0 ∉ topic) (a : ListenerAdded J expression)
    (b : MessageSent J topic) {s p : RtConnectedClient} {r₀ r₁ r₂ r₃ : RtRouted Os}
    (hadd : DispatchesFrame J a.frame s r₀ r₁) (hsend : DispatchesFrame J b.frame p r₂ r₃)
    {route : RtRouteEntry} (hroute : r₁.routes = r₀.routes ++ [route])
    {pre post : List RtRouteEntry} (htable : r₂.routes = pre ++ route :: post)
    {k : RtConnectedClient} (hk : k ∈ r₂.clients) (hptr : k.ptr = s.ptr) :
    0 ∈ route.expression.data ∧ (ForwardedBetween b.frame a.nextId pre post k r₂ r₃ ↔
        rtRoutedIsTopicMatch topic expression = true) ↔
      expression.length ≤ 127 ∧ rtRoutedIsTopicMatch (topic.take 127) expression =
        rtRoutedIsTopicMatch topic expression := by
  have hentry : route = clientRoute r₀.nextPtr s.ptr expression a.nextId := by
    have happend := hroute.symm.trans (a.route hadd)
    exact List.singleton_inj.mp (List.append_cancel_left happend)
  rw [hentry, stored_terminated_iff hexpression]
  refine and_congr_right fun hlen => ?_
  have hu : route.subscription = some ⟨s.ptr, a.nextId, expression⟩ := by
    have hstored := stored_expression hexpression hlen r₀.nextPtr s.ptr a.nextId
    rw [hentry, RtRouteEntry.subscription, hstored]
    rfl
  have hforwarded := forwardedBetween_iff hsend b.frame_not_request htable hu hk hptr
  rw [hforwarded, Subscription.matches, b.frame_topic htopic]
  exact Bool.eq_iff_iff.symm

/-! A topic of 128 bytes, and a listener for its first 127. -/

def longTopic : Bytes := List.replicate 128 97
def cutTopic : Bytes := List.replicate 127 97

def quotedText (expression : Bytes) : Bytes :=
  ascii "\x7b\"topic\":\"" ++ (expression ++ ascii "\",\"route_id\":5\x7d")

/-- A library that prints and reads the SUBSCRIBE for one expression. -/
def quotingLib (expression : Bytes) : CJsonLib where
  parse text := if (quotedText expression).isPrefixOf text
    then some (subscribeMessage expression 5) else none
  print _ := quotedText expression

/-- A router whose one client subscribes and publishes. -/
def oneClient : RtRouted Os :=
  ⟨[rtConnectedClientInit 1 0], [internalRoute 2], 3, .idle (Stream'.const .complete)⟩

section Example
variable {expression topic : Bytes}

theorem quotedText_free (h : 0 ∉ expression) : 0 ∉ quotedText expression := by
  intro hmem
  rcases List.mem_append.mp hmem with hmem | hmem
  · revert hmem
    decide
  · rcases List.mem_append.mp hmem with hmem | hmem
    · exact h hmem
    · revert hmem
      decide

/-- The listener is added on a connection of its own. -/
def exampleAdded (h : 0 ∉ expression) (hlen : expression.length ≤ 127) :
    ListenerAdded (quotingLib expression) expression where
  con := openConnection
  sock := 0
  fd_eq := rfl
  os := .idle (Stream'.const .complete)
  takes := fun _ => rfl
  nextId := 5
  returned := by
    obtain ⟨r, hadd, hok⟩ := openConnection_adds (quotingLib expression) expression (.user 0) 5
    exact ⟨1, .user 0, r, hadd, hok⟩
  fits := by
    have hfree := quotedText_free h
    have h₁ : (ascii "\x7b\"topic\":\"").length = 10 := by decide
    have h₂ : (ascii "\",\"route_id\":5\x7d").length = 15 := by decide
    change (cstr (quotedText expression)).length ≤ 8192
    rw [cstr_of_not_mem hfree, quotedText, List.length_append, List.length_append]
    omega
  parses := by
    intro rest
    have hfree := quotedText_free h
    change (quotingLib expression).parse (cstr (cstr (quotedText expression) ++ rest)) = _
    rw [cstr_of_not_mem hfree, cstr_append hfree]
    exact if_pos (List.isPrefixOf_iff_prefix.mpr (List.prefix_append _ _))

def exampleSent (expression topic : Bytes) : MessageSent (quotingLib expression) topic where
  con := openConnection
  sock := 0
  fd_eq := rfl
  os := .idle (Stream'.const .complete)
  takes := fun _ => rfl
  msg := subscribeMessage expression 5
  returned := by
    have hfull : ∀ n, (Os.idle (Stream'.const .complete)).sends.head.Full n := fun n => rfl
    obtain ⟨sendBuffer, hsend⟩ := sendInternal_complete (quotingLib expression) 0 openConnection
      topic (rtMessageToByteArray (quotingLib expression) (subscribeMessage expression 5)) none 0
      (.idle (Stream'.const .complete)) rfl rfl (hfull _) (hfull _)
    exact ⟨1, _, _, hsend⟩

theorem oneClient_dispatches {J : CJsonLib} {f : Frame} {r : RtRouted Os} {a : Option (Bytes × UInt32)}
    (hclients : r.clients = [rtConnectedClientInit 1 0]) (hroutes : RoutesOf r.clients r.routes)
    (htakes : Takes r.env.sends) (hsize : f.size < 8192)
    (ha : ∀ rest, controlRoute J f.header (f.payload ++ rest) = .ok a)
    (hnone : f.topic.str ≠ subscribeTopic → f.topic.str ≠ helloTopic → a = none) :
    ∃ r', DispatchesFrame J f (holding f []) r r' ∧ r'.clients = r.clients ∧
      r'.routes = (r.subscribe 1 a).routes ∧ Takes r'.env.sends := by
  have hdistinct : DistinctClients r.clients := by
    rw [hclients]
    exact ⟨List.nodup_singleton _, List.nodup_singleton _⟩
  have hmem : rtConnectedClientInit 1 0 ∈ r.clients := by
    rw [hclients]
    exact List.mem_singleton_self _
  obtain ⟨r', hr', -, hreturned⟩ := dispatch_frame hdistinct hroutes htakes hmem
    (show (holding f []).ptr = _ from rfl) rfl rfl (holding_data hsize) (ha _) hnone
  refine ⟨r', ⟨hdistinct, hroutes, htakes, ⟨_, hmem, rfl, rfl⟩, rfl, ⟨_, holding_data hsize⟩,
    ⟨_, hreturned _ (Nat.lt_succ_self _)⟩⟩, ?_, ?_, ?_⟩
  · rw [hr', RtRouted.subscribe_clients]
  · rw [hr']
    cases a <;> rfl
  · rw [hr', RtRouted.subscribe_env]
    exact afterFrames_takes htakes _

theorem exchange_exists (hexpression : 0 ∉ expression) (hlen : expression.length ≤ 127)
    (htopic : 0 ∉ topic) (hsubscribe : topic.take 127 ≠ subscribeTopic)
    (hhello : topic.take 127 ≠ helloTopic) :
    ∃ r₁ r₃, DispatchesFrame (quotingLib expression) (exampleAdded hexpression hlen).frame
        (holding (exampleAdded hexpression hlen).frame []) oneClient r₁ ∧
      DispatchesFrame (quotingLib expression) (exampleSent expression topic).frame
        (holding (exampleSent expression topic).frame []) r₁ r₃ ∧
      r₁.routes = [internalRoute 2] ++ [clientRoute 3 1 expression 5] ∧
      r₁.clients = [rtConnectedClientInit 1 0] := by
  let a := exampleAdded hexpression hlen
  let b := exampleSent expression topic
  have hpayload : (quotedText expression).length ≤ 152 := by
    have h₁ : (ascii "\x7b\"topic\":\"").length = 10 := by decide
    have h₂ : (ascii "\",\"route_id\":5\x7d").length = 15 := by decide
    rw [quotedText, List.length_append, List.length_append]
    omega
  have hsize : ∀ f : Frame, f.payload = a.frame.payload → f.size < 8192 := by
    intro f hf
    have hheader := f.headerLength_le
    have hle : f.payload.length ≤ (cstr (quotedText expression)).length := by
      rw [hf]
      exact List.length_take_le' _ _
    have hcstr := cstr_length_le (quotedText expression)
    rw [Frame.size]
    omega
  have hroutes : RoutesOf oneClient.clients oneClient.routes :=
    ⟨⟨2, [], rfl, fun _ he => by cases he⟩, fun e he ptr howner => by
      rw [List.mem_singleton.mp he] at howner
      cases howner⟩
  obtain ⟨r₁, hadd, hclients, htable, htakes⟩ := oneClient_dispatches rfl hroutes (fun _ => rfl)
    (hsize a.frame rfl) a.controlRoute (fun hne _ => absurd a.frame_topic hne)
  have hroutes₁ : RoutesOf r₁.clients r₁.routes := by
    rw [hclients, htable]
    exact hroutes.subscribe (List.mem_singleton_self (rtConnectedClientInit 1 0)) _
  have htopic' := b.frame_topic htopic
  obtain ⟨r₃, hsend, -, -, -⟩ := oneClient_dispatches (J := quotingLib expression) hclients hroutes₁
    htakes (hsize b.frame rfl) (a := none)
    (fun rest => by
      rw [controlRoute, b.frame.header_topic_str, htopic', if_neg hsubscribe, if_neg hhello,
        pure_eq_ok])
    (fun _ _ => rfl)
  exact ⟨r₁, r₃, hadd, hsend, htable, hclients⟩

end Example

theorem no_silent_truncation_iff_example : ∃ (r₁ r₃ : RtRouted Os),
    0 ∈ (clientRoute 3 1 cutTopic 5).expression.data ∧
      (ForwardedBetween (exampleSent cutTopic cutTopic).frame 5 [internalRoute 2] []
          (rtConnectedClientInit 1 0) r₁ r₃ ↔ rtRoutedIsTopicMatch cutTopic cutTopic = true) := by
  have hfree : 0 ∉ cutTopic := by decide +kernel
  have hlen : cutTopic.length ≤ 127 := by decide +kernel
  obtain ⟨r₁, r₃, hadd, hsend, htable, hclients⟩ :=
    exchange_exists hfree hlen hfree (by decide +kernel) (by decide +kernel)
  have hmem : rtConnectedClientInit 1 0 ∈ r₁.clients := hclients ▸ List.mem_singleton_self _
  exact ⟨r₁, r₃, (no_silent_truncation_iff hfree hfree (exampleAdded hfree hlen)
    (exampleSent cutTopic cutTopic) hadd hsend htable htable hmem rfl).mpr ⟨hlen, rfl⟩⟩

/-- The message on the long topic goes to the listener for its first 127 bytes. -/
theorem topic_silently_cut : ∃ (r₁ r₃ : RtRouted Os),
    ForwardedBetween (exampleSent cutTopic longTopic).frame 5 [internalRoute 2] []
        (rtConnectedClientInit 1 0) r₁ r₃ ∧ rtRoutedIsTopicMatch longTopic cutTopic = false ∧
    ¬ ∀ (J : CJsonLib) (expression topic : Bytes), 0 ∉ expression → 0 ∉ topic →
      ∀ (a : ListenerAdded J expression) (b : MessageSent J topic) (s p : RtConnectedClient)
        (r₀ r₁ r₂ r₃ : RtRouted Os) (route : RtRouteEntry) (pre post : List RtRouteEntry)
        (k : RtConnectedClient), DispatchesFrame J a.frame s r₀ r₁ →
        DispatchesFrame J b.frame p r₂ r₃ → r₁.routes = r₀.routes ++ [route] →
        r₂.routes = pre ++ route :: post → k ∈ r₂.clients → k.ptr = s.ptr →
        0 ∈ route.expression.data ∧ (ForwardedBetween b.frame a.nextId pre post k r₂ r₃ ↔
          rtRoutedIsTopicMatch topic expression = true) := by
  have hfree : 0 ∉ cutTopic := by decide +kernel
  have hfree' : 0 ∉ longTopic := by decide +kernel
  have hlen : cutTopic.length ≤ 127 := by decide +kernel
  have hmiss : rtRoutedIsTopicMatch longTopic cutTopic = false := by decide +kernel
  obtain ⟨r₁, r₃, hadd, hsend, htable, hclients⟩ :=
    exchange_exists hfree hlen hfree' (by decide +kernel) (by decide +kernel)
  have hmem : rtConnectedClientInit 1 0 ∈ r₁.clients := hclients ▸ List.mem_singleton_self _
  have hu : (clientRoute 3 1 cutTopic 5).subscription = some ⟨1, 5, cutTopic⟩ := by
    have hstored := stored_expression hfree hlen 3 1 5
    rw [RtRouteEntry.subscription, hstored]
    rfl
  have hforwarded := (forwardedBetween_iff hsend (MessageSent.frame_not_request _) htable hu hmem
    rfl).mpr (by
      rw [Subscription.matches, MessageSent.frame_topic _ hfree']
      decide +kernel)
  refine ⟨r₁, r₃, hforwarded, hmiss, fun hclaim => ?_⟩
  have hmatch := (hclaim _ cutTopic longTopic hfree hfree' (exampleAdded hfree hlen) _ _ _ _ _ _ _ _
    _ _ _ hadd hsend htable htable hmem rfl).2.mp hforwarded
  rw [hmiss] at hmatch
  cases hmatch

end RtMessage
