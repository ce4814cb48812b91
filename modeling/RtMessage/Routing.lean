import Mathlib.Data.List.Nodup
import RtMessage.Dispatch
import RtMessage.Forwarding
import RtMessage.FrameDelivery
import RtMessage.RouterSpec

/- A dispatch in which every handler answers `RT_OK`.

   `dispatchLoop_handled` is the loop for any way of forwarding: each matching route of the
   table as it was is handled once, in order. With sends that take all their bytes this
   makes `dispatch_outputs`: the dispatch of a frame sends its outputs and adds its
   subscription. -/
namespace RtMessage
open Lib

section Loop
variable {ε : Type} {J : CJsonLib} {forward : Forward ε} {msg : Message} {r : RtRouted ε}

/-- `Message.Matches` as the loop computes it. -/
def Message.selects (msg : Message) (route : RtRouteEntry) : Bool :=
  rtRoutedIsTopicMatch msg.hdr.topic.str route.expression.str

theorem handledLoop (I : RtRouted ε → Prop) (handled : RtRouted ε → RtRouteEntry → RtRouted ε)
    (htable : ∀ s, I s → ∃ added, s.routes = r.routes ++ added)
    (hstep : ∀ s, I s → ∀ route ∈ r.routes, msg.Matches route →
      messageHandler J forward msg route s = .ok (.ok, handled s route) ∧ I (handled s route))
    {pre post : List RtRouteEntry} {fuel : Nat} {b : Bool} {s : RtRouted ε} (hI : I s)
    (hsplit : r.routes = pre ++ post) (hfuel : post.length ≤ fuel) :
    loop .outOfFuel DispatchState.goesOn (dispatchTurn J forward msg) fuel
        ⟨pre.length, r.routes.length, b, s⟩ =
      .ok ⟨r.routes.length, r.routes.length, b || post.any msg.selects,
        (post.filter msg.selects).foldl handled s⟩ ∧
    I ((post.filter msg.selects).foldl handled s) := by
  induction post generalizing pre fuel b s with
  | nil =>
    have hlen : pre.length = r.routes.length := by rw [hsplit, List.append_nil]
    have hdone : DispatchState.goesOn ⟨pre.length, r.routes.length, b, s⟩ = false := by
      rw [hlen]
      exact decide_eq_false (Nat.lt_irrefl _)
    rw [loop_done hdone, hlen]
    exact ⟨by simp, hI⟩
  | cons route post ih =>
    obtain ⟨fuel, rfl⟩ : ∃ k, fuel = k + 1 := by
      rw [List.length_cons] at hfuel
      exact ⟨fuel - 1, by omega⟩
    have hfuel := Nat.le_of_succ_le_succ hfuel
    have hgoes : DispatchState.goesOn ⟨pre.length, r.routes.length, b, s⟩ = true := by
      refine decide_eq_true ?_
      change pre.length < r.routes.length
      rw [hsplit, List.length_append, List.length_cons]
      omega
    have hget : s.routes[pre.length]? = some route := by
      obtain ⟨added, hadded⟩ := htable s hI
      rw [hadded, hsplit, List.append_assoc, List.getElem?_append_right (Nat.le_refl _)]
      simp
    have hsplit : r.routes = (pre ++ [route]) ++ post := by
      rw [hsplit, List.append_assoc, List.singleton_append]
    have hlen : pre.length + 1 = (pre ++ [route]).length := by simp
    -- the route is handled, or skipped; either way the loop goes on behind it
    by_cases hm : msg.selects route = true
    · obtain ⟨hh, hI'⟩ := hstep s hI route (by simp [hsplit]) hm
      rw [loop_step hgoes (turn_handled hget hm hh), hlen, List.filter_cons_of_pos hm]
      obtain ⟨hloop, hend⟩ := ih (b := true) hI' hsplit hfuel
      refine ⟨?_, hend⟩
      rw [hloop]
      simp [hm]
    · rw [loop_step hgoes (turn_skip hget hm), hlen, List.filter_cons_of_neg hm]
      obtain ⟨hloop, hend⟩ := ih (b := b) hI hsplit hfuel
      refine ⟨?_, hend⟩
      rw [hloop]
      simp [hm]

/-- **A dispatch whose handlers all answer `RT_OK`** has each matching route handled once, in the
    order of the table it began with. -/
theorem dispatchLoop_handled (I : RtRouted ε → Prop)
    (handled : RtRouted ε → RtRouteEntry → RtRouted ε) (hI : I r)
    (htable : ∀ s, I s → ∃ added, s.routes = r.routes ++ added)
    (hstep : ∀ s, I s → ∀ route ∈ r.routes, msg.Matches route →
      messageHandler J forward msg route s = .ok (.ok, handled s route) ∧ I (handled s route))
    {fuel : Nat} (hfuel : r.routes.length ≤ fuel) :
    dispatchLoop J forward fuel msg r =
      .ok (r.routes.any msg.selects, (r.routes.filter msg.selects).foldl handled r) := by
  have hsplit : r.routes = [] ++ r.routes := rfl
  obtain ⟨hloop, -⟩ := handledLoop I handled htable hstep (b := false) hI hsplit hfuel
  rw [dispatchLoop]
  simp only [List.length_nil] at hloop
  rw [hloop]
  simp

end Loop

/-! Sends that take all their bytes. -/

/-- Every send takes all its bytes. -/
def Takes (s : Stream' SendResult) : Prop := ∀ n, s.get n = .complete

theorem Takes.tail {s : Stream' SendResult} (h : Takes s) : Takes s.tail := fun n => h (n + 1)

/-- The system after the frames, each on its socket. -/
def Os.afterFrames (os : Os) (out : List (Nat × Frame)) : Os :=
  out.foldl (fun os p => os.afterFrame p.1 p.2) os

section Frames
variable {os : Os}

@[simp] theorem afterFrames_nil : os.afterFrames [] = os := rfl

theorem afterFrames_append (a b : List (Nat × Frame)) :
    os.afterFrames (a ++ b) = (os.afterFrames a).afterFrames b := List.foldl_append

theorem afterFrames_input (out : List (Nat × Frame)) : (os.afterFrames out).input = os.input := by
  induction out generalizing os with
  | nil => rfl
  | cons p out ih => exact ih

theorem afterFrames_recvs (out : List (Nat × Frame)) : (os.afterFrames out).recvs = os.recvs := by
  induction out generalizing os with
  | nil => rfl
  | cons p out ih => exact ih

theorem afterFrames_received (out : List (Nat × Frame)) :
    (os.afterFrames out).received = os.received := by
  induction out generalizing os with
  | nil => rfl
  | cons p out ih => exact ih

theorem afterFrames_takes (h : Takes os.sends) (out : List (Nat × Frame)) :
    Takes (os.afterFrames out).sends := by
  induction out generalizing os with
  | nil => exact h
  | cons p out ih => exact ih h.tail.tail

/-- **What the sockets took**: the frames sent on them. -/
theorem wire_afterFrames (h : Takes os.sends) (sock : Nat) (out : List (Nat × Frame)) :
    wire sock (os.afterFrames out).sent =
      wire sock os.sent ++ (framesTo sock out).flatMap Frame.bytes := by
  induction out generalizing os with
  | nil => simp [framesTo]
  | cons p out ih =>
    change wire sock ((os.afterFrame p.1 p.2).afterFrames out).sent = _
    rw [ih h.tail.tail, wire_afterFrame (h 0) (h 1), List.append_assoc]
    congr 1
    rw [framesTo, framesTo, List.filterMap_cons]
    by_cases hs : p.1 = sock
    · simp only [if_pos hs, List.flatMap_cons]
    · simp only [if_neg hs, List.nil_append]

end Frames

/-! Clients and their sockets. -/

/-- The socket of the client at an address. -/
def socketOf (clients : List RtConnectedClient) (ptr : Nat) : Nat :=
  ((clients.find? fun k => k.ptr == ptr).map (·.fd)).getD 0

/-- What goes to clients, on their sockets. -/
def onSockets (clients : List RtConnectedClient) (out : List (Nat × Frame)) : List (Nat × Frame) :=
  out.map fun p => (socketOf clients p.1, p.2)

theorem onSockets_append (clients : List RtConnectedClient) (a b : List (Nat × Frame)) :
    onSockets clients (a ++ b) = onSockets clients a ++ onSockets clients b := List.map_append

/-- The clients are objects of their own, on descriptors of their own. -/
structure DistinctClients (clients : List RtConnectedClient) : Prop where
  ptrs : (clients.map (·.ptr)).Nodup
  fds : (clients.map (·.fd)).Nodup

section Clients
variable {clients : List RtConnectedClient} {clnt : RtConnectedClient}

theorem find?_ptr (h : (clients.map (·.ptr)).Nodup) (hmem : clnt ∈ clients) :
    clients.find? (fun k => k.ptr == clnt.ptr) = some clnt := by
  induction clients with
  | nil => cases hmem
  | cons k clients ih =>
    rw [List.map_cons, List.nodup_cons] at h
    rcases List.mem_cons.mp hmem with rfl | hmem
    · exact List.find?_cons_of_pos (by simp)
    · rw [List.find?_cons_of_neg]
      · exact ih h.2 hmem
      · intro heq
        refine h.1 ?_
        rw [eq_of_beq heq]
        exact List.mem_map_of_mem hmem

theorem DistinctClients.find (h : DistinctClients clients) (hmem : clnt ∈ clients) :
    clients.find? (fun k => k.ptr == clnt.ptr) = some clnt :=
  find?_ptr h.ptrs hmem

theorem DistinctClients.socketOf (h : DistinctClients clients) (hmem : clnt ∈ clients) :
    socketOf clients clnt.ptr = clnt.fd := by
  rw [RtMessage.socketOf, h.find hmem]
  rfl

theorem DistinctClients.eq_of_fd {clnt' : RtConnectedClient} (h : DistinctClients clients)
    (hmem : clnt ∈ clients) (hmem' : clnt' ∈ clients) (hfd : clnt.fd = clnt'.fd) : clnt = clnt' :=
  List.inj_on_of_nodup_map h.fds hmem hmem' hfd

theorem DistinctClients.eq_of_ptr {clnt' : RtConnectedClient} (h : DistinctClients clients)
    (hmem : clnt ∈ clients) (hmem' : clnt' ∈ clients) (hptr : clnt.ptr = clnt'.ptr) :
    clnt = clnt' :=
  List.inj_on_of_nodup_map h.ptrs hmem hmem' hptr

theorem DistinctClients.framesTo (h : DistinctClients clients) (hmem : clnt ∈ clients)
    {out : List (Nat × Frame)} (hout : ∀ p ∈ out, ∃ k ∈ clients, k.ptr = p.1) :
    framesTo clnt.fd (onSockets clients out) = framesTo clnt.ptr out := by
  rw [RtMessage.framesTo, RtMessage.framesTo, onSockets, List.filterMap_map]
  refine List.filterMap_congr fun p hp => ?_
  obtain ⟨k, hk, hptr⟩ := hout p hp
  rw [Function.comp_apply, ← hptr, h.socketOf hk]
  by_cases heq : k = clnt
  · rw [heq, if_pos rfl, if_pos rfl]
  · rw [if_neg fun hfd => heq (h.eq_of_fd hk hmem hfd),
      if_neg fun hp => heq (h.eq_of_ptr hk hmem hp)]

end Clients

/-! The table and its subscriptions. -/

/-- The subscription a client's route stands for. -/
def RtRouteEntry.subscription (e : RtRouteEntry) : Option Subscription :=
  match e.target with
  | .forwardMessage sub => some ⟨sub.client, sub.id, e.expression.str⟩
  | _ => none

/-- The table as the clients may think of it. -/
def subscriptions (routes : List RtRouteEntry) : List Subscription :=
  routes.filterMap (·.subscription)

/-- The expressions of the router's own routes. -/
def ownExpressions (routes : List RtRouteEntry) : List Bytes :=
  (routes.filter (·.subscription.isNone)).map (·.expression.str)

/-- The router's table: the internal route, and behind it routes that print and routes of
    the clients. -/
structure RoutesOf (clients : List RtConnectedClient) (routes : List RtRouteEntry) : Prop where
  internal : ∃ ptr rest, routes = internalRoute ptr :: rest ∧ ∀ e ∈ rest, e.target ≠ .onMessage
  served : ∀ e ∈ routes, ∀ ptr, e.owner = some ptr → ∃ k ∈ clients, k.ptr = ptr

section Table
variable {clients : List RtConnectedClient} {routes : List RtRouteEntry} {msg : Message} {f : Frame}

theorem subscription_owner (e : RtRouteEntry) : e.owner = e.subscription.map (·.client) := by
  unfold RtRouteEntry.owner RtRouteEntry.subscription
  cases e.target <;> rfl

theorem mem_subscriptions {u : Subscription} (h : u ∈ subscriptions routes) :
    ∃ e ∈ routes, e.owner = some u.client := by
  obtain ⟨e, he, hu⟩ := List.mem_filterMap.mp h
  refine ⟨e, he, ?_⟩
  rw [subscription_owner, hu]
  rfl

theorem subscription_matches {e : RtRouteEntry} {u : Subscription} (hu : e.subscription = some u)
    (ht : msg.hdr.topic.str = f.topic.str) : u.matches f = msg.selects e := by
  unfold RtRouteEntry.subscription at hu
  split at hu
  · cases hu
    rw [Subscription.matches, Message.selects, ht]
  · cases hu

theorem subscriptions_selected (ht : msg.hdr.topic.str = f.topic.str) :
    subscriptions (routes.filter msg.selects) = (subscriptions routes).filter (·.matches f) := by
  induction routes with
  | nil => rfl
  | cons e routes ih =>
    rw [List.filter_cons, subscriptions, subscriptions, List.filterMap_cons]
    cases hu : e.subscription with
    | none =>
      split
      · rw [List.filterMap_cons_none hu]
        exact ih
      · exact ih
    | some u =>
      rw [List.filter_cons, subscription_matches hu ht]
      split
      · rw [List.filterMap_cons_some hu]
        exact congrArg (u :: ·) ih
      · exact ih

theorem any_selected (ht : msg.hdr.topic.str = f.topic.str) :
    routes.any msg.selects = hasRoute (ownExpressions routes) (subscriptions routes) f := by
  induction routes with
  | nil => rfl
  | cons e routes ih =>
    rw [List.any_cons, ih, hasRoute, hasRoute, ownExpressions, ownExpressions, subscriptions,
      subscriptions]
    cases hu : e.subscription with
    | none =>
      rw [List.filterMap_cons_none hu, List.filter_cons_of_pos (by rw [hu]; rfl), List.map_cons,
        List.any_cons, ← ht, Bool.or_assoc]
      rfl
    | some u =>
      rw [List.filterMap_cons_some hu, List.filter_cons_of_neg (by rw [hu]; exact Bool.false_ne_true),
        List.any_cons, subscription_matches hu ht, Bool.or_left_comm]

end Table

/-! Frames whose subscriptions the router can read. -/

/-- What a client may send. What a SUBSCRIBE asks for can be read off it whatever the buffer
    holds behind it. -/
structure Frame.Admissible (J : CJsonLib) (f : Frame) : Prop where
  payload_pos : 0 < f.payload.length
  size_le : f.size ≤ 8192
  not_hello : f.topic.str ≠ helloTopic
  subscribe : f.topic.str = subscribeTopic → ∃ m topic routeId,
    (∀ rest, J.parse (cstr (f.payload ++ rest)) = some m) ∧
      rtMessageGetString m (ascii "topic") = some (some topic) ∧ topic.length < 128 ∧
      rtMessageGetInt32 m (ascii "route_id") = some routeId

section Admissible
variable {J : CJsonLib} {f : Frame}

theorem Frame.Admissible.controlRoute (h : f.Admissible J) :
    ∃ a, (∀ rest, controlRoute J f.header (f.payload ++ rest) = .ok a) ∧
      (∀ p, a = some p → p.1.length < 128) ∧
      f.subscription J = a.map fun p => (cstr p.1, p.2) := by
  by_cases hs : f.topic.str = subscribeTopic
  · obtain ⟨m, topic, routeId, hparse, htopic, hlength, hid⟩ := h.subscribe hs
    refine ⟨some (topic, toUInt32 routeId), fun rest => ?_, ?_, ?_⟩
    · rw [RtMessage.controlRoute, f.header_topic_str, if_pos hs, controlMessage, rtMessageFromBytes,
        hparse]
      simp only [htopic, hid, Option.getD_some, ok_bind, pure_eq_ok]
    · rintro p hp
      cases hp
      exact hlength
    · have hparse := hparse []
      rw [List.append_nil] at hparse
      rw [Frame.subscription, if_pos hs, hparse]
      simp only [htopic, hid, Option.bind_eq_bind, Option.bind_some, Option.join_some,
        Option.getD_some, Option.map_some]
      rfl
  · refine ⟨none, fun rest => ?_, fun p hp => (by cases hp), ?_⟩
    · rw [RtMessage.controlRoute, f.header_topic_str, if_neg hs, if_neg h.not_hello, pure_eq_ok]
    · rw [Frame.subscription, if_neg hs]
      rfl

theorem subscriptions_subscribe {ε : Type} (r : RtRouted ε) (clnt : Nat)
    {a : Option (Bytes × UInt32)} (ha : ∀ p, a = some p → p.1.length < 128) :
    subscriptions (r.subscribe clnt a).routes =
      subscriptions r.routes ++ (a.map fun p => (⟨clnt, p.2, cstr p.1⟩ : Subscription)).toList := by
  cases a with
  | none => exact (List.append_nil _).symm
  | some p =>
    have hlt := Nat.le_of_lt (ha p rfl)
    have hstr : (CArray.pad 128 (p.1.take 128)).str = cstr p.1 := by
      rw [List.take_of_length_le hlt, CArray.str, CArray.pad_data hlt, cstr_append_zeros]
    rw [RtRouted.subscribe, subscriptions, List.filterMap_append]
    congr 1
    simp only [clientRoute, RtRouteEntry.subscription, List.filterMap_cons, List.filterMap_nil, hstr]
    rfl

theorem ownExpressions_subscribe {ε : Type} (r : RtRouted ε) (clnt : Nat)
    (a : Option (Bytes × UInt32)) :
    ownExpressions (r.subscribe clnt a).routes = ownExpressions r.routes := by
  cases a with
  | none => rfl
  | some p =>
    rw [RtRouted.subscribe, ownExpressions, List.filter_append]
    rw [List.filter_cons_of_neg Bool.false_ne_true, List.filter_nil, List.append_nil]
    rfl

theorem RoutesOf.subscribe {ε : Type} {r : RtRouted ε} (h : RoutesOf r.clients r.routes)
    {clnt : RtConnectedClient} (hmem : clnt ∈ r.clients) (a : Option (Bytes × UInt32)) :
    RoutesOf r.clients (r.subscribe clnt.ptr a).routes := by
  cases a with
  | none => exact h
  | some p =>
    obtain ⟨ptr, rest, hroutes, hrest⟩ := h.internal
    constructor
    · refine ⟨ptr, rest ++ [clientRoute r.nextPtr clnt.ptr p.1 p.2], ?_, ?_⟩
      · rw [RtRouted.subscribe, hroutes, List.cons_append]
      · intro e he
        rcases List.mem_append.mp he with he | he
        · exact hrest e he
        · rw [List.mem_singleton.mp he]
          intro htarget
          cases htarget
    · intro e he owner howner
      rcases List.mem_append.mp he with he | he
      · exact h.served e he owner howner
      · rw [List.mem_singleton.mp he] at howner
        cases howner
        exact ⟨clnt, hmem, rfl⟩

end Admissible

/-! The dispatch of a frame. -/

/-- What a route's handler does with a frame, where `a` is the route the frame asks for. -/
def handledFrame (f : Frame) (sender : Nat) (a : Option (Bytes × UInt32)) (r : RtRouted Os)
    (route : RtRouteEntry) : RtRouted Os :=
  match route.target with
  | .onMessage => r.subscribe sender a
  | .printMessage => r
  | .forwardMessage sub =>
    { r with env := r.env.afterFrame (socketOf r.clients sub.client) (f.withControlData sub.id) }

section Dispatch
variable {J : CJsonLib} {f : Frame} {r : RtRouted Os} {rest : Bytes} {sender : Nat}
  {a : Option (Bytes × UInt32)}

/-- Routes that are not the internal one send the copies of the frame. -/
theorem foldl_handledFrame {routes : List RtRouteEntry} (h : ∀ e ∈ routes, e.target ≠ .onMessage) :
    routes.foldl (handledFrame f sender a) r =
      { r with env := r.env.afterFrames (onSockets r.clients
          ((subscriptions routes).map fun u => (u.client, f.withControlData u.id))) } := by
  induction routes generalizing r with
  | nil => rfl
  | cons e routes ih =>
    have ih := @ih
    rw [List.foldl_cons, ih fun k hk => h k (by simp [hk])]
    have he := h e (by simp)
    rw [subscriptions, subscriptions, List.filterMap_cons, handledFrame, RtRouteEntry.subscription]
    cases htarget : e.target with
    | onMessage => exact absurd htarget he
    | printMessage => rfl
    | forwardMessage sub => rfl

theorem RoutesOf.find {clients : List RtConnectedClient} {routes : List RtRouteEntry}
    (h : RoutesOf clients routes) (hdistinct : DistinctClients clients) {e : RtRouteEntry}
    (he : e ∈ routes) {sub : RtSubscription} (hsub : e.target = .forwardMessage sub) :
    ∃ k, clients.find? (fun k => k.ptr == sub.client) = some k ∧
      socketOf clients sub.client = k.fd := by
  obtain ⟨k, hk, hptr⟩ := h.served e he sub.client (by rw [RtRouteEntry.owner, hsub])
  rw [← hptr]
  exact ⟨k, hdistinct.find hk, hdistinct.socketOf hk⟩

theorem handler_handledFrame (hdistinct : DistinctClients r.clients)
    (ha : controlRoute J f.header (f.payload ++ rest) = .ok a) {s : RtRouted Os}
    (hclients : s.clients = r.clients) (htakes : Takes s.env.sends) {e : RtRouteEntry}
    (hroutes : RoutesOf r.clients r.routes) (he : e ∈ r.routes) :
    messageHandler J forwardMessage ⟨sender, f.header, f.payload ++ rest⟩ e s =
      .ok (.ok, handledFrame f sender a s e) := by
  unfold messageHandler handledFrame
  cases htarget : e.target with
  | onMessage =>
    dsimp only
    rw [onMessage_eq, ha, ok_bind, pure_eq_ok]
  | printMessage => rfl
  | forwardMessage sub =>
    dsimp only
    obtain ⟨k, hfind, hsocket⟩ := hroutes.find hdistinct he htarget
    have ht : f.header.topic.str.length ≤ 127 := f.header_topic_str ▸ f.topic.length_le
    have hr : f.header.replyTopic.str.length ≤ 127 :=
      f.header_replyTopic_str ▸ f.replyTopic.length_le
    have hn : f.header.payloadLength.toNat ≤ (f.payload ++ rest).length := by
      rw [f.header_payloadLength, List.length_append]
      exact Nat.le_add_right _ _
    have hheader : s.env.sends.head = .complete := htakes 0
    have hpayload : s.env.sends.tail.head = .complete := htakes 1
    rw [← hclients] at hfind hsocket
    rw [forwardMessage, forward_complete ht hr hfind hn hheader hpayload, ok_bind, pure_eq_ok,
      forwardedFrame_header, hsocket, Os.afterFrame, hheader, hpayload]

/-- The topics of the router's inbox match the internal route. -/
theorem control_selects {msg : Message} (ptr : Nat)
    (h : msg.hdr.topic.str = subscribeTopic ∨ msg.hdr.topic.str = helloTopic) :
    msg.selects (internalRoute ptr) = true := by
  have hexp : (internalRoute ptr).expression.str = ascii "_RTROUTED.>" :=
    CArray.pad_str (by decide) (by decide)
  rcases h with h | h
  · rw [Message.selects, h, hexp]
    decide
  · rw [Message.selects, h, hexp]
    decide

theorem dispatchLoop_frame (hdistinct : DistinctClients r.clients)
    (hroutes : RoutesOf r.clients r.routes) (htakes : Takes r.env.sends)
    (ha : controlRoute J f.header (f.payload ++ rest) = .ok a)
    (hnone : f.topic.str ≠ subscribeTopic → f.topic.str ≠ helloTopic → a = none) {fuel : Nat}
    (hfuel : r.routes.length ≤ fuel) :
    dispatchLoop J forwardMessage fuel ⟨sender, f.header, f.payload ++ rest⟩ r =
      .ok (hasRoute (ownExpressions r.routes) (subscriptions r.routes) f,
        { r with env := r.env.afterFrames (onSockets r.clients
            (copies (subscriptions r.routes) f)) }.subscribe sender a) := by
  let msg : Message := ⟨sender, f.header, f.payload ++ rest⟩
  have ht : msg.hdr.topic.str = f.topic.str := f.header_topic_str
  -- what the loop keeps: the clients, the answers, and the routes it started with
  let I (s : RtRouted Os) : Prop :=
    s.clients = r.clients ∧ Takes s.env.sends ∧ ∃ added, s.routes = r.routes ++ added
  have hkeeps : ∀ s, I s → ∀ e, I (handledFrame f sender a s e) := by
    rintro s ⟨hclients, hsends, added, hadded⟩ e
    unfold handledFrame
    cases e.target with
    | onMessage =>
      refine ⟨(s.subscribe_clients sender a).trans hclients, ?_, ?_⟩
      · rw [RtRouted.subscribe_env]
        exact hsends
      · cases a with
        | none => exact ⟨added, hadded⟩
        | some p => exact ⟨added ++ [clientRoute s.nextPtr sender p.1 p.2], by
            rw [RtRouted.subscribe, hadded, List.append_assoc]⟩
    | printMessage => exact ⟨hclients, hsends, added, hadded⟩
    | forwardMessage sub => exact ⟨hclients, hsends.tail.tail, added, hadded⟩
  have hhandled : ∀ s, I s → ∀ e ∈ r.routes, msg.Matches e →
      messageHandler J forwardMessage msg e s = .ok (.ok, handledFrame f sender a s e) ∧
        I (handledFrame f sender a s e) :=
    fun s hs e he _ => ⟨handler_handledFrame hdistinct ha hs.1 hs.2.1 hroutes he, hkeeps s hs e⟩
  have hloop := dispatchLoop_handled I (handledFrame f sender a)
    ⟨rfl, htakes, [], (List.append_nil _).symm⟩ (fun s hs => hs.2.2) hhandled hfuel
  rw [hloop, any_selected ht]
  congr 2
  rw [copies, ← subscriptions_selected ht]
  -- the internal route comes first, and it alone adds a route
  obtain ⟨ptr, own, hsplit, hown⟩ := hroutes.internal
  have hown' : ∀ e ∈ own.filter msg.selects, e.target ≠ .onMessage :=
    fun e he => hown e (List.mem_filter.mp he).1
  have hfilter : r.routes.filter msg.selects =
      if msg.selects (internalRoute ptr) = true then
        internalRoute ptr :: own.filter msg.selects else own.filter msg.selects := by
    rw [hsplit, List.filter_cons]
  rw [hfilter]
  by_cases hs : msg.selects (internalRoute ptr) = true
  · rw [if_pos hs, List.foldl_cons]
    change (own.filter msg.selects).foldl _ (r.subscribe sender a) = _
    rw [foldl_handledFrame hown', RtRouted.subscribe_clients, RtRouted.subscribe_env]
    cases a <;> rfl
  · have hsubscribe : f.topic.str ≠ subscribeTopic := fun heq =>
      hs (control_selects ptr (.inl (ht.trans heq)))
    have hhello : f.topic.str ≠ helloTopic := fun heq =>
      hs (control_selects ptr (.inr (ht.trans heq)))
    rw [if_neg hs, foldl_handledFrame hown', hnone hsubscribe hhello]
    rfl

theorem sendErrorMessage_complete (J : CJsonLib) (fuel fd : Nat) (f : Frame) {os : Os}
    (htakes : Takes os.sends) :
    rtConnectionSendErrorMessageToCaller J (fuel + 1) fd f.header os =
      .ok (.ok, os.afterFrame fd (refusalFrame J f)) := by
  have htopic : (CArray.pad 128 noRouteTopic).str = noRouteTopic :=
    CArray.pad_str (by decide) (by decide)
  have hreply : (CArray.pad 128 f.header.replyTopic.str).str = f.replyTopic.str := by
    rw [f.header_replyTopic_str]
    exact CArray.pad_str (Nat.le_succ_of_le f.replyTopic.length_le) f.replyTopic.nul_free
  have hlt : f.header.replyTopic.str.length < 128 :=
    f.header_replyTopic_str ▸ Nat.lt_succ_of_le f.replyTopic.length_le
  have hheader : os.sends.head = .complete := htakes 0
  have hpayload : os.sends.tail.head = .complete := htakes 1
  obtain ⟨sendBuffer, hsend⟩ := sendInternal_whole J (errorConnection fd) f.replyTopic.str
    (rtMessageToByteArray J noRouteMessage) (some noRouteTopic) rtMessageFlagsResponse os
    (f := refusalFrame J f) rfl rfl (by rw [hheader]; rfl) (by rw [hpayload]; rfl)
  rw [rtConnectionSendErrorMessageToCaller]
  simp only [show rtMessageHeaderInit.topic = .zero 128 from rfl,
    show rtMessageHeaderInit.replyTopic = .zero 128 from rfl,
    CArray.strcpy_zero (show noRouteTopic.length < 128 by decide), CArray.strcpy_zero hlt, ok_bind]
  rw [rtConnectionSendResponse, htopic, hreply, hsend, ok_bind, pure_eq_ok]

theorem dispatchLoop_unique {ε : Type} {J : CJsonLib} {forward : Forward ε} {msg : Message}
    {r : RtRouted ε} {fuel fuel' : Nat} {x y : Bool × RtRouted ε}
    (hx : dispatchLoop J forward fuel msg r = .ok x)
    (hy : dispatchLoop J forward fuel' msg r = .ok y) : x = y := by
  unfold dispatchLoop at hx hy
  obtain ⟨s, hs, hx⟩ := bind_eq_ok.mp hx
  obtain ⟨t, ht, hy⟩ := bind_eq_ok.mp hy
  rw [loop_unique hs ht, hy] at hx
  exact (Except.ok.inj hx).symm

/-- What the router does behind the loop. -/
def answerRequest (J : CJsonLib) (fuel : Nat) (clnt : RtConnectedClient)
    (p : Bool × RtRouted Os) : Except Fault (RtRouted Os) :=
  if !p.1 && rtMessageHeaderIsRequest clnt.header then do
    let (_, env) ← rtConnectionSendErrorMessageToCaller J fuel clnt.fd clnt.header p.2.env
    return { p.2 with env }
  else return p.2

theorem dispatchMessage_eq (J : CJsonLib) (fuel : Nat) (clnt : RtConnectedClient)
    (r : RtRouted Os) :
    rtRouterDispatchMessageFromClient J fuel clnt r =
      dispatchLoop J forwardMessage fuel clnt.message r >>= answerRequest J fuel clnt := rfl

/-- The refusal of a frame for which a route was found or not, on the sender's socket. -/
def refusalOn (J : CJsonLib) (fd : Nat) (f : Frame) (found : Bool) : List (Nat × Frame) :=
  if !found && rtMessageHeaderIsRequest f.header then [(fd, refusalFrame J f)] else []

theorem answerRequest_complete {clnt full : RtConnectedClient} {b : Bool}
    (hfd : full.fd = clnt.fd) (hheader : full.header = f.header) (htakes : Takes r.env.sends) :
    (∀ fuel x, answerRequest J fuel full (b, r) = .ok x → x =
      { r with env := r.env.afterFrames (refusalOn J clnt.fd f b) }) ∧
    ∀ fuel, answerRequest J (fuel + 1) full (b, r) =
      .ok { r with env := r.env.afterFrames (refusalOn J clnt.fd f b) } := by
  unfold answerRequest refusalOn
  dsimp only
  rw [hheader, hfd]
  by_cases href : (!b && rtMessageHeaderIsRequest f.header) = true
  · rw [if_pos href]
    constructor
    · intro fuel x hx
      rw [if_pos href] at hx
      cases fuel with
      | zero =>
        obtain ⟨p, hp, -⟩ := bind_eq_ok.mp hx
        rw [rtConnectionSendErrorMessageToCaller] at hp
        obtain ⟨topic, -, hp⟩ := bind_eq_ok.mp hp
        obtain ⟨replyTopic, -, hp⟩ := bind_eq_ok.mp hp
        cases hp
      | succ fuel =>
        rw [sendErrorMessage_complete J fuel clnt.fd f htakes, ok_bind, pure_eq_ok] at hx
        exact (Except.ok.inj hx).symm
    · intro fuel
      rw [if_pos href, sendErrorMessage_complete J fuel clnt.fd f htakes, ok_bind, pure_eq_ok]
      rfl
  · rw [if_neg href]
    simp only [if_neg href, pure_eq_ok]
    exact ⟨fun fuel x hx => (Except.ok.inj hx).symm, fun _ => rfl⟩

/-- **The dispatch of a frame** sends its outputs and adds the route it asks for. -/
theorem dispatch_frame (hdistinct : DistinctClients r.clients)
    (hroutes : RoutesOf r.clients r.routes) (htakes : Takes r.env.sends)
    {clnt full : RtConnectedClient} (hmem : clnt ∈ r.clients) (hptr : full.ptr = clnt.ptr)
    (hfd : full.fd = clnt.fd) (hheader : full.header = f.header)
    (hbuffer : full.readBuffer.data = f.bytes ++ rest)
    (ha : controlRoute J f.header (f.payload ++ rest) = .ok a)
    (hnone : f.topic.str ≠ subscribeTopic → f.topic.str ≠ helloTopic → a = none) :
    ∃ r', r' = { r with env := r.env.afterFrames (onSockets r.clients
        (outputs J (ownExpressions r.routes) (subscriptions r.routes) (clnt.ptr, f))) }.subscribe
          clnt.ptr a ∧
      (∀ fuel x, rtRouterDispatchMessageFromClient J fuel full r = .ok x → x = r') ∧
      ∀ fuel, r.routes.length < fuel →
        rtRouterDispatchMessageFromClient J fuel full r = .ok r' := by
  refine ⟨_, rfl, ?_⟩
  have hmessage : full.message = ⟨clnt.ptr, f.header, f.payload ++ rest⟩ := by
    rw [RtConnectedClient.message, hptr, hheader, hbuffer, f.header_headerLength, Frame.bytes,
      List.append_assoc, List.drop_left' f.headerBytes_length]
  let found := hasRoute (ownExpressions r.routes) (subscriptions r.routes) f
  let r₁ : RtRouted Os := { r with env := r.env.afterFrames (onSockets r.clients
    (copies (subscriptions r.routes) f)) }.subscribe clnt.ptr a
  have hloop : ∀ fuel, r.routes.length ≤ fuel →
      dispatchLoop J forwardMessage fuel full.message r = .ok (found, r₁) := fun fuel hfuel => by
    rw [hmessage]
    exact dispatchLoop_frame hdistinct hroutes htakes ha hnone hfuel
  have htakes' : Takes r₁.env.sends := by
    rw [RtRouted.subscribe_env]
    exact afterFrames_takes htakes _
  obtain ⟨hunique, hanswer⟩ := answerRequest_complete (J := J) hfd hheader htakes' (b := found)
  -- the copies and then the refusal are the outputs of the frame
  have hout : { r₁ with env := r₁.env.afterFrames (refusalOn J clnt.fd f found) } =
      { r with env := r.env.afterFrames (onSockets r.clients (outputs J (ownExpressions r.routes)
        (subscriptions r.routes) (clnt.ptr, f))) }.subscribe clnt.ptr a := by
    have hlast : onSockets r.clients (refusals J (ownExpressions r.routes)
        (subscriptions r.routes) (clnt.ptr, f)) = refusalOn J clnt.fd f found := by
      rw [refusals, refusalOn, onSockets, ← hdistinct.socketOf hmem]
      split <;> rfl
    rw [RtRouted.subscribe_env, ← hlast, ← afterFrames_append, ← onSockets_append]
    cases a <;> rfl
  rw [hout] at hunique
  simp only [hout] at hanswer
  constructor
  · intro fuel x hx
    rw [dispatchMessage_eq] at hx
    obtain ⟨p, hp, hx⟩ := bind_eq_ok.mp hx
    rw [dispatchLoop_unique hp (hloop _ (Nat.le_refl _))] at hx
    exact hunique fuel x hx
  · intro fuel hfuel
    obtain ⟨fuel, rfl⟩ : ∃ k, fuel = k + 1 := ⟨fuel - 1, by omega⟩
    rw [dispatchMessage_eq, hloop _ (Nat.le_of_lt hfuel), ok_bind]
    exact hanswer fuel

theorem dispatch_outputs (hdistinct : DistinctClients r.clients)
    (hroutes : RoutesOf r.clients r.routes) (htakes : Takes r.env.sends) (hf : f.Admissible J)
    {clnt full : RtConnectedClient} (hmem : clnt ∈ r.clients) (hptr : full.ptr = clnt.ptr)
    (hfd : full.fd = clnt.fd) (hheader : full.header = f.header)
    (hbuffer : full.readBuffer.data = f.bytes ++ rest) :
    ∃ a, (∀ p, a = some p → p.1.length < 128) ∧
      f.subscription J = a.map (fun p => (cstr p.1, p.2)) ∧ ∃ r',
        r' = { r with env := r.env.afterFrames (onSockets r.clients
          (outputs J (ownExpressions r.routes) (subscriptions r.routes) (clnt.ptr, f))) }.subscribe
            clnt.ptr a ∧
        (∀ fuel x, rtRouterDispatchMessageFromClient J fuel full r = .ok x → x = r') ∧
        ∀ fuel, r.routes.length < fuel →
          rtRouterDispatchMessageFromClient J fuel full r = .ok r' := by
  obtain ⟨a, ha, hlength, hsub⟩ := hf.controlRoute
  refine ⟨a, hlength, hsub, ?_⟩
  refine dispatch_frame hdistinct hroutes htakes hmem hptr hfd hheader hbuffer (ha rest) ?_
  intro hne _
  rw [Frame.subscription, if_neg hne] at hsub
  exact Option.map_eq_none_iff.mp hsub.symm

end Dispatch

end RtMessage
