import RtMessage.Subscribers
import RtMessage.World

/- What is where in a run of a router and its clients.

   Three tables have to agree: the slots of a client's listeners, the SUBSCRIBE frames that
   are still on their way, and the router's routes. `Accounted` keeps account of all frames:
   those a client has sent are those the router has handled and those it has not read, and
   those that came of what was handled are those the client has taken and those it has not.
   `Accounted.step` is one lemma for each call that a step can be. -/
namespace RtMessage
open Lib

/-! What is seen of a run. -/

/-- The payload of the SUBSCRIBE with which a listener is registered. -/
def RtListener.subscribePayload (J : CJsonLib) (l : RtListener) : Bytes :=
  rtMessageToByteArray J (subscribeMessage l.expression l.subscriptionId)

structure RoutedMessage where
  sender : Nat
  topic : Bytes
  payload : Bytes
  deriving DecidableEq

namespace WorldEvent

/-- The client whose call it is. -/
def caller : WorldEvent → Option Nat
  | added client _ _ => some client
  | refused client => some client
  | published client _ _ => some client
  | read _ _ => none
  | dispatched client _ => some client

/-- The topic and the payload that a call sends. -/
def sends (J : CJsonLib) : WorldEvent → Option (Bytes × Bytes)
  | added _ _ l => some (subscribeTopic, l.subscribePayload J)
  | published _ topic payload => some (topic, payload)
  | _ => none

/-- The message that the router dispatches. -/
def routed : WorldEvent → Option RoutedMessage
  | read client (some (hdr, payload)) => some ⟨client, hdr.topic.str, payload⟩
  | _ => none

/-- The callback that is made. -/
def call : WorldEvent → Option CallbackCall
  | dispatched _ call => call
  | _ => none

def listener : WorldEvent → Option ConnectionEvent
  | added _ slot l => some (.added slot l)
  | _ => none

end WorldEvent

/-- What a client did. -/
def history (client : Nat) (es : List WorldEvent) : List WorldEvent :=
  es.filter (·.caller == some client)

/-- The messages that the router has dispatched, in order. -/
def routedIn (es : List WorldEvent) : List RoutedMessage := es.filterMap (·.routed)

/-! What the calls send. -/

/-- The library prints the message, and parses it back whatever follows it. -/
structure CJsonLib.ReadsBack (J : CJsonLib) (m : CJson) : Prop where
  printed : rtMessageToByteArray J m ≠ []
  parsed : ∀ rest, J.parse (cstr (rtMessageToByteArray J m ++ rest)) = some m

/-- The length of the frame of a message without a reply topic. -/
def frameLength (topic payload : Bytes) : Nat := 28 + topic.length + payload.length

structure RtListener.Subscribable (J : CJsonLib) (l : RtListener) : Prop where
  nul_free : 0 ∉ l.expression
  expression_pos : 0 < l.expression.length
  expression_le : l.expression.length ≤ 127
  id_lt : l.subscriptionId.toNat < 2^31
  readsBack : J.ReadsBack (subscribeMessage l.expression l.subscriptionId)
  fits : frameLength subscribeTopic (l.subscribePayload J) < 8192

structure Publishable (topic payload : Bytes) : Prop where
  nul_free : 0 ∉ topic
  topic_pos : 0 < topic.length
  topic_le : topic.length ≤ 127
  not_reserved : ¬ ascii "_RTROUTED." <+: topic
  payload_ne : payload ≠ []
  fits : frameLength topic payload < 8192

def WorldEvent.Allowed (J : CJsonLib) : WorldEvent → Prop
  | .added _ _ l => l.Subscribable J
  | .published _ topic payload => Publishable topic payload
  | _ => True

/-! The frames that a client sends. -/

/-- A frame that is no request and no reply, and fits the buffers. -/
structure Frame.Plain (f : Frame) : Prop where
  flags : f.flags = 0
  replyTopic : f.replyTopic.str = []
  size_lt : f.size < 8192

theorem Frame.Plain.not_request {f : Frame} (h : f.Plain) :
    rtMessageHeaderIsRequest f.header = false := by
  have hflags : f.header.flags = 0 := h.flags
  rw [rtMessageHeaderIsRequest, hflags]
  decide

theorem Frame.Plain.routed {f : Frame} (h : f.Plain) (id : UInt32) :
    (f.withControlData id).Routed := by
  have hreply : (f.withControlData id).replyTopic.str = [] := h.replyTopic
  rw [Frame.Routed, hreply]
  decide

theorem sentFrame_plain (con : RtConnection) {topic payload : Bytes} (hnul : 0 ∉ topic)
    (hle : topic.length ≤ 127) (hfits : frameLength topic payload < 8192) :
    (sentFrame con topic payload none 0).topic.str = topic ∧
      (sentFrame con topic payload none 0).payload = payload ∧
      (sentFrame con topic payload none 0).Plain := by
  have htopic : (sentFrame con topic payload none 0).topic.str = topic := by
    change cstr (topic.take 127) = topic
    rw [List.take_of_length_le hle, cstr_of_not_mem hnul]
  have hpayload : (sentFrame con topic payload none 0).payload = payload := by
    refine sentFrame_payload _ _ _ _ ?_
    rw [frameLength] at hfits
    omega
  have hreply : (sentFrame con topic payload none 0).replyTopic.str = [] := by
    change cstr ([].take 127) = []
    decide
  refine ⟨htopic, hpayload, rfl, hreply, ?_⟩
  rw [Frame.size, Frame.headerLength, htopic, hpayload, hreply]
  exact hfits

section Sent
variable {J : CJsonLib} {f : Frame} {l : RtListener}

theorem RtListener.Subscribable.subscription (h : l.Subscribable J)
    (htopic : f.topic.str = subscribeTopic) (hpayload : f.payload = l.subscribePayload J) :
    f.subscription J = some (l.expression, l.subscriptionId) := by
  have hparse := h.readsBack.parsed []
  rw [List.append_nil] at hparse
  rw [Frame.subscription, if_pos htopic, hpayload, RtListener.subscribePayload, hparse]
  change some (cstr l.expression, toUInt32 (toInt32 l.subscriptionId)) = _
  rw [cstr_of_not_mem h.nul_free, toUInt32_toInt32]

theorem RtListener.Subscribable.admissible (h : l.Subscribable J) (hplain : f.Plain)
    (htopic : f.topic.str = subscribeTopic) (hpayload : f.payload = l.subscribePayload J) :
    f.Admissible J where
  payload_pos := by
    rw [hpayload]
    exact List.length_pos_iff.mpr h.readsBack.printed
  size_le := Nat.le_of_lt hplain.size_lt
  not_hello := by
    rw [htopic]
    decide
  subscribe := by
    intro _
    refine ⟨subscribeMessage l.expression l.subscriptionId, l.expression, toInt32 l.subscriptionId,
      fun rest => ?_, rfl, Nat.lt_succ_of_le h.expression_le, rfl⟩
    rw [hpayload]
    exact h.readsBack.parsed rest

theorem Publishable.topic_ne {topic payload reserved : Bytes} (h : Publishable topic payload)
    (hreserved : ascii "_RTROUTED." <+: reserved) : topic ≠ reserved := by
  rintro rfl
  exact h.not_reserved hreserved

theorem Publishable.admissible {topic payload : Bytes} (h : Publishable topic payload)
    (hplain : f.Plain) (htopic : f.topic.str = topic) (hpayload : f.payload = payload) :
    f.Admissible J where
  payload_pos := by
    rw [hpayload]
    exact List.length_pos_iff.mpr h.payload_ne
  size_le := Nat.le_of_lt hplain.size_lt
  not_hello := htopic ▸ h.topic_ne (by decide)
  subscribe := fun hsubscribe => absurd (htopic.symm.trans hsubscribe) (h.topic_ne (by decide))

end Sent

/-! A history that goes on. -/

theorem filterMap_snoc_none {α β : Type} {g : α → Option β} {a : α} (h : g a = none) (l : List α) :
    (l ++ [a]).filterMap g = l.filterMap g := by
  rw [List.filterMap_append, List.filterMap_cons_none h, List.filterMap_nil, List.append_nil]

theorem filterMap_snoc_some {α β : Type} {g : α → Option β} {a : α} {b : β} (h : g a = some b)
    (l : List α) : (l ++ [a]).filterMap g = l.filterMap g ++ [b] := by
  rw [List.filterMap_append, List.filterMap_cons_some h, List.filterMap_nil]

/-! What a client has sent. -/

/-- The frames a client has sent, by what it did. -/
structure Outbox (J : CJsonLib) (client : Nat) (hist : List WorldEvent) (nextId : UInt32)
    (sent : List Frame) : Prop where
  contents : hist.filterMap (·.sends J) = sent.map fun f => (f.topic.str, f.payload)
  plain : ∀ f ∈ sent, f.Plain
  asked : ∀ f ∈ sent, ∀ a, f.subscription J = some a → ∃ slot l, .added client slot l ∈ hist ∧
    a = (l.expression, l.subscriptionId) ∧ f.topic.str = subscribeTopic ∧
    f.payload = l.subscribePayload J
  ids : (sent.filterMap fun f => (f.subscription J).map (·.2)).Nodup
  listeners : ∀ slot l, .added client slot l ∈ hist →
    l.Subscribable J ∧ l.subscriptionId.toNat < nextId.toNat

section Outbox
variable {J : CJsonLib} {client : Nat} {hist : List WorldEvent} {nextId : UInt32}
  {sent : List Frame} {f : Frame}

theorem Outbox.nothing (h : Outbox J client hist nextId sent) {e : WorldEvent}
    (hsends : e.sends J = none) (hnot : ∀ slot l, e ≠ .added client slot l) :
    Outbox J client (hist ++ [e]) nextId sent where
  contents := by
    rw [filterMap_snoc_none hsends, h.contents]
  plain := h.plain
  asked := by
    intro f hf a ha
    obtain ⟨slot, l, hl, rest⟩ := h.asked f hf a ha
    exact ⟨slot, l, List.mem_append_left _ hl, rest⟩
  ids := h.ids
  listeners := by
    intro slot l hl
    cases List.mem_append.mp hl with
    | inl hl => exact h.listeners slot l hl
    | inr hl => exact absurd (List.mem_singleton.mp hl).symm (hnot slot l)

/-- Other clients of the process have been given ids. -/
theorem Outbox.mono (h : Outbox J client hist nextId sent) {nextId' : UInt32}
    (hle : nextId.toNat ≤ nextId'.toNat) : Outbox J client hist nextId' sent where
  contents := h.contents
  plain := h.plain
  asked := h.asked
  ids := h.ids
  listeners := by
    intro slot l hl
    obtain ⟨hsub, hlt⟩ := h.listeners slot l hl
    exact ⟨hsub, Nat.lt_of_lt_of_le hlt hle⟩

theorem contents_append {e : WorldEvent} (h : hist.filterMap (·.sends J) =
      sent.map fun f => (f.topic.str, f.payload))
    (hsends : e.sends J = some (f.topic.str, f.payload)) :
    (hist ++ [e]).filterMap (·.sends J) =
      (sent ++ [f]).map fun f => (f.topic.str, f.payload) := by
  rw [filterMap_snoc_some hsends, h, List.map_append]
  rfl

theorem plain_append (h : ∀ g ∈ sent, g.Plain) (hf : f.Plain) : ∀ g ∈ sent ++ [f], g.Plain := by
  intro g hg
  cases List.mem_append.mp hg with
  | inl hg => exact h g hg
  | inr hg =>
    rw [List.mem_singleton.mp hg]
    exact hf

theorem Outbox.publish (h : Outbox J client hist nextId sent) {topic payload : Bytes}
    (hpub : Publishable topic payload) (hplain : f.Plain) (htopic : f.topic.str = topic)
    (hpayload : f.payload = payload) :
    Outbox J client (hist ++ [.published client topic payload]) nextId (sent ++ [f]) := by
  have hnone : f.subscription J = none := by
    rw [Frame.subscription, if_neg]
    exact htopic ▸ hpub.topic_ne (by decide)
  have hmem : ∀ {slot : Nat} {l : RtListener},
      .added client slot l ∈ hist ++ [.published client topic payload] →
        .added client slot l ∈ hist := by
    intro slot l hl
    cases List.mem_append.mp hl with
    | inl hl => exact hl
    | inr hl => cases List.mem_singleton.mp hl
  refine ⟨contents_append h.contents (by rw [htopic, hpayload]; rfl),
    plain_append h.plain hplain, fun g hg a ha => ?_, ?_,
    fun slot l hl => h.listeners slot l (hmem hl)⟩
  · cases List.mem_append.mp hg with
    | inl hg =>
      obtain ⟨slot, l, hl, rest⟩ := h.asked g hg a ha
      exact ⟨slot, l, List.mem_append_left _ hl, rest⟩
    | inr hg =>
      rw [List.mem_singleton.mp hg, hnone] at ha
      cases ha
  · rw [filterMap_snoc_none (by rw [hnone]; rfl)]
    exact h.ids

theorem Outbox.id_lt (h : Outbox J client hist nextId sent) {id : UInt32}
    (hid : id ∈ sent.filterMap fun f => (f.subscription J).map (·.2)) :
    id.toNat < nextId.toNat := by
  obtain ⟨f, hf, hsub⟩ := List.mem_filterMap.mp hid
  obtain ⟨a, ha, rfl⟩ := Option.map_eq_some_iff.mp hsub
  obtain ⟨slot, l, hl, rfl, -⟩ := h.asked f hf a ha
  exact (h.listeners slot l hl).2

theorem Outbox.add (h : Outbox J client hist nextId sent) {slot : Nat} {l : RtListener}
    (hsub : l.Subscribable J) (hid : l.subscriptionId = nextId) (hplain : f.Plain)
    (htopic : f.topic.str = subscribeTopic) (hpayload : f.payload = l.subscribePayload J) :
    Outbox J client (hist ++ [.added client slot l]) (nextId + 1) (sent ++ [f]) := by
  have hasked := hsub.subscription htopic hpayload
  have hnext : (nextId + 1).toNat = nextId.toNat + 1 := by
    have hlt := hsub.id_lt
    rw [hid] at hlt
    rw [UInt32.toNat_add, Nat.mod_eq_of_lt]
    · rfl
    · change nextId.toNat + 1 < 2^32
      omega
  refine ⟨contents_append h.contents (by rw [htopic, hpayload]; rfl),
    plain_append h.plain hplain, fun g hg a ha => ?_, ?_, fun slot' l' hl => ?_⟩
  · cases List.mem_append.mp hg with
    | inl hg =>
      obtain ⟨slot', l', hl, rest⟩ := h.asked g hg a ha
      exact ⟨slot', l', List.mem_append_left _ hl, rest⟩
    | inr hg =>
      rw [List.mem_singleton.mp hg, hasked] at ha
      cases ha
      rw [List.mem_singleton.mp hg]
      exact ⟨slot, l, List.mem_append_right _ (List.mem_singleton_self _), rfl, htopic, hpayload⟩
  · rw [filterMap_snoc_some (by rw [hasked]; rfl), List.nodup_append]
    refine ⟨h.ids, List.nodup_singleton _, fun a ha b hb hab => ?_⟩
    have hlt := h.id_lt ha
    rw [hab, List.mem_singleton.mp hb, hid] at hlt
    exact Nat.lt_irrefl _ hlt
  · rw [hnext]
    cases List.mem_append.mp hl with
    | inl hl =>
      obtain ⟨hsub', hlt⟩ := h.listeners slot' l' hl
      exact ⟨hsub', Nat.lt_succ_of_lt hlt⟩
    | inr hl =>
      cases List.mem_singleton.mp hl
      exact ⟨hsub, by rw [hid]; exact Nat.lt_succ_self _⟩

end Outbox

/-! What a client has taken. -/

/-- The callback that a frame under a listener's id leads to. -/
def CalledFor (client : Nat) (hist : List WorldEvent) (f : Frame) (call : CallbackCall) : Prop :=
  ∃ slot l cb, .added client slot l ∈ hist ∧ l.callback = some cb ∧
    l.subscriptionId = f.controlData ∧ call = ⟨slot, cb, f.header, f.payload, f.header.payloadLength⟩

/-- A client's listeners, the frames that it has taken with the callbacks they led to, and
    those that have arrived. -/
structure Inbox (client : Nat) (hist : List WorldEvent) (s : Session)
    (taken : List (Frame × CallbackCall)) (unread : Nat → List Frame) : Prop where
  registered : Registered (hist.filterMap (·.listener)) s.con
  takes : Takes s.os.sends
  arriving : Arriving id unread s.os
  calls : hist.filterMap (·.call) = taken.map Prod.snd
  calledFor : ∀ p ∈ taken, CalledFor client hist p.1 p.2

theorem mem_listeners {client slot : Nat} {l : RtListener} {hist : List WorldEvent}
    (h : .added client slot l ∈ hist) : .added slot l ∈ hist.filterMap (·.listener) :=
  List.mem_filterMap.mpr ⟨_, h, rfl⟩

theorem added_of_listeners {client slot : Nat} {l : RtListener} {es : List WorldEvent}
    (h : .added slot l ∈ (history client es).filterMap (·.listener)) :
    .added client slot l ∈ history client es := by
  obtain ⟨e, he, hl⟩ := List.mem_filterMap.mp h
  have hcaller := (List.mem_filter.mp he).2
  cases e with
  | added client' slot' l' =>
    cases hl
    have hclient : some client' = some client := eq_of_beq hcaller
    cases hclient
    exact he
  | refused _ => cases hl
  | published _ _ _ => cases hl
  | read _ _ => cases hl
  | dispatched _ _ => cases hl

theorem Registered.of_listeners {es : List ConnectionEvent} {con con' : RtConnection}
    (h : Registered es con) (hls : con'.listeners = con.listeners) : Registered es con' where
  callable := by
    rw [RtConnection.Callable, hls]
    exact h.callable
  slots := by
    rw [hls]
    exact h.slots
  ids := by
    rw [hls]
    exact h.ids

section Inbox
variable {J : CJsonLib} {client : Nat} {hist : List WorldEvent} {s : Session}
  {taken : List (Frame × CallbackCall)} {unread : Nat → List Frame}

theorem CalledFor.mono {f : Frame} {call : CallbackCall} (h : CalledFor client hist f call)
    (e : WorldEvent) : CalledFor client (hist ++ [e]) f call := by
  obtain ⟨slot, l, cb, hl, rest⟩ := h
  exact ⟨slot, l, cb, List.mem_append_left _ hl, rest⟩

theorem Inbox.called (h : Inbox client hist s taken unread) {e : WorldEvent} {con' : RtConnection}
    {os' : Os} (hlistener : e.listener = none) (hcall : e.call = none)
    (hls : con'.listeners = s.con.listeners) (htakes : Takes os'.sends)
    (hinput : os'.input = s.os.input) (hrecvs : os'.recvs = s.os.recvs) :
    Inbox client (hist ++ [e]) ⟨con', os'⟩ taken unread where
  registered := by
    rw [filterMap_snoc_none hlistener]
    exact h.registered.of_listeners hls
  takes := htakes
  arriving := h.arriving.of_same hinput hrecvs
  calls := by
    rw [filterMap_snoc_none hcall, h.calls]
  calledFor := fun p hp => (h.calledFor p hp).mono e

theorem Inbox.added (h : Inbox client hist s taken unread) {slot : Nat} {l : RtListener}
    {con' : RtConnection} {os' : Os}
    (hslot : s.con.listeners.findIdx? (fun l => !l.inUse) = some slot) (huse : l.inUse = true)
    (hcb : l.callback ≠ none) (hls : con'.listeners = s.con.listeners.set slot l)
    (hfresh : ∀ k ∈ s.con.listeners, k.inUse = true → k.subscriptionId ≠ l.subscriptionId)
    (htakes : Takes os'.sends) (hinput : os'.input = s.os.input)
    (hrecvs : os'.recvs = s.os.recvs) :
    Inbox client (hist ++ [.added client slot l]) ⟨con', os'⟩ taken unread where
  registered := by
    rw [List.filterMap_append]
    exact h.registered.added hslot huse hcb hls hfresh
  takes := htakes
  arriving := h.arriving.of_same hinput hrecvs
  calls := by
    rw [List.filterMap_append, h.calls]
    exact List.append_nil _
  calledFor := fun p hp => (h.calledFor p hp).mono _

theorem Inbox.receives (h : Inbox client hist s taken unread) {sock : Nat}
    (hfd : s.con.fd = some sock) {fs : List Frame} (hsize : ∀ f ∈ fs, f.size < 8192) :
    Inbox client hist (s.receives (fs.flatMap Frame.bytes)) taken
      (Function.update unread sock (unread sock ++ fs)) := by
  rw [Session.receives, hfd]
  exact ⟨h.registered, h.takes, h.arriving.arrive_all sock hsize, h.calls, h.calledFor⟩

/-- **A dispatch** takes the next frame and calls the listener whose id it bears. -/
theorem Inbox.dispatch (h : Inbox client hist s taken unread) {fuel sock : Nat} {d : Dispatched}
    (hfd : s.con.fd = some sock)
    (hd : rtConnectionTimedDispatch J fuel s.con s.os = .ok d)
    (hplain : ∀ g ∈ unread sock, g.Routed)
    (hlistener : ∀ g ∈ unread sock, ∃ slot l, .added client slot l ∈ hist ∧
      l.subscriptionId = g.controlData) :
    ∃ g rest call, unread sock = g :: rest ∧ d.call = some call ∧ d.con.fd = s.con.fd ∧
      d.os.sent = s.os.sent ∧
      Inbox client (hist ++ [.dispatched client (some call)]) ⟨d.con, d.os⟩ (taken ++ [(g, call)])
        (Function.update unread sock rest) := by
  cases h.arriving.dispatch hd with
  | inl hnone => cases hnone.1.symm.trans hfd
  | inr hnext =>
    obtain ⟨sock', g, rest, buffer, evs, recvs', hsock, hunread, hw, -, hos, hdeliver, harriving⟩ :=
      hnext
    cases hfd.symm.trans hsock
    have hmem : g ∈ unread sock := by rw [hunread]; exact List.mem_cons_self
    obtain ⟨slot, l, hl, hid⟩ := hlistener g hmem
    obtain ⟨hslot, huse⟩ := (h.registered.slots slot l).mpr (mem_listeners hl)
    obtain ⟨cb, hcb⟩ := Option.ne_none_iff_exists'.mp
      (h.registered.callable l (List.mem_of_getElem? hslot) huse)
    obtain ⟨after, hbuf⟩ := frame_in_buffer hw
    obtain ⟨hcon, hcall⟩ := deliverFrame_found hdeliver hbuf (hplain g hmem) hslot huse hid hcb
      fun j k hk hkuse hkid =>
        h.registered.ids j slot k l hk hslot hkuse huse (hkid.trans hid.symm)
    have hls : d.con.listeners = s.con.listeners := by
      rw [hcon, calledBack_listeners]
    have hkept := deliverFrame_fd hdeliver
    refine ⟨g, rest, _, hunread, hcall, hkept, by rw [hos]; rfl, ?_, ?_, harriving, ?_, ?_⟩
    · rw [filterMap_snoc_none rfl]
      exact h.registered.of_listeners hls
    · rw [hos]
      exact h.takes
    · rw [List.filterMap_append, h.calls, List.map_append]
      rfl
    · intro p hp
      cases List.mem_append.mp hp with
      | inl hp => exact (h.calledFor p hp).mono _
      | inr hp =>
        rw [List.mem_singleton.mp hp]
        exact ⟨slot, l, cb, List.mem_append_left _ hl, hcb, hid, rfl⟩

end Inbox

/-! All the frames. -/

/-- Where the frames of a run are. -/
structure Traffic where
  /-- those that the router has dispatched, with their senders -/
  handled : List (Nat × Frame)
  /-- those of each client that it has not -/
  streams : Nat → Progress
  sent : Nat → List Frame
  taken : Nat → List (Frame × CallbackCall)
  /-- those that have arrived at a socket of a client and were not taken -/
  unread : Nat → Nat → List Frame

/-- The account of one client. -/
structure ClientAccount (J : CJsonLib) (own : List Bytes) (es : List WorldEvent) (t : Traffic)
    (w : World) (client : Nat) : Prop where
  outbox : Outbox J client (history client es) (w.nextId (w.process client)) (t.sent client)
  handled : framesTo client t.handled ++ (t.streams client).1 = t.sent client
  inbox : Inbox client (history client es) (w.sessions client) (t.taken client) (t.unread client)
  arrived : ∃ sock, (w.sessions client).con.fd = some sock ∧
    (t.taken client).map Prod.fst ++ t.unread client sock =
      framesTo client (deliveries J own [] t.handled)

structure Accounted (J : CJsonLib) (own : List Bytes) (es : List WorldEvent) (t : Traffic)
    (w : World) : Prop where
  serving : Serving J own t.streams w.router
  table : subscriptions w.router.routes = tableAfter J [] t.handled
  routed : routedIn es = t.handled.map fun p => ⟨p.1, p.2.topic.str, p.2.payload⟩
  senders : ∀ p ∈ t.handled, ∃ clnt ∈ w.router.clients, clnt.ptr = p.1
  account : ∀ clnt ∈ w.router.clients, ClientAccount J own es t w clnt.ptr

theorem mem_framesTo {client : Nat} {f : Frame} {out : List (Nat × Frame)} :
    f ∈ framesTo client out ↔ (client, f) ∈ out := by
  rw [framesTo, List.mem_filterMap]
  constructor
  · rintro ⟨p, hp, hto⟩
    split at hto
    · next hclient =>
      cases hto
      rw [← hclient]
      exact hp
    · cases hto
  · intro hf
    exact ⟨_, hf, if_pos rfl⟩

theorem mem_subscribed {J : CJsonLib} {p : Nat × Frame} {s : Subscription}
    (h : s ∈ subscribed J p) : s.client = p.1 ∧ p.2.subscription J = some (s.expression, s.id) := by
  rw [subscribed, Option.mem_toList] at h
  obtain ⟨a, ha, rfl⟩ := Option.map_eq_some_iff.mp h
  exact ⟨rfl, ha⟩

theorem copy_plain {J : CJsonLib} {own : List Bytes} {table : List Subscription} {client : Nat}
    {done : List (Nat × Frame)} (hplain : ∀ p ∈ done, p.2.Plain) {g : Frame}
    (hg : g ∈ framesTo client (deliveries J own table done)) : g.size < 8192 ∧ g.Routed := by
  obtain ⟨p, hp, s, -, -, rfl⟩ :=
    mem_framesTo_deliveries (fun q hq => (hplain q hq).not_request) hg
  rw [Frame.withControlData_size]
  exact ⟨(hplain p hp).size_lt, (hplain p hp).routed s.id⟩

section Accounted
variable {J : CJsonLib} {own : List Bytes} {es : List WorldEvent} {t : Traffic} {w : World}
  {clnt : RtConnectedClient}

theorem Accounted.plain (h : Accounted J own es t w) : ∀ p ∈ t.handled, p.2.Plain := by
  intro p hp
  obtain ⟨k, hk, hptr⟩ := h.senders p hp
  have hmem : p.2 ∈ framesTo k.ptr t.handled := mem_framesTo.mpr (hptr ▸ hp)
  refine (h.account k hk).outbox.plain p.2 ?_
  rw [← (h.account k hk).handled]
  exact List.mem_append_left _ hmem

theorem Accounted.listener (h : Accounted J own es t w) (hmem : clnt ∈ w.router.clients)
    {p : Nat × Frame} (hp : p ∈ t.handled) {s : Subscription} (hs : s ∈ subscribed J p)
    (hclient : s.client = clnt.ptr) :
    ∃ slot l, .added clnt.ptr slot l ∈ history clnt.ptr es ∧ l.expression = s.expression ∧
      l.subscriptionId = s.id ∧ p.2.topic.str = subscribeTopic ∧
      p.2.payload = l.subscribePayload J := by
  obtain ⟨hsender, hsub⟩ := mem_subscribed hs
  have hf : p.2 ∈ t.sent clnt.ptr := by
    rw [← (h.account clnt hmem).handled]
    refine List.mem_append_left _ (mem_framesTo.mpr ?_)
    rw [← hclient, hsender]
    exact hp
  obtain ⟨slot, l, hl, heq, htopic, hpayload⟩ := (h.account clnt hmem).outbox.asked p.2 hf _ hsub
  obtain ⟨hexpression, hid⟩ := Prod.mk.inj heq
  exact ⟨slot, l, hl, hexpression.symm, hid.symm, htopic, hpayload⟩

/-- What a client is sent bears the id of one of its listeners. -/
theorem Accounted.copy_listener (h : Accounted J own es t w) (hmem : clnt ∈ w.router.clients)
    {g : Frame} (hg : g ∈ framesTo clnt.ptr (deliveries J own [] t.handled)) :
    ∃ slot l, .added clnt.ptr slot l ∈ history clnt.ptr es ∧ l.subscriptionId = g.controlData := by
  obtain ⟨p, hp, s, hs, hclient, rfl⟩ :=
    mem_framesTo_deliveries (fun q hq => (h.plain q hq).not_request) hg
  obtain ⟨q, hq, hs⟩ := List.mem_flatMap.mp
    (show s ∈ t.handled.flatMap (subscribed J) from hs)
  obtain ⟨slot, l, hl, -, hid, -⟩ := h.listener hmem hq hs hclient
  exact ⟨slot, l, hl, hid⟩

/-! Steps. -/

theorem history_own {client : Nat} {e : WorldEvent} (h : e.caller = some client) :
    history client (es ++ [e]) = history client es ++ [e] := by
  have hown : (e.caller == some client) = true := beq_iff_eq.mpr h
  rw [history, List.filter_append, List.filter_singleton, hown]
  rfl

theorem history_other {client : Nat} {e : WorldEvent} (h : e.caller ≠ some client) :
    history client (es ++ [e]) = history client es := by
  have hother : (e.caller == some client) = false := beq_eq_false_iff_ne.mpr h
  rw [history, List.filter_append, List.filter_singleton, hother]
  exact List.append_nil _

/-- A call of one client leaves the accounts of the others. -/
theorem Accounted.call (h : Accounted J own es t w) {t' : Traffic} {w' : World} {e : WorldEvent}
    {client : Nat} (hcaller : e.caller = some client) (hrouted : e.routed = none)
    (hhandled : t'.handled = t.handled) (hserving : Serving J own t'.streams w'.router)
    (hroutes : w'.router.routes = w.router.routes)
    (hclients : w'.router.clients = w.router.clients) (hprocess : w'.process = w.process)
    (hnext : ∀ p, (w.nextId p).toNat ≤ (w'.nextId p).toNat)
    (hothers : ∀ k, k ≠ client → w'.sessions k = w.sessions k ∧ t'.sent k = t.sent k ∧
      t'.streams k = t.streams k ∧ t'.taken k = t.taken k ∧ t'.unread k = t.unread k)
    (hclient : ClientAccount J own (es ++ [e]) t' w' client) :
    Accounted J own (es ++ [e]) t' w' where
  serving := hserving
  table := by rw [hroutes, hhandled, h.table]
  routed := by
    rw [routedIn, filterMap_snoc_none hrouted, hhandled]
    exact h.routed
  senders := by
    rw [hhandled, hclients]
    exact h.senders
  account := by
    intro k hk
    rw [hclients] at hk
    by_cases heq : k.ptr = client
    · rw [heq]
      exact hclient
    · have hk := h.account k hk
      obtain ⟨hsession, hsent, hstreams, htaken, hunread⟩ := hothers k.ptr heq
      have hhist : history k.ptr (es ++ [e]) = history k.ptr es := by
        refine history_other fun hk => heq ?_
        cases hcaller.symm.trans hk
        rfl
      refine ⟨?_, ?_, ?_, ?_⟩
      · rw [hhist, hprocess, hsent]
        exact hk.outbox.mono (hnext _)
      · rw [hhandled, hstreams, hsent]
        exact hk.handled
      · rw [hhist, hsession, htaken, hunread]
        exact hk.inbox
      · rw [hsession, htaken, hunread, hhandled]
        exact hk.arrived

theorem Accounted.frameSent (h : Accounted J own es t w) (hmem : clnt ∈ w.router.clients)
    {f : Frame} (hf : f.Admissible J) {e : WorldEvent} (hcaller : e.caller = some clnt.ptr)
    (hrouted : e.routed = none) {con' : RtConnection} {os' : Os} {sock : Nat}
    (hfd : (w.sessions clnt.ptr).con.fd = some sock)
    (hfd' : con'.fd = (w.sessions clnt.ptr).con.fd)
    (hos : os' = (w.sessions clnt.ptr).os.afterFrame sock f) {nextId : Nat → UInt32}
    (hnext : ∀ p, (w.nextId p).toNat ≤ (nextId p).toNat)
    (houtbox : Outbox J clnt.ptr (history clnt.ptr es ++ [e]) (nextId (w.process clnt.ptr))
      (t.sent clnt.ptr ++ [f]))
    (hinbox : Inbox clnt.ptr (history clnt.ptr es ++ [e]) ⟨con', os'⟩ (t.taken clnt.ptr)
      (t.unread clnt.ptr)) :
    ∃ t', Accounted J own (es ++ [e]) t' { w.called clnt ⟨con', os'⟩ with nextId } := by
  have hk := h.account clnt hmem
  have htakes := hk.inbox.takes
  have hnew : (w.sessions clnt.ptr).newBytes ⟨con', os'⟩ = f.bytes := by
    rw [Session.newBytes, hfd]
    refine newBytes_eq ?_
    rw [hos, wire_afterFrame (htakes 0) (htakes 1), if_pos rfl]
  -- the frame goes to the client's stream, and the ends of the other clients stay
  refine ⟨{ t with
    streams := Function.update t.streams clnt.ptr
      ((t.streams clnt.ptr).1 ++ [f], (t.streams clnt.ptr).2)
    sent := Function.update t.sent clnt.ptr (t.sent clnt.ptr ++ [f]) },
    h.call hcaller hrouted rfl ?_ rfl rfl rfl hnext (fun k hne => ?_) ?_⟩
  · rw [World.called, hnew]
    exact h.serving.arrive hmem hf
  · exact ⟨Function.update_of_ne hne _ _, Function.update_of_ne hne _ _,
      Function.update_of_ne hne _ _, rfl, rfl⟩
  · have hsession : Function.update w.sessions clnt.ptr ⟨con', os'⟩ clnt.ptr = ⟨con', os'⟩ :=
      Function.update_self ..
    obtain ⟨sock', hsock', harrived⟩ := hk.arrived
    constructor
    · rw [history_own hcaller]
      dsimp only
      rw [Function.update_self]
      exact houtbox
    · dsimp only
      rw [Function.update_self, Function.update_self, ← hk.handled, List.append_assoc]
    · rw [history_own hcaller]
      dsimp only [World.called]
      rw [hsession]
      exact hinbox
    · dsimp only [World.called]
      rw [hsession]
      exact ⟨sock', hfd'.trans hsock', harrived⟩

theorem Accounted.nothingSent (h : Accounted J own es t w) (hmem : clnt ∈ w.router.clients)
    {e : WorldEvent} (hcaller : e.caller = some clnt.ptr) (hrouted : e.routed = none)
    (hsends : e.sends J = none) (hnot : ∀ slot l, e ≠ .added clnt.ptr slot l) {s' : Session}
    {sock : Nat} (hfd : s'.con.fd = some sock)
    (hsent : s'.os.sent = (w.sessions clnt.ptr).os.sent)
    {taken : List (Frame × CallbackCall)} {unread : Nat → List Frame}
    (hinbox : Inbox clnt.ptr (history clnt.ptr es ++ [e]) s' taken unread)
    (harrived : taken.map Prod.fst ++ unread sock =
      framesTo clnt.ptr (deliveries J own [] t.handled)) :
    ∃ t', Accounted J own (es ++ [e]) t' (w.called clnt s') := by
  have hk := h.account clnt hmem
  have hrouter : (w.called clnt s').router = w.router := World.called_silent hsent
  refine ⟨{ t with
    taken := Function.update t.taken clnt.ptr taken
    unread := Function.update t.unread clnt.ptr unread },
    h.call hcaller hrouted rfl (hrouter ▸ h.serving) (by rw [hrouter]) (by rw [hrouter]) rfl
      (fun _ => Nat.le_refl _) (fun k hne => ?_) ?_⟩
  · exact ⟨Function.update_of_ne hne _ _, rfl, rfl, Function.update_of_ne hne _ _,
      Function.update_of_ne hne _ _⟩
  · have hsession : Function.update w.sessions clnt.ptr s' clnt.ptr = s' :=
      Function.update_self ..
    refine ⟨?_, hk.handled, ?_, sock, ?_, ?_⟩
    · rw [history_own hcaller]
      exact hk.outbox.nothing hsends hnot
    · rw [history_own hcaller]
      dsimp only [World.called]
      rw [hsession, Function.update_self, Function.update_self]
      exact hinbox
    · dsimp only [World.called]
      rw [hsession]
      exact hfd
    · dsimp only
      rw [Function.update_self, Function.update_self]
      exact harrived

end Accounted

theorem sendInternal_takes {J : CJsonLib} {fuel sock : Nat} {con con' : RtConnection}
    {topic buff : Bytes} {replyTopic : Option Bytes} {flags : UInt32} {os os' : Os} {e : RtError}
    (hfd : con.fd = some sock) (htakes : Takes os.sends)
    (h : rtConnectionSendInternal J fuel con topic buff replyTopic flags os =
      .ok (e, con', os')) :
    con'.fd = con.fd ∧ con'.listeners = con.listeners ∧
      os' = os.afterFrame sock (sentFrame con topic buff replyTopic flags) := by
  cases fuel with
  | zero => cases h
  | succ fuel =>
    have hheader : os.sends.head = .complete := htakes 0
    have hpayload : os.sends.tail.head = .complete := htakes 1
    obtain ⟨sendBuffer, hsend⟩ := sendInternal_complete J fuel con topic buff replyTopic flags os
      rfl hfd (by rw [hheader]; rfl) (by rw [hpayload]; rfl)
    cases h.symm.trans hsend
    exact ⟨rfl, rfl, rfl⟩

theorem addListener_takes {J : CJsonLib} {fuel slot sock : Nat} {con : RtConnection}
    {expression : Bytes} {callback : RtMessageCallback} {nextId : UInt32} {os : Os} {r : AddResult}
    (hslot : con.listeners.findIdx? (fun l => !l.inUse) = some slot) (hfd : con.fd = some sock)
    (htakes : Takes os.sends)
    (h : rtConnectionAddListener J fuel con expression callback nextId os = .ok r) :
    r.con.fd = con.fd ∧
      r.con.listeners = con.listeners.set slot ⟨true, expression, nextId, some callback⟩ ∧
      r.nextId = nextId + 1 ∧
      r.os = os.afterFrame sock
        (listenerFrame J con ⟨true, expression, nextId, some callback⟩) := by
  cases fuel with
  | zero =>
    unfold rtConnectionAddListener at h
    simp only [hslot] at h
    obtain ⟨x, hx, -⟩ := bind_eq_ok.mp h
    cases hx
  | succ fuel =>
    have hheader : os.sends.head = .complete := htakes 0
    have hpayload : os.sends.tail.head = .complete := htakes 1
    obtain ⟨sendBuffer, hadd⟩ := addListener_complete J fuel callback hslot
      (show listenerFrame J con ⟨true, expression, nextId, some callback⟩ = _ from rfl) hfd
      (by rw [hheader]; rfl) (by rw [hpayload]; rfl)
    rw [h] at hadd
    cases hadd
    exact ⟨rfl, rfl, rfl, rfl⟩

section Steps
variable {J : CJsonLib} {own : List Bytes} {es : List WorldEvent} {t : Traffic} {w : World}
  {clnt : RtConnectedClient}

theorem Accounted.publish (h : Accounted J own es t w) (hmem : clnt ∈ w.router.clients)
    {fuel : Nat} {topic payload : Bytes} {e : RtError} {con' : RtConnection} {os' : Os}
    (hpub : Publishable topic payload)
    (hsend : rtConnectionSendInternal J fuel (w.sessions clnt.ptr).con topic payload none 0
      (w.sessions clnt.ptr).os = .ok (e, con', os')) :
    ∃ t', Accounted J own (es ++ [.published clnt.ptr topic payload]) t'
      (w.called clnt ⟨con', os'⟩) := by
  have hk := h.account clnt hmem
  obtain ⟨sock, hfd, -⟩ := hk.arrived
  obtain ⟨hfd', hls, hos⟩ := sendInternal_takes hfd hk.inbox.takes hsend
  obtain ⟨htopic, hpayload, hplain⟩ := sentFrame_plain (w.sessions clnt.ptr).con
    hpub.nul_free hpub.topic_le hpub.fits
  have htakes : Takes os'.sends := by
    rw [hos]
    exact hk.inbox.takes.tail.tail
  exact h.frameSent hmem (hpub.admissible hplain htopic hpayload) rfl rfl hfd hfd' hos
    (fun _ => Nat.le_refl _) (hk.outbox.publish hpub hplain htopic hpayload)
    (hk.inbox.called rfl rfl hls htakes (by rw [hos]; rfl) (by rw [hos]; rfl))

theorem Accounted.add (h : Accounted J own es t w) (hmem : clnt ∈ w.router.clients)
    {fuel slot : Nat} {expression : Bytes} {callback : RtMessageCallback} {r : AddResult}
    (hsub : RtListener.Subscribable J ⟨true, expression, w.idFor clnt, some callback⟩)
    (hslot : (w.sessions clnt.ptr).con.listeners.findIdx? (fun l => !l.inUse) = some slot)
    (hadd : rtConnectionAddListener J fuel (w.sessions clnt.ptr).con expression callback
      (w.idFor clnt) (w.sessions clnt.ptr).os = .ok r) :
    ∃ t', Accounted J own (es ++ [.added clnt.ptr slot
      ⟨true, expression, w.idFor clnt, some callback⟩]) t' (w.listened clnt r) := by
  have hk := h.account clnt hmem
  obtain ⟨sock, hfd, -⟩ := hk.arrived
  obtain ⟨hfd', hls, hnext, hos⟩ := addListener_takes hslot hfd hk.inbox.takes hadd
  obtain ⟨htopic, hpayload, hplain⟩ := sentFrame_plain (w.sessions clnt.ptr).con
    (show 0 ∉ subscribeTopic by decide) (by decide) hsub.fits
  have htakes : Takes r.os.sends := by
    rw [hos]
    exact hk.inbox.takes.tail.tail
  have hfresh : ∀ k ∈ (w.sessions clnt.ptr).con.listeners, k.inUse = true →
      k.subscriptionId ≠ w.idFor clnt := by
    intro k hmemk huse hid
    obtain ⟨i, hi⟩ := List.getElem?_of_mem hmemk
    have hlt := (hk.outbox.listeners i k
      (added_of_listeners ((hk.inbox.registered.slots i k).mp ⟨hi, huse⟩))).2
    rw [hid] at hlt
    exact Nat.lt_irrefl _ hlt
  have hle : ∀ p, (w.nextId p).toNat ≤
      (Function.update w.nextId (w.process clnt.ptr) r.nextId p).toNat := by
    intro p
    by_cases hp : p = w.process clnt.ptr
    · subst hp
      have hlt : (w.nextId (w.process clnt.ptr)).toNat < 2^31 := hsub.id_lt
      rw [Function.update_self, hnext, World.idFor, UInt32.toNat_add, Nat.mod_eq_of_lt]
      · exact Nat.le_add_right _ _
      · change (w.nextId (w.process clnt.ptr)).toNat + 1 < 2^32
        omega
    · rw [Function.update_of_ne hp]
  refine h.frameSent hmem (hsub.admissible hplain htopic hpayload) rfl rfl hfd hfd' hos hle ?_
    (hk.inbox.added hslot rfl (Option.some_ne_none _) hls hfresh htakes (by rw [hos]; rfl)
      (by rw [hos]; rfl))
  rw [Function.update_self, hnext]
  exact hk.outbox.add hsub rfl hplain htopic hpayload

theorem Accounted.refuse (h : Accounted J own es t w) (hmem : clnt ∈ w.router.clients)
    {fuel : Nat} {expression : Bytes} {callback : RtMessageCallback} {r : AddResult}
    (hadd : rtConnectionAddListener J fuel (w.sessions clnt.ptr).con expression callback
      (w.idFor clnt) (w.sessions clnt.ptr).os = .ok r)
    (hfull : (w.sessions clnt.ptr).con.listeners.findIdx? (fun l => !l.inUse) = none) :
    ∃ t', Accounted J own (es ++ [.refused clnt.ptr]) t' (w.listened clnt r) := by
  have hk := h.account clnt hmem
  obtain ⟨sock, hfd, harrived⟩ := hk.arrived
  have hr : r = ⟨.errno .ENOMEM, (w.sessions clnt.ptr).con, w.idFor clnt,
      (w.sessions clnt.ptr).os⟩ := by
    cases addListener_cases hadd with
    | inl hnone => exact hnone.2
    | inr hsome =>
      obtain ⟨i, hi, -⟩ := hsome
      cases hi.symm.trans hfull
  have hworld : w.listened clnt r = w.called clnt (w.sessions clnt.ptr) := by
    rw [hr, World.listened, World.idFor, Function.update_eq_self]
    rfl
  rw [hworld]
  exact h.nothingSent hmem rfl rfl rfl (fun _ _ heq => by cases heq) hfd rfl
    (hk.inbox.called rfl rfl rfl hk.inbox.takes rfl rfl) harrived

theorem Accounted.dispatch (h : Accounted J own es t w) (hmem : clnt ∈ w.router.clients)
    {fuel : Nat} {d : Dispatched}
    (hd : rtConnectionTimedDispatch J fuel (w.sessions clnt.ptr).con (w.sessions clnt.ptr).os =
      .ok d) :
    ∃ t', Accounted J own (es ++ [.dispatched clnt.ptr d.call]) t'
      (w.called clnt ⟨d.con, d.os⟩) := by
  have hk := h.account clnt hmem
  obtain ⟨sock, hfd, harrived⟩ := hk.arrived
  have hdue : ∀ g ∈ t.unread clnt.ptr sock,
      g ∈ framesTo clnt.ptr (deliveries J own [] t.handled) := fun g hg => by
    rw [← harrived]
    exact List.mem_append_right _ hg
  obtain ⟨g, rest, call, hunread, hcall, hfd', hsent, hinbox⟩ := hk.inbox.dispatch hfd hd
    (fun g hg => (copy_plain h.plain (hdue g hg)).2)
    (fun g hg => h.copy_listener hmem (hdue g hg))
  rw [hcall]
  refine h.nothingSent hmem rfl rfl rfl (fun _ _ heq => by cases heq) (hfd'.trans hfd) hsent
    hinbox ?_
  rw [Function.update_self, List.map_append, List.append_assoc, ← harrived, hunread]
  rfl

/-- The frames that have arrived, with those that a read of the router brings about. -/
def Traffic.arrivals (t : Traffic) (w : World) (out : List (Nat × Frame)) (client : Nat) :
    Nat → List Frame :=
  match (w.sessions client).con.fd with
  | none => t.unread client
  | some sock => Function.update (t.unread client) sock
      (t.unread client sock ++ framesTo client out)

theorem ClientAccount.arrive {r : RtRouted Os} {handled : List (Nat × Frame)}
    {streams : Nat → Progress} {out : List (Nat × Frame)} {e : WorldEvent}
    (h : ClientAccount J own es t w clnt.ptr) (hdistinct : DistinctClients w.router.clients)
    (hmem : clnt ∈ w.router.clients) (hcaller : e.caller = none)
    (hsent : wire clnt.fd r.env.sent =
      wire clnt.fd w.router.env.sent ++ (framesTo clnt.ptr out).flatMap Frame.bytes)
    (hsize : ∀ f ∈ framesTo clnt.ptr out, f.size < 8192)
    (hhandled : framesTo clnt.ptr handled ++ (streams clnt.ptr).1 = t.sent clnt.ptr)
    (hout : framesTo clnt.ptr (deliveries J own [] handled) =
      framesTo clnt.ptr (deliveries J own [] t.handled) ++ framesTo clnt.ptr out) :
    ClientAccount J own (es ++ [e])
      { t with handled := handled, streams := streams, unread := t.arrivals w out }
      (w.routed r) clnt.ptr := by
  obtain ⟨sock, hfd, harrived⟩ := h.arrived
  have hsession : (w.routed r).sessions clnt.ptr =
      (w.sessions clnt.ptr).receives ((framesTo clnt.ptr out).flatMap Frame.bytes) := by
    dsimp only [World.routed]
    rw [hdistinct.find hmem]
    dsimp only
    rw [newBytes_eq hsent]
  have hunread : t.arrivals w out clnt.ptr = Function.update (t.unread clnt.ptr) sock
      (t.unread clnt.ptr sock ++ framesTo clnt.ptr out) := by
    rw [Traffic.arrivals, hfd]
  have hhist : history clnt.ptr (es ++ [e]) = history clnt.ptr es :=
    history_other (by rw [hcaller]; exact fun heq => by cases heq)
  refine ⟨?_, hhandled, ?_, sock, ?_, ?_⟩
  · rw [hhist]
    exact h.outbox
  · rw [hhist, hsession]
    dsimp only
    rw [hunread]
    exact h.inbox.receives hfd hsize
  · rw [hsession, Session.receives, hfd]
    exact hfd
  · dsimp only
    rw [hunread, Function.update_self, hout, ← harrived, List.append_assoc]

/-- **The router reads a client**, and dispatches the frame that it completes. -/
theorem Accounted.read (h : Accounted J own es t w) (hmem : clnt ∈ w.router.clients)
    {full : RtConnectedClient} {fuel : Nat} {r' : RtRouted Os} {result : ClientRead} {os' : Os}
    (hread : readClient clnt w.router.env = .ok (result, full, os'))
    (hserve : serveClient J fuel clnt.ptr w.router = .ok r') :
    ∃ t', Accounted J own (es ++ [.read clnt.ptr
      (if result = .message then some full.extracted else none)]) t' (w.routed r') := by
  by_cases hin : w.router.env.input clnt.fd = []
  · cases hserve.symm.trans (h.serving.blocked hmem hin fuel)
  obtain ⟨n, r₁, result', full', os₁, -, hread', hserved, hof, hunique, -⟩ :=
    h.serving.serve_extracts hmem hin
  -- the read of the step is the one that the simulation describes
  cases hread.symm.trans hread'
  cases hunique fuel r' hserve
  generalize hdone : completed t.streams (clnt.ptr, n) = done at hof
  have htable := hserved.table
  have hsent := hserved.sent
  rw [hdone] at htable hsent
  -- what is completed comes off the front of its client's stream
  have hstream : ∀ client, framesTo client done ++
      (readStream t.streams (clnt.ptr, n) client).1 = (t.streams client).1 := by
    intro client
    have hone := completions_streamsAfter t.streams [(clnt.ptr, n)] client
    rw [completions, completions, List.append_nil, hdone] at hone
    exact hone
  have hsender : ∀ p ∈ done, p.1 = clnt.ptr := by
    intro p hp
    cases hof with
    | partway hnil =>
      rw [← hdone, hnil] at hp
      cases hp
    | message hone _ =>
      rw [← hdone, hone] at hp
      rw [List.mem_singleton.mp hp]
  have hplain : ∀ p ∈ done, p.2.Plain := by
    intro p hp
    have hk := h.account clnt hmem
    refine hk.outbox.plain p.2 ?_
    rw [← hk.handled, ← hstream]
    refine List.mem_append_right _ (List.mem_append_left _ (mem_framesTo.mpr ?_))
    rw [← hsender p hp]
    exact hp
  refine ⟨{ t with
    handled := t.handled ++ done
    streams := readStream t.streams (clnt.ptr, n)
    unread := t.arrivals w (deliveries J own (subscriptions w.router.routes) done) },
    hserved.serving, ?_, ?_, ?_, ?_⟩
  · change subscriptions r'.routes = tableAfter J [] (t.handled ++ done)
    rw [htable, tableAfter_append, h.table]
  · -- the router's history grows by the frame that was extracted, if one was
    rw [routedIn, List.filterMap_append, List.map_append]
    refine congrArg₂ _ h.routed ?_
    cases hof with
    | partway hnil =>
      rw [← hdone, hnil]
      rfl
    | message hone hextracted =>
      rw [if_pos rfl, hextracted, ← hdone, hone]
      exact congrArg (fun topic => [RoutedMessage.mk clnt.ptr topic _]) (Frame.header_topic_str _)
  · intro p hp
    have hk : ∃ k ∈ w.router.clients, k.ptr = p.1 := by
      cases List.mem_append.mp hp with
      | inl hp => exact h.senders p hp
      | inr hp => exact ⟨clnt, hmem, (hsender p hp).symm⟩
    obtain ⟨k, hk, hptr⟩ := hk
    obtain ⟨k', hk', hptr', -⟩ := mem_of_same hserved.clients hk
    exact ⟨k', hk', hptr'.trans hptr⟩
  · -- each client's account: copies arrive, and what it has left to send has become shorter
    intro k' hk'
    obtain ⟨k, hk, hptr, -⟩ := mem_of_same hserved.clients.symm hk'
    rw [← hptr]
    refine (h.account k hk).arrive h.serving.distinct hk rfl (hsent k hk)
      (fun g hg => (copy_plain hplain hg).1) ?_ ?_
    · rw [framesTo_append, List.append_assoc, hstream]
      exact (h.account k hk).handled
    · rw [deliveries_append, framesTo_append, ← h.table]

/-- **One step** of the router and its clients. -/
theorem Accounted.step (h : Accounted J own es t w) {e : WorldEvent} {w' : World}
    (hallowed : e.Allowed J) (hstep : WorldStep J w e w') :
    ∃ t', Accounted J own (es ++ [e]) t' w' := by
  cases hstep with
  | add hmem hadd hslot => exact h.add hmem hallowed hslot hadd
  | refuse hmem hadd hfull => exact h.refuse hmem hadd hfull
  | publish hmem hsend => exact h.publish hmem hallowed hsend
  | publishMessage hmem hsend => exact h.publish hmem hallowed hsend
  | read hmem hread hserve => exact h.read hmem hread hserve
  | dispatch hmem hd => exact h.dispatch hmem hd

end Steps
end RtMessage
