import Mathlib.Data.List.TakeWhile
import RtMessage.Consumption

/- Publish and subscribe, from one client's call to the callbacks of another's listeners.

   The frames a listener is called for are told from the others by its id: those are the ones
   it has taken (`Accounted.calledWith_eq`), and the ones that came of what was dispatched
   after its SUBSCRIBE (`Accounted.dueTo_eq`). -/
namespace RtMessage
open Lib

/-! What is seen of a run. -/

/-- The topics and payloads that a client has sent, in order. -/
def sentBy (J : CJsonLib) (client : Nat) (es : List WorldEvent) : List (Bytes × Bytes) :=
  (history client es).filterMap (·.sends J)

/-- The messages that the router has dispatched after the SUBSCRIBE of a listener. -/
def routedAfter (J : CJsonLib) (client : Nat) (l : RtListener) (es : List WorldEvent) :
    List RoutedMessage :=
  ((routedIn es).dropWhile (· != ⟨client, subscribeTopic, l.subscribePayload J⟩)).tail

/-- The topics and payloads of the messages of one client that the router has dispatched. -/
def routedFrom (client : Nat) (es : List WorldEvent) : List (Bytes × Bytes) :=
  ((routedIn es).filter (·.sender == client)).map fun m => (m.topic, m.payload)

/-- The topics and payloads that a listener is to be called with. -/
def dueTo (J : CJsonLib) (client : Nat) (l : RtListener) (es : List WorldEvent) :
    List (Bytes × Bytes) :=
  ((routedAfter J client l es).filter fun m => rtRoutedIsTopicMatch m.topic l.expression).map
    fun m => (m.topic, m.payload)

/-- Those of them that a client has sent. -/
def dueFrom (J : CJsonLib) (sender client : Nat) (l : RtListener) (es : List WorldEvent) :
    List (Bytes × Bytes) :=
  (((routedAfter J client l es).filter fun m => rtRoutedIsTopicMatch m.topic l.expression).filter
    (·.sender == sender)).map fun m => (m.topic, m.payload)

/-- The topics and payloads that the listener in a slot has been called with. -/
def calledWith (client slot : Nat) (es : List WorldEvent) : List (Bytes × Bytes) :=
  (((history client es).filterMap (·.call)).filter (·.slot == slot)).map
    fun c => (c.hdr.topic.str, c.buff)

/-- A client that is connected and has no listeners; its sends take everything, and its
    reads are going to deliver what arrives. -/
structure Session.Connected (s : Session) : Prop where
  fd : ∃ sock, s.con.fd = some sock
  unused : ∀ l ∈ s.con.listeners, l.inUse = false
  takes : Takes s.os.sends
  delivers : Delivers s.os.recvs
  input : ∀ sock, s.os.input sock = []

/-- The router has accepted its clients, and nothing was sent. -/
structure World.Created (J : CJsonLib) (w : World) : Prop where
  router : Fresh J (fun _ => []) w.router
  sessions : ∀ clnt ∈ w.router.clients, (w.sessions clnt.ptr).Connected
  nextId : ∀ process, w.nextId process = 1

/-! Runs. -/

section Runs
variable {J : CJsonLib} {own : List Bytes} {es : List WorldEvent} {t : Traffic} {w w₀ : World}
  {clnt : RtConnectedClient}

/-- No frame is anywhere. -/
def noTraffic : Traffic := ⟨[], fun _ => ([], 0), fun _ => [], fun _ => [], fun _ _ => []⟩

theorem World.Created.accounted (h : w.Created J) :
    Accounted J (ownExpressions w.router.routes) [] noTraffic w where
  serving := h.router.follows.serving
  table := h.router.subscriptions_nil
  routed := rfl
  senders := fun p hp => by cases hp
  account := by
    intro clnt hmem
    have hs := h.sessions clnt hmem
    obtain ⟨sock, hfd⟩ := hs.fd
    refine ⟨⟨rfl, fun f hf => (by cases hf), fun f hf => (by cases hf), List.nodup_nil,
      fun slot l hl => (by cases hl)⟩, rfl, ⟨?_, hs.takes, ⟨hs.input, fun _ f hf => (by cases hf),
      hs.delivers⟩, rfl, fun p hp => (by cases hp)⟩, sock, hfd, rfl⟩
    have hunused : ∀ (i : Nat) (l : RtListener),
        (w.sessions clnt.ptr).con.listeners[i]? = some l → l.inUse = true → False := by
      intro i l hl huse
      rw [hs.unused l (List.mem_of_getElem? hl)] at huse
      cases huse
    refine ⟨fun l hl huse => ?_, fun i l => ⟨fun hl => (hunused i l hl.1 hl.2).elim, fun hl => ?_⟩,
      fun i j l k hl hk huse _ _ => (hunused i l hl huse).elim⟩
    · rw [hs.unused l hl] at huse
      cases huse
    · cases hl

theorem Accounted.clients (h : Accounted J own es t w) {e : WorldEvent} {w' : World}
    (hstep : WorldStep J w e w') : w'.router.clients.map (fun k => (k.ptr, k.fd)) =
      w.router.clients.map fun k => (k.ptr, k.fd) := by
  cases hstep with
  | add hmem hadd hslot => rfl
  | refuse hmem hadd hfull => rfl
  | publish hmem hsend => rfl
  | publishMessage hmem hsend => rfl
  | dispatch hmem hd => rfl
  | @read clnt full fuel r' result os' hmem hread hserve =>
    by_cases hin : w.router.env.input clnt.fd = []
    · cases hserve.symm.trans (h.serving.blocked hmem hin fuel)
    · obtain ⟨n, r₁, -, hserved, hunique, -⟩ := h.serving.serve hmem hin
      cases hunique fuel r' hserve
      exact hserved.clients

theorem Accounted.of_run (hstart : w₀.Created J)
    (hrun : Run (Allowing (fun _ e => e.Allowed J) (WorldStep J)) w₀ es w) :
    (∃ t, Accounted J (ownExpressions w₀.router.routes) es t w) ∧
      w.router.clients.map (fun k => (k.ptr, k.fd)) =
        w₀.router.clients.map fun k => (k.ptr, k.fd) := by
  refine hrun.invariant (I := fun es w =>
    (∃ t, Accounted J (ownExpressions w₀.router.routes) es t w) ∧ w.router.clients.map (fun k => (k.ptr, k.fd)) =
      w₀.router.clients.map fun k => (k.ptr, k.fd)) ⟨⟨noTraffic, hstart.accounted⟩, rfl⟩ ?_
  intro es w e w' ⟨⟨t, h⟩, hclients⟩ hstep
  exact ⟨h.step hstep.1 hstep.2, (h.clients hstep.2).trans hclients⟩

theorem mem_history {client slot : Nat} {l : RtListener} :
    .added client slot l ∈ history client es ↔ .added client slot l ∈ es := by
  rw [history, List.mem_filter]
  exact ⟨And.left, fun h => ⟨h, beq_self_eq_true _⟩⟩

/-- **What a listener is called with** is what was taken under its id. -/
theorem Accounted.calledWith_eq (h : Accounted J own es t w) (hmem : clnt ∈ w.router.clients)
    {slot : Nat} {l : RtListener} (hl : .added clnt.ptr slot l ∈ es) :
    calledWith clnt.ptr slot es =
      (bearing l.subscriptionId ((t.taken clnt.ptr).map Prod.fst)).map
        fun f => (f.topic.str, f.payload) := by
  have hbox := (h.account clnt hmem).inbox
  obtain ⟨hslot, huse⟩ := (hbox.registered.slots slot l).mpr (mem_listeners (mem_history.mpr hl))
  rw [calledWith, hbox.calls]
  have hcalled := hbox.calledFor
  generalize t.taken clnt.ptr = taken at hcalled
  induction taken with
  | nil => rfl
  | cons p rest ih =>
    obtain ⟨slot', l', cb, hl', -, hid, hcall⟩ := hcalled p List.mem_cons_self
    obtain ⟨hslot', huse'⟩ := (hbox.registered.slots slot' l').mpr (mem_listeners hl')
    have ih := ih fun q hq => hcalled q (List.mem_cons_of_mem p hq)
    -- the slot of a call and the id of its frame are those of one listener
    have hsame : p.2.slot = slot ↔ p.1.controlData = l.subscriptionId := by
      rw [hcall, ← hid]
      constructor
      · rintro rfl
        cases hslot.symm.trans hslot'
        rfl
      · exact fun heq => hbox.registered.ids slot' slot l' l hslot' hslot huse' huse heq
    rw [bearing] at ih ⊢
    rw [List.map_cons, List.map_cons, List.filter_cons, List.filter_cons]
    by_cases hs : p.2.slot = slot
    · rw [if_pos (beq_iff_eq.mpr hs), if_pos (beq_iff_eq.mpr (hsame.mp hs)), List.map_cons,
        List.map_cons, ih, hcall]
      rw [Frame.header_topic_str]
    · have hid : ¬ (p.1.controlData == l.subscriptionId) = true :=
        fun heq => hs (hsame.mpr (eq_of_beq heq))
      rw [if_neg fun heq => hs (eq_of_beq heq), if_neg hid, ih]

/-- A frame as the router dispatches it. -/
def handledMessage (p : Nat × Frame) : RoutedMessage := ⟨p.1, p.2.topic.str, p.2.payload⟩

/-- A subscription under a listener's id is made by its SUBSCRIBE. -/
theorem Accounted.own_subscribe (h : Accounted J own es t w) (hmem : clnt ∈ w.router.clients)
    {slot : Nat} {l : RtListener} (hl : .added clnt.ptr slot l ∈ es) {p : Nat × Frame}
    (hp : p ∈ t.handled) {u : Subscription} (hu : u ∈ subscribed J p)
    (hbears : u.bears clnt.ptr l.subscriptionId = true) :
    handledMessage p = ⟨clnt.ptr, subscribeTopic, l.subscribePayload J⟩ := by
  have hbox := (h.account clnt hmem).inbox
  obtain ⟨hslot, huse⟩ := (hbox.registered.slots slot l).mpr (mem_listeners (mem_history.mpr hl))
  obtain ⟨hclient, hid⟩ := Bool.and_eq_true_iff.mp hbears
  have hclient := eq_of_beq hclient
  obtain ⟨slot', l', hl', -, hid', htopic, hpayload⟩ := h.listener hmem hp hu hclient
  obtain ⟨hslot', huse'⟩ := (hbox.registered.slots slot' l').mpr (mem_listeners hl')
  have hsame : slot' = slot :=
    hbox.registered.ids slot' slot l' l hslot' hslot huse' huse (hid'.trans (eq_of_beq hid))
  subst hsame
  cases hslot.symm.trans hslot'
  rw [handledMessage, htopic, hpayload, ← hclient, (mem_subscribed hu).1]

theorem Accounted.subscribed_once (h : Accounted J own es t w) (hmem : clnt ∈ w.router.clients)
    {before after : List (Nat × Frame)} {p q : Nat × Frame}
    (hsplit : t.handled = before ++ p :: after) (hq : q ∈ after) {u v : Subscription}
    (hu : u ∈ subscribed J p) (hv : v ∈ subscribed J q) (hclient : u.client = clnt.ptr) {id : UInt32}
    (hid : u.id = id) : v.bears clnt.ptr id = false := by
  rw [Bool.eq_false_iff]
  intro hbears
  obtain ⟨hvclient, hvid⟩ := Bool.and_eq_true_iff.mp hbears
  obtain ⟨hup, husub⟩ := mem_subscribed hu
  obtain ⟨hvq, hvsub⟩ := mem_subscribed hv
  have hids := (h.account clnt hmem).outbox.ids
  have hpto : framesTo clnt.ptr [p] = [p.2] := by
    simp [framesTo, hup.symm.trans hclient]
  have hqto : q.2 ∈ framesTo clnt.ptr after :=
    mem_framesTo.mpr (by rw [← eq_of_beq hvclient, hvq]; exact hq)
  rw [← (h.account clnt hmem).handled, hsplit, List.append_cons, framesTo_append, framesTo_append,
    hpto, List.append_assoc, List.append_assoc, List.filterMap_append, List.nodup_append] at hids
  have hrest := hids.2.1
  rw [List.singleton_append, List.filterMap_cons_some (by rw [husub]; rfl), List.nodup_cons,
    List.filterMap_append] at hrest
  refine hrest.1 (List.mem_append_left _ (List.mem_filterMap.mpr ⟨q.2, hqto, ?_⟩))
  rw [hvsub, hid, ← eq_of_beq hvid]
  rfl

/-- **What a listener is to be called with** is what goes out under its id. -/
theorem Accounted.dueTo_eq (h : Accounted J own es t w) (hmem : clnt ∈ w.router.clients)
    {slot : Nat} {l : RtListener} (hl : .added clnt.ptr slot l ∈ es) :
    dueTo J clnt.ptr l es =
      (bearing l.subscriptionId (framesTo clnt.ptr (deliveries J own [] t.handled))).map
        fun f => (f.topic.str, f.payload) := by
  have hplain : NoRequests t.handled := fun p hp => (h.plain p hp).not_request
  have hsub := ((h.account clnt hmem).outbox.listeners slot l (mem_history.mpr hl)).1
  let other : Nat × Frame → Bool := fun p =>
    handledMessage p != ⟨clnt.ptr, subscribeTopic, l.subscribePayload J⟩
  have hother : ∀ p ∈ t.handled, other p = true → ∀ u ∈ subscribed J p,
      u.bears clnt.ptr l.subscriptionId = false := by
    intro p hp hne u hu
    rw [Bool.eq_false_iff]
    exact fun hbears => bne_iff_ne.mp hne (h.own_subscribe hmem hl hp hu hbears)
  have hdue : routedAfter J clnt.ptr l es =
      ((t.handled.dropWhile other).tail).map handledMessage := by
    rw [routedAfter, h.routed]
    change ((t.handled.map handledMessage).dropWhile _).tail = _
    rw [List.dropWhile_map, List.map_tail]
    rfl
  have hsplit : t.handled = t.handled.takeWhile other ++ t.handled.dropWhile other :=
    List.takeWhile_append_dropWhile.symm
  cases hdrop : t.handled.dropWhile other with
  | nil =>
    have hall := List.dropWhile_eq_nil_iff.mp hdrop
    rw [dueTo, hdue, hdrop, bearing_deliveries_none hplain (fun u hu => by cases hu)
      fun p hp => hother p hp (hall p hp)]
    rfl
  | cons p after =>
    rw [hdrop] at hsplit
    have hp : p ∈ t.handled := by
      rw [hsplit]
      exact List.mem_append_right _ List.mem_cons_self
    -- the first message that is not another one is the SUBSCRIBE
    have hmessage : handledMessage p = ⟨clnt.ptr, subscribeTopic, l.subscribePayload J⟩ := by
      have hhead := List.head?_dropWhile_not other t.handled
      rw [hdrop] at hhead
      exact bne_eq_false_iff_eq.mp hhead
    obtain ⟨hclient, htopic, hpayload⟩ := RoutedMessage.mk.inj hmessage
    let u : Subscription := ⟨clnt.ptr, l.subscriptionId, l.expression⟩
    have hu : subscribed J p = [u] := by
      rw [subscribed, hsub.subscription htopic hpayload, hclient]
      rfl
    have hbears : u.bears clnt.ptr l.subscriptionId = true :=
      Bool.and_eq_true_iff.mpr ⟨beq_self_eq_true _, beq_self_eq_true _⟩
    have hbefore : ∀ q ∈ t.handled.takeWhile other, ∀ v ∈ subscribed J q,
        v.bears clnt.ptr l.subscriptionId = false := fun q hq =>
      hother q ((List.takeWhile_subset other) hq) (List.mem_takeWhile_imp hq)
    have hafter : ∀ q ∈ after, ∀ v ∈ subscribed J q,
        v.bears clnt.ptr l.subscriptionId = false := fun q hq v hv =>
      h.subscribed_once hmem hsplit hq (by rw [hu]; exact List.mem_singleton_self u) hv rfl rfl
    have hout : bearing _ (framesTo _ (deliveries J own [] _)) = _ :=
      bearing_deliveries_subscribed (hsplit ▸ hplain) hu hbears hbefore hafter
    rw [← hsplit] at hout
    rw [dueTo, hdue, hdrop, hout, List.tail_cons, List.filter_map, List.map_map, List.map_map]
    rfl

theorem flatMap_bytes_nil {fs : List Frame} (h : fs.flatMap Frame.bytes = []) : fs = [] := by
  cases fs with
  | nil => rfl
  | cons f fs =>
    have hlength := congrArg List.length h
    have hpos := f.size_pos
    rw [List.flatMap_cons, List.length_append, f.bytes_length] at hlength
    change _ = 0 at hlength
    omega

/-- **A listener's callbacks** are the first of those that are due, and all of them once
    everything that has arrived is taken. -/
theorem Accounted.delivered (h : Accounted J own es t w) (hmem : clnt ∈ w.router.clients)
    {slot : Nat} {l : RtListener} (hl : .added clnt.ptr slot l ∈ es) :
    calledWith clnt.ptr slot es <+: dueTo J clnt.ptr l es ∧
      ((w.sessions clnt.ptr).waiting = [] →
        calledWith clnt.ptr slot es = dueTo J clnt.ptr l es) := by
  have hk := h.account clnt hmem
  obtain ⟨sock, hfd, harrived⟩ := hk.arrived
  rw [h.calledWith_eq hmem hl, h.dueTo_eq hmem hl, ← harrived, bearing_append, List.map_append]
  refine ⟨List.prefix_append _ _, fun hin => ?_⟩
  rw [Session.waiting, hfd] at hin
  have hunread : t.unread clnt.ptr sock = [] :=
    flatMap_bytes_nil ((hk.inbox.arriving.input sock).symm.trans hin)
  rw [hunread]
  exact (List.append_nil _).symm

theorem Accounted.routedFrom_eq (h : Accounted J own es t w) (client : Nat) :
    routedFrom client es = (framesTo client t.handled).map fun f => (f.topic.str, f.payload) := by
  rw [routedFrom, h.routed, List.filter_map, List.map_map]
  generalize t.handled = handled
  induction handled with
  | nil => rfl
  | cons p rest ih =>
    rw [framesTo] at ih ⊢
    rw [List.filterMap_cons]
    by_cases hp : p.1 = client
    · rw [List.filter_cons, if_pos (by simpa using hp), List.map_cons, ih, if_pos hp]
      rfl
    · rw [List.filter_cons, if_neg (by simpa using hp), ih, if_neg hp]

/-- **A client's messages** are dispatched in the order in which it has sent them, all of them
    once the router has read everything. -/
theorem Accounted.dispatched (h : Accounted J own es t w) (hmem : clnt ∈ w.router.clients) :
    routedFrom clnt.ptr es <+: sentBy J clnt.ptr es ∧
      (w.router.env.input clnt.fd = [] → routedFrom clnt.ptr es = sentBy J clnt.ptr es) := by
  have hk := h.account clnt hmem
  rw [h.routedFrom_eq, sentBy, hk.outbox.contents, ← hk.handled, List.map_append]
  refine ⟨List.prefix_append _ _, fun hin => ?_⟩
  have hread := (h.serving.reading clnt hmem).of_unread_nil
    ((h.serving.input clnt hmem).symm.trans hin)
  rw [hread.1]
  exact (List.append_nil _).symm

theorem routedFrom_append (client : Nat) (es es' : List WorldEvent) :
    routedFrom client (es ++ es') = routedFrom client es ++ routedFrom client es' := by
  rw [routedFrom, routedIn, List.filterMap_append, List.filter_append, List.map_append]
  rfl

theorem routedIn_alone (client : Nat) (h : ∀ other, other ≠ client → routedFrom other es = []) :
    routedIn es = (routedFrom client es).map fun p => ⟨client, p.1, p.2⟩ := by
  have hsender : ∀ m ∈ routedIn es, m.sender = client := by
    intro m hm
    by_contra hne
    have hfrom : (m.topic, m.payload) ∈ routedFrom m.sender es :=
      List.mem_map.mpr ⟨m, List.mem_filter.mpr ⟨hm, beq_self_eq_true _⟩, rfl⟩
    rw [h m.sender hne] at hfrom
    cases hfrom
  rw [routedFrom, List.filter_eq_self.mpr fun m hm => beq_iff_eq.mpr (hsender m hm), List.map_map]
  refine (List.map_id _).symm.trans (List.map_congr_left fun m hm => ?_)
  rw [← hsender m hm]
  rfl

theorem Accounted.routedFrom_none (h : Accounted J own es t w) {client : Nat}
    (hnone : ∀ k ∈ w.router.clients, k.ptr ≠ client) : routedFrom client es = [] := by
  rw [h.routedFrom_eq, framesTo, List.map_eq_nil_iff, List.filterMap_eq_nil_iff]
  intro p hp
  obtain ⟨k, hk, hptr⟩ := h.senders p hp
  exact if_neg fun heq => hnone k hk (hptr.trans heq)

theorem sentBy_append (client : Nat) (es es' : List WorldEvent) :
    sentBy J client (es ++ es') = sentBy J client es ++ sentBy J client es' := by
  rw [sentBy, history, List.filter_append, List.filterMap_append]
  rfl

/-- Where everything was read, what was sent later is dispatched later. -/
theorem routedFrom_later {es' : List WorldEvent} {client : Nat}
    (h : routedFrom client es = sentBy J client es)
    (hall : routedFrom client (es ++ es') = sentBy J client (es ++ es')) :
    routedFrom client es' = sentBy J client es' := by
  rw [routedFrom_append, sentBy_append, h] at hall
  exact List.append_cancel_left hall

theorem sentBy_consumes {es' : List WorldEvent} (h : ∀ e ∈ es', e.consumes = true)
    (client : Nat) : sentBy J client (es ++ es') = sentBy J client es := by
  have hnone : sentBy J client es' = [] := by
    refine List.filterMap_eq_nil_iff.mpr fun e he => ?_
    have hconsumes := h e (List.mem_of_mem_filter he)
    cases e with
    | added _ _ _ => cases hconsumes
    | refused _ => rfl
    | published _ _ _ => cases hconsumes
    | read _ _ => rfl
    | dispatched _ _ => rfl
  rw [sentBy_append, hnone, List.append_nil]

theorem Accounted.can_publish (h : Accounted J own es t w) (hmem : clnt ∈ w.router.clients)
    (topic payload : Bytes) : ∃ w', WorldStep J w (.published clnt.ptr topic payload) w' := by
  have hk := h.account clnt hmem
  obtain ⟨sock, hfd, -⟩ := hk.arrived
  have hheader : (w.sessions clnt.ptr).os.sends.head = .complete := hk.inbox.takes 0
  have hpayload : (w.sessions clnt.ptr).os.sends.tail.head = .complete := hk.inbox.takes 1
  obtain ⟨sendBuffer, hsend⟩ := sendInternal_complete J 0 (w.sessions clnt.ptr).con topic payload
    none 0 (w.sessions clnt.ptr).os rfl hfd (by rw [hheader]; rfl) (by rw [hpayload]; rfl)
  exact ⟨_, .publish hmem hsend⟩

/-- From every state that is reached a run goes on to where nothing is in flight. -/
theorem consumed_of_run (hstart : w₀.Created J)
    (hrun : Run (Allowing (fun _ e => e.Allowed J) (WorldStep J)) w₀ es w) :
    ∃ es' w', Run (Allowing (fun _ e => e.Allowed J) (WorldStep J)) w₀ (es ++ es') w' ∧
      (∀ e ∈ es', e.consumes = true) ∧ w'.Consumed := by
  obtain ⟨⟨t, h⟩, -⟩ := Accounted.of_run hstart hrun
  obtain ⟨es', w', hconsume, hdone⟩ := h.consumed
  have hallowed : Run (Allowing (fun _ e => e.Allowed J) (WorldStep J)) w es' w' :=
    hconsume.mono fun _ e _ hstep => ⟨e.consumes_allowed hstep.1 J, hstep.2⟩
  exact ⟨es', w', hrun.trans hallowed, hconsume.allowed, hdone⟩

/-- What is due of one client's messages is in the order in which they were sent. -/
theorem Accounted.dueFrom_sublist (h : Accounted J own es t w) (hmem : clnt ∈ w.router.clients)
    (client : Nat) (l : RtListener) :
    (dueFrom J clnt.ptr client l es).Sublist (sentBy J clnt.ptr es) := by
  have hafter : (routedAfter J client l es).Sublist (routedIn es) :=
    (List.tail_sublist _).trans (List.dropWhile_sublist _)
  have hrouted : (dueFrom J clnt.ptr client l es).Sublist (routedFrom clnt.ptr es) :=
    ((List.filter_sublist.trans hafter).filter _).map _
  exact hrouted.trans (h.dispatched hmem).1.sublist

/-- **Publish and subscribe.** A listener is called exactly for the messages that the router
    dispatched after its SUBSCRIBE and whose topic matches its expression, each once and in
    that order; no other callback is made; and the router dispatches the messages of each
    client in the order in which they were sent. What is in flight can be consumed. -/
theorem publish_subscribe (hstart : w₀.Created J)
    (hrun : Run (Allowing (fun _ e => e.Allowed J) (WorldStep J)) w₀ es w) :
    (∀ clnt ∈ w₀.router.clients,
      (∀ slot l, .added clnt.ptr slot l ∈ es →
        calledWith clnt.ptr slot es <+: dueTo J clnt.ptr l es ∧
        ((w.sessions clnt.ptr).waiting = [] →
          calledWith clnt.ptr slot es = dueTo J clnt.ptr l es) ∧
        ∀ k ∈ w₀.router.clients,
          (dueFrom J k.ptr clnt.ptr l es).Sublist (sentBy J k.ptr es)) ∧
      (∀ call, .dispatched clnt.ptr (some call) ∈ es →
        ∃ l, .added clnt.ptr call.slot l ∈ es ∧ l.callback = some call.callback) ∧
      routedFrom clnt.ptr es <+: sentBy J clnt.ptr es ∧
      (w.router.env.input clnt.fd = [] → routedFrom clnt.ptr es = sentBy J clnt.ptr es)) ∧
    ∃ es' w', Run (Allowing (fun _ e => e.consumes = true) (WorldStep J)) w es' w' ∧
      w'.Consumed := by
  obtain ⟨⟨t, h⟩, hclients⟩ := Accounted.of_run hstart hrun
  refine ⟨fun clnt₀ hmem₀ => ?_, h.consumed⟩
  obtain ⟨clnt, hmem, hptr, hfd⟩ := mem_of_same hclients hmem₀
  rw [← hptr, ← hfd]
  refine ⟨fun slot l hl => ?_, fun call hcall => ?_, h.dispatched hmem⟩
  · obtain ⟨hfirst, hall⟩ := h.delivered hmem hl
    refine ⟨hfirst, hall, fun k₀ hk₀ => ?_⟩
    obtain ⟨k, hk, hkptr, -⟩ := mem_of_same hclients hk₀
    rw [← hkptr]
    exact h.dueFrom_sublist hk clnt.ptr l
  · have hbox := (h.account clnt hmem).inbox
    have hmade : call ∈ (history clnt.ptr es).filterMap (·.call) :=
      List.mem_filterMap.mpr ⟨_, List.mem_filter.mpr ⟨hcall, beq_self_eq_true _⟩, rfl⟩
    rw [hbox.calls] at hmade
    obtain ⟨p, hp, rfl⟩ := List.mem_map.mp hmade
    obtain ⟨slot, l, cb, hl, hcb, -, heq⟩ := hbox.calledFor p hp
    rw [heq]
    exact ⟨l, mem_history.mp hl, hcb⟩

end Runs

/-! Client 1 listens, and client 2 publishes. -/

def listenText : Bytes := ascii "\x7b\"topic\":\"A.B\",\"route_id\":1\x7d"

/-- A library that prints and reads this text. -/
def listenLib : CJsonLib where
  parse text := if listenText.isPrefixOf text
    then some (subscribeMessage (ascii "A.B") 1) else none
  print _ := listenText

def exampleListener : RtListener := ⟨true, ascii "A.B", 1, some (.user 0)⟩

theorem exampleListener_subscribable : exampleListener.Subscribable listenLib where
  nul_free := by decide
  expression_pos := by decide
  expression_le := by decide
  id_lt := by decide
  readsBack := by
    have hnul : 0 ∉ listenText := by decide
    refine ⟨by decide, fun rest => ?_⟩
    change listenLib.parse (cstr (cstr listenText ++ rest)) = _
    rw [cstr_of_not_mem hnul, cstr_append hnul]
    have hfront : listenText.isPrefixOf (listenText ++ cstr rest) = true :=
      List.isPrefixOf_iff_prefix.mpr (List.prefix_append _ _)
    unfold listenLib
    dsimp only
    rw [if_pos hfront]
    rfl
  fits := by decide

/-- Both clients have connected, and are processes of their own. -/
def exampleWorld : World where
  router := twoClients fun _ => []
  sessions _ := openSession (Stream'.const .complete)
  process client := client
  nextId _ := 1

theorem exampleWorld_created : exampleWorld.Created listenLib where
  router := twoClients_fresh fun _ f hf => by cases hf
  sessions _ _ := by
    refine ⟨⟨0, rfl⟩, fun l hl => ?_, fun _ => rfl, fun _ => ⟨8191, rfl⟩, fun _ => rfl⟩
    rw [List.eq_of_mem_replicate hl]
    rfl
  nextId _ := rfl

theorem exampleWorld_routed {es : List WorldEvent} {w : World}
    (hrun : Run (Allowing (fun _ e => e.Allowed listenLib) (WorldStep listenLib)) exampleWorld es w)
    (hread : w.AllRead) :
    routedFrom 1 es = sentBy listenLib 1 es ∧ routedFrom 2 es = sentBy listenLib 2 es ∧
      ∀ other, other ≠ 1 → other ≠ 2 → routedFrom other es = [] := by
  obtain ⟨⟨t, h⟩, hclients⟩ := Accounted.of_run exampleWorld_created hrun
  have hall : ∀ k ∈ exampleWorld.router.clients,
      routedFrom k.ptr es = sentBy listenLib k.ptr es := by
    intro k hk
    obtain ⟨clnt, hmem, hptr, -⟩ := mem_of_same hclients hk
    rw [← hptr]
    exact (h.dispatched hmem).2 (hread clnt hmem)
  refine ⟨hall (rtConnectedClientInit 1 0) List.mem_cons_self,
    hall (rtConnectedClientInit 2 1) (List.mem_cons_of_mem _ List.mem_cons_self),
    fun other h₁ h₂ => h.routedFrom_none fun k hk heq => ?_⟩
  obtain ⟨k₀, hk₀, hptr, -⟩ := mem_of_same hclients.symm hk
  cases List.mem_cons.mp hk₀ with
  | inl hone =>
    rw [hone] at hptr
    exact h₁ (heq.symm.trans hptr.symm)
  | inr htwo =>
    rw [List.mem_singleton.mp htwo] at hptr
    exact h₂ (heq.symm.trans hptr.symm)

theorem exampleWorld_dispatched {es es' : List WorldEvent} {w w' : World}
    (hrun : Run (Allowing (fun _ e => e.Allowed listenLib) (WorldStep listenLib)) exampleWorld
      ([.added 1 0 exampleListener] ++ es) w)
    (hrun' : Run (Allowing (fun _ e => e.Allowed listenLib) (WorldStep listenLib)) exampleWorld
      ([.added 1 0 exampleListener] ++ es ++ ([.published 2 (ascii "A.B") [1, 2]] ++ es')) w')
    (hes : ∀ e ∈ es, e.consumes = true) (hes' : ∀ e ∈ es', e.consumes = true)
    (hread : w.AllRead) (hread' : w'.AllRead) :
    routedIn ([.added 1 0 exampleListener] ++ es ++
      ([.published 2 (ascii "A.B") [1, 2]] ++ es')) =
        [⟨1, subscribeTopic, listenText⟩, ⟨2, ascii "A.B", [1, 2]⟩] := by
  obtain ⟨hone, htwo, hother⟩ := exampleWorld_routed hrun hread
  obtain ⟨hone', htwo', hother'⟩ := exampleWorld_routed hrun' hread'
  have hfirst : routedIn ([.added 1 0 exampleListener] ++ es) =
      [⟨1, subscribeTopic, listenText⟩] := by
    rw [routedIn_alone 1, hone, sentBy_consumes hes]
    · rfl
    · intro other hne
      by_cases h : other = 2
      · rw [h, htwo, sentBy_consumes hes]
        rfl
      · exact hother other hne h
  have hthen : routedIn ([.published 2 (ascii "A.B") [1, 2]] ++ es') =
      [⟨2, ascii "A.B", [1, 2]⟩] := by
    rw [routedIn_alone 2, routedFrom_later htwo htwo', sentBy_consumes hes']
    · rfl
    · intro other hne
      by_cases h : other = 1
      · rw [h, routedFrom_later hone hone', sentBy_consumes hes']
        rfl
      · have hnone := hother' other h hne
        rw [routedFrom_append] at hnone
        exact (List.append_eq_nil_iff.mp hnone).2
  rw [routedIn, List.filterMap_append]
  exact congrArg₂ _ hfirst hthen

theorem publish_subscribe_example : ∃ es w,
    Run (Allowing (fun _ e => e.Allowed listenLib) (WorldStep listenLib)) exampleWorld es w ∧
      calledWith 1 0 es = [(ascii "A.B", [1, 2])] := by
  have hone : rtConnectedClientInit 1 0 ∈ exampleWorld.router.clients := List.mem_cons_self
  have htwo : rtConnectedClientInit 2 1 ∈ exampleWorld.router.clients :=
    List.mem_cons_of_mem _ List.mem_cons_self
  -- client 1 adds its listener, and the router reads the SUBSCRIBE
  obtain ⟨w₁, hadd⟩ : ∃ w₁, WorldStep listenLib exampleWorld (.added 1 0 exampleListener) w₁ := by
    obtain ⟨r, hsend, -⟩ := openConnection_adds listenLib (ascii "A.B") (.user 0) 1
    exact ⟨_, .add hone hsend openConnection_slot⟩
  have hrun₁ : Run (Allowing (fun _ e => e.Allowed listenLib) (WorldStep listenLib)) exampleWorld
      [.added 1 0 exampleListener] w₁ := .single ⟨exampleListener_subscribable, hadd⟩
  obtain ⟨es₁, w₂, hrun₂, hes₁, hdone₁⟩ := consumed_of_run exampleWorld_created hrun₁
  -- client 2 publishes, and everything is consumed
  obtain ⟨⟨t, h₂⟩, hclients⟩ := Accounted.of_run exampleWorld_created hrun₂
  obtain ⟨clnt, hmem, hptr, -⟩ := mem_of_same hclients htwo
  obtain ⟨w₃, hpub⟩ := h₂.can_publish hmem (ascii "A.B") [1, 2]
  rw [hptr] at hpub
  have hallowed : (WorldEvent.published 2 (ascii "A.B") [1, 2]).Allowed listenLib := by
    change Publishable (ascii "A.B") [1, 2]
    constructor <;> decide
  have hrun₃ := hrun₂.snoc ⟨hallowed, hpub⟩
  obtain ⟨es₂, w₄, hrun₄, hes₂, hdone₂⟩ := consumed_of_run exampleWorld_created hrun₃
  rw [List.append_assoc _ _ es₂] at hrun₄
  refine ⟨_, w₄, hrun₄, ?_⟩
  obtain ⟨-, hclients'⟩ := Accounted.of_run exampleWorld_created hrun₄
  obtain ⟨clnt', hmem', hptr', -⟩ := mem_of_same hclients' hone
  have htaken := hdone₂.taken clnt' hmem'
  rw [hptr'] at htaken
  have hcalled := ((publish_subscribe exampleWorld_created hrun₄).1 _ hone).1 0 exampleListener
    List.mem_cons_self
  refine (hcalled.2.1 htaken).trans ?_
  rw [dueTo, routedAfter,
    exampleWorld_dispatched hrun₂ hrun₄ hes₁ hes₂ hdone₁.read hdone₂.read]
  decide

end RtMessage
