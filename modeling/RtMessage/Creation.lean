import RtMessage.Requests
import RtMessage.RouterSpec
import RtMessage.Session
import RtMessage.SocketAddress
import RtMessage.TopicGrammar

/- `rtConnection_CreateWithConfig`: how a connection comes about.

   Its inbox is named after the application and the process, and is the first listener. What
   holds of a connection over its life begins here: from its creation on it has its inbox in the
   first slot, and one SUBSCRIBE for each of its listeners (`created_connection_lives`). -/
namespace RtMessage
open Lib

/-- The start of a C string that `snprintf` puts into `inbox_name`. -/
def inboxName (applicationName : Bytes) (pid : Nat) : Bytes :=
  (applicationName ++ ascii ".INBOX." ++ digits pid).take 127

structure CreateResult where
  err : RtError
  /-- what is stored in `*con` -/
  con : Option RtConnection
  nextId : UInt32
  os : Os

/-- `strdup` and `strncmp` are given the strings of the configuration even if there are none.
    The connection is freed if its address cannot be parsed. -/
def rtConnectionCreateWithConfig (J : CJsonLib) (L : AddressLib) (fuel pid : Nat) (conf : CJson)
    (nextId : UInt32) (os : Os) : Except Fault CreateResult :=
  let startRouter := (rtMessageGetInt32 conf (ascii "start_router")).getD 0
  if startRouter ≠ 0 ∧ rtConnectionEnsureRoutingDaemon ≠ .ok then
    .ok ⟨rtConnectionEnsureRoutingDaemon, none, nextId, os⟩
  else
    match (rtMessageGetString conf (ascii "appname")).join,
      (rtMessageGetString conf (ascii "uri")).join with
    | some applicationName, some routerConfig => do
      let (err, remoteEndpoint) ← rtSocketStorageFromString L .zero routerConfig
      if err ≠ .ok then return ⟨err, none, nextId, os⟩
      let con := rtConnectionInit remoteEndpoint.family (inboxName (cstr applicationName) pid)
      let sendMessage con m topic os := rtConnectionSendMessage J fuel con m topic os
      let (err, con, os) ← rtConnectionConnectAndRegister sendMessage fuel con os
      if err ≠ .ok then return ⟨err, none, nextId, os⟩
      let r ← rtConnectionAddListener J fuel con con.inboxName .onInboxMessage nextId os
      return ⟨.ok, some r.con, r.nextId, r.os⟩
    | _, _ => .error .undefinedBehaviour

/-- The configuration that `rtConnection_Create` makes. -/
def createConfig (applicationName routerConfig : Bytes) : CJson :=
  let conf := rtMessageSetString rtMessageCreate (ascii "appname") applicationName
  let conf := rtMessageSetString conf (ascii "uri") routerConfig
  rtMessageSetInt32 conf (ascii "start_router") 1

def rtConnectionCreate (J : CJsonLib) (L : AddressLib) (fuel pid : Nat)
    (applicationName routerConfig : Bytes) (nextId : UInt32) (os : Os) :
    Except Fault CreateResult :=
  rtConnectionCreateWithConfig J L fuel pid (createConfig applicationName routerConfig) nextId os

/-! What a call leaves. -/

def inboxListener (inbox : Bytes) (id : UInt32) : RtListener :=
  ⟨true, inbox, id, some .onInboxMessage⟩

/-- A connection whose inbox is its only listener. -/
structure OnlyInbox (inbox : Bytes) (id : UInt32) (con : RtConnection) : Prop where
  name : con.inboxName = inbox
  listeners : con.listeners = inboxListener inbox id :: List.replicate 63 .free
  response : con.response = none

section Calls
variable {J : CJsonLib} {L : AddressLib} {fuel pid : Nat} {conf : CJson} {nextId : UInt32} {os : Os}
  {r : CreateResult}

theorem inboxName_length (applicationName : Bytes) (pid : Nat) :
    (inboxName applicationName pid).length ≤ 127 := List.length_take_le _ _

theorem connect_silent {family : AddressFamily} {inbox : Bytes} {con : RtConnection} {os' : Os}
    {err : RtError} (h : sendReconnect J fuel (rtConnectionInit family inbox) os =
      .ok (err, con, os')) :
    os'.sent = os.sent ∧ os'.sends = os.sends ∧
      con = { rtConnectionInit family inbox with fd := con.fd } := by
  obtain ⟨n, -, -, rfl, rfl⟩ | ⟨-, -, connects, hregister⟩ := connectAndRegister_cases h
  · exact ⟨rfl, rfl, rfl⟩
  · rw [registerListeners_free] at hregister
    · cases hregister
      exact ⟨rfl, rfl, rfl⟩
    · intro l hl
      rw [List.eq_of_mem_replicate hl]
      rfl

/-- The steps of a call: it ends without a connection, or it connects and adds the inbox. -/
theorem create_steps (h : rtConnectionCreateWithConfig J L fuel pid conf nextId os = .ok r) :
    (r.err ≠ .ok ∧ r.con = none ∧ r.nextId = nextId ∧ r.os.sent = os.sent) ∨
    ∃ family applicationName con os' added,
      (rtMessageGetString conf (ascii "appname")).join = some applicationName ∧
      sendReconnect J fuel (rtConnectionInit family (inboxName (cstr applicationName) pid)) os =
        .ok (.ok, con, os') ∧
      rtConnectionAddListener J fuel con con.inboxName .onInboxMessage nextId os' = .ok added ∧
      r = ⟨.ok, some added.con, added.nextId, added.os⟩ := by
  unfold rtConnectionCreateWithConfig at h
  rw [if_neg (fun hdaemon => hdaemon.2 rfl)] at h
  split at h
  · next applicationName routerConfig happ huri =>
    obtain ⟨⟨err, remote⟩, -, h⟩ := bind_eq_ok.mp h
    dsimp only at h
    by_cases herr : err = .ok
    · rw [if_neg (not_not_intro herr)] at h
      obtain ⟨⟨err, con, os'⟩, hconnect, h⟩ := bind_eq_ok.mp h
      dsimp only at h
      by_cases hok : err = .ok
      · rw [if_neg (not_not_intro hok)] at h
        obtain ⟨added, hadd, h⟩ := bind_eq_ok.mp h
        cases hok
        cases h
        exact .inr ⟨_, _, con, os', added, happ, hconnect, hadd, rfl⟩
      · rw [if_pos hok] at h
        cases h
        exact .inl ⟨hok, rfl, rfl, (connect_silent hconnect).1⟩
    · rw [if_pos herr] at h
      cases h
      exact .inl ⟨herr, rfl, rfl, rfl⟩
  · cases h

theorem addListener_keeps {con : RtConnection} {expression : Bytes} {callback : RtMessageCallback}
    {a : AddResult} (h : rtConnectionAddListener J fuel con expression callback nextId os = .ok a) :
    a.con.inboxName = con.inboxName ∧ a.con.response = con.response := by
  unfold rtConnectionAddListener at h
  split at h
  · cases h
    exact ⟨rfl, rfl⟩
  · obtain ⟨⟨e, con', os'⟩, hsend, h⟩ := bind_eq_ok.mp h
    cases h
    exact ⟨(sendInternal_keeps hsend).inboxName, (sendInternal_keeps hsend).response⟩

/-- **What a call leaves**, whatever the system answers: an error, no connection and no frame
    sent; or a connection whose only listener is its inbox, under the next id. -/
theorem create_cases (h : rtConnectionCreateWithConfig J L fuel pid conf nextId os = .ok r) :
    (r.err ≠ .ok ∧ r.con = none ∧ r.nextId = nextId ∧ r.os.sent = os.sent) ∨
    ∃ applicationName con, (rtMessageGetString conf (ascii "appname")).join = some applicationName ∧
      r.err = .ok ∧ r.con = some con ∧ r.nextId = nextId + 1 ∧
      OnlyInbox (inboxName (cstr applicationName) pid) nextId con := by
  obtain hfailed | ⟨family, applicationName, con, os', added, happ, hconnect, hadd, rfl⟩ :=
    create_steps h
  · exact .inl hfailed
  · obtain ⟨-, -, hcon⟩ := connect_silent hconnect
    have hinbox : (rtConnectionInit family (inboxName (cstr applicationName) pid)).inboxName =
        inboxName (cstr applicationName) pid := List.take_of_length_le (inboxName_length _ _)
    have hslot : con.listeners.findIdx? (fun l => !l.inUse) = some 0 := by
      rw [hcon]
      rfl
    obtain ⟨hnone, -⟩ | ⟨i, hi, -, hid, hlisteners⟩ := addListener_cases hadd
    · cases hslot.symm.trans hnone
    · cases hslot.symm.trans hi
      refine .inr ⟨applicationName, added.con, happ, rfl, rfl, hid, ?_, ?_, ?_⟩
      · rw [(addListener_keeps hadd).1, hcon]
        exact hinbox
      · rw [hlisteners, hcon]
        change List.set (List.replicate 64 RtListener.free) 0 _ = _
        rw [hinbox]
        rfl
      · rw [(addListener_keeps hadd).2, hcon]
        rfl

end Calls

/-! The life of a connection. -/

/-- A connection that has its inbox in the first slot. -/
structure HasInbox (inbox : Bytes) (id : UInt32) (con : RtConnection) : Prop where
  name : con.inboxName = inbox
  slot : con.listeners[0]? = some (inboxListener inbox id)

theorem OnlyInbox.hasInbox {inbox : Bytes} {id : UInt32} {con : RtConnection}
    (h : OnlyInbox inbox id con) : HasInbox inbox id con :=
  ⟨h.name, by rw [h.listeners]; rfl⟩

section Life
variable {J : CJsonLib} {inbox : Bytes} {id : UInt32} {con con' : RtConnection}

theorem HasInbox.kept (h : HasInbox inbox id con) (hname : con'.inboxName = con.inboxName)
    (hlisteners : con'.listeners = con.listeners) : HasInbox inbox id con' :=
  ⟨hname.trans h.name, by rw [hlisteners, h.slot]⟩

theorem receiveLoop_keeps {fuel left : Nat} {hdr : RtMessageHeader} {os : Os} {r : Received}
    (h : receiveLoop (sendReconnect J fuel) fuel left hdr con os = .ok r) :
    r.con.inboxName = con.inboxName ∧ r.con.listeners = con.listeners := by
  induction left using Nat.strongRecOn generalizing hdr con os with
  | ind left ih =>
    obtain ⟨a, err, con₁, os₁, hattempt, hre, hend⟩ := receiveLoop_turn h
    have hread : a.con.inboxName = con.inboxName ∧ a.con.listeners = con.listeners := by
      refine receiveAttempt_invariant (I := fun _ k _ =>
        k.inboxName = con.inboxName ∧ k.listeners = con.listeners) ⟨rfl, rfl⟩ ?_ ?_ hattempt
      · intro k os off count err k' os' hk hread
        obtain ⟨s, -, hread⟩ := bind_eq_ok.mp hread
        cases hread
        exact hk
      · exact fun _ hk => hk
    have hturn : con₁.inboxName = con.inboxName ∧ con₁.listeners = con.listeners := by
      obtain ⟨-, -, rfl, -⟩ | ⟨-, hre⟩ := reregister_cases hre
      · exact hread
      · have hkeeps := sendReconnect_keeps hre
        exact ⟨hkeeps.inboxName.trans hread.1, hkeeps.listeners.trans hread.2⟩
    obtain rfl | ⟨left', rfl, -, h⟩ := hend
    · exact hturn
    · obtain ⟨hname, hlisteners⟩ := ih left' (Nat.lt_succ_self left') h
      exact ⟨hname.trans hturn.1, hlisteners.trans hturn.2⟩

theorem deliverFrame_inboxName {hdr : RtMessageHeader} {call : Option CallbackCall}
    (h : deliverFrame J hdr con = .ok (con', call)) : con'.inboxName = con.inboxName := by
  obtain ⟨rfl, -⟩ | ⟨_, _, cb, -, -, -, rfl, -⟩ := deliverFrame_cases h
  · rfl
  · cases cb with
    | user id => rfl
    | onInboxMessage =>
      rw [calledBack, onInboxMessage]
      split <;> rfl

theorem HasInbox.inUse_ne_zero {os : Os} (h : HasInbox inbox id con) :
    Session.inUse ⟨con, os⟩ ≠ 0 := by
  intro hzero
  have hnone := List.filter_eq_nil_iff.mp (List.eq_nil_of_length_eq_zero hzero)
  exact hnone _ (List.mem_of_getElem? h.slot) rfl

/-- **A call on a connection** leaves its inbox where it is. -/
theorem HasInbox.step {s t : Session} {e : SessionEvent} (h : HasInbox inbox id s.con)
    (hplain : e.Plain s) (hstep : SessionStep J s e t) : HasInbox inbox id t.con := by
  cases hstep with
  | add hadd =>
    obtain ⟨-, rfl⟩ | ⟨i, hi, -, -, hlisteners⟩ := addListener_cases hadd
    · exact h
    · refine ⟨(addListener_keeps hadd).1.trans h.name, ?_⟩
      -- the slot that was free is another one
      have hother : i ≠ 0 := by
        rintro rfl
        obtain ⟨hlt, hfree, -⟩ := List.findIdx?_eq_some_iff_getElem.mp hi
        rw [(List.getElem?_eq_some_iff.mp h.slot).2] at hfree
        cases hfree
      rw [hlisteners, List.getElem?_set_ne hother]
      exact h.slot
  | send hsend =>
    have hkeeps := sendInternal_keeps hsend
    exact h.kept hkeeps.inboxName hkeeps.listeners
  | @dispatch fuel r d evs hr hd hevs =>
    obtain ⟨r', hr', -, -, hend⟩ := timedDispatch_cases hd
    cases hr.symm.trans hr'
    obtain ⟨hname, hlisteners⟩ := receiveLoop_keeps hr
    have hreceived := h.kept hname hlisteners
    obtain ⟨-, hdeliver⟩ | ⟨-, hcon, -⟩ := hend
    · have hrouted : strstr r.hdr.replyTopic.str noRouteTopic = false :=
        Bool.eq_false_iff.mpr fun hno => h.inUse_ne_zero (hplain hno)
      have hsame := deliverFrame_listeners hdeliver
      rw [hrouted, findListener_kept] at hsame
      exact hreceived.kept (deliverFrame_inboxName hdeliver) hsame
    · rw [hcon]
      exact hreceived
  | take => exact h.kept rfl rfl
  | arrive input => exact h

end Life

/-- **From its creation on** a connection has its inbox in the first slot, under its name and
    its id, and one SUBSCRIBE for each of its listeners on the connection it currently has, in
    every run whose losses are all recovered from. -/
theorem created_connection_lives {J : CJsonLib} {L : AddressLib} {fuel pid : Nat} {conf : CJson}
    {nextId : UInt32} {os : Os} {r : CreateResult} {con : RtConnection} {es : List SessionEvent}
    {t : Session} (hos : os.OnlyLoses)
    (huntouched : ∀ sock, os.nextSock ≤ sock → wire sock os.sent = [])
    (hfirst : LossRecovers 1 os.sends)
    (h : rtConnectionCreateWithConfig J L fuel pid conf nextId os = .ok r) (hcon : r.con = some con)
    (hrun : Run (Allowing (fun s e => e.Plain s ∧ e.Recovers s) (SessionStep J)) ⟨con, r.os⟩ es t) :
    ∃ applicationName, (rtMessageGetString conf (ascii "appname")).join = some applicationName ∧
      HasInbox (inboxName (cstr applicationName) pid) nextId t.con ∧
      RegisteredOnce J t.con t.os := by
  obtain ⟨-, hnone, -⟩ | ⟨applicationName, con', happ, -, hcon', -, honly⟩ := create_cases h
  · cases hcon.symm.trans hnone
  · cases hcon.symm.trans hcon'
    have hintact : Session.Intact J ⟨con, r.os⟩ := by
      obtain ⟨-, hnone, -⟩ | ⟨family, app, con₁, os₁, added, -, hconnect, hadd, rfl⟩ :=
        create_steps h
      · cases hcon.symm.trans hnone
      · cases hcon
        have hmade := created_of_connect hos huntouched hconnect
        have hinUse : Session.inUse ⟨con₁, os₁⟩ = 0 := hmade.unused
        refine (hmade.intact J).addListener (fun _ => ?_) hadd
        rw [hinUse, (connect_silent hconnect).2.1]
        exact hfirst
    refine ⟨applicationName, happ, ?_⟩
    have hend : HasInbox (inboxName (cstr applicationName) pid) nextId t.con ∧ t.Intact J := by
      refine hrun.invariant (I := fun _ t =>
        HasInbox (inboxName (cstr applicationName) pid) nextId t.con ∧ t.Intact J)
        ⟨honly.hasInbox, hintact⟩ ?_
      intro _ s e s' ⟨hinbox, hs⟩ hstep
      exact ⟨hinbox.step hstep.1.1 hstep.2, hs.step hstep.1.1 hstep.1.2 hstep.2⟩
    exact ⟨hend.1, hend.2.registered⟩

/-! A connection for which there are a socket and a listening router. -/

/-- The system when the socket is connected. -/
def Os.connectedNext (os : Os) : Os :=
  { os with sockets := os.sockets.tail, nextSock := os.nextSock + 1, connects := os.connects.tail }

theorem create_complete (J : CJsonLib) {L : AddressLib} (fuel pid : Nat) {conf : CJson}
    {applicationName routerConfig : Bytes} {remote : SockaddrStorage} (nextId : UInt32) {os : Os}
    (happ : (rtMessageGetString conf (ascii "appname")).join = some applicationName)
    (huri : (rtMessageGetString conf (ascii "uri")).join = some routerConfig)
    (hparse : rtSocketStorageFromString L .zero routerConfig = .ok (.ok, remote))
    (hfamily : remote.family ≠ .unspec) (hsocket : os.sockets.head = none)
    (hconnect : os.connects.head = none) (hheader : os.sends.head = .complete)
    (hpayload : os.sends.tail.head = .complete) :
    ∃ con f, rtConnectionCreateWithConfig J L (fuel+1) pid conf nextId os =
        .ok ⟨.ok, some con, nextId + 1, os.connectedNext.afterFrame os.nextSock f⟩ ∧
      con.fd = some os.nextSock ∧ con.remoteFamily = remote.family ∧
      OnlyInbox (inboxName (cstr applicationName) pid) nextId con := by
  let con := { rtConnectionInit remote.family (inboxName (cstr applicationName) pid) with
    fd := some os.nextSock }
  have hfree : ∀ l ∈ con.listeners, l.inUse = false := by
    intro l hl
    rw [List.eq_of_mem_replicate hl]
    rfl
  have hslot : con.listeners.findIdx? (fun l => !l.inUse) = some 0 := rfl
  obtain ⟨sendBuffer, hadd⟩ := addListener_complete J fuel .onInboxMessage hslot rfl
    (show con.fd = some os.nextSock from rfl)
    (show os.connectedNext.sends.head.Full _ by rw [Os.connectedNext, hheader]; rfl)
    (show os.connectedNext.sends.tail.head.Full _ by rw [Os.connectedNext, hpayload]; rfl)
  let f := sentFrame con subscribeTopic
    (rtMessageToByteArray J (subscribeMessage con.inboxName nextId)) none 0
  have hcreate : rtConnectionCreateWithConfig J L (fuel+1) pid conf nextId os =
      .ok ⟨.ok, some { con.withListener 0 (inboxListener con.inboxName nextId) with
          sequenceNumber := con.sequenceNumber + 1, sendBuffer }, nextId + 1,
        os.connectedNext.afterFrame os.nextSock f⟩ := by
    unfold rtConnectionCreateWithConfig
    rw [if_neg (fun hdaemon => hdaemon.2 rfl), happ, huri]
    dsimp only
    rw [hparse, ok_bind]
    dsimp only
    rw [if_neg (not_not_intro rfl), connectAndRegister_connected _ fuel hfamily hsocket hconnect,
      registerListeners_free _ _ _ hfree, ok_bind]
    change (rtConnectionAddListener J (fuel+1) con con.inboxName .onInboxMessage nextId
      os.connectedNext >>= _) = _
    rw [hadd, ok_bind]
    rfl
  refine ⟨_, f, hcreate, rfl, rfl, ?_⟩
  obtain ⟨hfailed, -⟩ | ⟨app, con', happ', -, hcon, -, honly⟩ := create_cases hcreate
  · exact absurd rfl hfailed
  · cases happ.symm.trans happ'
    cases hcon
    exact honly

/-! Whose inbox it is. -/

theorem dot_not_mem_digits (n : Nat) : (46 : UInt8) ∉ digits n := fun h =>
  absurd ((numeral_digits n).2 46 h) (by decide)

theorem digits_inj {p q : Nat} (h : digits p = digits q) : p = q := by
  rw [← digitsValue_digits p, h, digitsValue_digits]

/-- The name is not cut. -/
def FitsInbox (applicationName : Bytes) (pid : Nat) : Prop :=
  applicationName.length + 7 + (digits pid).length ≤ 127

theorem inboxName_eq {a : Bytes} {p : Nat} (h : FitsInbox a p) :
    inboxName a p = (a ++ ascii ".INBOX") ++ 46 :: digits p := by
  have hdot : ascii ".INBOX." = ascii ".INBOX" ++ [46] := by decide
  have hlen : (ascii ".INBOX.").length = 7 := by decide
  rw [inboxName, List.take_of_length_le, hdot]
  · simp only [List.append_assoc, List.singleton_append]
  · rw [List.length_append, List.length_append, hlen]
    exact h

/-- Names that are not cut tell the applications and the processes apart. -/
theorem inboxName_inj {a b : Bytes} {p q : Nat} (ha : FitsInbox a p) (hb : FitsInbox b q) :
    inboxName a p = inboxName b q ↔ a = b ∧ p = q := by
  constructor
  · intro h
    rw [inboxName_eq ha, inboxName_eq hb] at h
    -- what is behind the last dot is the process
    have hlast := strrchr_append (a ++ ascii ".INBOX") (dot_not_mem_digits p)
    rw [h, strrchr_append _ (dot_not_mem_digits q), Option.some.injEq, List.cons.injEq] at hlast
    have hpid := digits_inj hlast.2
    rw [hlast.2] at h
    exact ⟨List.append_cancel_right (List.append_cancel_right h), hpid.symm⟩
  · rintro ⟨rfl, rfl⟩
    rfl

theorem inboxName_plain {a : Bytes} {p : Nat} {c : UInt8} (hc : c ∉ a)
    (hinbox : c ∉ ascii ".INBOX.") (hdigit : isDigit c = false) : c ∉ inboxName a p := by
  intro h
  have hmem := List.mem_of_mem_take h
  simp only [List.mem_append] at hmem
  obtain (hmem | hmem) | hmem := hmem
  · exact hc hmem
  · exact hinbox hmem
  · exact Bool.false_ne_true (hdigit.symm.trans ((numeral_digits p).2 c hmem))

section Privacy
variable {J : CJsonLib} {a b : Bytes} {p q : Nat}

/-- A response that is sent to an inbox is stored by the connection that has it. -/
theorem HasInbox.stores {inbox : Bytes} {id : UInt32} {con con' : RtConnection} {f : Frame}
    {rest : Bytes} {call : Option CallbackCall} (h : HasInbox inbox id con)
    (honly : ∀ (j : Nat) (k : RtListener), con.listeners[j]? = some k → k.inUse = true →
      k.subscriptionId = id → j = 0) (hroute : f.Routed)
    (hflags : f.flags &&& rtMessageFlagsResponse ≠ 0) (hid : f.controlData = id)
    (hbuf : con.recvBuffer.data.drop f.headerLength = f.payload ++ 0 :: rest)
    (hdeliver : deliverFrame J f.header con = .ok (con', call)) :
    con'.response = rtMessageFromBytes J f.payload := by
  obtain ⟨hcon, -⟩ := deliverFrame_found hdeliver hbuf hroute h.slot rfl hid.symm rfl
    fun j k hk huse hkid => honly j k hk huse (hkid.trans hid)
  rw [hcon, calledBack, onInboxMessage, if_pos (show f.header.flags &&& _ ≠ 0 from hflags)]
  simp only [rtMessageFromBytes, cstr_append_nul]

/-- The names of connections that were made. -/
structure Named (conf : CJson) (name : Bytes) (pid : Nat) : Prop where
  appname : (rtMessageGetString conf (ascii "appname")).join = some name
  fits : FitsInbox name pid
  nul_free : 0 ∉ name
  plain : 42 ∉ name ∧ 62 ∉ name

theorem Named.inbox {conf : CJson} {L : AddressLib} {fuel : Nat} {nextId : UInt32} {os : Os}
    {r : CreateResult} {con : RtConnection} (h : Named conf a p)
    (hcreate : rtConnectionCreateWithConfig J L fuel p conf nextId os = .ok r)
    (hcon : r.con = some con) : OnlyInbox (inboxName a p) nextId con := by
  obtain ⟨-, hnone, -⟩ | ⟨app, con', happ, -, hcon', -, honly⟩ := create_cases hcreate
  · cases hcon.symm.trans hnone
  · cases hcon.symm.trans hcon'
    cases h.appname.symm.trans happ
    rwa [cstr_of_not_mem h.nul_free] at honly

/-- **Whose responses a connection takes**: a response to the inbox of one connection is sent to
    another exactly if one process made both of them under one application name, and is then
    stored there as well. -/
theorem inbox_private_iff {L : AddressLib} {conf₁ conf₂ : CJson} {fuel₁ fuel₂ client : Nat}
    {id₁ id₂ : UInt32} {os₁ os₂ : Os} {r₁ r₂ : CreateResult} {con₁ con₂ : RtConnection}
    (ha : Named conf₁ a p) (hb : Named conf₂ b q)
    (h₁ : rtConnectionCreateWithConfig J L fuel₁ p conf₁ id₁ os₁ = .ok r₁)
    (hcon₁ : r₁.con = some con₁)
    (h₂ : rtConnectionCreateWithConfig J L fuel₂ q conf₂ id₂ os₂ = .ok r₂)
    (hcon₂ : r₂.con = some con₂)
    {f : Frame} (htopic : f.topic = Topic.cut con₁.inboxName)
    (hflags : f.flags &&& rtMessageFlagsResponse ≠ 0) (hroute : f.Routed) :
    copies [⟨client, id₂, con₂.inboxName⟩] f =
      (if a = b ∧ p = q then [(client, f.withControlData id₂)] else []) ∧
    ∀ (buffer : CArray 8192) rest con' call,
      buffer.data.drop f.headerLength = f.payload ++ 0 :: rest →
      deliverFrame J (f.withControlData id₂).header { con₂ with recvBuffer := buffer } =
        .ok (con', call) → con'.response = rtMessageFromBytes J f.payload := by
  have hinbox₁ := ha.inbox h₁ hcon₁
  have hinbox₂ := hb.inbox h₂ hcon₂
  constructor
  · have hfree : 0 ∉ inboxName a p := inboxName_plain ha.nul_free (by decide) (by decide)
    have hstr : f.topic.str = inboxName a p := by
      rw [htopic, hinbox₁.name]
      change cstr ((inboxName a p).take 127) = _
      rw [List.take_of_length_le (inboxName_length a p), cstr_of_not_mem hfree]
    have hmatch : Subscription.matches ⟨client, id₂, con₂.inboxName⟩ f = true ↔ a = b ∧ p = q := by
      rw [Subscription.matches, hstr, hinbox₂.name, isTopicMatch_plain,
        inboxName_inj ha.fits hb.fits]
      · exact inboxName_plain hb.plain.1 (by decide) (by decide)
      · exact inboxName_plain hb.plain.2 (by decide) (by decide)
    unfold copies
    by_cases hsame : a = b ∧ p = q
    · rw [if_pos hsame, List.filter_cons, if_pos (hmatch.mpr hsame)]
      rfl
    · rw [if_neg hsame, List.filter_cons, if_neg fun h => hsame (hmatch.mp h)]
      rfl
  · intro buffer rest con' call hbuf hdeliver
    have hhas : HasInbox (inboxName b q) id₂ { con₂ with recvBuffer := buffer } :=
      ⟨hinbox₂.name, by rw [hinbox₂.listeners]; rfl⟩
    refine hhas.stores (f := f.withControlData id₂) ?_ hroute hflags rfl hbuf hdeliver
    -- the other slots are free
    intro j k hk huse _
    cases j with
    | zero => rfl
    | succ j =>
      change con₂.listeners[j+1]? = some k at hk
      rw [hinbox₂.listeners] at hk
      have hmem : k ∈ List.replicate 63 RtListener.free := List.mem_of_getElem? hk
      rw [List.eq_of_mem_replicate hmem] at huse
      cases huse

end Privacy

/-! Two connections of one process. -/

/-- Any path is an address. -/
def unixConfig (applicationName : Bytes) : CJson :=
  createConfig applicationName (ascii "unix:///tmp/router")

theorem unixConfig_created (J : CJsonLib) (a : Bytes) (pid : Nat) (nextId : UInt32)
    (sends : Stream' SendResult) (hheader : sends.head = .complete)
    (hpayload : sends.tail.head = .complete) :
    ∃ con f, rtConnectionCreateWithConfig J loopbackLib 1 pid (unixConfig a) nextId (.idle sends) =
      .ok ⟨.ok, some con, nextId + 1, (Os.idle sends).connectedNext.afterFrame 1 f⟩ ∧
      con.fd = some 1 ∧ con.remoteFamily = .unix ∧
      OnlyInbox (inboxName (cstr a) pid) nextId con := by
  have hpath : cstr (ascii "unix:///tmp/router") = unixPrefix ++ ascii "/tmp/router" := by decide
  have hcopy : SockaddrStorage.zero.sunPath.strcpy (ascii "/tmp/router") =
      .ok (.pad 108 (ascii "/tmp/router")) := CArray.strcpy_zero (by decide)
  have hparse : rtSocketStorageFromString loopbackLib .zero (ascii "unix:///tmp/router") =
      (do return (.ok, { SockaddrStorage.zero with
        family := .unix, sunPath := ← SockaddrStorage.zero.sunPath.strcpy _ })) := run_unix hpath
  rw [hcopy] at hparse
  exact create_complete J 0 pid nextId rfl rfl hparse (fun h => by cases h) rfl rfl
    hheader hpayload

/-- The fifth send, of the header of a message, finds the connection lost. -/
def lostFifth : Stream' SendResult := fun n => if n = 4 then .error .EPIPE else .complete

/-- A listener is added, and a message is sent that finds the connection lost. -/
theorem created_connection_lives_example : ∃ t : Session,
    t.con.listeners[1]? = some ⟨true, ascii "A.B", 2, some (.user 0)⟩ ∧
    HasInbox (inboxName (ascii "app") 7) 1 t.con ∧ RegisteredOnce .unused t.con t.os := by
  let J := CJsonLib.unused
  have hloses : ∀ n, lostFifth.get n = .complete ∨ (lostFifth.get n).Lost := by
    intro n
    change (if n = 4 then SendResult.error .EPIPE else .complete) = .complete ∨
      (if n = 4 then SendResult.error .EPIPE else .complete).Lost
    by_cases hn : n = 4
    · rw [if_pos hn]
      exact .inr (.inl rfl)
    · exact .inl (if_neg hn)
  have hwhole : ∀ n, lostFifth.get (n+5) = .complete := fun n => by
    change (if n + 5 = 4 then SendResult.error .EPIPE else .complete) = .complete
    exact if_neg (by omega)
  obtain ⟨con, f, h, hfd, hfamily, honly⟩ :=
    unixConfig_created J (ascii "app") 7 1 lostFifth rfl rfl
  let s : Session := ⟨con, (Os.idle lostFifth).connectedNext.afterFrame 1 f⟩
  obtain ⟨con₁, hadd, hfd₁, hfamily₁, hls₁⟩ := SessionStep.added_whole J (s := s) (i := 1)
    (ascii "A.B") (.user 0) 2 (by rw [honly.listeners]; rfl) hfd rfl rfl
  let os₁ := s.os.afterFrame 1 (listenerFrame J s.con ⟨true, ascii "A.B", 2, some (.user 0)⟩)
  obtain ⟨con₂, os₂, hls₂, hfamily₂, hsends₂, hconnects, huntouched, hstep⟩ :=
    SessionStep.sent_lost J 1 (s := ⟨con₁, os₁⟩) (ascii "A.B") [1] (hfd₁.trans hfd) (.inl rfl)
      ⟨fun _ => rfl, fun _ => rfl⟩ rfl
      (sent_afterFrame_sock _ (sent_afterFrame_sock _ fun _ hev => by cases hev))
  obtain ⟨con', os', hre, hresent⟩ := reconnect_whole J 0
    (by rw [hfamily₂, hfamily₁, hfamily]; exact fun h => by cases h) hconnects
    (fun n => by rw [hsends₂]; exact hwhole n) huntouched
  have hnone : ∀ k, LossRecovers k lostFifth := fun k rest hrest =>
    absurd rfl (hrest.not_complete rfl)
  have hadded : SessionEvent.added.Plain s ∧ SessionEvent.added.Recovers s :=
    ⟨trivial, fun _ rest hrest => absurd rfl (hrest.not_complete rfl)⟩
  have hsent : (SessionEvent.sent (ascii "A.B")).Plain ⟨con₁, os₁⟩ ∧
      (SessionEvent.sent (ascii "A.B")).Recovers ⟨con₁, os₁⟩ := by
    refine ⟨(by decide : (Topic.cut (ascii "A.B")).str ≠ subscribeTopic), fun rest hrest => ?_⟩
    have hinUse : Session.inUse ⟨con₁, os₁⟩ = 2 := by
      rw [Session.inUse, hls₁, honly.listeners]
      rfl
    rw [hinUse]
    cases hrest.unique (.header (.inl rfl))
    exact .last (.succ rfl rfl (.succ rfl rfl .zero))
  obtain ⟨app, happ, hend⟩ := created_connection_lives ⟨hloses, fun _ => rfl⟩
    (fun _ _ => rfl) (hnone 1) h rfl
    ((Run.single (e := .added) ⟨hadded, hadd⟩).snoc ⟨hsent, hstep _ _ hre⟩)
  cases happ
  refine ⟨⟨con', os'⟩, ?_, hend⟩
  rw [hresent.listeners, hls₂, hls₁, honly.listeners]
  rfl

/-- The second connection is sent a response to the first one. -/
theorem inbox_private_iff_example : ∃ con₁ con₂ : RtConnection,
    copies [⟨2, 5, con₂.inboxName⟩] { exampleAnswer.frame with topic := Topic.cut con₁.inboxName } =
      [(2, Frame.withControlData
        { exampleAnswer.frame with topic := Topic.cut con₁.inboxName } 5)] := by
  obtain ⟨con₁, f₁, h₁, -⟩ := unixConfig_created .unused (ascii "app") 7 1
    (Stream'.const .complete) rfl rfl
  obtain ⟨con₂, f₂, h₂, -⟩ := unixConfig_created .unused (ascii "app") 7 5
    (Stream'.const .complete) rfl rfl
  have hnamed : Named (unixConfig (ascii "app")) (ascii "app") 7 :=
    ⟨rfl, (by decide : 3 + 7 + (digits 7).length ≤ 127), by decide, by decide⟩
  let f : Frame := { exampleAnswer.frame with topic := Topic.cut con₁.inboxName }
  have hroute : f.Routed :=
    (by decide : strstr exampleAnswer.frame.replyTopic.str noRouteTopic = false)
  have hflags : f.flags &&& rtMessageFlagsResponse ≠ 0 :=
    (by decide : exampleAnswer.frame.flags &&& rtMessageFlagsResponse ≠ 0)
  exact ⟨con₁, con₂, (inbox_private_iff (f := f) hnamed hnamed h₁ rfl h₂ rfl rfl hflags hroute).1⟩

end RtMessage
