import RtMessage.FrameDelivery
import RtMessage.Framing

/- The subscriptions on a connection that is lost and made again.

   `rtConnection_ConnectAndRegister` sends a SUBSCRIBE for every listener, each by a call that
   reconnects in turn if it finds the connection lost. The reconnect goes through all the
   listeners on the new connection, and the loop that called it goes on with the rest of them
   on the same connection. `Restores` follows the sends: how many subscriptions the current
   connection has taken, and how many all the loops under way have still to send. -/
namespace RtMessage
open Lib

/-! Frames on a connection. -/

theorem frame_prefixFree : PrefixFree Frame.bytes := by
  intro f g x y h
  simp only [Frame.bytes, List.append_assoc] at h
  have hheader : f.header = g.header := Frame.header_eq_of_append h
  rw [Frame.headerBytes_of_header hheader, List.append_cancel_left_eq] at h
  have hlen : f.payload.length = g.payload.length := by
    rw [← f.header_payloadLength, ← g.header_payloadLength, hheader]
  obtain ⟨hpayload, hrest⟩ := List.append_inj h hlen
  have htopic : f.topic.str = g.topic.str := by
    rw [← f.header_topic_str, ← g.header_topic_str, hheader]
  have hreply : f.replyTopic.str = g.replyTopic.str := by
    rw [← f.header_replyTopic_str, ← g.header_replyTopic_str, hheader]
  have hseq : f.sequenceNumber = g.sequenceNumber := congrArg RtMessageHeader.sequenceNumber hheader
  have hflags : f.flags = g.flags := congrArg RtMessageHeader.flags hheader
  have hcontrol : f.controlData = g.controlData := congrArg RtMessageHeader.controlData hheader
  refine ⟨?_, hrest⟩
  cases f with
  | mk _ _ _ ft fr _ _ =>
    cases g with
    | mk _ _ _ gt gr _ _ =>
      cases ft
      cases gt
      cases fr
      cases gr
      simp_all

theorem frames_unique {fs gs : List Frame} (h : fs.flatMap Frame.bytes = gs.flatMap Frame.bytes) :
    fs = gs := by
  refine frame_prefixFree.flatMap_inj (fun f hnil => ?_) h
  have hlen : 0 = f.size := by rw [← f.bytes_length, hnil, List.length_nil]
  have := f.headerLength_ge
  rw [Frame.size] at hlen
  omega

def Frame.isSubscribe (f : Frame) : Bool := f.topic.str == subscribeTopic

/-- The payloads of the SUBSCRIBE frames. -/
def subscribePayloads (fs : List Frame) : List Bytes := (fs.filter (·.isSubscribe)).map (·.payload)

/-- The payload of the SUBSCRIBE for a listener. -/
def listenerPayload (J : CJsonLib) (l : RtListener) : Bytes :=
  let p := rtMessageToByteArray J (subscribeMessage l.expression l.subscriptionId)
  p.take (UInt32.ofNat p.length).toNat

def listenerPayloads (J : CJsonLib) (ls : List RtListener) : List Bytes :=
  (ls.filter (·.inUse)).map (listenerPayload J)

@[simp] theorem listenerPayloads_nil (J : CJsonLib) : listenerPayloads J [] = [] := rfl

theorem listenerPayloads_inUse {J : CJsonLib} {l : RtListener} {ls : List RtListener}
    (h : l.inUse = true) :
    listenerPayloads J (l :: ls) = listenerPayload J l :: listenerPayloads J ls := by
  rw [listenerPayloads, List.filter_cons, if_pos h]
  rfl

theorem listenerPayloads_free {J : CJsonLib} {l : RtListener} {ls : List RtListener}
    (h : l.inUse = false) : listenerPayloads J (l :: ls) = listenerPayloads J ls := by
  rw [listenerPayloads, List.filter_cons, if_neg (by rw [h]; exact Bool.false_ne_true)]
  rfl

/-- The current connection has taken the frames `fs`, and no socket to come anything. -/
structure Carries (con : RtConnection) (os : Os) (fs : List Frame) : Prop where
  socket : ∃ sock, con.fd = some sock ∧ sock < os.nextSock ∧
    wire sock os.sent = fs.flatMap Frame.bytes
  untouched : ∀ sock, os.nextSock ≤ sock → wire sock os.sent = []

/-- The SUBSCRIBE frames on the current connection are one for each listener in use, with
    its expression and its id. -/
def RegisteredOnce (J : CJsonLib) (con : RtConnection) (os : Os) : Prop :=
  ∃ fs, Carries con os fs ∧ (subscribePayloads fs).Perm (listenerPayloads J con.listeners)

theorem subscribePayloads_append (fs : List Frame) (f : Frame) :
    subscribePayloads (fs ++ [f]) =
      subscribePayloads fs ++ if f.isSubscribe then [f.payload] else [] := by
  rw [subscribePayloads, List.filter_append, List.map_append, subscribePayloads, List.filter_singleton]
  cases f.isSubscribe <;> rfl

theorem wire_other {k sock : Nat} {evs : List SendEvent} (h : ∀ ev ∈ evs, ev.sock = sock)
    (hk : k ≠ sock) : wire k evs = [] := by
  rw [wire, List.flatMap_eq_nil_iff]
  intro ev hev
  rw [if_neg]
  exact fun heq => hk (heq.symm.trans (h ev hev))

/-! Sends that find the connection lost. -/

/-- Every send is complete or finds the connection lost, and there is always a socket. -/
structure Os.OnlyLoses (os : Os) : Prop where
  sends : ∀ n, os.sends.get n = .complete ∨ (os.sends.get n).Lost
  sockets : ∀ n, os.sockets.get n = none

/-- One of the two sends of a frame finds the connection lost; `rest` is left. -/
inductive FrameLost : Stream' SendResult → Stream' SendResult → Prop where
  | header {s : Stream' SendResult} (h : s.head.Lost) : FrameLost s s.tail
  | payload {s : Stream' SendResult} (h : s.head = .complete) (h' : s.tail.head.Lost) :
      FrameLost s s.tail.tail

/-- The next `n` frames are sent whole; `rest` is left. -/
inductive FramesSent : Nat → Stream' SendResult → Stream' SendResult → Prop where
  | zero {s : Stream' SendResult} : FramesSent 0 s s
  | succ {n : Nat} {s rest : Stream' SendResult} (h : s.head = .complete)
      (h' : s.tail.head = .complete) (hrest : FramesSent n s.tail.tail rest) :
      FramesSent (n+1) s rest

/-- The connection was lost while the loops under way had `T` SUBSCRIBEs left, and the
    reconnect has `k` to send before they go on. The last loss finds them with none left. -/
inductive Recovers (k : Nat) : Nat → Stream' SendResult → Prop where
  | last {s rest : Stream' SendResult} (h : FramesSent k s rest) : Recovers k 0 s
  | again {T n m : Nat} {s s' rest : Stream' SendResult} (h : FramesSent n s s')
      (hlost : FrameLost s' rest) (hleft : T + k = m + 1 + n) (hrest : Recovers k m rest) :
      Recovers k T s

/-- With `k` listeners in use: `c` subscriptions are on the current connection and `T` are
    still to be sent, by all the loops under way. In the end there are `k` on it. -/
inductive Restores (k : Nat) : Nat → Nat → Stream' SendResult → Prop where
  | done {s : Stream' SendResult} : Restores k k 0 s
  | sent {c T : Nat} {s : Stream' SendResult} (h : s.head = .complete)
      (h' : s.tail.head = .complete) (hrest : Restores k (c+1) T s.tail.tail) :
      Restores k c (T+1) s
  /-- the reconnect has all the subscriptions sent on the new connection first -/
  | lost {c T : Nat} {s rest : Stream' SendResult} (h : FrameLost s rest)
      (hrest : Restores k 0 (T + k) rest) : Restores k c (T+1) s

theorem FramesSent.restores {k c n T : Nat} {s rest : Stream' SendResult}
    (h : FramesSent n s rest) (hr : Restores k (c + n) T rest) : Restores k c (T + n) s := by
  induction h generalizing c with
  | zero => exact hr
  | @succ n s rest hheader hpayload _ ih =>
    refine .sent hheader hpayload (ih ?_)
    rw [Nat.add_assoc, Nat.add_comm 1 n]
    exact hr

/-- A last loss that finds nothing left to send restores the subscriptions. -/
theorem Recovers.restores {k T : Nat} {s : Stream' SendResult} (h : Recovers k T s) :
    Restores k 0 (T + k) s := by
  induction h with
  | last h => exact h.restores ((Nat.zero_add k).symm ▸ .done)
  | again h hlost hleft _ ih =>
    rw [hleft]
    exact h.restores (.lost hlost ih)

theorem SendResult.Lost.not_complete {r : SendResult} (h : r.Lost) : r ≠ .complete := by
  rintro rfl
  rcases h with h | h <;> cases h

theorem FrameLost.not_complete {s rest : Stream' SendResult} (h : FrameLost s rest)
    (h₁ : s.head = .complete) : s.tail.head ≠ .complete := by
  cases h with
  | header h => exact absurd h₁ h.not_complete
  | payload _ h' => exact h'.not_complete

theorem FrameLost.unique {s rest rest' : Stream' SendResult} (h : FrameLost s rest)
    (h' : FrameLost s rest') : rest = rest' := by
  cases h with
  | header h =>
    cases h' with
    | header _ => rfl
    | payload hc _ => exact absurd hc h.not_complete
  | payload hc hl =>
    cases h' with
    | header h => exact absurd hc h.not_complete
    | payload _ _ => rfl

theorem Restores.of_sent {k c T : Nat} {s : Stream' SendResult} (h : Restores k c (T+1) s)
    (h₁ : s.head = .complete) (h₂ : s.tail.head = .complete) : Restores k (c+1) T s.tail.tail := by
  cases h with
  | sent _ _ hrest => exact hrest
  | lost hlost _ => exact absurd h₂ (hlost.not_complete h₁)

theorem Restores.of_lost {k c T : Nat} {s rest : Stream' SendResult} (h : Restores k c (T+1) s)
    (hlost : FrameLost s rest) : Restores k 0 (T + k) rest := by
  cases h with
  | sent h₁ h₂ _ => exact absurd h₂ (hlost.not_complete h₁)
  | lost hlost' hrest => exact hlost'.unique hlost ▸ hrest

theorem Restores.complete {k c : Nat} {s : Stream' SendResult} (h : Restores k c 0 s) : c = k := by
  cases h
  rfl

/-- A send with which the connection is lost, by what it reconnects and on which system. -/
def LostSend (J : CJsonLib) (fuel sock : Nat) (con : RtConnection) (os : Os) (con' : RtConnection)
    (os' : Os) : Prop :=
  ∃ con₁ os₁ evs, sendReconnect J fuel con₁ os₁ = .ok (.ok, con', os') ∧
    con₁.listeners = con.listeners ∧ FrameLost os.sends os₁.sends ∧ os₁.OnlyLoses ∧
    os₁.nextSock = os.nextSock ∧ os₁.sent = os.sent ++ evs ∧ ∀ ev ∈ evs, ev.sock = sock

/-- A send takes its frame whole, or the connection is lost with it. -/
theorem sendInternal_cases {J : CJsonLib} {fuel sock : Nat} {con con' : RtConnection}
    {topic buff : Bytes} {replyTopic : Option Bytes} {flags : UInt32} {os os' : Os} {e : RtError}
    (hfd : con.fd = some sock) (hos : os.OnlyLoses)
    (h : rtConnectionSendInternal J fuel con topic buff replyTopic flags os =
      .ok (e, con', os')) :
    (os.sends.head = .complete ∧ os.sends.tail.head = .complete ∧ con'.fd = con.fd ∧
      con'.listeners = con.listeners ∧
      os' = os.afterFrame sock (sentFrame con topic buff replyTopic flags)) ∨
    ∃ n, fuel = n + 1 ∧ LostSend J n sock con os con' os' := by
  cases fuel with
  | zero => cases h
  | succ fuel =>
    generalize hf : sentFrame con topic buff replyTopic flags = f
    by_cases hwhole : os.sends.head = .complete ∧ os.sends.tail.head = .complete
    · obtain ⟨hheader, hpayload⟩ := hwhole
      obtain ⟨sendBuffer, hsend⟩ := sendInternal_complete J fuel con topic buff replyTopic flags os
        hf.symm hfd (by rw [hheader]; rfl) (by rw [hpayload]; rfl)
      cases hsend.symm.trans h
      exact .inl ⟨hheader, hpayload, rfl, rfl, rfl⟩
    · right
      obtain ⟨hdr, hh, hp, hbuff, hiff⟩ :=
        sendInternal_attempts J fuel con topic buff replyTopic flags os hf.symm
      obtain ⟨sendBuffer, hw, h⟩ := (hiff e con' os').mp h
      have hread := Frame.headerBytes_read hw
      obtain ⟨data, err₁, os₁, e₂, con₂, os₂, hdata, hs, hre, hend⟩ := h.step
      rw [hh, hread] at hdata
      cases hdata
      have hdata : f.headerBytes.length = hdr.headerLength.toNat := by
        rw [f.headerBytes_length, hh]
      -- a connection that is lost is made again, and that ends the call
      have hreconnect : rtConnectionShouldReregister err₁ = true → os₁.sockets = os.sockets →
          sendReconnect J fuel { con with sequenceNumber := con.sequenceNumber + 1, sendBuffer } os₁ =
            .ok (.ok, con', os') := by
        intro hyes hsockets
        cases reregister_cases hre with
        | inl hkept => exact absurd (hyes.symm.trans hkept.1) (by decide)
        | inr hre =>
          have hok : e₂ = .ok := by
            refine (sendReconnect_failed hre.2).1.mpr ?_
            rw [hsockets]
            exact hos.sockets 0
          cases hend with
          | inl hend =>
            obtain ⟨-, -, rfl, rfl⟩ := hend
            exact hok ▸ hre.2
          | inr hend => exact absurd hok hend.1
      simp only [hfd] at hs
      by_cases hheader : os.sends.head = .complete
      · have hpayload : os.sends.tail.head.Lost :=
          (hos.sends 1).resolve_left fun hpayload => hwhole ⟨hheader, hpayload⟩
        rw [attemptSends_both hdata (by rw [Os.beginCall, hheader]; rfl), hbuff, hp] at hs
        cases hs
        refine ⟨fuel, rfl, _, _, _, hreconnect (shouldReregister_of_lost hpayload _ _) rfl, rfl,
          .payload hheader hpayload, ⟨fun n => hos.sends (n+2), hos.sockets⟩, rfl, rfl, ?_⟩
        intro ev hev
        simp only [List.mem_cons, List.not_mem_nil, or_false] at hev
        cases hev with
        | inl hev => rw [hev]
        | inr hev => rw [hev]
      · have hheader : os.sends.head.Lost := (hos.sends 0).resolve_left hheader
        have hnot : ¬ os.beginCall.2.sends.head.Full hdr.headerLength.toNat :=
          fun hfull => hfull.not_lost hheader
        rw [attemptSends_header hdata (.inr hnot)] at hs
        cases hs
        refine ⟨fuel, rfl, _, _, _, hreconnect (shouldReregister_of_lost hheader _ _) rfl, rfl,
          .header hheader, ⟨fun n => hos.sends (n+1), hos.sockets⟩, rfl, rfl, ?_⟩
        intro ev hev
        rw [List.mem_singleton.mp hev]

/-! Re-registration. -/

/-- The listeners are as they were, their subscriptions are the first ones on the current
    connection, and with the `P` that the loops around have still to send they are restored. -/
structure Resubscribed (J : CJsonLib) (ls : List RtListener) (P : Nat) (con : RtConnection)
    (os : Os) : Prop where
  listeners : con.listeners = ls
  onlyLoses : os.OnlyLoses
  carries : ∃ fs, Carries con os fs ∧ listenerPayloads J ls <+: subscribePayloads fs ∧
    Restores (listenerPayloads J ls).length (subscribePayloads fs).length P os.sends

/-- What a reconnect brings about. -/
def Reconnects (J : CJsonLib) (fuel : Nat) : Prop :=
  ∀ con os con' os' e P, os.OnlyLoses → (∀ sock, os.nextSock ≤ sock → wire sock os.sent = []) →
    Restores (listenerPayloads J con.listeners).length 0
      (P + (listenerPayloads J con.listeners).length) os.sends →
    sendReconnect J fuel con os = .ok (e, con', os') → Resubscribed J con.listeners P con' os'

/-- The frame of the SUBSCRIBE for a listener. -/
def listenerFrame (J : CJsonLib) (con : RtConnection) (l : RtListener) : Frame :=
  sentFrame con subscribeTopic
    (rtMessageToByteArray J (subscribeMessage l.expression l.subscriptionId)) none 0

theorem listenerFrame_subscribes (J : CJsonLib) (con : RtConnection) (l : RtListener) :
    (listenerFrame J con l).isSubscribe = true := by
  have hcut : cstr (subscribeTopic.take 127) = subscribeTopic := by decide
  rw [Frame.isSubscribe, beq_iff_eq]
  exact hcut

theorem Carries.connected (con : RtConnection) {os : Os} (connects : Stream' (Option Errno))
    (h : ∀ sock, os.nextSock ≤ sock → wire sock os.sent = []) :
    Carries { con with fd := some os.nextSock } { os with
      sockets := os.sockets.tail, nextSock := os.nextSock + 1, connects } [] :=
  ⟨⟨os.nextSock, rfl, Nat.lt_succ_self _, h os.nextSock (Nat.le_refl _)⟩,
    fun k hk => h k (Nat.le_of_succ_le hk)⟩

section Carrying
variable {con con' : RtConnection} {os os' : Os} {fs : List Frame} {sock : Nat} {f : Frame}

theorem Carries.sent (h : Carries con os fs) (hfd : con.fd = some sock) (hfd' : con'.fd = con.fd)
    (hheader : os.sends.head = .complete) (hpayload : os.sends.tail.head = .complete) :
    Carries con' (os.afterFrame sock f) (fs ++ [f]) := by
  obtain ⟨k, hk, hcreated, hwire⟩ := h.socket
  cases hfd.symm.trans hk
  refine ⟨⟨sock, hfd'.trans hfd, hcreated, ?_⟩, fun k hle => ?_⟩
  · rw [wire_afterFrame hheader hpayload, if_pos rfl, hwire]
    simp
  · have hne : sock ≠ k := by
      have : os.nextSock ≤ k := hle
      omega
    rw [wire_afterFrame hheader hpayload, if_neg hne, List.append_nil]
    exact h.untouched k hle

/-- What a lost send put on the wire was put on a socket there was. -/
theorem Carries.untouched_of_lost (h : Carries con os fs) (hfd : con.fd = some sock)
    {evs : List SendEvent} (hsent : os'.sent = os.sent ++ evs) (hnext : os'.nextSock = os.nextSock)
    (hevs : ∀ ev ∈ evs, ev.sock = sock) (k : Nat) (hk : os'.nextSock ≤ k) :
    wire k os'.sent = [] := by
  obtain ⟨sock', hsock', hcreated, -⟩ := h.socket
  cases hfd.symm.trans hsock'
  have hne : k ≠ sock := by omega
  rw [hsent, wire_append, wire_other hevs hne, h.untouched k (hnext ▸ hk), List.append_nil]

end Carrying

/-- **The loop over the listeners**, whichever of them are left and whatever is on the
    connection by now. -/
theorem registerListeners_restores {J : CJsonLib} {fuel : Nat} {L : List RtListener}
    (ih : ∀ n, fuel = n + 1 → Reconnects J n) {ls : List RtListener} {con con' : RtConnection}
    {os os' : Os} {P : Nat} {fs : List Frame} (hcon : con.listeners = L) (hos : os.OnlyLoses)
    (hc : Carries con os fs)
    (hpre : listenerPayloads J L <+: subscribePayloads fs ++ listenerPayloads J ls)
    (hr : Restores (listenerPayloads J L).length (subscribePayloads fs).length
      ((listenerPayloads J ls).length + P) os.sends)
    (h : registerListeners (fun con m topic os =>
      rtConnectionSendInternal J fuel con topic (rtMessageToByteArray J m) none 0 os) ls con os =
        .ok (con', os')) : Resubscribed J L P con' os' := by
  induction ls generalizing con os fs with
  | nil =>
    cases h
    rw [listenerPayloads_nil, List.append_nil] at hpre
    rw [listenerPayloads_nil, List.length_nil, Nat.zero_add] at hr
    exact ⟨hcon, hos, fs, hc, hpre, hr⟩
  | cons l rest ihls =>
    rw [registerListeners] at h
    cases huse : l.inUse with
    | false =>
      rw [huse, if_neg Bool.false_ne_true] at h
      rw [listenerPayloads_free huse] at hpre hr
      exact ihls hcon hos hc hpre hr h
    | true =>
      rw [huse, if_pos rfl] at h
      obtain ⟨⟨e, con₁, os₁⟩, hsend, h⟩ := bind_eq_ok.mp h
      rw [listenerPayloads_inUse huse] at hpre hr
      rw [List.length_cons, Nat.add_right_comm] at hr
      obtain ⟨sock, hfd, -⟩ := hc.socket
      cases sendInternal_cases hfd hos hsend with
      | inl hsent =>
        obtain ⟨hheader, hpayload, hfd', hls, hos₁⟩ := hsent
        have hos₁ : os₁ = os.afterFrame sock (listenerFrame J con l) := hos₁
        have honly : os₁.OnlyLoses := by
          rw [hos₁]
          exact ⟨fun n => hos.sends (n+2), hos.sockets⟩
        have hc₁ : Carries con₁ os₁ (fs ++ [listenerFrame J con l]) := by
          rw [hos₁]
          exact hc.sent hfd hfd' hheader hpayload
        have hpayloads : subscribePayloads (fs ++ [listenerFrame J con l]) =
            subscribePayloads fs ++ [listenerPayload J l] := by
          rw [subscribePayloads_append, listenerFrame_subscribes, if_pos rfl]
          rfl
        -- sent whole: one SUBSCRIBE more is on the connection, one less is to be sent
        refine ihls (hls.trans hcon) honly hc₁ ?_ ?_ h
        · rw [hpayloads, List.append_assoc]
          exact hpre
        · rw [hpayloads, List.length_append, hos₁]
          exact hr.of_sent hheader hpayload
      | inr hlost =>
        obtain ⟨n, hn, con₂, os₂, evs, hre, hls, hframe, hos₂, hnextSock, hsent, hevs⟩ := hlost
        -- lost: the reconnect registers all listeners, and this loop goes on behind it
        have hL : con₂.listeners = L := hls.trans hcon
        have hagain := ih n hn con₂ os₂ con₁ os₁ _ ((listenerPayloads J rest).length + P) hos₂
          (hc.untouched_of_lost hfd hsent hnextSock hevs) (by rw [hL]; exact hr.of_lost hframe) hre
        rw [hL] at hagain
        obtain ⟨fs', hc', hpre', hr'⟩ := hagain.carries
        exact ihls hagain.listeners hagain.onlyLoses hc' (hpre'.trans (List.prefix_append _ _)) hr' h

theorem Os.OnlyLoses.connectAndRegister
    {sendMessage : RtConnection → CJson → Bytes → Os → ConResult} {fuel : Nat}
    {con con' : RtConnection} {os os' : Os} {e : RtError} (hos : os.OnlyLoses)
    (h : rtConnectionConnectAndRegister sendMessage fuel con os = .ok (e, con', os')) :
    ∃ connects, Os.OnlyLoses { os with
        sockets := os.sockets.tail, nextSock := os.nextSock + 1, connects } ∧
      registerListeners sendMessage con.listeners { con with fd := some os.nextSock }
        { os with sockets := os.sockets.tail, nextSock := os.nextSock + 1, connects } =
          .ok (con', os') := by
  obtain ⟨n, hn, -⟩ | ⟨-, -, connects, hloop⟩ := connectAndRegister_cases h
  · cases (hos.sockets 0).symm.trans hn
  · exact ⟨connects, ⟨hos.sends, fun n => hos.sockets (n+1)⟩, hloop⟩

theorem reconnects_of {J : CJsonLib} {fuel : Nat} (ih : ∀ n, fuel = n + 1 → Reconnects J n) :
    Reconnects J fuel := by
  intro con os con' os' e P hos huntouched hr h
  obtain ⟨connects, hos', hloop⟩ := hos.connectAndRegister h
  have hc := Carries.connected con connects huntouched
  have hls : RtConnection.listeners { con with fd := some os.nextSock } = con.listeners := rfl
  refine registerListeners_restores ih hls hos' hc (List.prefix_refl _) ?_ hloop
  rw [Nat.add_comm]
  exact hr

/-- **A reconnect**, through all the reconnects it makes in turn. -/
theorem reconnects (J : CJsonLib) (fuel : Nat) : Reconnects J fuel := by
  induction fuel with
  | zero => exact reconnects_of fun n hn => by omega
  | succ fuel ih => exact reconnects_of fun n hn => Nat.succ.inj hn ▸ ih

/-- A reconnect that nothing waits for leaves one SUBSCRIBE for each listener. -/
theorem Resubscribed.registeredOnce {J : CJsonLib} {ls : List RtListener} {con : RtConnection}
    {os : Os} (h : Resubscribed J ls 0 con os) : os.OnlyLoses ∧ RegisteredOnce J con os := by
  obtain ⟨fs, hc, hpre, hr⟩ := h.carries
  have heq : listenerPayloads J ls = subscribePayloads fs := hpre.eq_of_length hr.complete.symm
  exact ⟨h.onlyLoses, fs, hc, by rw [h.listeners, heq]⟩

/-- The loss of a frame, if it is lost, is one to recover from. -/
def LossRecovers (k : Nat) (s : Stream' SendResult) : Prop :=
  ∀ rest, FrameLost s rest → Recovers k 0 rest

/-- **A send**, of a SUBSCRIBE or of anything else. -/
theorem sendInternal_registers {J : CJsonLib} {fuel : Nat} {con con' : RtConnection}
    {topic buff : Bytes} {replyTopic : Option Bytes} {flags : UInt32} {os os' : Os} {e : RtError}
    {fs : List Frame} (hos : os.OnlyLoses) (hc : Carries con os fs)
    (hloss : LossRecovers (listenerPayloads J con.listeners).length os.sends)
    (h : rtConnectionSendInternal J fuel con topic buff replyTopic flags os =
      .ok (e, con', os')) :
    os'.OnlyLoses ∧ con'.listeners = con.listeners ∧ (RegisteredOnce J con' os' ∨
      Carries con' os' (fs ++ [sentFrame con topic buff replyTopic flags])) := by
  have hls := (sendInternal_keeps h).listeners
  obtain ⟨sock, hfd, -⟩ := hc.socket
  cases sendInternal_cases hfd hos h with
  | inl hsent =>
    obtain ⟨hheader, hpayload, hfd', -, rfl⟩ := hsent
    exact ⟨⟨fun n => hos.sends (n+2), hos.sockets⟩, hls,
      .inr (hc.sent hfd hfd' hheader hpayload)⟩
  | inr hlost =>
    obtain ⟨n, -, con₁, os₁, evs, hre, hls₁, hframe, hos₁, hnextSock, hsent, hevs⟩ := hlost
    have hagain := reconnects J n con₁ os₁ con' os' _ 0 hos₁
      (hc.untouched_of_lost hfd hsent hnextSock hevs)
      (by rw [hls₁]; exact (hloss _ hframe).restores) hre
    exact ⟨hagain.registeredOnce.1, hls, .inl hagain.registeredOnce.2⟩

end RtMessage
