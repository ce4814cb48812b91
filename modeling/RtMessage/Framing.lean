import RtMessage.Dispatch
import RtMessage.Forwarding
import RtMessage.Lib.Framing
import RtMessage.Sending

/- The bytes the two senders leave on a connection.

   A client's wire stays framed as long as every send takes all its bytes or finds
   the connection lost (`client_framed`): after a loss the connection is not
   written to any more. The router's stays framed as long as every header is taken
   whole or not at all and every payload is taken whole (`router_framed`). Outside
   these conditions a frame is cut short and the same connection is written to
   again: by the next attempt, or by the next message. -/
namespace RtMessage
open Lib

/-! Sends and the bytes taken. -/

theorem SendResult.Full.taken {len : Nat} {r : SendResult} (h : r.Full len) :
    r.taken len = len := by
  cases r with
  | complete => rfl
  | short k => simpa [SendResult.Full, SendResult.reply, SendResult.taken] using h
  | error e => cases h

theorem SendResult.Lost.taken {r : SendResult} (h : r.Lost) (len : Nat) : r.taken len = 0 := by
  rcases h with rfl | rfl <;> rfl

/-- The send took all its bytes or found the connection lost. -/
def SendEvent.Clean (e : SendEvent) : Prop := e.result.Full e.data.length ∨ e.result.Lost

theorem SendEvent.taken_full {e : SendEvent} (h : e.result.Full e.data.length) :
    e.taken = e.data := by
  rw [SendEvent.taken, h.taken, List.take_length]

theorem SendEvent.taken_lost {e : SendEvent} (h : e.result.Lost) : e.taken = [] := by
  rw [SendEvent.taken, h.taken, List.take_zero]

/-! The client. -/

/-- Every connection the client had is framed, and the sockets to come are untouched. -/
structure Settled (os : Os) : Prop where
  framed : ∀ sock, UpToCut Frame.bytes (wire sock os.sent)
  untouched : ∀ sock, os.nextSock ≤ sock → wire sock os.sent = []

/-- The connection there is now has complete frames on it. -/
structure Sendable (con : RtConnection) (os : Os) : Prop extends Settled os where
  created : ∀ sock, con.fd = some sock → sock < os.nextSock
  whole : ∀ sock, con.fd = some sock → Whole Frame.bytes (wire sock os.sent)

theorem Sendable.closed {con : RtConnection} {os : Os} (h : Settled os) (hfd : con.fd = none) :
    Sendable con os where
  toSettled := h
  created := by simp [hfd]
  whole := by simp [hfd]

theorem Settled.sends {os os₁ : Os} {sock : Nat} {evs : List SendEvent} (h : Settled os)
    (hlt : sock < os.nextSock) (hsock : ∀ e ∈ evs, e.sock = sock)
    (hsent : os₁.sent = os.sent ++ evs) (hnext : os₁.nextSock = os.nextSock)
    (hcut : UpToCut Frame.bytes (wire sock os.sent ++ wire sock evs)) : Settled os₁ := by
  have hother : ∀ k, k ≠ sock → wire k evs = [] := by
    intro k hk
    simp only [wire, List.flatMap_eq_nil_iff]
    intro e he
    rw [if_neg]
    rw [hsock e he]
    exact fun h => hk h.symm
  constructor
  · intro k
    rw [hsent, wire_append]
    by_cases hk : k = sock
    · rw [hk]; exact hcut
    · rw [hother k hk, List.append_nil]
      exact h.framed k
  · intro k hk
    rw [hnext] at hk
    rw [hsent, wire_append, h.untouched k hk, hother k (by omega), List.append_nil]

/-- The sends of an attempt, if they are clean: the frame is out, or the connection is one to
    give up, with part of the frame on it. -/
theorem Sendable.attemptSends {call sock : Nat} {hdr : RtMessageHeader} {buff : Bytes}
    {con : RtConnection} {os os₁ : Os} {err₁ : RtError} {f : Frame} (hs : Sendable con os)
    (hfd : con.fd = some sock) (hh : hdr.headerLength.toNat = f.headerLength)
    (hp : hdr.payloadLength.toNat = f.payload.length)
    (hbuff : buff.take hdr.payloadLength.toNat = f.payload)
    (hsend : attemptSends call hdr buff f.headerBytes .ok con.fd os = (err₁, os₁))
    (hclean : ∀ ev ∈ os₁.sent, ev.Clean) :
    err₁ = .ok ∧ Sendable con os₁ ∨ rtConnectionShouldReregister err₁ = true ∧ Settled os₁ := by
  have hlt := hs.created sock hfd
  rw [hfd] at hsend
  cases attemptSends_first hh hp hbuff hsend with
  | whole hfull hfull' =>
    -- the frame is out
    have hheader : SendEvent.taken ⟨call, sock, .header, f.headerBytes, os.sends.head⟩ =
        f.headerBytes := SendEvent.taken_full (by rw [f.headerBytes_length]; exact hfull)
    have hpayload : SendEvent.taken ⟨call, sock, .payload, f.payload, os.sends.tail.head⟩ =
        f.payload := SendEvent.taken_full hfull'
    have hw : wire sock [⟨call, sock, .header, f.headerBytes, os.sends.head⟩,
        ⟨call, sock, .payload, f.payload, os.sends.tail.head⟩] = f.bytes := by
      simp only [wire_cons, wire_nil, if_true, hheader, hpayload, List.append_nil, Frame.bytes]
    refine .inl ⟨rfl, .mk (hs.toSettled.sends hlt (by simp) rfl rfl ?_) hs.created fun k hk => ?_⟩
    · rw [hw]
      exact (hs.whole sock hfd).append_cut (List.prefix_refl f.bytes)
    · cases hfd.symm.trans hk
      rw [afterBoth, wire_append, hw]
      exact (hs.whole sock hfd).append f
  | payload hfull hfull' hne hlost =>
    -- the header is out, on a connection that is given up
    have hl : os.sends.tail.head.Lost :=
      (hclean ⟨call, sock, .payload, f.payload, os.sends.tail.head⟩
        (by simp [afterBoth])).resolve_left hfull'
    have hheader : SendEvent.taken ⟨call, sock, .header, f.headerBytes, os.sends.head⟩ =
        f.headerBytes := SendEvent.taken_full (by rw [f.headerBytes_length]; exact hfull)
    have hpayload : SendEvent.taken ⟨call, sock, .payload, f.payload, os.sends.tail.head⟩ =
        [] := SendEvent.taken_lost hl
    refine .inr ⟨hlost.mpr hl, hs.toSettled.sends hlt (by simp) rfl rfl ?_⟩
    simp only [wire_cons, wire_nil, if_true, hheader, hpayload, List.append_nil]
    exact (hs.whole sock hfd).append_cut (List.prefix_append _ _)
  | header hfull hne hlost =>
    have hev := hclean ⟨call, sock, .header, f.headerBytes, os.sends.head⟩ (by simp [afterHeader])
    have hl : os.sends.head.Lost := by
      refine hev.resolve_left ?_
      rw [f.headerBytes_length]
      exact hfull
    have hheader : SendEvent.taken ⟨call, sock, .header, f.headerBytes, os.sends.head⟩ = [] :=
      SendEvent.taken_lost hl
    refine .inr ⟨hlost.mpr hl, hs.toSettled.sends hlt (by simp) rfl rfl ?_⟩
    simp only [wire_cons, wire_nil, if_true, hheader, List.append_nil]
    exact hs.framed sock

/-- What is left of a call after its attempts leaves the connection sendable, if a
    reconnect does. -/
theorem Sendable.attempts {J : CJsonLib} {fuel call : Nat} {hdr : RtMessageHeader} {buff : Bytes}
    {con con' : RtConnection} {os os' : Os} {e : RtError} {f : Frame}
    (hre : ∀ con os e con' os', Settled os → (∀ ev ∈ os'.sent, ev.Clean) →
      sendReconnect J fuel con os = .ok (e, con', os') → Sendable con' os')
    (hh : hdr.headerLength.toNat = f.headerLength)
    (hp : hdr.payloadLength.toNat = f.payload.length)
    (hbuff : buff.take hdr.payloadLength.toNat = f.payload)
    (hread : con.sendBuffer.read 0 f.headerLength = .ok f.headerBytes)
    (h : Attempts (sendReconnect J fuel) call hdr buff 2 .ok con os e con' os')
    (hs : Sendable con os) (hclean : ∀ ev ∈ os'.sent, ev.Clean) : Sendable con' os' := by
  cases hfd : con.fd with
  | none =>
    obtain ⟨-, rfl, rfl⟩ := attempts_closed h hfd
    exact hs
  | some sock =>
    obtain ⟨data, err₁, os₁, e₂, con₂, os₂, hdata, hsend, hr, hend⟩ := h.step
    rw [hh, hread] at hdata
    cases hdata
    -- the sends of the first attempt are among those of the call
    have hclean₂ : ∀ ev ∈ os₂.sent, ev.Clean := by
      rcases hend with ⟨-, -, -, rfl⟩ | ⟨-, n, -, hrest⟩
      · exact hclean
      · have hk : Keeps 0 con₂ os₂ con' os' :=
          Keeps.attempts (fun _ _ _ _ _ => sendReconnect_keeps) (Nat.zero_le call) hrest
            (Nat.zero_le _)
        obtain ⟨evs, hevs, -⟩ := hk.sent
        intro ev hev
        exact hclean ev (by rw [hevs]; exact List.mem_append_left _ hev)
    have hclean₁ : ∀ ev ∈ os₁.sent, ev.Clean := by
      rcases reregister_cases hr with ⟨-, -, -, rfl⟩ | ⟨-, hr⟩
      · exact hclean₂
      · obtain ⟨evs, hevs, -⟩ := (sendReconnect_keeps hr).sent
        intro ev hev
        exact hclean₂ ev (by rw [hevs]; exact List.mem_append_left _ hev)
    have finish : Sendable con₂ os₂ → (e₂ ≠ .ok → con₂.fd = none) → Sendable con' os' := by
      intro hs₂ hclosed
      rcases hend with ⟨-, -, rfl, rfl⟩ | ⟨hne, n, -, hrest⟩
      · exact hs₂
      · obtain ⟨-, rfl, rfl⟩ := attempts_closed hrest (hclosed hne)
        exact hs₂
    cases hs.attemptSends hfd hh hp hbuff hsend hclean₁ with
    | inl hout =>
      obtain ⟨rfl, hs₁⟩ := hout
      rw [reregister_kept (by decide)] at hr
      cases hr
      exact finish hs₁ fun hne => absurd rfl hne
    | inr hlost =>
      obtain ⟨hyes, hset⟩ := hlost
      rw [reregister_lost hyes] at hr
      exact finish (hre _ _ _ _ _ hset hclean₂ hr) (sendReconnect_failed hr).2

theorem Sendable.sendInternal {J : CJsonLib} {fuel : Nat} {con con' : RtConnection}
    {topic buff : Bytes} {replyTopic : Option Bytes} {flags : UInt32} {os os' : Os} {e : RtError}
    (h : rtConnectionSendInternal J fuel con topic buff replyTopic flags os = .ok (e, con', os'))
    (hs : Sendable con os) (hclean : ∀ ev ∈ os'.sent, ev.Clean) : Sendable con' os' := by
  induction fuel generalizing con topic buff replyTopic flags os e con' os' with
  | zero => cases h
  | succ fuel ih =>
    obtain ⟨hdr, hh, hp, hbuff, hiff⟩ :=
      sendInternal_attempts J fuel con topic buff replyTopic flags os rfl
    obtain ⟨sendBuffer, hw, h⟩ := (hiff e con' os').mp h
    have hread := Frame.headerBytes_read hw
    refine Sendable.attempts ?_ hh hp hbuff hread h { hs with } hclean
    intro con os e con' os' hset hclean hre
    rcases connectAndRegister_cases hre with ⟨n, -, -, rfl, rfl⟩ | ⟨-, -, connects, hre⟩
    · exact .closed { hset with } rfl
    · -- the subscriptions go out on a socket nothing was written to
      refine registerListeners_invariant
        (fun con os => (∀ ev ∈ os.sent, ev.Clean) → Sendable con os) ?_ ?_ hre hclean
      · intro con m topic os e con' os' hI hsend hclean
        obtain ⟨evs, hevs, -⟩ := (sendInternal_keeps hsend).sent
        refine ih hsend (hI fun ev hev => hclean ev ?_) hclean
        rw [hevs]
        exact List.mem_append_left _ hev
      · intro _
        have hnew : ∀ sock, os.nextSock ≤ sock → wire sock os.sent = [] := hset.untouched
        refine .mk ⟨hset.framed, fun k hk => hnew k (Nat.le_of_succ_le hk)⟩ ?_ ?_
        · intro sock hsock
          cases hsock
          exact Nat.lt_succ_self _
        · intro sock hsock
          cases hsock
          rw [show wire os.nextSock os.sent = [] from hnew _ (Nat.le_refl _)]
          exact whole_nil

/-- Messages sent one after another on a connection. -/
inductive SendRun (J : CJsonLib) : RtConnection → Os → RtConnection → Os → Prop
  | nil (con : RtConnection) (os : Os) : SendRun J con os con os
  | send {con con₁ con' : RtConnection} {os os₁ os' : Os} {fuel : Nat} {topic buff : Bytes}
      {replyTopic : Option Bytes} {flags : UInt32} {e : RtError} :
      SendRun J con os con₁ os₁ →
      rtConnectionSendInternal J fuel con₁ topic buff replyTopic flags os₁ = .ok (e, con', os') →
      SendRun J con os con' os'

/-- **The client's framing.** -/
theorem client_framed {J : CJsonLib} {con con' : RtConnection} {os os' : Os}
    (hrun : SendRun J con os con' os') (hs : Sendable con os)
    (hclean : ∀ ev ∈ os'.sent, ev.Clean) : Sendable con' os' := by
  induction hrun with
  | nil => exact hs
  | send _ hsend ih =>
    obtain ⟨evs, hevs, -⟩ := (sendInternal_keeps hsend).sent
    refine Sendable.sendInternal hsend (ih hs fun ev hev => hclean ev ?_) hclean
    rw [hevs]
    exact List.mem_append_left _ hev

/-! The router. -/

/-- The header was taken whole or not at all, the payload whole. -/
def SendEvent.CleanForward (e : SendEvent) : Prop :=
  e.result.Full e.data.length ∨ (e.part = .header ∧ ∃ n, e.result = .error n)

/-- Turns of dispatch loops, of any messages over any tables, one after another. -/
inductive ForwardRun (J : CJsonLib) : Os → Os → Prop
  | nil (os : Os) : ForwardRun J os os
  | turn {os : Os} {msg : Message} {s s' : DispatchState Os} :
      ForwardRun J os s.routed.env → dispatchTurn J forwardMessage msg s = .ok s' →
      ForwardRun J os s'.routed.env

theorem ForwardRun.dispatchLoop {J : CJsonLib} {fuel : Nat} {msg : Message} {r r' : RtRouted Os}
    {b : Bool} {os : Os} (hrun : ForwardRun J os r.env)
    (h : dispatchLoop J forwardMessage fuel msg r = .ok (b, r')) : ForwardRun J os r'.env := by
  obtain ⟨s, hs, h⟩ := bind_eq_ok.mp h
  cases h
  exact (loop_invariant (fun s => ForwardRun J os s.routed.env)
    (fun _ _ hI _ hturn => hI.turn hturn) hrun hs).1

theorem forward_framed {clients : List RtConnectedClient} {hdr : RtMessageHeader} {buff : Bytes}
    {sub : RtSubscription} {os os' : Os} {e : RtError}
    (h : rtRoutedForwardMessage clients hdr buff hdr.payloadLength.toNat sub os = .ok (e, os'))
    (hwhole : ∀ sock, Whole Frame.bytes (wire sock os.sent))
    (hclean : ∀ ev ∈ os'.sent, ev.CleanForward) :
    ∀ sock, Whole Frame.bytes (wire sock os'.sent) := by
  intro sock
  obtain ⟨client, -, ⟨n, data, -, -, rfl⟩ | ⟨ht, hr, hans, -, -, rfl⟩⟩ := forward_cases h
  · have htaken : SendEvent.taken ⟨os.calls, client.fd, .header, data, .error n⟩ = [] := by
      simp [SendEvent.taken, SendResult.taken]
    simp only [wire_append, wire_cons, wire_nil, htaken, ite_self, List.append_nil]
    exact hwhole sock
  · let f := forwardedFrame hdr buff sub.id ht hr
    have hheader : SendEvent.taken ⟨os.calls, client.fd, .header, f.headerBytes, os.sends.head⟩ =
        f.headerBytes := by
      rcases hclean ⟨os.calls, client.fd, .header, f.headerBytes, os.sends.head⟩ (by simp [f])
        with hfull | ⟨-, n, hn⟩
      · exact SendEvent.taken_full hfull
      · exact absurd hn (hans n)
    have hpayload : SendEvent.taken
        ⟨os.calls, client.fd, .payload, f.payload, os.sends.tail.head⟩ = f.payload := by
      rcases hclean ⟨os.calls, client.fd, .payload, f.payload, os.sends.tail.head⟩ (by simp [f])
        with hfull | ⟨hpart, -⟩
      · exact SendEvent.taken_full hfull
      · cases hpart
    simp only [wire_append, wire_cons, wire_nil]
    rw [hheader, hpayload]
    by_cases hsock : client.fd = sock
    · simp only [if_pos hsock, List.append_nil]
      exact (hwhole sock).append f
    · simp only [if_neg hsock, List.append_nil]
      exact hwhole sock

theorem forward_sent {clients : List RtConnectedClient} {hdr : RtMessageHeader} {buff : Bytes}
    {sub : RtSubscription} {os os' : Os} {e : RtError}
    (h : rtRoutedForwardMessage clients hdr buff hdr.payloadLength.toNat sub os = .ok (e, os')) :
    ∃ evs, os'.sent = os.sent ++ evs := by
  obtain ⟨client, -, ⟨n, data, -, -, rfl⟩ | ⟨ht, hr, -, -, -, rfl⟩⟩ := forward_cases h
  · exact ⟨_, rfl⟩
  · exact ⟨_, rfl⟩

/-- **The router's framing.** -/
theorem router_framed {J : CJsonLib} {os os' : Os} (hrun : ForwardRun J os os')
    (hwhole : ∀ sock, Whole Frame.bytes (wire sock os.sent))
    (hclean : ∀ ev ∈ os'.sent, ev.CleanForward) :
    ∀ sock, Whole Frame.bytes (wire sock os'.sent) := by
  induction hrun with
  | nil => exact hwhole
  | turn _ hturn ih =>
    rcases turn_env hturn with henv | ⟨sub, err, hf⟩
    · rw [henv] at hclean ⊢
      exact ih hclean
    · obtain ⟨evs, hevs⟩ := forward_sent hf
      refine forward_framed hf (ih fun ev hev => hclean ev ?_) hclean
      rw [hevs]
      exact List.mem_append_left _ hev

/-! Where the framing breaks. -/

theorem upToCut_take_two {bs : Bytes} (h : UpToCut Frame.bytes bs) (hlen : 2 ≤ bs.length) :
    bs.take 2 = rtEncoderEncodeUInt16 1 := by
  have hframe : ∀ f : Frame, f.bytes.take 2 = rtEncoderEncodeUInt16 1 := by
    intro f
    rw [Frame.bytes, Frame.headerBytes_eq]
    simp only [List.append_assoc]
    rw [List.take_left' (by simp)]
  obtain ⟨fs, f, cut, ⟨tail, htail⟩, rfl⟩ := h
  cases fs with
  | nil =>
    simp only [List.flatMap_nil, List.nil_append] at hlen ⊢
    rw [← hframe f, ← htail, List.take_append_of_le_length hlen]
  | cons g fs =>
    have hg : 2 ≤ g.bytes.length := by
      rw [g.bytes_length, Frame.size, Frame.headerLength]
      omega
    rw [List.flatMap_cons, List.append_assoc, List.take_append_of_le_length hg, hframe]

/-- A header that is sent again where its payload should follow. -/
theorem header_twice_not_framed {f : Frame} (hp : f.payload.length = 2) (rest : Bytes) :
    ¬ UpToCut Frame.bytes (f.headerBytes ++ (f.headerBytes ++ rest)) := by
  have hhl : 28 ≤ f.headerLength := by
    rw [Frame.headerLength]
    omega
  rintro ⟨fs, g, cut, ⟨tail, htail⟩, heq⟩
  cases fs with
  | nil =>
    -- one frame cannot be so long
    simp only [List.flatMap_nil, List.nil_append] at heq
    have hbytes : g.headerBytes ++ g.payload = f.headerBytes ++ (f.headerBytes ++ rest ++ tail) := by
      rw [← Frame.bytes, ← htail, ← heq]
      simp
    have hh := Frame.header_eq_of_append hbytes
    have hpl : g.payload.length = f.payload.length := by
      rw [← g.header_payloadLength, hh, f.header_payloadLength]
    rw [Frame.headerBytes_of_header hh] at hbytes
    have := congrArg List.length (List.append_cancel_left hbytes)
    simp only [List.length_append, f.headerBytes_length] at this
    omega
  | cons g' fs =>
    -- the frame after the first would start inside the second header
    simp only [List.flatMap_cons, List.append_assoc, Frame.bytes] at heq
    have hh := Frame.header_eq_of_append heq
    have hpl : g'.payload.length = 2 := by
      rw [← g'.header_payloadLength, ← hh, f.header_payloadLength, hp]
    rw [← Frame.headerBytes_of_header hh] at heq
    have heq := List.append_cancel_left heq
    have hrest : fs.flatMap Frame.bytes ++ cut = (f.headerBytes ++ rest).drop 2 := by
      rw [heq, ← hpl, List.drop_left]
    have hframed : UpToCut Frame.bytes (fs.flatMap Frame.bytes ++ cut) :=
      ⟨fs, g, cut, ⟨tail, htail⟩, rfl⟩
    have htwo := upToCut_take_two hframed (by
      rw [hrest, List.length_drop, List.length_append, f.headerBytes_length]
      omega)
    rw [hrest, Frame.headerBytes_eq] at htwo
    simp only [List.append_assoc] at htwo
    rw [List.drop_left' (by simp), List.take_left' (by simp)] at htwo
    have hone := congrArg UInt16.toNat (encodeUInt16_inj htwo)
    rw [UInt16.toNat_ofNat_of_lt' f.headerLength_lt] at hone
    have : (1 : UInt16).toNat = 1 := rfl
    omega

/-- **Wire framing.** A client's connections stay framed in every run whose sends each take
    all their bytes or find the connection lost; the router's stay framed in every run whose
    headers are taken whole or not at all and whose payloads are taken whole. -/
theorem senders_keep_framing (J : CJsonLib) :
    (∀ {con con' : RtConnection} {os os' : Os}, SendRun J con os con' os' → os.sent = [] →
      (∀ sock, con.fd = some sock → sock < os.nextSock) → (∀ ev ∈ os'.sent, ev.Clean) →
      ∀ sock, UpToCut Frame.bytes (wire sock os'.sent)) ∧
    (∀ {os os' : Os}, ForwardRun J os os' → os.sent = [] →
      (∀ ev ∈ os'.sent, ev.CleanForward) → ∀ sock, UpToCut Frame.bytes (wire sock os'.sent)) := by
  have hempty : Whole Frame.bytes [] := whole_nil
  constructor
  · intro con con' os os' hrun hsent hcreated hclean
    have hs : Sendable con os := by
      refine .mk ⟨?_, ?_⟩ hcreated ?_
      · intro sock
        simpa [hsent] using hempty.append_cut (f := sentFrame con [] [] none 0) List.nil_prefix
      · simp [hsent]
      · simpa [hsent] using fun _ _ => hempty
    exact (client_framed hrun hs hclean).framed
  · intro os os' hrun hsent hclean sock
    have hwhole := router_framed hrun (by simpa [hsent] using hempty) hclean sock
    simpa using hwhole.append_cut (f := sentFrame openConnection [] [] none 0) List.nil_prefix

/-- Attempts that find an error left over send the header each time, and nothing else. -/
theorem attempts_resend {reconnect : RtConnection → Os → ConResult} {call sock : Nat}
    {hdr : RtMessageHeader} {buff data : Bytes} {err : RtError} {con : RtConnection}
    (hread : con.sendBuffer.read 0 hdr.headerLength.toNat = .ok data) (hfd : con.fd = some sock)
    (herr : err ≠ .ok) (hkept : rtConnectionShouldReregister err = false) (left : Nat) (os : Os)
    (hfull : ∀ n, (os.sends.get n).Full hdr.headerLength.toNat) :
    ∃ os', Attempts reconnect call hdr buff left err con os err con os' ∧
      wire sock os'.sent = wire sock os.sent ++ (List.replicate (left+1) data).flatten := by
  have hlen := CArray.read_length hread
  have hsend : ∀ os : Os, os.sends.head.Full hdr.headerLength.toNat →
      attemptSends call hdr buff data err con.fd os =
        (err, { os with sends := os.sends.tail
                        sent := os.sent ++ [⟨call, sock, .header, data, os.sends.head⟩] }) := by
    intro os hf
    rw [hfd, attemptSends_header hlen (.inl herr), hf]
    simp [sendError]
  have htaken : ∀ r : SendResult, r.Full hdr.headerLength.toNat →
      SendEvent.taken ⟨call, sock, .header, data, r⟩ = data := by
    intro r hf
    exact SendEvent.taken_full (by rw [hlen]; exact hf)
  induction left generalizing os with
  | zero =>
    refine ⟨_, .stop hread (hsend os (hfull 0)) (reregister_kept hkept _ _) (.inr rfl), ?_⟩
    simp [htaken os.sends.head (hfull 0)]
  | succ left ih =>
    obtain ⟨os', hrest, hwire⟩ := ih
      { os with sends := os.sends.tail
                sent := os.sent ++ [⟨call, sock, .header, data, os.sends.head⟩] }
      (fun n => hfull (n+1))
    refine ⟨os', .again hread (hsend os (hfull 0)) (reregister_kept hkept _ _) herr hrest, ?_⟩
    rw [hwire]
    simp [htaken os.sends.head (hfull 0), List.replicate_succ]

/-- The frame of the message `[1, 2]` on topic `A.B`. -/
def exampleFrame : Frame := sentFrame openConnection (ascii "A.B") [1, 2] none 0

/-- The first send finds the connection lost. -/
def headerLost : Stream' SendResult := fun n => if n = 0 then .error .EPIPE else .complete

/-- The first message is lost with its connection, and the second goes out on the next one. -/
def lostThenSent : Except Fault (RtConnection × Os) := do
  let (_, con, os) ← rtConnectionSendInternal .unused 4 openConnection (ascii "A.B") [1, 2] none 0
    (.idle headerLost)
  let (_, con, os) ← rtConnectionSendInternal .unused 4 con (ascii "A.B") [1, 2] none 0 os
  return (con, os)

theorem lostThenSent_results :
    lostThenSent.toOption.map (fun p => p.2.sent.map fun ev => (ev.sock, ev.result)) =
      some [(0, .error .EPIPE), (1, .complete), (1, .complete)] := by decide +kernel

/-- A client is subscribed to a message. -/
def exampleDispatch (sends : Stream' SendResult) : DispatchState Os :=
  ⟨0, 1, false,
    ⟨[rtConnectedClientInit 7 0], [clientRoute 1 7 (ascii "A.B") 5], 3, .idle sends⟩⟩

/-- The first turn fails to send it the header, and the second forwards the message. -/
def lostThenForwarded : Except Fault (DispatchState Os) := do
  let msg : Message := ⟨8, exampleFrame.header, exampleFrame.payload⟩
  let s ← dispatchTurn .unused forwardMessage msg (exampleDispatch headerLost)
  dispatchTurn .unused forwardMessage msg s

theorem lostThenForwarded_results :
    lostThenForwarded.toOption.map
        (fun s => s.routed.env.sent.map fun ev => (ev.part, ev.result)) =
      some [(.header, .error .EPIPE), (.header, .complete), (.payload, .complete)] := by
  decide +kernel

theorem senders_keep_framing_example :
    (∃ con' os', SendRun .unused openConnection (.idle headerLost) con' os' ∧
      os'.sent.length = 3 ∧ ∀ sock, UpToCut Frame.bytes (wire sock os'.sent)) ∧
    ∃ os', ForwardRun .unused (.idle headerLost) os' ∧
      os'.sent.length = 3 ∧ ∀ sock, UpToCut Frame.bytes (wire sock os'.sent) := by
  have hframing := senders_keep_framing .unused
  constructor
  · obtain ⟨⟨con', os'⟩, hsent, hresults⟩ := ok_of_toOption_map lostThenSent_results
    obtain ⟨⟨e₁, con₁, os₁⟩, h₁, hsent⟩ := bind_eq_ok.mp hsent
    obtain ⟨⟨e₂, con₂, os₂⟩, h₂, hsent⟩ := bind_eq_ok.mp hsent
    cases hsent
    have hrun := ((SendRun.nil openConnection _).send h₁).send h₂
    refine ⟨_, _, hrun, by simpa using congrArg List.length hresults,
      hframing.1 hrun rfl ?_ ?_⟩
    · intro sock hsock
      cases hsock
      exact Nat.zero_lt_one
    · intro ev hev
      have hmem : (ev.sock, ev.result) ∈ os'.sent.map fun ev => (ev.sock, ev.result) :=
        List.mem_map_of_mem hev
      simp only [hresults, List.mem_cons, Prod.mk.injEq, List.not_mem_nil, or_false] at hmem
      rcases hmem with ⟨-, hlost⟩ | ⟨-, hfull⟩ | ⟨-, hfull⟩
      · exact .inr (.inl hlost)
      · exact .inl (hfull ▸ rfl)
      · exact .inl (hfull ▸ rfl)
  · obtain ⟨s, hforwarded, hresults⟩ := ok_of_toOption_map lostThenForwarded_results
    obtain ⟨s₁, h₁, h₂⟩ := bind_eq_ok.mp hforwarded
    have hrun := ((ForwardRun.nil (J := .unused) (Os.idle headerLost)).turn
      (s := exampleDispatch headerLost) h₁).turn h₂
    refine ⟨_, hrun, by simpa using congrArg List.length hresults, hframing.2 hrun rfl ?_⟩
    intro ev hev
    have hmem : (ev.part, ev.result) ∈ s.routed.env.sent.map fun ev => (ev.part, ev.result) :=
      List.mem_map_of_mem hev
    simp only [hresults, List.mem_cons, Prod.mk.injEq, List.not_mem_nil, or_false] at hmem
    rcases hmem with ⟨hpart, hlost⟩ | ⟨-, hfull⟩ | ⟨-, hfull⟩
    · exact .inr ⟨hpart, _, hlost⟩
    · exact .inl (hfull ▸ rfl)
    · exact .inl (hfull ▸ rfl)

/-- The second send fails and the others take all their bytes. -/
def payloadFails : Stream' SendResult := fun n => if n = 1 then .error .EAGAIN else .complete

/-- A call whose payload fails sends its header three times. -/
theorem send_payloadFails (J : CJsonLib) : ∃ con' os',
    SendRun J openConnection (.idle payloadFails) con' os' ∧
      wire 0 os'.sent = exampleFrame.headerBytes ++
        (exampleFrame.headerBytes ++ exampleFrame.headerBytes) := by
  let f := exampleFrame
  obtain ⟨hdr, hh, hp, hbuff, hiff⟩ := sendInternal_attempts J 0 openConnection
    (ascii "A.B") [1, 2] none 0 (.idle payloadFails) (show f = _ from rfl)
  obtain ⟨sendBuffer, hw, hread⟩ := f.headerBytes_written (.zero 8192)
  rw [← hh] at hread
  have hlen : f.headerBytes.length = hdr.headerLength.toNat := by rw [f.headerBytes_length, hh]
  let con₁ : RtConnection :=
    { openConnection with sequenceNumber := openConnection.sequenceNumber + 1, sendBuffer }
  let os₁ : Os := { Os.idle payloadFails with
    calls := 1, sends := payloadFails.tail.tail
    sent := [⟨0, 0, .header, f.headerBytes, .complete⟩,
      ⟨0, 0, .payload, f.payload, .error .EAGAIN⟩] }
  have hhead : (Os.idle payloadFails).beginCall.2.sends.head.Full hdr.headerLength.toNat := rfl
  have hfirst : attemptSends 0 hdr [1, 2] f.headerBytes .ok (some 0)
      (Os.idle payloadFails).beginCall.2 = (.errno .EAGAIN, os₁) := by
    rw [attemptSends_both hlen hhead, hbuff, hp]
    rfl
  have hresend : ∃ os', Attempts (sendReconnect J 0) 0 hdr [1, 2] 1 (.errno .EAGAIN) con₁ os₁
      (.errno .EAGAIN) con₁ os' ∧
        wire 0 os'.sent = wire 0 os₁.sent ++ (List.replicate 2 f.headerBytes).flatten :=
    attempts_resend hread rfl (by decide) rfl 1 os₁ (fun n => rfl)
  obtain ⟨os', hrest, hwire⟩ := hresend
  have hrun := (hiff _ _ _).mpr
    ⟨sendBuffer, hw, .again hread hfirst (reregister_kept rfl con₁ os₁) (by decide) hrest⟩
  refine ⟨con₁, os', (SendRun.nil _ _).send hrun, ?_⟩
  have hheader : SendEvent.taken ⟨0, 0, .header, f.headerBytes, .complete⟩ = f.headerBytes :=
    SendEvent.taken_complete _ _ _ _
  have hpayload : SendEvent.taken ⟨0, 0, .payload, f.payload, .error .EAGAIN⟩ = [] := rfl
  rw [hwire]
  simp only [os₁, wire_cons, wire_nil, if_true, hheader, hpayload, List.append_nil,
    List.replicate_succ, List.replicate_zero, List.flatten_cons, List.flatten_nil]
  rfl

theorem forward_payloadFails (J : CJsonLib) : ∃ os',
    ForwardRun J (.idle payloadFails) os' ∧ ∃ rest,
      wire 0 os'.sent = (exampleFrame.withControlData 5).headerBytes ++
        ((exampleFrame.withControlData 5).headerBytes ++ rest) := by
  let f := exampleFrame
  let g := f.withControlData 5
  let msg : Message := ⟨8, f.header, f.payload⟩
  let route := clientRoute 1 7 (ascii "A.B") 5
  let s := exampleDispatch payloadFails
  have ht : f.header.topic.str.length ≤ 127 := f.header_topic_str ▸ f.topic.length_le
  have hr : f.header.replyTopic.str.length ≤ 127 := f.header_replyTopic_str ▸ f.replyTopic.length_le
  have hframe : forwardedFrame f.header f.payload 5 ht hr = g := by
    simpa using forwardedFrame_header f [] 5 ht hr
  have hn : f.header.payloadLength.toNat ≤ f.payload.length := by simp
  have hm : msg.Matches route := by
    have htopic : f.header.topic.str = ascii "A.B" := by
      rw [f.header_topic_str]
      decide
    have hexp : route.expression.str = ascii "A.B" := CArray.pad_str (by decide) (by decide)
    change rtRoutedIsTopicMatch f.header.topic.str route.expression.str = true
    rw [htopic, hexp]
    decide
  -- after the first forward: its header was taken, its payload was not
  let os₁ : Os := { Os.idle payloadFails with
    calls := 1, sends := payloadFails.tail.tail
    sent := [⟨0, 0, .header, g.headerBytes, .complete⟩,
      ⟨0, 0, .payload, g.payload, .error .EAGAIN⟩] }
  -- after the second one, which is complete
  let os₂ : Os := { os₁ with
    calls := 2, sends := payloadFails.tail.tail.tail.tail
    sent := os₁.sent ++ [⟨1, 0, .header, g.headerBytes, .complete⟩,
      ⟨1, 0, .payload, g.payload, .complete⟩] }
  have hfind : s.routed.clients.find? (fun k => k.ptr == 7) = some (rtConnectedClientInit 7 0) :=
    rfl
  have hforward : ∀ {e : RtError} {os os' : Os},
      rtRoutedForwardMessage s.routed.clients f.header f.payload f.header.payloadLength.toNat
        ⟨1, 5, 7⟩ os = .ok (e, os') →
      messageHandler J forwardMessage msg route { s.routed with env := os } =
        .ok (e, { s.routed with env := os' }) := by
    intro e os os' h
    have h : forwardMessage msg ⟨1, 5, 7⟩ { s.routed with env := os } = .ok (e, os') := h
    simp only [messageHandler, route, clientRoute]
    rw [h, ok_bind]
    rfl
  have e₁ : rtRoutedForwardMessage s.routed.clients f.header f.payload
      f.header.payloadLength.toNat ⟨1, 5, 7⟩ (.idle payloadFails) = .ok (.fail, os₁) := by
    rw [forward_eq ht hr hfind, encode_forwardedHeader 5 ht hr hn, hframe]
    simp only [f.header_payloadLength, Nat.le_refl, if_true, List.take_length]
    rfl
  have e₂ : rtRoutedForwardMessage s.routed.clients f.header f.payload
      f.header.payloadLength.toNat ⟨1, 5, 7⟩ os₁ = .ok (.ok, os₂) := by
    rw [forward_complete ht hr hfind hn rfl rfl, hframe]
    rfl
  -- the dispatch calls the handler again for the same route
  have hrun := ((ForwardRun.nil (Os.idle payloadFails)).turn
    (turn_failed (s := s) rfl hm (hforward e₁) (by decide) (by decide))).turn
      (turn_handled rfl hm (hforward e₂))
  refine ⟨os₂, hrun, g.payload, ?_⟩
  have hheader : ∀ call, SendEvent.taken ⟨call, 0, .header, g.headerBytes, .complete⟩ =
      g.headerBytes := fun call => SendEvent.taken_complete _ _ _ _
  have hpayload : SendEvent.taken ⟨0, 0, .payload, g.payload, .error .EAGAIN⟩ = [] := rfl
  have hpayload' : SendEvent.taken ⟨1, 0, .payload, g.payload, .complete⟩ = g.payload :=
    SendEvent.taken_complete _ _ _ _
  simp only [os₂, os₁, wire_append, wire_cons, wire_nil, if_true, hheader, hpayload, hpayload',
    List.append_nil]
  rfl

/-- Both senders write on after a frame that was cut short. -/
theorem senders_break_framing :
    (¬ ∀ (J : CJsonLib) (con con' : RtConnection) (os os' : Os),
      SendRun J con os con' os' → os.sent = [] →
      (∀ sock, con.fd = some sock → sock < os.nextSock) →
      ∀ sock, UpToCut Frame.bytes (wire sock os'.sent)) ∧
    ¬ ∀ (J : CJsonLib) (os os' : Os), ForwardRun J os os' → os.sent = [] →
      ∀ sock, UpToCut Frame.bytes (wire sock os'.sent) := by
  constructor
  · intro hclaim
    obtain ⟨con', os', hrun, hwire⟩ := send_payloadFails .unused
    have hframed := hclaim _ _ _ _ _ hrun rfl (by
      intro sock hsock
      cases hsock
      exact Nat.zero_lt_one) 0
    rw [hwire] at hframed
    exact header_twice_not_framed rfl _ hframed
  · intro hclaim
    obtain ⟨os', hrun, rest, hwire⟩ := forward_payloadFails .unused
    have hframed := hclaim _ _ _ hrun rfl 0
    rw [hwire] at hframed
    exact header_twice_not_framed rfl _ hframed

end RtMessage
