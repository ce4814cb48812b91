import RtMessage.Framing
import RtMessage.Routing
import RtMessage.SendAccepted

/- The router's answer to a request without a route.

   `rtConnection_SendErrorMessageToCaller` borrows the client's way of sending with a
   connection that has a descriptor and nothing else. Its remote endpoint has no family, so
   a send that finds the requester gone does not reconnect: it aborts the router. The
   router survives its answer exactly if no send of it does (`errorReply_survives_iff`). -/
namespace RtMessage
open Lib

/-! A connection that cannot be made again. -/

section Attempts
variable {reconnect : RtConnection → Os → ConResult} {call sock : Nat} {hdr : RtMessageHeader}
  {buff data : Bytes} {con : RtConnection}

/-- What a reconnect would use is still there. -/
def SameConnects (os os' : Os) : Prop := os'.sockets = os.sockets ∧ os'.connects = os.connects

section Attempt
variable {left : Nat} {err err₁ : RtError} {os os₁ : Os}
  (hread : con.sendBuffer.read 0 hdr.headerLength.toNat = .ok data)
  (hs : attemptSends call hdr buff data err con.fd os = (err₁, os₁))
include hread hs

theorem attempt_aborts (hlost : rtConnectionShouldReregister err₁ = true)
    (hre : ∀ os, reconnect con os = .error .abort) :
    sendAttempts reconnect call hdr buff left err con os = .error .abort := by
  rw [sendAttempts.eq_def]
  dsimp only
  rw [hread, ok_bind, hs]
  dsimp only
  rw [reregister_lost hlost, hre, error_bind]

theorem attempt_ends (hkept : rtConnectionShouldReregister err₁ = false)
    (hend : err₁ = .ok ∨ left = 0) :
    sendAttempts reconnect call hdr buff left err con os = .ok (err₁, con, os₁) := by
  rw [sendAttempts.eq_def]
  dsimp only
  rw [hread, ok_bind, hs]
  dsimp only
  rw [reregister_kept hkept, ok_bind]
  rcases hend with rfl | rfl
  · rw [if_pos rfl, pure_eq_ok]
  · simp only [ite_self, pure_eq_ok]

theorem attempt_goes_on (hkept : rtConnectionShouldReregister err₁ = false) (hne : err₁ ≠ .ok) :
    sendAttempts reconnect call hdr buff (left + 1) err con os =
      sendAttempts reconnect call hdr buff left err₁ con os₁ := by
  rw [sendAttempts.eq_def]
  dsimp only
  rw [hread, ok_bind, hs]
  dsimp only
  rw [reregister_kept hkept, ok_bind, if_neg hne]

end Attempt

theorem retry_sends {err : RtError} (hfd : con.fd = some sock)
    (hread : con.sendBuffer.read 0 hdr.headerLength.toNat = .ok data) (herr : err ≠ .ok)
    (hkept : rtConnectionShouldReregister err = false) (call : Nat) (buff : Bytes) (os : Os) :
    ∃ err₁, attemptSends call hdr buff data err con.fd os =
        (err₁, afterHeader os call sock data) ∧
      (rtConnectionShouldReregister err₁ = true ↔ os.sends.head.Lost) ∧ err₁ ≠ .ok := by
  refine ⟨sendError err hdr.headerLength.toNat (os.sends.head.reply hdr.headerLength.toNat),
    ?_, ?_, ?_⟩
  · rw [hfd]
    exact attemptSends_header (CArray.read_length hread) (.inl herr)
  · exact shouldReregister_iff_lost hkept _ _
  · rw [Ne, sendError_eq_ok]
    exact fun h => herr h.1

theorem sendAttempts_retry {err : RtError} (hfd : con.fd = some sock)
    (hread : con.sendBuffer.read 0 hdr.headerLength.toNat = .ok data) (herr : err ≠ .ok)
    (hkept : rtConnectionShouldReregister err = false) (call : Nat) (buff : Bytes) (left : Nat)
    (os : Os) :
    (LostWithin (left + 1) os.sends → ∀ reconnect, (∀ os, reconnect con os = .error .abort) →
      sendAttempts reconnect call hdr buff left err con os = .error .abort) ∧
    (¬ LostWithin (left + 1) os.sends → ∃ e os', SameConnects os os' ∧
      ∀ reconnect, sendAttempts reconnect call hdr buff left err con os = .ok (e, con, os')) := by
  induction left generalizing err os with
  | zero =>
    obtain ⟨err₁, hs, hlost, -⟩ := retry_sends hfd hread herr hkept call buff os
    by_cases hl : os.sends.head.Lost
    · refine ⟨fun _ reconnect hre => attempt_aborts hread hs (hlost.mpr hl) hre, ?_⟩
      exact fun hno => absurd (.inl hl) hno
    · have hkept₁ := Bool.eq_false_of_not_eq_true (mt hlost.mp hl)
      refine ⟨fun h => absurd ((lostWithin_succ hl).mp h) id, fun _ => ?_⟩
      exact ⟨err₁, afterHeader os call sock data, ⟨rfl, rfl⟩,
        fun reconnect => attempt_ends hread hs hkept₁ (.inr rfl)⟩
  | succ left ih =>
    obtain ⟨err₁, hs, hlost, hne⟩ := retry_sends hfd hread herr hkept call buff os
    by_cases hl : os.sends.head.Lost
    · refine ⟨fun _ reconnect hre => attempt_aborts hread hs (hlost.mpr hl) hre, ?_⟩
      exact fun hno => absurd (.inl hl) hno
    · have hkept₁ := Bool.eq_false_of_not_eq_true (mt hlost.mp hl)
      obtain ⟨habort, hok⟩ := ih hne hkept₁ (afterHeader os call sock data)
      rw [lostWithin_succ hl]
      constructor
      · intro h reconnect hre
        rw [attempt_goes_on hread hs hkept₁ hne]
        exact habort h reconnect hre
      · intro h
        obtain ⟨e, os', hsame, hrun⟩ := hok h
        refine ⟨e, os', hsame, fun reconnect => ?_⟩
        rw [attempt_goes_on hread hs hkept₁ hne]
        exact hrun reconnect

/-- **All attempts of a call** on a connection that cannot be made again. -/
theorem sendAttempts_first {f : Frame} (hfd : con.fd = some sock)
    (hh : hdr.headerLength.toNat = f.headerLength)
    (hp : hdr.payloadLength.toNat = f.payload.length)
    (hbuff : buff.take hdr.payloadLength.toNat = f.payload)
    (hread : con.sendBuffer.read 0 f.headerLength = .ok f.headerBytes) (call : Nat) (os : Os) :
    (OwnSendLost f os.sends → ∀ reconnect, (∀ os, reconnect con os = .error .abort) →
      sendAttempts reconnect call hdr buff 2 .ok con os = .error .abort) ∧
    (¬ OwnSendLost f os.sends → ∃ e os', SameConnects os os' ∧
      ∀ reconnect, sendAttempts reconnect call hdr buff 2 .ok con os = .ok (e, con, os')) := by
  have hread : con.sendBuffer.read 0 hdr.headerLength.toNat = .ok f.headerBytes := hh ▸ hread
  -- what follows the first attempt, once its error is there
  have rest : ∀ {err₁ : RtError} {os₁ : Os}, SameConnects os os₁ →
      attemptSends call hdr buff f.headerBytes .ok con.fd os = (err₁, os₁) → err₁ ≠ .ok →
      rtConnectionShouldReregister err₁ = false →
      (LostWithin 2 os₁.sends → ∀ reconnect, (∀ os, reconnect con os = .error .abort) →
        sendAttempts reconnect call hdr buff 2 .ok con os = .error .abort) ∧
      (¬ LostWithin 2 os₁.sends → ∃ e os', SameConnects os os' ∧
        ∀ reconnect, sendAttempts reconnect call hdr buff 2 .ok con os = .ok (e, con, os')) := by
    intro err₁ os₁ hsame₁ hs hne hkept
    obtain ⟨habort, hok⟩ := sendAttempts_retry hfd hread hne hkept call buff 1 os₁
    constructor
    · intro h reconnect hre
      rw [attempt_goes_on hread hs hkept hne]
      exact habort h reconnect hre
    · intro h
      obtain ⟨e, os', hsame, hrun⟩ := hok h
      refine ⟨e, os', ⟨hsame.1.trans hsame₁.1, hsame.2.trans hsame₁.2⟩, fun reconnect => ?_⟩
      rw [attempt_goes_on hread hs hkept hne]
      exact hrun reconnect
  rcases hs : attemptSends call hdr buff f.headerBytes .ok con.fd os with ⟨err₁, os₁⟩
  have hs' := hs
  rw [hfd] at hs'
  cases attemptSends_first hh hp hbuff hs' with
  | whole hfull hfull' =>
    rw [OwnSendLost, if_pos hfull]
    refine ⟨fun h => ?_, fun _ => ⟨.ok, afterBoth os call sock f, ⟨rfl, rfl⟩,
      fun reconnect => attempt_ends hread hs rfl (.inl rfl)⟩⟩
    rcases h with h | ⟨h, -⟩
    · exact absurd h hfull'.not_lost
    · exact absurd hfull' h
  | payload hfull hfull' hne hlost =>
    -- the header is out, and the payload was sent
    rw [OwnSendLost, if_pos hfull]
    by_cases hl : os.sends.tail.head.Lost
    · refine ⟨fun _ reconnect hre => attempt_aborts hread hs (hlost.mpr hl) hre, ?_⟩
      exact fun hno => absurd (.inl hl) hno
    · have hsame : SameConnects os (afterBoth os call sock f) := ⟨rfl, rfl⟩
      simp only [hl, hfull', false_or, not_false_eq_true, true_and]
      exact rest hsame hs hne (Bool.eq_false_of_not_eq_true (mt hlost.mp hl))
  | header hfull hne hlost =>
    -- the header did not go out whole
    rw [OwnSendLost, if_neg hfull]
    by_cases hl : os.sends.head.Lost
    · refine ⟨fun _ reconnect hre => attempt_aborts hread hs (hlost.mpr hl) hre, ?_⟩
      exact fun hno => absurd (.inl hl) hno
    · rw [lostWithin_succ hl]
      have hsame : SameConnects os (afterHeader os call sock f.headerBytes) := ⟨rfl, rfl⟩
      exact rest hsame hs hne (Bool.eq_false_of_not_eq_true (mt hlost.mp hl))

end Attempts

/-! The answer. -/

/-- The frame that answers a request without a route. -/
def errorReplyFrame (J : CJsonLib) (hdr : RtMessageHeader) : Frame :=
  sentFrame (errorConnection 0) hdr.replyTopic.str (rtMessageToByteArray J noRouteMessage)
    (some noRouteTopic) rtMessageFlagsResponse

section Reply
variable {J : CJsonLib} {clnt : RtConnectedClient} {r : RtRouted Os} {hdr : RtMessageHeader}

theorem sendErrorMessage_eq (J : CJsonLib) (fuel fd : Nat) (os : Os)
    (hreply : hdr.replyTopic.str.length ≤ 127) :
    rtConnectionSendErrorMessageToCaller J fuel fd hdr os = do
      let (_, _, os) ← rtConnectionSendInternal J fuel (errorConnection fd) hdr.replyTopic.str
        (rtMessageToByteArray J noRouteMessage) (some noRouteTopic) rtMessageFlagsResponse os
      return (.ok, os) := by
  have htopic : (CArray.pad 128 noRouteTopic).str = noRouteTopic :=
    CArray.pad_str (by decide) (by decide)
  have hstr : (CArray.pad 128 hdr.replyTopic.str).str = hdr.replyTopic.str :=
    CArray.pad_str (Nat.le_succ_of_le hreply) (zero_not_mem_cstr _)
  rw [rtConnectionSendErrorMessageToCaller]
  simp only [show rtMessageHeaderInit.topic = .zero 128 from rfl,
    show rtMessageHeaderInit.replyTopic = .zero 128 from rfl,
    CArray.strcpy_zero (show noRouteTopic.length < 128 by decide),
    CArray.strcpy_zero (Nat.lt_succ_of_le hreply), ok_bind]
  rw [rtConnectionSendResponse, htopic, hstr]

/-- The remote endpoint of that connection has no family. -/
theorem errorConnection_reconnect {con : RtConnection} (h : con.remoteFamily = .unspec)
    (fuel : Nat) (os : Os) : sendReconnect J fuel con os = .error .abort := by
  rw [sendReconnect, rtConnectionConnectAndRegister, rtSocketStorageGetLength, if_pos h, error_bind]

/-- **The answer's sends**: one that finds the requester gone aborts, and otherwise the call
    returns. -/
theorem sendErrorMessage_cases (fd : Nat) (os : Os) (hreply : hdr.replyTopic.str.length ≤ 127) :
    (OwnSendLost (errorReplyFrame J hdr) os.sends → ∀ fuel,
      rtConnectionSendErrorMessageToCaller J (fuel + 1) fd hdr os = .error .abort) ∧
    (¬ OwnSendLost (errorReplyFrame J hdr) os.sends → ∃ os', SameConnects os os' ∧ ∀ fuel,
      rtConnectionSendErrorMessageToCaller J (fuel + 1) fd hdr os = .ok (.ok, os')) := by
  obtain ⟨sendBuffer, hw, hread⟩ :=
    (errorReplyFrame J hdr).headerBytes_written (errorConnection fd).sendBuffer
  obtain ⟨h, henc, hh, hp, hbuff⟩ := encode_sendHeader (errorConnection fd) hdr.replyTopic.str
    (rtMessageToByteArray J noRouteMessage) (some noRouteTopic) rtMessageFlagsResponse
    (show errorReplyFrame J hdr = _ from rfl)
  let con : RtConnection := { errorConnection fd with
    sequenceNumber := (errorConnection fd).sequenceNumber + 1, sendBuffer }
  have hfd : con.fd = some fd := rfl
  have hsend : ∀ fuel, rtConnectionSendInternal J (fuel + 1) (errorConnection fd)
      hdr.replyTopic.str (rtMessageToByteArray J noRouteMessage) (some noRouteTopic)
      rtMessageFlagsResponse os =
        sendAttempts (sendReconnect J fuel) os.calls h (rtMessageToByteArray J noRouteMessage) 2
          .ok con os.beginCall.2 := by
    intro fuel
    rw [rtConnectionSendInternal]
    simp only [Os.beginCall, henc, hw, ok_bind]
    rfl
  obtain ⟨habort, hok⟩ := sendAttempts_first hfd hh hp hbuff hread os.calls os.beginCall.2
  constructor
  · intro hlost fuel
    rw [sendErrorMessage_eq J _ _ _ hreply, hsend,
      habort hlost _ (errorConnection_reconnect rfl fuel), error_bind]
  · intro hno
    obtain ⟨e, os', hsame, hrun⟩ := hok hno
    refine ⟨os', hsame, fun fuel => ?_⟩
    rw [sendErrorMessage_eq J _ _ _ hreply, hsend, hrun, ok_bind]
    simp only [pure_eq_ok]

theorem dispatch_unrouted (hnone : ∀ e ∈ r.routes, ¬ clnt.message.Matches e) {fuel : Nat}
    (hfuel : r.routes.length ≤ fuel) :
    rtRouterDispatchMessageFromClient J fuel clnt r = answerRequest J fuel clnt (false, r) := by
  have hnothing : ∀ s, s = r → ∀ e ∈ r.routes, clnt.message.Matches e →
      messageHandler J forwardMessage clnt.message e s = .ok (.ok, s) ∧ s = r :=
    fun s _ e he hm => absurd hm (hnone e he)
  have hloop := dispatchLoop_handled (· = r) (fun s _ => s) rfl
    (fun s hs => ⟨[], by rw [hs, List.append_nil]⟩) hnothing hfuel
  have hfilter : r.routes.filter clnt.message.selects = [] :=
    List.filter_eq_nil_iff.mpr fun e he => hnone e he
  have hany : r.routes.any clnt.message.selects = false :=
    Bool.eq_false_of_not_eq_true fun h => by
      obtain ⟨e, he, hm⟩ := List.any_eq_true.mp h
      exact hnone e he hm
  rw [hany, hfilter, List.foldl_nil] at hloop
  rw [dispatchMessage_eq, hloop, ok_bind]

/-- **The router survives**: the dispatch returns, whatever the bound on its loops from some
    point on, no socket was asked for, and the clients and the routes are as they were. -/
def Survives (J : CJsonLib) (clnt : RtConnectedClient) (r : RtRouted Os) : Prop :=
  ∃ r', (∃ enough, ∀ fuel, enough ≤ fuel →
      rtRouterDispatchMessageFromClient J fuel clnt r = .ok r') ∧
    r'.clients = r.clients ∧ r'.routes = r.routes ∧ SameConnects r.env r'.env

/-- **When the router survives its answer** to a request that matches no route. -/
theorem errorReply_survives_iff (J : CJsonLib) {clnt : RtConnectedClient} {r : RtRouted Os}
    (hrequest : rtMessageHeaderIsRequest clnt.header = true)
    (hnone : ∀ e ∈ r.routes, ¬ clnt.message.Matches e) :
    Survives J clnt r ↔ clnt.header.replyTopic.str.length ≤ 127 ∧
      ¬ OwnSendLost (errorReplyFrame J clnt.header) r.env.sends := by
  have hdispatch : ∀ fuel, r.routes.length ≤ fuel →
      rtRouterDispatchMessageFromClient J fuel clnt r =
        rtConnectionSendErrorMessageToCaller J fuel clnt.fd clnt.header r.env >>=
          fun sent => .ok { r with env := sent.2 } := by
    intro fuel hfuel
    rw [dispatch_unrouted hnone hfuel, answerRequest, hrequest]
    rfl
  constructor
  · rintro ⟨r', ⟨enough, hr'⟩, -⟩
    let fuel := max enough r.routes.length
    have hok := hr' (fuel + 1) (by omega)
    rw [hdispatch _ (by omega)] at hok
    have hreply : clnt.header.replyTopic.str.length ≤ 127 := by
      obtain ⟨x, hx, -⟩ := bind_eq_ok.mp hok
      rw [rtConnectionSendErrorMessageToCaller] at hx
      obtain ⟨topic, -, hx⟩ := bind_eq_ok.mp hx
      obtain ⟨replyTopic, hcopy, -⟩ := bind_eq_ok.mp hx
      exact Nat.le_of_lt_succ (strcpy_ok hcopy)
    refine ⟨hreply, fun hlost => ?_⟩
    rw [(sendErrorMessage_cases _ _ hreply).1 hlost fuel, error_bind] at hok
    cases hok
  · rintro ⟨hreply, hno⟩
    obtain ⟨os', hsame, hrun⟩ := (sendErrorMessage_cases clnt.fd _ hreply).2 hno
    refine ⟨{ r with env := os' }, ⟨r.routes.length + 1, fun fuel hfuel => ?_⟩, rfl, rfl, hsame⟩
    obtain ⟨fuel, rfl⟩ : ∃ k, fuel = k + 1 := ⟨fuel - 1, by omega⟩
    rw [hdispatch _ (by omega), hrun, ok_bind]

end Reply

/-! A requester that is gone. -/

/-- A client whose request for `A.B` is complete. -/
def unroutedRequester : RtConnectedClient :=
  { rtConnectedClientInit 1 0 with
    header := { exampleFrame with flags := rtMessageFlagsRequest }.header }

/-- A router with this client and without subscriptions. -/
def unroutedRouter (sends : Stream' SendResult) : RtRouted Os :=
  ⟨[unroutedRequester], [internalRoute 2], 3, .idle sends⟩

theorem unroutedRequester_unrouted (sends : Stream' SendResult) :
    ∀ e ∈ (unroutedRouter sends).routes, ¬ unroutedRequester.message.Matches e := by
  intro e he hm
  have htopic : unroutedRequester.message.hdr.topic.str = ascii "A.B" := by
    refine (Frame.header_topic_str _).trans ?_
    decide
  have hexp : (internalRoute 2).expression.str = ascii "_RTROUTED.>" :=
    CArray.pad_str (by decide) (by decide)
  rw [List.mem_singleton.mp he, Message.Matches, htopic, hexp] at hm
  revert hm
  decide

theorem unroutedRequester_replyTopic : unroutedRequester.header.replyTopic.str.length ≤ 127 := by
  refine Nat.le_trans (Nat.le_of_eq (congrArg _ (Frame.header_replyTopic_str _))) ?_
  decide

theorem errorReply_survives_iff_example :
    Survives .unused unroutedRequester (unroutedRouter (Stream'.const .complete)) := by
  refine (errorReply_survives_iff .unused rfl (unroutedRequester_unrouted _)).mpr
    ⟨unroutedRequester_replyTopic, ?_⟩
  have hfull : (Stream'.const SendResult.complete).head.Full
      (errorReplyFrame .unused unroutedRequester.header).headerLength := rfl
  change ¬ OwnSendLost _ (Stream'.const SendResult.complete)
  rw [OwnSendLost, if_pos hfull]
  rintro ((hlost | hlost) | ⟨hfull, -⟩)
  · cases hlost
  · cases hlost
  · exact hfull rfl

/-- The requester has closed its connection: every send to it fails with `EPIPE`. -/
theorem errorReply_aborts :
    (∀ fuel, rtRouterDispatchMessageFromClient .unused (fuel + 1) unroutedRequester
      (unroutedRouter (Stream'.const (.error .EPIPE))) = .error .abort) ∧
    ¬ ∀ (J : CJsonLib) (clnt : RtConnectedClient) (r : RtRouted Os),
      rtMessageHeaderIsRequest clnt.header = true →
      (∀ e ∈ r.routes, ¬ clnt.message.Matches e) → Survives J clnt r := by
  have habort : ∀ fuel, rtRouterDispatchMessageFromClient .unused (fuel + 1) unroutedRequester
      (unroutedRouter (Stream'.const (.error .EPIPE))) = .error .abort := by
    intro fuel
    have hlost : OwnSendLost (errorReplyFrame .unused unroutedRequester.header)
        (Stream'.const (.error .EPIPE)) := by
      rw [OwnSendLost, if_neg (by intro hfull; cases hfull)]
      exact .inl (.inl rfl)
    rw [dispatch_unrouted (unroutedRequester_unrouted _) (Nat.le_add_left 1 fuel), answerRequest]
    change (rtConnectionSendErrorMessageToCaller .unused (fuel + 1) 0 unroutedRequester.header
      (.idle (Stream'.const (.error .EPIPE))) >>= _) = _
    rw [(sendErrorMessage_cases 0 _ unroutedRequester_replyTopic).1 hlost, error_bind]
  refine ⟨habort, fun hclaim => ?_⟩
  obtain ⟨r', ⟨enough, hr'⟩, -⟩ := hclaim .unused unroutedRequester
    (unroutedRouter (Stream'.const (.error .EPIPE))) rfl (unroutedRequester_unrouted _)
  cases (habort enough).symm.trans (hr' _ (Nat.le_succ _))

end RtMessage
