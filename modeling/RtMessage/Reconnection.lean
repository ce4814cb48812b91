import Mathlib.Data.Stream.Init
import RtMessage.Reregistration

/- A call of `rtConnection_SendInternal` by the answers that its sends get, and the connect loop
   by the answers of `connect`.

   The call makes at most one reconnect: after one that succeeds it returns, and one that fails
   leaves it without a descriptor. So a call either keeps its connection (`sendRun_kept`) or is
   that reconnect (`sendRun_lost`), and `sendOutcome` says which. The connects that a call makes
   are written down beside it, function by function. -/
namespace RtMessage
open Lib

/-! The connects of a call. -/

/-- A `connect` and its answer: `none` is success. -/
structure ConnectEvent where
  sock : Nat
  answer : Option Errno
  deriving DecidableEq, Repr

/-- The connects after a step, if it returns. -/
def eventsAfter {α : Type} (step : Except Fault α) (events : α → List ConnectEvent) :
    List ConnectEvent :=
  match step with
  | .ok a => events a
  | .error _ => []

/-- The connects of the connect loop on a socket. -/
def connectLoopEvents (sock : Nat) : Nat → ConnectState → List ConnectEvent
  | 0, _ => []
  | fuel+1, s =>
    if s.goesOn then
      ⟨sock, s.os.connect.1⟩ :: eventsAfter (connectTurn s) (connectLoopEvents sock fuel)
    else []

def registerEvents (sendMessage : RtConnection → CJson → Bytes → Os → ConResult)
    (events : RtConnection → CJson → Bytes → Os → List ConnectEvent) :
    List RtListener → RtConnection → Os → List ConnectEvent
  | [], _, _ => []
  | l :: rest, con, os =>
    if l.inUse then
      let m := subscribeMessage l.expression l.subscriptionId
      events con m subscribeTopic os ++ eventsAfter (sendMessage con m subscribeTopic os)
        fun (_, con, os) => registerEvents sendMessage events rest con os
    else registerEvents sendMessage events rest con os

def connectAndRegisterEvents (sendMessage : RtConnection → CJson → Bytes → Os → ConResult)
    (events : RtConnection → CJson → Bytes → Os → List ConnectEvent) (fuel : Nat)
    (con : RtConnection) (os : Os) : List ConnectEvent :=
  eventsAfter (rtSocketStorageGetLength con.remoteFamily) fun _ =>
    match os.socket with
    | (.error _, _) => []
    | (.ok sock, os) =>
      let con := { con with fd := some sock }
      connectLoopEvents sock fuel ⟨0, false, os⟩ ++
        eventsAfter (loop .outOfFuel ConnectState.goesOn connectTurn fuel ⟨0, false, os⟩)
          fun s => registerEvents sendMessage events con.listeners con s.os

def reregisterEvents (events : RtConnection → Os → List ConnectEvent) (err : RtError)
    (con : RtConnection) (os : Os) : List ConnectEvent :=
  if err ≠ .ok && rtConnectionShouldReregister err then
    if rtConnectionEnsureRoutingDaemon = .ok then events con os else []
  else []

def attemptEvents (reconnect : RtConnection → Os → ConResult)
    (events : RtConnection → Os → List ConnectEvent) (call : Nat) (header : RtMessageHeader)
    (buff : Bytes) : Nat → RtError → RtConnection → Os → List ConnectEvent
  | left, err, con, os =>
    eventsAfter (con.sendBuffer.read 0 header.headerLength.toNat) fun data =>
      let (err, os) := attemptSends call header buff data err con.fd os
      reregisterEvents events err con os ++
        eventsAfter (reregister reconnect err con os) fun (err, con, os) =>
          if err = .ok then []
          else match left with
            | 0 => []
            | left+1 => attemptEvents reconnect events call header buff left err con os

def sendInternalEvents (J : CJsonLib) : Nat → RtConnection → Bytes → Bytes → Option Bytes →
    UInt32 → Os → List ConnectEvent
  | 0, _, _, _, _, _, _ => []
  | fuel+1, con, topic, buff, replyTopic, flags, os =>
    let (call, os) := os.beginCall
    let header := sendHeader con topic (UInt32.ofNat buff.length) replyTopic flags
    let con := { con with sequenceNumber := con.sequenceNumber + 1 }
    let (header, encoded) := rtMessageHeaderEncode header
    eventsAfter (con.sendBuffer.write 0 encoded) fun sendBuffer =>
      let con := { con with sendBuffer }
      let sendMessage con m topic os :=
        rtConnectionSendInternal J fuel con topic (rtMessageToByteArray J m) none 0 os
      let events con m topic os :=
        sendInternalEvents J fuel con topic (rtMessageToByteArray J m) none 0 os
      attemptEvents (rtConnectionConnectAndRegister sendMessage fuel)
        (connectAndRegisterEvents sendMessage events fuel) call header buff 2 .ok con os

/-- The connects of the reconnect that a send makes on a lost connection. -/
def reconnectEvents (J : CJsonLib) (fuel : Nat) : RtConnection → Os → List ConnectEvent :=
  connectAndRegisterEvents
    (fun con m topic os =>
      rtConnectionSendInternal J fuel con topic (rtMessageToByteArray J m) none 0 os)
    (fun con m topic os =>
      sendInternalEvents J fuel con topic (rtMessageToByteArray J m) none 0 os) fuel

/-! The attempts at a frame. -/

/-- `n` more attempts after one that failed: each sends the header and no payload. Whether one
    of them finds the connection lost, and the answers that are left. -/
def retryOutcome : Nat → Stream' SendResult → Bool × Stream' SendResult
  | 0, s => (false, s)
  | n+1, s => if s.head.Lost then (true, s.tail) else retryOutcome n s.tail

/-- The same for all the attempts at a frame. -/
def sendOutcome (header payload : Nat) (s : Stream' SendResult) : Bool × Stream' SendResult :=
  if s.head.Lost then (true, s.tail)
  else if s.head.Full header then
    if s.tail.head.Lost then (true, s.tail.tail)
    else if s.tail.head.Full payload then (false, s.tail.tail)
    else retryOutcome 2 s.tail.tail
  else retryOutcome 2 s.tail

section Attempts
variable {call sock : Nat} {hdr : RtMessageHeader} {buff data : Bytes}
  {R : RtConnection → Os → ConResult} {E : RtConnection → Os → List ConnectEvent}

/-- The attempts of a call, with the connects they make. -/
def attemptRun (call : Nat) (hdr : RtMessageHeader) (buff : Bytes) (left : Nat) (err : RtError)
    (con : RtConnection) (os : Os) (R : RtConnection → Os → ConResult)
    (E : RtConnection → Os → List ConnectEvent) : ConResult × List ConnectEvent :=
  (sendAttempts R call hdr buff left err con os, attemptEvents R E call hdr buff left err con os)

/-- What a call goes on with after a reconnect. -/
def resumeRun (call : Nat) (hdr : RtMessageHeader) (buff : Bytes)
    (R : RtConnection → Os → ConResult) (E : RtConnection → Os → List ConnectEvent) (left : Nat)
    (r : RtError × RtConnection × Os) : ConResult × List ConnectEvent :=
  if r.1 = .ok then (.ok r, [])
  else match left with
    | 0 => (.ok r, [])
    | left+1 => attemptRun call hdr buff left r.1 r.2.1 r.2.2 R E

theorem attemptRun_step {left : Nat} {err err₁ : RtError} {con : RtConnection} {os os₁ : Os}
    (hdata : con.sendBuffer.read 0 hdr.headerLength.toNat = .ok data)
    (hs : attemptSends call hdr buff data err con.fd os = (err₁, os₁)) :
    attemptRun call hdr buff left err con os R E =
      (reregister R err₁ con os₁ >>= fun r => (resumeRun call hdr buff R E left r).1,
        reregisterEvents E err₁ con os₁ ++ eventsAfter (reregister R err₁ con os₁)
          fun r => (resumeRun call hdr buff R E left r).2) := by
  have hresult : sendAttempts R call hdr buff left err con os =
      reregister R err₁ con os₁ >>= fun r => (resumeRun call hdr buff R E left r).1 := by
    rw [sendAttempts.eq_def]
    dsimp only
    rw [hdata, ok_bind, hs]
    dsimp only
    congr 1
    funext r
    obtain ⟨e, c, o⟩ := r
    cases left <;> (by_cases he : e = .ok <;> simp [resumeRun, attemptRun, he])
  have hevents : attemptEvents R E call hdr buff left err con os =
      reregisterEvents E err₁ con os₁ ++ eventsAfter (reregister R err₁ con os₁)
        fun r => (resumeRun call hdr buff R E left r).2 := by
    rw [attemptEvents.eq_def]
    dsimp only
    rw [hdata, eventsAfter, hs]
    dsimp only
    congr 2
    funext r
    obtain ⟨e, c, o⟩ := r
    cases left <;> (by_cases he : e = .ok <;> simp [resumeRun, attemptRun, he])
  rw [attemptRun, hresult, hevents]

theorem attemptRun_lost {left : Nat} {err err₁ : RtError} {con : RtConnection} {os os₁ : Os}
    (hdata : con.sendBuffer.read 0 hdr.headerLength.toNat = .ok data)
    (hs : attemptSends call hdr buff data err con.fd os = (err₁, os₁))
    (hlost : rtConnectionShouldReregister err₁ = true) :
    attemptRun call hdr buff left err con os R E =
      (R con os₁ >>= fun r => (resumeRun call hdr buff R E left r).1,
        E con os₁ ++ eventsAfter (R con os₁) fun r => (resumeRun call hdr buff R E left r).2) := by
  have hne : err₁ ≠ .ok := by
    intro heq
    rw [heq] at hlost
    exact absurd hlost (by decide)
  have hevents : reregisterEvents E err₁ con os₁ = E con os₁ := by
    simp [reregisterEvents, hne, hlost, rtConnectionEnsureRoutingDaemon]
  rw [attemptRun_step hdata hs, reregister_lost hlost, hevents]

theorem attemptRun_kept {left : Nat} {err err₁ : RtError} {con : RtConnection} {os os₁ : Os}
    (hdata : con.sendBuffer.read 0 hdr.headerLength.toNat = .ok data)
    (hs : attemptSends call hdr buff data err con.fd os = (err₁, os₁))
    (hkept : rtConnectionShouldReregister err₁ = false) :
    attemptRun call hdr buff left err con os R E =
      resumeRun call hdr buff R E left (err₁, con, os₁) := by
  have hevents : reregisterEvents E err₁ con os₁ = [] := by simp [reregisterEvents, hkept]
  rw [attemptRun_step hdata hs, reregister_kept hkept, hevents, ok_bind]
  rfl

theorem resumeRun_over {left : Nat} {r : RtError × RtConnection × Os}
    (h : r.1 = .ok ∨ left = 0) : resumeRun call hdr buff R E left r = (.ok r, []) := by
  rcases h with hok | hlast
  · rw [resumeRun.eq_def, if_pos hok]
  · subst hlast
    exact ite_self _

theorem resumeRun_again {left : Nat} {r : RtError × RtConnection × Os} (h : r.1 ≠ .ok) :
    resumeRun call hdr buff R E (left+1) r = attemptRun call hdr buff left r.1 r.2.1 r.2.2 R E := by
  rw [resumeRun, if_neg h]

theorem attemptRun_closed (left : Nat) (err : RtError) {con : RtConnection} (os : Os)
    (hread : hdr.headerLength.toNat ≤ 8192) (hfd : con.fd = none) :
    attemptRun call hdr buff left err con os R E = (.ok (.errno .EBADF, con, os), []) := by
  have hdata : con.sendBuffer.read 0 hdr.headerLength.toNat =
      .ok ((con.sendBuffer.data.drop 0).take hdr.headerLength.toNat) := by
    rw [CArray.read, if_pos (by rwa [Nat.zero_add])]
  have hs : ∀ err, attemptSends call hdr buff ((con.sendBuffer.data.drop 0).take
      hdr.headerLength.toNat) err con.fd os = (.errno .EBADF, os) := fun err => by
    rw [hfd]
    exact attemptSends_closed
  induction left generalizing err with
  | zero => rw [attemptRun_kept hdata (hs err) rfl, resumeRun_over (.inr rfl)]
  | succ left ih =>
    rw [attemptRun_kept hdata (hs err) rfl, resumeRun_again fun h => by cases h]
    exact ih _

/-- A reconnect that fails leaves no descriptor, and so nothing to go on with. -/
theorem resumeRun_reconnected (call : Nat) (buff : Bytes) (R : RtConnection → Os → ConResult)
    (E : RtConnection → Os → List ConnectEvent) (left : Nat) {r : RtError × RtConnection × Os}
    (hread : hdr.headerLength.toNat ≤ 8192) (h : r.1 ≠ .ok → r.2.1.fd = none) :
    ∃ e, resumeRun call hdr buff R E left r = (.ok (e, r.2), []) := by
  by_cases hok : r.1 = .ok
  · exact ⟨r.1, resumeRun_over (.inl hok)⟩
  · cases left with
    | zero => exact ⟨r.1, resumeRun_over (.inr rfl)⟩
    | succ left =>
      rw [resumeRun_again hok, attemptRun_closed left r.1 r.2.2 hread (h hok)]
      exact ⟨_, rfl⟩

/-- The error of an attempt that fails without a loss is none to reconnect on. -/
theorem sendError_kept {err : RtError} (len : Nat) {r : SendResult} (hnot : ¬ r.Lost)
    (hkept : rtConnectionShouldReregister err = false) :
    rtConnectionShouldReregister (sendError err len (r.reply len)) = false := by
  rw [Bool.eq_false_iff]
  exact fun h => hnot ((shouldReregister_iff_lost hkept len r).mp h)

/-- The header alone is sent. -/
theorem attemptSends_alone (call : Nat) (buff : Bytes) (err : RtError) {con : RtConnection} {os : Os}
    (hdata : con.sendBuffer.read 0 hdr.headerLength.toNat = .ok data) (hfd : con.fd = some sock)
    (h : err ≠ .ok ∨ ¬ os.sends.head.Full hdr.headerLength.toNat) :
    ∃ sent, attemptSends call hdr buff data err con.fd os =
      (sendError err hdr.headerLength.toNat (os.sends.head.reply hdr.headerLength.toNat),
        { os with sends := os.sends.tail, sent }) := by
  rw [hfd, attemptSends_header (CArray.read_length hdata) h]
  exact ⟨_, rfl⟩

/-- What the attempts at a frame come to, whatever the reconnect does: nothing more is done,
    or a connection that was found lost is made again, and the call goes on from there. -/
def AttemptsEnd (call : Nat) (hdr : RtMessageHeader) (buff : Bytes) (con : RtConnection) (os : Os)
    (run : (RtConnection → Os → ConResult) → (RtConnection → Os → List ConnectEvent) →
      ConResult × List ConnectEvent) : Bool × Stream' SendResult → Prop
  | (false, rest) => ∃ e sent, ∀ R E, run R E = (.ok (e, con, { os with sends := rest, sent }), [])
  | (true, rest) => ∃ left sent, ∀ R E, run R E =
      (R con { os with sends := rest, sent } >>= fun r => (resumeRun call hdr buff R E left r).1,
        E con { os with sends := rest, sent } ++ eventsAfter (R con { os with sends := rest, sent })
          fun r => (resumeRun call hdr buff R E left r).2)

theorem AttemptsEnd.again {left : Nat} {err err₁ : RtError} {con : RtConnection} {os os₁ : Os}
    {outcome : Bool × Stream' SendResult}
    (hdata : con.sendBuffer.read 0 hdr.headerLength.toNat = .ok data)
    (hs : attemptSends call hdr buff data err con.fd os = (err₁, os₁))
    (hkept : rtConnectionShouldReregister err₁ = false) (hne : err₁ ≠ .ok)
    (h : AttemptsEnd call hdr buff con os (attemptRun call hdr buff left err₁ con os₁) outcome) :
    AttemptsEnd call hdr buff con os (attemptRun call hdr buff (left+1) err con os) outcome := by
  have heq : attemptRun call hdr buff (left+1) err con os =
      attemptRun call hdr buff left err₁ con os₁ := by
    funext R E
    rw [attemptRun_kept hdata hs hkept, resumeRun_again hne]
  rw [heq]
  exact h

theorem retry_ends {left : Nat} {err : RtError} {con : RtConnection} (os : Os)
    (hdata : con.sendBuffer.read 0 hdr.headerLength.toNat = .ok data) (hfd : con.fd = some sock)
    (hkept : rtConnectionShouldReregister err = false) (hne : err ≠ .ok) :
    AttemptsEnd call hdr buff con os (attemptRun call hdr buff left err con os)
      (retryOutcome (left+1) os.sends) := by
  induction left generalizing err os with
  | zero =>
    obtain ⟨sent, hs⟩ := attemptSends_alone call buff err hdata hfd (.inl hne)
    rw [retryOutcome]
    by_cases hlost : os.sends.head.Lost
    · rw [if_pos hlost]
      exact ⟨0, sent, fun R E => attemptRun_lost hdata hs (shouldReregister_of_lost hlost _ _)⟩
    · rw [if_neg hlost]
      exact ⟨_, sent, fun R E => (attemptRun_kept hdata hs (sendError_kept _ hlost hkept)).trans
        (resumeRun_over (.inr rfl))⟩
  | succ left ih =>
    obtain ⟨sent, hs⟩ := attemptSends_alone call buff err hdata hfd (.inl hne)
    rw [retryOutcome]
    by_cases hlost : os.sends.head.Lost
    · rw [if_pos hlost]
      exact ⟨left+1, sent, fun R E => attemptRun_lost hdata hs (shouldReregister_of_lost hlost _ _)⟩
    · have hne' : sendError err hdr.headerLength.toNat
          (os.sends.head.reply hdr.headerLength.toNat) ≠ .ok :=
        fun hok => hne ((sendError_eq_ok _ _ _).mp hok).1
      have hkept' := sendError_kept hdr.headerLength.toNat hlost hkept
      rw [if_neg hlost]
      exact .again hdata hs hkept' hne'
        (ih { os with sends := os.sends.tail, sent } hkept' hne')

theorem attempts_end (call : Nat) (buff : Bytes) {con : RtConnection} (os : Os)
    (hdata : con.sendBuffer.read 0 hdr.headerLength.toNat = .ok data) (hfd : con.fd = some sock)
    (hbuff : (buff.take hdr.payloadLength.toNat).length = hdr.payloadLength.toNat) :
    AttemptsEnd call hdr buff con os (attemptRun call hdr buff 2 .ok con os)
      (sendOutcome hdr.headerLength.toNat hdr.payloadLength.toNat os.sends) := by
  have hkept : rtConnectionShouldReregister .ok = false := by decide
  rw [sendOutcome]
  by_cases hfull : os.sends.head.Full hdr.headerLength.toNat
  · -- the header is out, the payload decides
    obtain ⟨sent, hs⟩ : ∃ sent, attemptSends call hdr buff data .ok con.fd os =
        (sendError .ok hdr.payloadLength.toNat (os.sends.tail.head.reply hdr.payloadLength.toNat),
          { os with sends := os.sends.tail.tail, sent }) := by
      rw [hfd, attemptSends_both (CArray.read_length hdata) hfull, hbuff]
      exact ⟨_, rfl⟩
    rw [if_neg hfull.not_lost, if_pos hfull]
    by_cases hlost : os.sends.tail.head.Lost
    · rw [if_pos hlost]
      exact ⟨2, sent, fun R E => attemptRun_lost hdata hs (shouldReregister_of_lost hlost _ _)⟩
    · have hkept' := sendError_kept hdr.payloadLength.toNat hlost hkept
      rw [if_neg hlost]
      by_cases hpayload : os.sends.tail.head.Full hdr.payloadLength.toNat
      · have hok := (sendError_eq_ok .ok hdr.payloadLength.toNat os.sends.tail.head).mpr
          ⟨rfl, hpayload⟩
        rw [if_pos hpayload]
        exact ⟨_, sent, fun R E => (attemptRun_kept hdata hs hkept').trans
          (resumeRun_over (.inl hok))⟩
      · rw [if_neg hpayload]
        exact .again hdata hs hkept' (sendError_ne_ok hpayload _)
          (retry_ends { os with sends := os.sends.tail.tail, sent } hdata hfd hkept'
            (sendError_ne_ok hpayload _))
  · obtain ⟨sent, hs⟩ := attemptSends_alone call buff .ok hdata hfd (.inr hfull)
    by_cases hlost : os.sends.head.Lost
    · rw [if_pos hlost]
      exact ⟨2, sent, fun R E => attemptRun_lost hdata hs (shouldReregister_of_lost hlost _ _)⟩
    · have hkept' := sendError_kept hdr.headerLength.toNat hlost hkept
      rw [if_neg hlost, if_neg hfull]
      exact .again hdata hs hkept' (sendError_ne_ok hfull _)
        (retry_ends { os with sends := os.sends.tail, sent } hdata hfd hkept'
          (sendError_ne_ok hfull _))

end Attempts

/-! A call. -/

section Calls
variable {J : CJsonLib}

/-- A send, with the connects it makes. -/
def sendRun (J : CJsonLib) (fuel : Nat) (con : RtConnection) (topic buff : Bytes)
    (replyTopic : Option Bytes) (flags : UInt32) (os : Os) : ConResult × List ConnectEvent :=
  (rtConnectionSendInternal J fuel con topic buff replyTopic flags os,
    sendInternalEvents J fuel con topic buff replyTopic flags os)

/-- The connection with the header of a call in its buffer. -/
def RtConnection.begun (con : RtConnection) (sendBuffer : CArray 8192) : RtConnection :=
  { con with sequenceNumber := con.sequenceNumber + 1, sendBuffer }

/-- The system after the sends of a call. -/
def Os.after (os : Os) (sends : Stream' SendResult) (sent : List SendEvent) : Os :=
  { os with sends, calls := os.calls + 1, sent }

theorem sendRun_attempts (con : RtConnection) (topic buff : Bytes) (replyTopic : Option Bytes)
    (flags : UInt32) (os : Os) {f : Frame} (hf : f = sentFrame con topic buff replyTopic flags) :
    ∃ hdr sendBuffer, hdr.headerLength.toNat = f.headerLength ∧
      hdr.payloadLength.toNat = f.payload.length ∧
      buff.take hdr.payloadLength.toNat = f.payload ∧
      (con.begun sendBuffer).sendBuffer.read 0 hdr.headerLength.toNat = .ok f.headerBytes ∧ ∀ fuel,
        sendRun J (fuel+1) con topic buff replyTopic flags os =
          attemptRun os.calls hdr buff 2 .ok (con.begun sendBuffer) os.beginCall.2
            (sendReconnect J fuel) (reconnectEvents J fuel) := by
  obtain ⟨hdr, henc, hh, hp, hbuff⟩ := encode_sendHeader con topic buff replyTopic flags hf
  obtain ⟨sendBuffer, hw, hread⟩ := f.headerBytes_written con.sendBuffer
  rw [← hh] at hread
  refine ⟨hdr, sendBuffer, hh, hp, hbuff, hread, fun fuel => ?_⟩
  rw [sendRun, rtConnectionSendInternal, sendInternalEvents]
  simp only [Os.beginCall, henc, hw, ok_bind, eventsAfter]
  rfl

theorem sendRun_closed (con : RtConnection) (topic buff : Bytes) (replyTopic : Option Bytes)
    (flags : UInt32) (os : Os) (hfd : con.fd = none) :
    ∃ sendBuffer, ∀ fuel, sendRun J (fuel+1) con topic buff replyTopic flags os =
      (.ok (.errno .EBADF, con.begun sendBuffer, os.beginCall.2), []) := by
  obtain ⟨hdr, sendBuffer, hh, -, -, -, hrun⟩ :=
    sendRun_attempts (J := J) con topic buff replyTopic flags os rfl
  have hle : hdr.headerLength.toNat ≤ 8192 := by
    rw [hh]
    exact Nat.le_trans (Frame.headerLength_le _) (by omega)
  exact ⟨sendBuffer, fun fuel => (hrun fuel).trans (attemptRun_closed 2 .ok _ hle hfd)⟩

theorem sendRun_kept (con : RtConnection) (topic buff : Bytes) (replyTopic : Option Bytes)
    (flags : UInt32) (os : Os) {f : Frame} (hf : f = sentFrame con topic buff replyTopic flags)
    {sock : Nat} (hfd : con.fd = some sock) {rest : Stream' SendResult}
    (h : sendOutcome f.headerLength f.payload.length os.sends = (false, rest)) :
    ∃ e sendBuffer sent, ∀ fuel, sendRun J (fuel+1) con topic buff replyTopic flags os =
      (.ok (e, con.begun sendBuffer, os.after rest sent), []) := by
  obtain ⟨hdr, sendBuffer, hh, hp, hbuff, hread, hrun⟩ :=
    sendRun_attempts (J := J) con topic buff replyTopic flags os hf
  have hend := attempts_end os.calls buff os.beginCall.2 hread hfd (by rw [hbuff, hp])
  rw [hh, hp, show os.beginCall.2.sends = os.sends from rfl, h] at hend
  obtain ⟨e, sent, hend⟩ := hend
  exact ⟨e, sendBuffer, sent, fun fuel => (hrun fuel).trans (hend _ _)⟩

/-- A call that finds the connection lost is its reconnect, but for the error it returns. -/
theorem sendRun_lost (con : RtConnection) (topic buff : Bytes) (replyTopic : Option Bytes)
    (flags : UInt32) (os : Os) {f : Frame} (hf : f = sentFrame con topic buff replyTopic flags)
    {sock : Nat} (hfd : con.fd = some sock) {rest : Stream' SendResult}
    (h : sendOutcome f.headerLength f.payload.length os.sends = (true, rest)) :
    ∃ sendBuffer sent, ∀ fuel,
      (∀ r, sendReconnect J fuel (con.begun sendBuffer) (os.after rest sent) = .ok r →
        ∃ e, sendRun J (fuel+1) con topic buff replyTopic flags os =
          (.ok (e, r.2), reconnectEvents J fuel (con.begun sendBuffer) (os.after rest sent))) ∧
      ∀ fault, sendReconnect J fuel (con.begun sendBuffer) (os.after rest sent) = .error fault →
        rtConnectionSendInternal J (fuel+1) con topic buff replyTopic flags os = .error fault := by
  obtain ⟨hdr, sendBuffer, hh, hp, hbuff, hread, hrun⟩ :=
    sendRun_attempts (J := J) con topic buff replyTopic flags os hf
  have hle : hdr.headerLength.toNat ≤ 8192 := by
    rw [hh]
    exact Nat.le_trans (Frame.headerLength_le _) (by omega)
  have hend := attempts_end os.calls buff os.beginCall.2 hread hfd (by rw [hbuff, hp])
  rw [hh, hp, show os.beginCall.2.sends = os.sends from rfl, h] at hend
  obtain ⟨left, sent, hend⟩ := hend
  refine ⟨sendBuffer, sent, fun fuel => ⟨?_, ?_⟩⟩
  · rintro ⟨e, con', os'⟩ hr
    have hfailed : e ≠ .ok → con'.fd = none := (sendReconnect_failed hr).2
    obtain ⟨e', hover⟩ := resumeRun_reconnected os.calls buff (sendReconnect J fuel)
      (reconnectEvents J fuel) left (r := (e, con', os')) hle hfailed
    refine ⟨e', (hrun fuel).trans ((hend _ _).trans ?_)⟩
    change (sendReconnect J fuel (con.begun sendBuffer) (os.after rest sent) >>= _, _) = _
    rw [show { os.beginCall.2 with sends := rest, sent } = os.after rest sent from rfl, hr, ok_bind,
      eventsAfter, hover, List.append_nil]
  · intro fault hr
    have hresult := congrArg Prod.fst ((hrun fuel).trans (hend _ _))
    refine hresult.trans ?_
    change sendReconnect J fuel (con.begun sendBuffer) (os.after rest sent) >>= _ = _
    rw [hr]
    rfl

end Calls

/-! The connect loop. -/

/-- The answers that the connect loop uses up, with `left` refusals to go. -/
inductive Dials : Nat → Stream' (Option Errno) → List (Option Errno) → Prop where
  | exhausted {s : Stream' (Option Errno)} : Dials 0 s []
  | connected {left : Nat} {s : Stream' (Option Errno)} (h : s.head = none) :
      Dials (left+1) s [none]
  | refused {left : Nat} {s : Stream' (Option Errno)} {as : List (Option Errno)}
      (h : s.head = some .ECONNREFUSED) (hrest : Dials left s.tail as) :
      Dials (left+1) s (some .ECONNREFUSED :: as)
  /-- any other error is not counted -/
  | retried {left : Nat} {s : Stream' (Option Errno)} {e : Errno} {as : List (Option Errno)}
      (h : s.head = some e) (he : e ≠ .ECONNREFUSED) (hrest : Dials (left+1) s.tail as) :
      Dials (left+1) s (some e :: as)

theorem Dials.unique {left : Nat} {s : Stream' (Option Errno)} {as bs : List (Option Errno)}
    (h : Dials left s as) (h' : Dials left s bs) : as = bs := by
  induction h generalizing bs with
  | exhausted =>
    cases h'
    rfl
  | connected h =>
    cases h' with
    | connected _ => rfl
    | refused h' _ => cases h.symm.trans h'
    | retried h' _ _ => cases h.symm.trans h'
  | refused h _ ih =>
    cases h' with
    | connected h' => cases h.symm.trans h'
    | refused _ hrest => rw [ih hrest]
    | retried h' he _ =>
      cases h.symm.trans h'
      exact absurd rfl he
  | retried h he _ ih =>
    cases h' with
    | connected h' => cases h.symm.trans h'
    | refused h' _ =>
      cases h.symm.trans h'
      exact absurd rfl he
    | retried h' _ hrest =>
      cases h.symm.trans h'
      rw [ih hrest]

/-- The system after these connects. -/
def Os.dialled (os : Os) (as : List (Option Errno)) : Os :=
  { os with connects := os.connects.drop as.length }

section Dialling
variable {retry left : Nat} {os : Os}

theorem connectTurn_connected (h : os.connects.head = none) :
    connectTurn ⟨retry, false, os⟩ = .ok ⟨retry, true, os.dialled [none]⟩ := by
  simp only [connectTurn, Os.connect, h]
  rfl

theorem connectTurn_refused (h : os.connects.head = some .ECONNREFUSED) :
    connectTurn ⟨retry, false, os⟩ =
      .ok ⟨retry+1, false, os.dialled [some .ECONNREFUSED]⟩ := by
  simp only [connectTurn, Os.connect, h]
  rfl

theorem connectTurn_retried {e : Errno} (h : os.connects.head = some e)
    (he : e ≠ .ECONNREFUSED) :
    connectTurn ⟨retry, false, os⟩ = .ok ⟨retry, false, os.dialled [some e]⟩ := by
  simp only [connectTurn, Os.connect, h]
  rfl

theorem goesOn_iff_left (h : retry + left = 4) :
    ConnectState.goesOn ⟨retry, false, os⟩ = true ↔ left ≠ 0 := by
  simp only [ConnectState.goesOn, Bool.not_false, Bool.and_true, decide_eq_true_iff]
  omega

theorem connectLoop_connected (fuel : Nat) :
    loop .outOfFuel ConnectState.goesOn connectTurn fuel ⟨retry, true, os⟩ =
      .ok ⟨retry, true, os⟩ :=
  loop_done (by rw [ConnectState.goesOn, Bool.not_true, Bool.and_false]) fuel

theorem connectLoopEvents_done (sock fuel : Nat) {s : ConnectState} (h : s.goesOn = false) :
    connectLoopEvents sock fuel s = [] := by
  cases fuel with
  | zero => rfl
  | succ fuel => rw [connectLoopEvents, h, if_neg Bool.false_ne_true]

theorem connectLoopEvents_turn (sock fuel : Nat) {s t : ConnectState} (h : s.goesOn = true)
    (ht : connectTurn s = .ok t) :
    connectLoopEvents sock (fuel+1) s =
      ⟨sock, s.os.connects.head⟩ :: connectLoopEvents sock fuel t := by
  rw [connectLoopEvents, h, if_pos rfl, ht]
  rfl

theorem connectLoop_dials (sock : Nat) {fuel : Nat} {t : ConnectState} (hleft : retry + left = 4)
    (h : loop .outOfFuel ConnectState.goesOn connectTurn fuel ⟨retry, false, os⟩ = .ok t) :
    ∃ as, Dials left os.connects as ∧ t.os = os.dialled as ∧
      connectLoopEvents sock fuel ⟨retry, false, os⟩ = as.map (ConnectEvent.mk sock) := by
  induction fuel generalizing retry left os with
  | zero =>
    rcases loop_ok_cases h with ⟨hstop, rfl⟩ | ⟨_, _, h0, _⟩
    · rw [← Bool.not_eq_true, goesOn_iff_left hleft, not_not] at hstop
      subst hstop
      exact ⟨[], .exhausted, rfl, rfl⟩
    · cases h0
  | succ fuel ih =>
    rcases loop_ok_cases h with ⟨hstop, rfl⟩ | ⟨_, u, hfuel, hgo, hu, hrest⟩
    · have hevents := connectLoopEvents_done sock (fuel+1) hstop
      rw [← Bool.not_eq_true, goesOn_iff_left hleft, not_not] at hstop
      subst hstop
      exact ⟨[], .exhausted, rfl, hevents⟩
    · cases hfuel
      have hevents := connectLoopEvents_turn sock fuel hgo hu
      obtain ⟨left, rfl⟩ := Nat.exists_eq_succ_of_ne_zero ((goesOn_iff_left hleft).mp hgo)
      cases hhead : os.connects.head with
      | none =>
        cases (connectTurn_connected hhead).symm.trans hu
        cases (connectLoop_connected fuel).symm.trans hrest
        refine ⟨[none], .connected hhead, rfl, ?_⟩
        rw [hevents, hhead, connectLoopEvents_done sock fuel (by simp [ConnectState.goesOn])]
        rfl
      | some e =>
        by_cases he : e = .ECONNREFUSED
        · subst he
          cases (connectTurn_refused hhead).symm.trans hu
          obtain ⟨as, hd, hos, hev⟩ := ih (show retry + 1 + left = 4 by omega) hrest
          refine ⟨_, .refused hhead hd, hos, ?_⟩
          rw [hevents, hhead, hev]
          rfl
        · cases (connectTurn_retried hhead he).symm.trans hu
          obtain ⟨as, hd, hos, hev⟩ := ih hleft hrest
          refine ⟨_, .retried hhead he hd, hos, ?_⟩
          rw [hevents, hhead, hev]
          rfl

theorem Dials.loop_ends {connects : Stream' (Option Errno)} {as : List (Option Errno)}
    (h : Dials left connects as) (hleft : retry + left = 4) (hos : os.connects = connects) :
    ∃ fuel t, loop .outOfFuel ConnectState.goesOn connectTurn fuel ⟨retry, false, os⟩ = .ok t ∧
      t.os = os.dialled as := by
  induction h generalizing retry os with
  | exhausted =>
    refine ⟨0, ⟨retry, false, os⟩, loop_done ?_ 0, rfl⟩
    rw [← Bool.not_eq_true, goesOn_iff_left hleft, not_not]
  | connected h =>
    subst hos
    refine ⟨1, _, (loop_step ((goesOn_iff_left hleft).mpr (Nat.succ_ne_zero _))
      (connectTurn_connected h) 0).trans (connectLoop_connected 0), rfl⟩
  | @refused left s as h _ ih =>
    subst hos
    obtain ⟨fuel, t, hloop, ht⟩ := @ih (retry+1) (os.dialled [some .ECONNREFUSED])
      (by omega) rfl
    exact ⟨fuel+1, t, (loop_step ((goesOn_iff_left hleft).mpr (Nat.succ_ne_zero _))
      (connectTurn_refused h) fuel).trans hloop, ht⟩
  | @retried left s e as h he _ ih =>
    subst hos
    obtain ⟨fuel, t, hloop, ht⟩ := @ih retry (os.dialled [some e]) hleft rfl
    exact ⟨fuel+1, t, (loop_step ((goesOn_iff_left hleft).mpr (Nat.succ_ne_zero _))
      (connectTurn_retried h he) fuel).trans hloop, ht⟩

/-- The connect loop has its answers when a success or the last refusal lies ahead. -/
theorem exists_dials_iff {s : Stream' (Option Errno)} :
    (∃ as, Dials left s as) ↔
      ∃ n, left ≤ (s.take n).count (some .ECONNREFUSED) ∨ s.get n = none := by
  constructor
  · rintro ⟨as, h⟩
    induction h with
    | exhausted => exact ⟨0, .inl (Nat.zero_le _)⟩
    | connected h => exact ⟨0, .inr h⟩
    | refused h _ ih =>
      obtain ⟨n, hcount | hget⟩ := ih
      · refine ⟨n+1, .inl ?_⟩
        rw [Stream'.take_succ, h, List.count_cons_self]
        omega
      · exact ⟨n+1, .inr hget⟩
    | retried h he _ ih =>
      obtain ⟨n, hcount | hget⟩ := ih
      · refine ⟨n+1, .inl ?_⟩
        rw [Stream'.take_succ, h, List.count_cons_of_ne (by simpa using he)]
        exact hcount
      · exact ⟨n+1, .inr hget⟩
  · rintro ⟨n, h⟩
    induction n generalizing left s with
    | zero =>
      rcases h with hcount | hget
      · obtain rfl := Nat.le_zero.mp hcount
        exact ⟨[], .exhausted⟩
      · cases left with
        | zero => exact ⟨[], .exhausted⟩
        | succ left => exact ⟨[none], .connected hget⟩
    | succ n ih =>
      cases left with
      | zero => exact ⟨[], .exhausted⟩
      | succ left =>
        cases hhead : s.head with
        | none => exact ⟨[none], .connected hhead⟩
        | some e =>
          rw [Stream'.take_succ, hhead] at h
          by_cases he : e = .ECONNREFUSED
          · subst he
            rw [List.count_cons_self] at h
            obtain ⟨as, hdials⟩ := @ih left s.tail
              (h.imp (fun hcount => by omega) id)
            exact ⟨_, .refused hhead hdials⟩
          · rw [List.count_cons_of_ne (by simpa using he)] at h
            obtain ⟨as, hdials⟩ := @ih (left+1) s.tail h
            exact ⟨_, .retried hhead he hdials⟩

/-- **When the connect loop ends**: a connect succeeds, or four are refused. -/
theorem connectLoop_ends_iff :
    (∃ fuel t, loop .outOfFuel ConnectState.goesOn connectTurn fuel ⟨0, false, os⟩ = .ok t) ↔
      ∃ n, 4 ≤ (os.connects.take n).count (some .ECONNREFUSED) ∨ os.connects.get n = none := by
  rw [← exists_dials_iff]
  constructor
  · rintro ⟨fuel, t, h⟩
    obtain ⟨as, hdials, -, -⟩ := connectLoop_dials 0 (show 0 + 4 = 4 from rfl) h
    exact ⟨as, hdials⟩
  · rintro ⟨as, hdials⟩
    obtain ⟨fuel, t, h, -⟩ := hdials.loop_ends (show 0 + 4 = 4 from rfl) rfl
    exact ⟨fuel, t, h⟩

end Dialling

end RtMessage
