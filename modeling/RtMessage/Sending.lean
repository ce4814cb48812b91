import RtMessage.Connection

/- What a call of `rtConnection_SendInternal` can do.

   `Attempts` is the retry loop as a relation: an attempt either ends the call or
   leaves an error and a connection to the next one (`sendAttempts_iff`).
   `sendInternal_keeps` is what every call leaves alone, through all the reconnects
   and the subscriptions they send again, and `sendInternal_complete` is the call
   whose two sends take all their bytes. -/
namespace RtMessage
open Lib

/-! The frame of a call. -/

theorem strncpy_str (s : Bytes) :
    ((CArray.zero 128).strncpy s 127 (by decide)).str = cstr (s.take 127) := by
  simp only [CArray.str, CArray.strncpy, CArray.zero, List.drop_replicate, List.append_assoc,
    List.replicate_append_replicate, cstr_append_zeros]

/-- What is left of a string in a topic of a sent header. -/
def Topic.cut (s : Bytes) : Topic where
  str := cstr (s.take 127)
  nul_free := zero_not_mem_cstr _
  length_le := Nat.le_trans (cstr_length_le _) (by simp)

/-- The frame a call sets out to send. The length it is given is a `uint32_t`. -/
def sentFrame (con : RtConnection) (topic buff : Bytes) (replyTopic : Option Bytes)
    (flags : UInt32) : Frame where
  sequenceNumber := con.sequenceNumber
  flags := flags
  controlData := 0
  topic := Topic.cut topic
  replyTopic := Topic.cut (replyTopic.getD [])
  payload := buff.take (UInt32.ofNat buff.length).toNat
  payload_lt := Nat.lt_of_le_of_lt (List.length_take_le _ _) (UInt32.toNat_lt _)

theorem sentFrame_payload_length (con : RtConnection) (topic buff : Bytes)
    (replyTopic : Option Bytes) (flags : UInt32) :
    (sentFrame con topic buff replyTopic flags).payload.length =
      (UInt32.ofNat buff.length).toNat := by
  simp only [sentFrame, List.length_take, UInt32.toNat_ofNat']
  omega

theorem sentFrame_payload (con : RtConnection) (topic : Bytes) {buff : Bytes}
    (replyTopic : Option Bytes) (flags : UInt32) (h : buff.length < 2^32) :
    (sentFrame con topic buff replyTopic flags).payload = buff := by
  simp [sentFrame, UInt32.toNat_ofNat_of_lt' h]

/-- The header a call encodes: the bytes of its frame's header, and the lengths that the
    sends are given. -/
theorem encode_sendHeader (con : RtConnection) (topic buff : Bytes) (replyTopic : Option Bytes)
    (flags : UInt32) {f : Frame} (hf : f = sentFrame con topic buff replyTopic flags) :
    ∃ hdr, rtMessageHeaderEncode
        (sendHeader con topic (UInt32.ofNat buff.length) replyTopic flags) = (hdr, f.headerBytes) ∧
      hdr.headerLength.toNat = f.headerLength ∧ hdr.payloadLength.toNat = f.payload.length ∧
      buff.take hdr.payloadLength.toNat = f.payload := by
  have ht : (sendHeader con topic (UInt32.ofNat buff.length) replyTopic flags).topic.str =
      f.topic.str := by subst hf; exact strncpy_str topic
  have hr : (sendHeader con topic (UInt32.ofNat buff.length) replyTopic flags).replyTopic.str =
      f.replyTopic.str := by
    subst hf
    cases replyTopic with
    | none => exact CArray.zero_str
    | some r => exact strncpy_str r
  have hp : UInt32.ofNat f.payload.length = UInt32.ofNat buff.length := by
    rw [hf, sentFrame_payload_length, UInt32.ofNat_toNat]
  refine ⟨(rtMessageHeaderEncode
    (sendHeader con topic (UInt32.ofNat buff.length) replyTopic flags)).1, ?_, ?_, ?_, ?_⟩
  · refine Prod.ext rfl ?_
    simp only [Frame.headerBytes_eq, rtMessageHeaderEncode, ht, hr, hp]
    subst hf
    rfl
  · simp only [rtMessageHeaderEncode, ht, hr]
    exact UInt16.toNat_ofNat_of_lt' f.headerLength_lt
  · rw [hf, sentFrame_payload_length]
    rfl
  · subst hf
    rfl

/-! The retry loop. -/

/-- The socket took all of `len` bytes. -/
def SendResult.Full (len : Nat) (r : SendResult) : Prop := r.reply len = .ok len

/-- The send found the connection lost. -/
def SendResult.Lost (r : SendResult) : Prop := r = .error .EPIPE ∨ r = .error .ENOTCONN

instance (len : Nat) (r : SendResult) : Decidable (r.Full len) := by
  unfold SendResult.Full
  infer_instance

instance (r : SendResult) : Decidable r.Lost := by
  unfold SendResult.Lost
  infer_instance

theorem SendResult.Full.not_lost {len : Nat} {r : SendResult} (h : r.Full len) : ¬ r.Lost := by
  rintro (rfl | rfl) <;> cases h

theorem shouldReregister_iff (e : RtError) :
    rtConnectionShouldReregister e = true ↔ e = .errno .ENOTCONN ∨ e = .errno .EPIPE := by
  simp [rtConnectionShouldReregister, rtErrorFromErrno]

/-- The error after a send is one to reconnect on exactly if the send found the
    connection lost, or it was there before and the send was complete. -/
theorem shouldReregister_sendError (err : RtError) (len : Nat) (r : SendResult) :
    rtConnectionShouldReregister (sendError err len (r.reply len)) = true ↔
      r.Lost ∨ (r.Full len ∧ rtConnectionShouldReregister err = true) := by
  rw [shouldReregister_iff, shouldReregister_iff]
  cases r with
  | complete => simp [SendResult.reply, sendError, SendResult.Lost, SendResult.Full]
  | short k =>
    by_cases hk : min k len = len
    · simp [SendResult.reply, sendError, SendResult.Lost, SendResult.Full, hk]
    · simp [SendResult.reply, sendError, SendResult.Lost, SendResult.Full, hk]
  | error e =>
    simp [SendResult.reply, sendError, SendResult.Lost, SendResult.Full, rtErrorFromErrno,
      Or.comm]

theorem sendError_eq_ok (err : RtError) (len : Nat) (r : SendResult) :
    sendError err len (r.reply len) = .ok ↔ err = .ok ∧ r.Full len := by
  unfold SendResult.Full
  cases hr : r.reply len with
  | error e => simp [sendError, rtErrorFromErrno]
  | ok k =>
    by_cases hk : k = len
    · simp [sendError, hk]
    · simp [sendError, hk]

theorem shouldReregister_of_lost {r : SendResult} (h : r.Lost) (err : RtError) (len : Nat) :
    rtConnectionShouldReregister (sendError err len (r.reply len)) = true :=
  (shouldReregister_sendError err len r).mpr (.inl h)

/-- After an error that is none to reconnect on, only a loss gives one that is. -/
theorem shouldReregister_iff_lost {err : RtError} (h : rtConnectionShouldReregister err = false)
    (len : Nat) (r : SendResult) :
    rtConnectionShouldReregister (sendError err len (r.reply len)) = true ↔ r.Lost := by
  rw [shouldReregister_sendError, h]
  simp

theorem sendError_ne_ok {len : Nat} {r : SendResult} (h : ¬ r.Full len) (err : RtError) :
    sendError err len (r.reply len) ≠ .ok :=
  fun hok => h ((sendError_eq_ok _ _ _).mp hok).2

theorem reregister_lost {reconnect : RtConnection → Os → ConResult} {err : RtError}
    (h : rtConnectionShouldReregister err = true) (con : RtConnection) (os : Os) :
    reregister reconnect err con os = reconnect con os := by
  have hne : err ≠ .ok := by
    intro he
    rw [he] at h
    exact absurd h (by decide)
  simp [reregister, h, hne, rtConnectionEnsureRoutingDaemon]

theorem reregister_kept {reconnect : RtConnection → Os → ConResult} {err : RtError}
    (h : rtConnectionShouldReregister err = false) (con : RtConnection) (os : Os) :
    reregister reconnect err con os = .ok (err, con, os) := by
  simp [reregister, h]

theorem reregister_cases {reconnect : RtConnection → Os → ConResult} {err e : RtError}
    {con con' : RtConnection} {os os' : Os}
    (h : reregister reconnect err con os = .ok (e, con', os')) :
    (rtConnectionShouldReregister err = false ∧ e = err ∧ con' = con ∧ os' = os) ∨
      (rtConnectionShouldReregister err = true ∧ reconnect con os = .ok (e, con', os')) := by
  cases hr : rtConnectionShouldReregister err with
  | false =>
    rw [reregister_kept hr] at h
    cases h
    exact .inl ⟨rfl, rfl, rfl, rfl⟩
  | true =>
    rw [reregister_lost hr] at h
    exact .inr ⟨rfl, h⟩

section Attempts
variable (reconnect : RtConnection → Os → ConResult) (call : Nat) (header : RtMessageHeader)
  (buff : Bytes)

/-- The attempts of a call, with the number left after this one and the error found in
    `err`; the last three are what the call returns. -/
inductive Attempts : Nat → RtError → RtConnection → Os → RtError → RtConnection → Os → Prop
  | stop {left : Nat} {err err₁ e : RtError} {con con' : RtConnection} {os os₁ os' : Os}
      {data : Bytes} :
      con.sendBuffer.read 0 header.headerLength.toNat = .ok data →
      attemptSends call header buff data err con.fd os = (err₁, os₁) →
      reregister reconnect err₁ con os₁ = .ok (e, con', os') → e = .ok ∨ left = 0 →
      Attempts left err con os e con' os'
  | again {left : Nat} {err err₁ err₂ e : RtError} {con con₂ con' : RtConnection}
      {os os₁ os₂ os' : Os} {data : Bytes} :
      con.sendBuffer.read 0 header.headerLength.toNat = .ok data →
      attemptSends call header buff data err con.fd os = (err₁, os₁) →
      reregister reconnect err₁ con os₁ = .ok (err₂, con₂, os₂) → err₂ ≠ .ok →
      Attempts left err₂ con₂ os₂ e con' os' →
      Attempts (left+1) err con os e con' os'

variable {reconnect call header buff}

theorem sendAttempts_iff {left : Nat} {err e : RtError} {con con' : RtConnection} {os os' : Os} :
    sendAttempts reconnect call header buff left err con os = .ok (e, con', os') ↔
      Attempts reconnect call header buff left err con os e con' os' := by
  constructor
  · intro h
    induction left generalizing err con os with
    | zero =>
      rw [sendAttempts] at h
      obtain ⟨data, hdata, h⟩ := bind_eq_ok.mp h
      obtain ⟨⟨e₂, con₂, os₂⟩, hre, h⟩ := bind_eq_ok.mp h
      simp only [pure_eq_ok, ite_self, Except.ok.injEq, Prod.mk.injEq] at h
      obtain ⟨rfl, rfl, rfl⟩ := h
      exact .stop hdata rfl hre (.inr rfl)
    | succ left ih =>
      rw [sendAttempts] at h
      obtain ⟨data, hdata, h⟩ := bind_eq_ok.mp h
      obtain ⟨⟨e₂, con₂, os₂⟩, hre, h⟩ := bind_eq_ok.mp h
      by_cases he : e₂ = .ok
      · simp only [he, if_true, pure_eq_ok, Except.ok.injEq, Prod.mk.injEq] at h
        obtain ⟨rfl, rfl, rfl⟩ := h
        exact .stop hdata rfl (he ▸ hre) (.inl rfl)
      · simp only [he, if_false] at h
        exact .again hdata rfl hre he (ih h)
  · intro h
    induction h with
    | @stop left err err₁ e con con' os os₁ os' data hdata hs hre hor =>
      rw [sendAttempts, hdata, ok_bind, hs]
      simp only [hre, ok_bind, pure_eq_ok]
      rcases hor with rfl | rfl
      · simp
      · simp
    | again hdata hs hre hne _ ih =>
      rw [sendAttempts, hdata, ok_bind, hs]
      simp only [hre, ok_bind, if_neg hne, ih]

theorem Attempts.step {left : Nat} {err e : RtError} {con con' : RtConnection} {os os' : Os}
    (h : Attempts reconnect call header buff left err con os e con' os') :
    ∃ data err₁ os₁ e₂ con₂ os₂, con.sendBuffer.read 0 header.headerLength.toNat = .ok data ∧
      attemptSends call header buff data err con.fd os = (err₁, os₁) ∧
      reregister reconnect err₁ con os₁ = .ok (e₂, con₂, os₂) ∧
      ((e₂ = .ok ∨ left = 0) ∧ e = e₂ ∧ con' = con₂ ∧ os' = os₂ ∨
        e₂ ≠ .ok ∧ ∃ n, left = n+1 ∧ Attempts reconnect call header buff n e₂ con₂ os₂ e con' os') := by
  cases h with
  | stop hdata hs hr hor => exact ⟨_, _, _, _, _, _, hdata, hs, hr, .inl ⟨hor, rfl, rfl, rfl⟩⟩
  | again hdata hs hr hne hrest =>
    exact ⟨_, _, _, _, _, _, hdata, hs, hr, .inr ⟨hne, _, rfl, hrest⟩⟩

end Attempts

/-! What a call leaves alone. -/

/-- The fields no send changes, the descriptor, which is the old one or one made since, and
    the sends recorded, each for a frame numbered from `lo` on. -/
structure Keeps (lo : Nat) (con : RtConnection) (os : Os) (con' : RtConnection) (os' : Os) :
    Prop where
  fd : con'.fd = con.fd ∨ ∀ sock, con'.fd = some sock → os.nextSock ≤ sock
  remoteFamily : con'.remoteFamily = con.remoteFamily
  recvBuffer : con'.recvBuffer = con.recvBuffer
  inboxName : con'.inboxName = con.inboxName
  listeners : con'.listeners = con.listeners
  response : con'.response = con.response
  recvs : os'.recvs = os.recvs
  clock : os'.clock = os.clock
  input : os'.input = os.input
  received : os'.received = os.received
  calls : os.calls ≤ os'.calls
  nextSock : os.nextSock ≤ os'.nextSock
  sent : ∃ evs, os'.sent = os.sent ++ evs ∧ ∀ e ∈ evs, lo ≤ e.call

namespace Keeps
variable {lo : Nat} {con con₁ con' : RtConnection} {os os₁ os' : Os}

theorem refl (lo : Nat) (con : RtConnection) (os : Os) : Keeps lo con os con os :=
  ⟨.inl rfl, rfl, rfl, rfl, rfl, rfl, rfl, rfl, rfl, rfl, Nat.le_refl _, Nat.le_refl _, [],
    by simp, by simp⟩

theorem trans (h : Keeps lo con os con₁ os₁) (h' : Keeps lo con₁ os₁ con' os') :
    Keeps lo con os con' os' where
  fd := by
    rcases h'.fd with h₂ | h₂
    · rw [h₂]
      exact h.fd
    · exact .inr fun sock hsock => Nat.le_trans h.nextSock (h₂ sock hsock)
  remoteFamily := h'.remoteFamily.trans h.remoteFamily
  recvBuffer := h'.recvBuffer.trans h.recvBuffer
  inboxName := h'.inboxName.trans h.inboxName
  listeners := h'.listeners.trans h.listeners
  response := h'.response.trans h.response
  recvs := h'.recvs.trans h.recvs
  clock := h'.clock.trans h.clock
  input := h'.input.trans h.input
  received := h'.received.trans h.received
  calls := Nat.le_trans h.calls h'.calls
  nextSock := Nat.le_trans h.nextSock h'.nextSock
  sent := by
    obtain ⟨a, ha, ha'⟩ := h.sent
    obtain ⟨b, hb, hb'⟩ := h'.sent
    refine ⟨a ++ b, by rw [hb, ha, List.append_assoc], ?_⟩
    intro e he
    rcases List.mem_append.mp he with he | he
    · exact ha' e he
    · exact hb' e he

theorem mono {hi : Nat} (h : Keeps hi con os con' os') (hle : lo ≤ hi) :
    Keeps lo con os con' os' := by
  obtain ⟨evs, hevs, hcall⟩ := h.sent
  exact { h with sent := ⟨evs, hevs, fun e he => Nat.le_trans hle (hcall e he)⟩ }

theorem send {call : Nat} (h : lo ≤ call) (con : RtConnection) (fd : Option Nat)
    (part : FramePart) (data : Bytes) (os : Os) :
    Keeps lo con os con (os.send fd call part data).2 := by
  cases fd with
  | none => exact refl lo con os
  | some sock =>
    refine { refl lo con os with sent := ⟨[⟨call, sock, part, data, os.sends.head⟩], rfl, ?_⟩ }
    intro e he
    rw [List.mem_singleton.mp he]
    exact h

theorem attemptSends {call : Nat} (h : lo ≤ call) {header : RtMessageHeader}
    {buff data : Bytes} {err err₁ : RtError} (con : RtConnection) {fd : Option Nat}
    (hs : attemptSends call header buff data err fd os = (err₁, os₁)) :
    Keeps lo con os con os₁ := by
  have hos : (RtMessage.attemptSends call header buff data err fd os).2 = os₁ := by rw [hs]
  subst hos
  simp only [RtMessage.attemptSends]
  split
  · exact (send h con fd _ _ os).trans (send h con fd _ _ _)
  · exact send h con fd _ _ os

/-- A call that keeps at every attempt keeps. -/
theorem attempts {reconnect : RtConnection → Os → ConResult} {call : Nat}
    {header : RtMessageHeader} {buff : Bytes} {left : Nat} {err e : RtError}
    (hre : ∀ con os e con' os', reconnect con os = .ok (e, con', os') →
      Keeps os.calls con os con' os')
    (hcall : lo ≤ call)
    (h : Attempts reconnect call header buff left err con os e con' os') (hlo : lo ≤ os.calls) :
    Keeps lo con os con' os' := by
  have recover : ∀ {err e con con' os os'}, lo ≤ os.calls →
      reregister reconnect err con os = .ok (e, con', os') → Keeps lo con os con' os' := by
    intro err e con con' os os' hlo h
    rcases reregister_cases h with ⟨-, rfl, rfl, rfl⟩ | ⟨-, h⟩
    · exact refl _ _ _
    · exact (hre _ _ _ _ _ h).mono hlo
  induction h with
  | @stop _ _ _ _ con _ _ _ _ _ _ hs hr _ =>
    have hk := attemptSends hcall con hs
    exact hk.trans (recover (Nat.le_trans hlo hk.calls) hr)
  | @again _ _ _ _ _ con _ _ _ _ _ _ _ _ hs hr _ _ ih =>
    have hk := attemptSends hcall con hs
    have hk := hk.trans (recover (Nat.le_trans hlo hk.calls) hr)
    exact hk.trans (ih (Nat.le_trans hlo hk.calls))

end Keeps

theorem connectTurn_os {s t : ConnectState} (h : connectTurn s = .ok t) :
    t.os = s.os.connect.2 := by
  unfold connectTurn at h
  split at h
  · next heq => cases h; rw [heq]
  · next heq => cases h; rw [heq]
  · next heq => cases h; rw [heq]

theorem connectLoop_os {fuel : Nat} {os : Os} {s : ConnectState}
    (h : loop .outOfFuel ConnectState.goesOn connectTurn fuel ⟨0, false, os⟩ = .ok s) :
    ∃ connects, s.os = { os with connects } := by
  refine (loop_invariant (fun s : ConnectState => ∃ connects, s.os = { os with connects })
    ?_ ⟨os.connects, rfl⟩ h).1
  rintro s t ⟨connects, hs⟩ - ht
  exact ⟨connects.tail, by rw [connectTurn_os ht, hs]; rfl⟩

theorem registerListeners_invariant {sendMessage : RtConnection → CJson → Bytes → Os → ConResult}
    (I : RtConnection → Os → Prop)
    (hsend : ∀ con m topic os e con' os', I con os →
      sendMessage con m topic os = .ok (e, con', os') → I con' os')
    {ls : List RtListener} {con con' : RtConnection} {os os' : Os} (hI : I con os)
    (h : registerListeners sendMessage ls con os = .ok (con', os')) : I con' os' := by
  induction ls generalizing con os with
  | nil => cases h; exact hI
  | cons l rest ih =>
    rw [registerListeners] at h
    split at h
    · obtain ⟨⟨e, con₁, os₁⟩, hs, h⟩ := bind_eq_ok.mp h
      exact ih (hsend _ _ _ _ _ _ _ hI hs) h
    · exact ih hI h

theorem connectAndRegister_cases {sendMessage : RtConnection → CJson → Bytes → Os → ConResult}
    {fuel : Nat} {con con' : RtConnection} {os os' : Os} {e : RtError}
    (h : rtConnectionConnectAndRegister sendMessage fuel con os = .ok (e, con', os')) :
    (∃ n, os.sockets.head = some n ∧ e = .errno n ∧ con' = { con with fd := none } ∧
      os' = { os with sockets := os.sockets.tail }) ∨
    (os.sockets.head = none ∧ e = .ok ∧ ∃ connects,
      registerListeners sendMessage con.listeners { con with fd := some os.nextSock }
        { os with sockets := os.sockets.tail, nextSock := os.nextSock + 1, connects } =
          .ok (con', os')) := by
  rw [rtConnectionConnectAndRegister] at h
  obtain ⟨_, -, h⟩ := bind_eq_ok.mp h
  cases hs : os.sockets.head with
  | some n =>
    simp only [Os.socket, hs, pure_eq_ok, Except.ok.injEq, Prod.mk.injEq] at h
    obtain ⟨rfl, rfl, rfl⟩ := h
    exact .inl ⟨n, rfl, rfl, rfl, rfl⟩
  | none =>
    simp only [Os.socket, hs] at h
    obtain ⟨s, hl, h⟩ := bind_eq_ok.mp h
    obtain ⟨⟨con₁, os₁⟩, hr, h⟩ := bind_eq_ok.mp h
    simp only [pure_eq_ok, Except.ok.injEq, Prod.mk.injEq] at h
    obtain ⟨rfl, rfl, rfl⟩ := h
    obtain ⟨connects, hos⟩ := connectLoop_os hl
    rw [hos] at hr
    exact .inr ⟨rfl, rfl, connects, hr⟩

theorem connectAndRegister_connected
    (sendMessage : RtConnection → CJson → Bytes → Os → ConResult) (fuel : Nat)
    {con : RtConnection} {os : Os} (hfamily : con.remoteFamily ≠ .unspec)
    (hsocket : os.sockets.head = none) (hconnect : os.connects.head = none) :
    rtConnectionConnectAndRegister sendMessage (fuel+1) con os = do
      let (con, os) ← registerListeners sendMessage con.listeners
        { con with fd := some os.nextSock }
        { os with sockets := os.sockets.tail, nextSock := os.nextSock + 1,
                  connects := os.connects.tail }
      return (.ok, con, os) := by
  have hturn : connectTurn ⟨0, false, { os with
      sockets := os.sockets.tail, nextSock := os.nextSock + 1 }⟩ =
      .ok ⟨0, true, { os with sockets := os.sockets.tail, nextSock := os.nextSock + 1,
                              connects := os.connects.tail }⟩ := by
    simp only [connectTurn, Os.connect, hconnect]
  simp only [rtConnectionConnectAndRegister, rtSocketStorageGetLength, if_neg hfamily, ok_bind,
    Os.socket, hsocket]
  rw [loop_step rfl hturn, loop_done rfl, ok_bind]

theorem registerListeners_free (sendMessage : RtConnection → CJson → Bytes → Os → ConResult)
    {ls : List RtListener} (con : RtConnection) (os : Os) (h : ∀ l ∈ ls, l.inUse = false) :
    registerListeners sendMessage ls con os = .ok (con, os) := by
  induction ls with
  | nil => rfl
  | cons l rest ih =>
    rw [registerListeners, if_neg (by simp [h l]), ih fun k hk => h k (by simp [hk])]

theorem Keeps.connectAndRegister {sendMessage : RtConnection → CJson → Bytes → Os → ConResult}
    {fuel : Nat} {con con' : RtConnection} {os os' : Os} {e : RtError}
    (hsend : ∀ con m topic os e con' os', sendMessage con m topic os = .ok (e, con', os') →
      Keeps os.calls con os con' os')
    (h : rtConnectionConnectAndRegister sendMessage fuel con os = .ok (e, con', os')) :
    Keeps os.calls con os con' os' := by
  rcases connectAndRegister_cases h with ⟨n, -, -, rfl, rfl⟩ | ⟨-, -, connects, h⟩
  · exact { Keeps.refl os.calls con os with fd := .inr fun _ hsock => by cases hsock }
  · have h₁ : Keeps os.calls con os { con with fd := some os.nextSock }
        { os with sockets := os.sockets.tail, nextSock := os.nextSock + 1, connects } :=
      { Keeps.refl os.calls con os with
        fd := .inr fun _ hsock => Nat.le_of_eq (Option.some.inj hsock), nextSock := Nat.le_succ _ }
    refine registerListeners_invariant (Keeps os.calls con os) ?_ h₁ h
    intro con₂ m topic os₂ e con₃ os₃ hk hs
    exact hk.trans ((hsend _ _ _ _ _ _ _ hs).mono hk.calls)

/-- **What every send leaves alone**, whatever the system calls answer. -/
theorem sendInternal_keeps {J : CJsonLib} {fuel : Nat} {con con' : RtConnection}
    {topic buff : Bytes} {replyTopic : Option Bytes} {flags : UInt32} {os os' : Os} {e : RtError}
    (h : rtConnectionSendInternal J fuel con topic buff replyTopic flags os =
      .ok (e, con', os')) : Keeps os.calls con os con' os' := by
  induction fuel generalizing con topic buff replyTopic flags os e con' os' with
  | zero => cases h
  | succ fuel ih =>
    rw [rtConnectionSendInternal] at h
    obtain ⟨sendBuffer, -, h⟩ := bind_eq_ok.mp h
    have hbegin : Keeps os.calls con os
        { con with sequenceNumber := con.sequenceNumber + 1, sendBuffer } os.beginCall.2 :=
      { Keeps.refl os.calls con os with calls := Nat.le_succ _ }
    refine hbegin.trans (Keeps.attempts ?_ (Nat.le_refl _) (sendAttempts_iff.mp h) hbegin.calls)
    intro con os e con' os' hre
    exact Keeps.connectAndRegister (fun con m topic os e con' os' hs => ih hs) hre

/-- The call of `rtConnection_ConnectAndRegister` that a send makes on a lost connection. -/
def sendReconnect (J : CJsonLib) (fuel : Nat) : RtConnection → Os → ConResult :=
  rtConnectionConnectAndRegister (fun con m topic os =>
    rtConnectionSendInternal J fuel con topic (rtMessageToByteArray J m) none 0 os) fuel

theorem sendReconnect_keeps {J : CJsonLib} {fuel : Nat} {con con' : RtConnection} {os os' : Os}
    {e : RtError} (h : sendReconnect J fuel con os = .ok (e, con', os')) :
    Keeps os.calls con os con' os' :=
  Keeps.connectAndRegister (fun _ _ _ _ _ _ _ hs => sendInternal_keeps hs) h

theorem read_after_write {n : Nat} {a b : CArray n} {src : Bytes} (h : a.write 0 src = .ok b) :
    b.read 0 src.length = .ok src := by
  obtain ⟨hle, hb⟩ := CArray.write_eq_ok h
  simp [CArray.read, hb, show src.length ≤ n by omega]

theorem Frame.headerBytes_read {f : Frame} {n : Nat} {a b : CArray n}
    (h : a.write 0 f.headerBytes = .ok b) : b.read 0 f.headerLength = .ok f.headerBytes := by
  have hread := read_after_write h
  rw [f.headerBytes_length] at hread
  exact hread

theorem Frame.headerBytes_written (f : Frame) (a : CArray 8192) :
    ∃ b, a.write 0 f.headerBytes = .ok b ∧ b.read 0 f.headerLength = .ok f.headerBytes := by
  have hle : 0 + f.headerBytes.length ≤ 8192 := by
    have := f.headerLength_le
    rw [f.headerBytes_length]
    omega
  obtain ⟨b, hw, -⟩ := CArray.write_ok a 0 f.headerBytes hle
  exact ⟨b, hw, headerBytes_read hw⟩

/-- **A call as its attempts**: the frame is numbered, its header is written to the buffer,
    and at most three attempts follow. -/
theorem sendInternal_attempts (J : CJsonLib) (fuel : Nat) (con : RtConnection)
    (topic buff : Bytes) (replyTopic : Option Bytes) (flags : UInt32) (os : Os) {f : Frame}
    (hf : f = sentFrame con topic buff replyTopic flags) :
    ∃ hdr : RtMessageHeader, hdr.headerLength.toNat = f.headerLength ∧
      hdr.payloadLength.toNat = f.payload.length ∧
      buff.take hdr.payloadLength.toNat = f.payload ∧
      ∀ e con' os',
        rtConnectionSendInternal J (fuel+1) con topic buff replyTopic flags os =
            .ok (e, con', os') ↔
          ∃ sendBuffer, con.sendBuffer.write 0 f.headerBytes = .ok sendBuffer ∧
            Attempts (sendReconnect J fuel) os.calls hdr buff 2 .ok
              { con with sequenceNumber := con.sequenceNumber + 1, sendBuffer } os.beginCall.2
              e con' os' := by
  obtain ⟨hdr, henc, hh, hp, hbuff⟩ := encode_sendHeader con topic buff replyTopic flags hf
  refine ⟨hdr, hh, hp, hbuff, fun e con' os' => ?_⟩
  rw [rtConnectionSendInternal]
  simp only [Os.beginCall, henc, bind_eq_ok, sendAttempts_iff]
  rfl

/-! The sends of an attempt. -/

theorem CArray.read_length {n off len : Nat} {a : CArray n} {bs : Bytes}
    (h : a.read off len = .ok bs) : bs.length = len := by
  unfold CArray.read at h
  split at h
  · next hle =>
    cases h
    simp [a.size_eq]
    omega
  · cases h

section Sends
variable {call sock : Nat} {hdr : RtMessageHeader} {buff data : Bytes} {err : RtError} {os : Os}

theorem attemptSends_closed : attemptSends call hdr buff data err none os = (.errno .EBADF, os) := by
  simp [attemptSends, Os.send, sendError, rtErrorFromErrno]

/-- The header goes out whole and no error is left over: the payload follows. -/
theorem attemptSends_both (hdata : data.length = hdr.headerLength.toNat)
    (h : os.sends.head.Full hdr.headerLength.toNat) :
    attemptSends call hdr buff data .ok (some sock) os =
      (sendError .ok hdr.payloadLength.toNat
          (os.sends.tail.head.reply (buff.take hdr.payloadLength.toNat).length),
        { os with sends := os.sends.tail.tail
                  sent := os.sent ++ [⟨call, sock, .header, data, os.sends.head⟩,
                    ⟨call, sock, .payload, buff.take hdr.payloadLength.toNat,
                      os.sends.tail.head⟩] }) := by
  have he : sendError .ok hdr.headerLength.toNat (os.sends.head.reply data.length) = .ok := by
    rw [hdata]
    exact (sendError_eq_ok _ _ _).mpr ⟨rfl, h⟩
  simp only [attemptSends, Os.send, he, if_true, List.append_assoc, List.cons_append,
    List.nil_append]

theorem attemptSends_header (hdata : data.length = hdr.headerLength.toNat)
    (h : err ≠ .ok ∨ ¬ os.sends.head.Full hdr.headerLength.toNat) :
    attemptSends call hdr buff data err (some sock) os =
      (sendError err hdr.headerLength.toNat (os.sends.head.reply hdr.headerLength.toNat),
        { os with sends := os.sends.tail
                  sent := os.sent ++ [⟨call, sock, .header, data, os.sends.head⟩] }) := by
  have he : sendError err hdr.headerLength.toNat (os.sends.head.reply hdr.headerLength.toNat) ≠
      .ok := by
    intro he
    obtain ⟨hok, hfull⟩ := (sendError_eq_ok _ _ _).mp he
    rcases h with h | h
    · exact h hok
    · exact h hfull
  simp only [attemptSends, Os.send, hdata, if_neg he]

/-- The state an attempt to send the header leaves. -/
def afterHeader (os : Os) (call sock : Nat) (data : Bytes) : Os :=
  { os with sends := os.sends.tail
            sent := os.sent ++ [⟨call, sock, .header, data, os.sends.head⟩] }

/-- The state that the sends of a header and a payload leave. -/
def afterBoth (os : Os) (call sock : Nat) (f : Frame) : Os :=
  { os with sends := os.sends.tail.tail
            sent := os.sent ++ [⟨call, sock, .header, f.headerBytes, os.sends.head⟩,
              ⟨call, sock, .payload, f.payload, os.sends.tail.head⟩] }

/-- What the sends of a first attempt come to, with the error they leave. -/
inductive FirstSends (call sock : Nat) (f : Frame) (os : Os) : RtError → Os → Prop where
  | whole (hheader : os.sends.head.Full f.headerLength)
      (hpayload : os.sends.tail.head.Full f.payload.length) :
      FirstSends call sock f os .ok (afterBoth os call sock f)
  | payload {err : RtError} (hheader : os.sends.head.Full f.headerLength)
      (hpayload : ¬ os.sends.tail.head.Full f.payload.length) (hne : err ≠ .ok)
      (hlost : rtConnectionShouldReregister err = true ↔ os.sends.tail.head.Lost) :
      FirstSends call sock f os err (afterBoth os call sock f)
  | header {err : RtError} (hheader : ¬ os.sends.head.Full f.headerLength) (hne : err ≠ .ok)
      (hlost : rtConnectionShouldReregister err = true ↔ os.sends.head.Lost) :
      FirstSends call sock f os err (afterHeader os call sock f.headerBytes)

theorem attemptSends_first {f : Frame} {os₁ : Os} (hh : hdr.headerLength.toNat = f.headerLength)
    (hp : hdr.payloadLength.toNat = f.payload.length)
    (hbuff : buff.take hdr.payloadLength.toNat = f.payload)
    (hs : attemptSends call hdr buff f.headerBytes .ok (some sock) os = (err, os₁)) :
    FirstSends call sock f os err os₁ := by
  have hdata : f.headerBytes.length = hdr.headerLength.toNat := by rw [f.headerBytes_length, hh]
  by_cases hfull : os.sends.head.Full f.headerLength
  · rw [attemptSends_both hdata (hh ▸ hfull), hbuff, hp] at hs
    cases hs
    by_cases hpayload : os.sends.tail.head.Full f.payload.length
    · rw [(sendError_eq_ok _ _ _).mpr ⟨rfl, hpayload⟩]
      exact .whole hfull hpayload
    · exact .payload hfull hpayload (sendError_ne_ok hpayload _) (shouldReregister_iff_lost rfl _ _)
  · rw [attemptSends_header hdata (.inr (hh ▸ hfull)), hh] at hs
    cases hs
    exact .header hfull (sendError_ne_ok hfull _) (shouldReregister_iff_lost rfl _ _)

end Sends

theorem attempts_closed {reconnect : RtConnection → Os → ConResult} {call : Nat}
    {hdr : RtMessageHeader} {buff : Bytes} {left : Nat} {err e : RtError}
    {con con' : RtConnection} {os os' : Os}
    (h : Attempts reconnect call hdr buff left err con os e con' os') (hfd : con.fd = none) :
    e = .errno .EBADF ∧ con' = con ∧ os' = os := by
  have hkept : rtConnectionShouldReregister (.errno .EBADF) = false := by decide
  induction h with
  | stop _ hs hr _ =>
    rw [hfd, attemptSends_closed] at hs
    cases hs
    rw [reregister_kept hkept] at hr
    cases hr
    exact ⟨rfl, rfl, rfl⟩
  | again _ hs hr _ _ ih =>
    rw [hfd, attemptSends_closed] at hs
    cases hs
    rw [reregister_kept hkept] at hr
    cases hr
    exact ih hfd

/-- The system after the two sends of a frame on a socket. -/
def Os.afterFrame (os : Os) (sock : Nat) (f : Frame) : Os :=
  { os with
    sends := os.sends.tail.tail
    calls := os.calls + 1
    sent := os.sent ++ [⟨os.calls, sock, .header, f.headerBytes, os.sends.head⟩,
      ⟨os.calls, sock, .payload, f.payload, os.sends.tail.head⟩] }

theorem wire_afterFrame {os : Os} (hheader : os.sends.head = .complete)
    (hpayload : os.sends.tail.head = .complete) (sock target : Nat) (f : Frame) :
    wire sock (os.afterFrame target f).sent =
      wire sock os.sent ++ if target = sock then f.bytes else [] := by
  rw [Os.afterFrame, wire_append, wire_cons, wire_cons, hheader, hpayload]
  dsimp only
  by_cases hs : target = sock
  · simp only [if_pos hs, SendEvent.taken_complete, wire_nil, List.append_nil, Frame.bytes]
  · simp only [if_neg hs, wire_nil, List.append_nil]

/-- **A call whose two sends take all their bytes** sends its frame and nothing else,
    whatever the bound. -/
theorem sendInternal_whole (J : CJsonLib) (con : RtConnection) (topic buff : Bytes)
    (replyTopic : Option Bytes) (flags : UInt32) (os : Os) {f : Frame}
    (hf : f = sentFrame con topic buff replyTopic flags) {sock : Nat} (hfd : con.fd = some sock)
    (hheader : os.sends.head.Full f.headerLength)
    (hpayload : os.sends.tail.head.Full f.payload.length) :
    ∃ sendBuffer, ∀ fuel,
      rtConnectionSendInternal J (fuel+1) con topic buff replyTopic flags os =
        .ok (.ok, { con with sequenceNumber := con.sequenceNumber + 1, sendBuffer },
          os.afterFrame sock f) := by
  obtain ⟨sendBuffer, hw, hread⟩ := f.headerBytes_written con.sendBuffer
  refine ⟨sendBuffer, fun fuel => ?_⟩
  obtain ⟨hdr, hh, hp, hbuff, hiff⟩ :=
    sendInternal_attempts J fuel con topic buff replyTopic flags os hf
  refine (hiff _ _ _).mpr ⟨sendBuffer, hw, ?_⟩
  have hok : sendError .ok f.payload.length
      (os.beginCall.2.sends.tail.head.reply f.payload.length) = .ok :=
    (sendError_eq_ok _ _ _).mpr ⟨rfl, hpayload⟩
  refine .stop (by rw [hh]; exact hread) ?_ (reregister_kept rfl _ _) (.inl rfl)
  rw [hfd, attemptSends_both (by rw [f.headerBytes_length, hh]) (by rw [hh]; exact hheader),
    hbuff, hp, hok]
  rfl

theorem sendInternal_complete (J : CJsonLib) (fuel : Nat) (con : RtConnection)
    (topic buff : Bytes) (replyTopic : Option Bytes) (flags : UInt32) (os : Os) {f : Frame}
    (hf : f = sentFrame con topic buff replyTopic flags) {sock : Nat} (hfd : con.fd = some sock)
    (hheader : os.sends.head.Full f.headerLength)
    (hpayload : os.sends.tail.head.Full f.payload.length) :
    ∃ sendBuffer, rtConnectionSendInternal J (fuel+1) con topic buff replyTopic flags os =
      .ok (.ok, { con with sequenceNumber := con.sequenceNumber + 1, sendBuffer },
        os.afterFrame sock f) := by
  obtain ⟨sendBuffer, h⟩ :=
    sendInternal_whole J con topic buff replyTopic flags os hf hfd hheader hpayload
  exact ⟨sendBuffer, h fuel⟩

/-- A reconnect that fails leaves the connection without a descriptor. -/
theorem sendReconnect_failed {J : CJsonLib} {fuel : Nat} {con con' : RtConnection} {os os' : Os}
    {e : RtError} (h : sendReconnect J fuel con os = .ok (e, con', os')) :
    (e = .ok ↔ os.sockets.head = none) ∧ (e ≠ .ok → con'.fd = none) := by
  rcases connectAndRegister_cases h with ⟨n, hn, rfl, rfl, rfl⟩ | ⟨hn, rfl, -⟩
  · simp [hn]
  · simp [hn]

end RtMessage
