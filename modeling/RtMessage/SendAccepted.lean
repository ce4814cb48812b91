import RtMessage.Sending

/- Whether a call of `rtConnection_SendInternal` that reports success has sent its
   frame.

   A call reports success in two ways: its first attempt sends the header and the
   payload whole, or one of its sends finds the connection lost and a new socket is
   made (`attempts_retry`, `sendInternal_ok_iff`). In the second case the frame is
   not sent again, so success means that it was accepted exactly if the call did
   not reconnect. -/
namespace RtMessage

/-- The socket took the header and right after it the payload of the frame. -/
def Accepted (call sock : Nat) (f : Frame) (evs : List SendEvent) : Prop :=
  ∃ before after r r', evs = before ++ [⟨call, sock, .header, f.headerBytes, r⟩,
      ⟨call, sock, .payload, f.payload, r'⟩] ++ after ∧
    r.Full f.headerBytes.length ∧ r'.Full f.payload.length

/-- One of the next `n` sends finds the connection lost. -/
def LostWithin : Nat → Stream' SendResult → Prop
  | 0, _ => False
  | n+1, s => s.head.Lost ∨ LostWithin n s.tail

theorem lostWithin_succ {n : Nat} {s : Stream' SendResult} (h : ¬ s.head.Lost) :
    LostWithin (n+1) s ↔ LostWithin n s.tail := by
  simp only [LostWithin, h, false_or]

/-- One of the sends of a frame finds the connection lost: of the header and the payload, and
    of the header again in the attempts that follow when one of them was not complete. -/
def OwnSendLost (f : Frame) (s : Stream' SendResult) : Prop :=
  if s.head.Full f.headerLength then
    s.tail.head.Lost ∨ (¬ s.tail.head.Full f.payload.length ∧ LostWithin 2 s.tail.tail)
  else LostWithin 3 s

/-- A send of the frame finds the connection lost, and there is a socket for a new one. -/
def ReconnectsInSend (con : RtConnection) (f : Frame) (os : Os) : Prop :=
  con.fd ≠ none ∧ OwnSendLost f os.sends ∧ os.sockets.head = none

/-- No payload of the call was taken whole. -/
def NoPayload (call : Nat) (evs : List SendEvent) : Prop :=
  ∀ e ∈ evs, e.call = call → e.part = .payload → ¬ e.result.Full e.data.length

theorem NoPayload.append {call : Nat} {a b : List SendEvent} (ha : NoPayload call a)
    (hb : NoPayload call b) : NoPayload call (a ++ b) := by
  intro e he
  rcases List.mem_append.mp he with he | he
  · exact ha e he
  · exact hb e he

theorem NoPayload.header {call sock : Nat} {data : Bytes} {r : SendResult} :
    NoPayload call [⟨call, sock, .header, data, r⟩] := by
  intro e he _ hp
  rw [List.mem_singleton.mp he] at hp
  cases hp

theorem NoPayload.later {call lo : Nat} {evs : List SendEvent} (hlt : call < lo)
    (h : ∀ e ∈ evs, lo ≤ e.call) : NoPayload call evs := by
  intro e he hc
  have := h e he
  omega

theorem NoPayload.not_accepted {call sock : Nat} {f : Frame} {evs : List SendEvent}
    (h : NoPayload call evs) : ¬ Accepted call sock f evs := by
  rintro ⟨before, after, r, r', rfl, -, hfull⟩
  exact h ⟨call, sock, .payload, f.payload, r'⟩ (by simp) rfl rfl hfull

section Call
variable {J : CJsonLib} {fuel call : Nat} {hdr : RtMessageHeader} {buff : Bytes}

/-- An attempt of a call. If it finds the connection lost then the call sends nothing more
    of its frame, and succeeds exactly if there is a socket to reconnect with; else the call
    ends here or goes on from where the sends of the attempt left it. -/
theorem attempts_step {left : Nat} {err e : RtError} {con con' : RtConnection} {os os' : Os}
    (h : Attempts (sendReconnect J fuel) call hdr buff left err con os e con' os')
    (hcall : call < os.calls) :
    ∃ data err₁ os₁, data.length = hdr.headerLength.toNat ∧
      con.sendBuffer.read 0 hdr.headerLength.toNat = .ok data ∧
      attemptSends call hdr buff data err con.fd os = (err₁, os₁) ∧
      ((rtConnectionShouldReregister err₁ = true ∧ (e = .ok ↔ os₁.sockets.head = none) ∧
          ∃ evs, os'.sent = os₁.sent ++ evs ∧ NoPayload call evs) ∨
        (rtConnectionShouldReregister err₁ = false ∧
          ((err₁ = .ok ∨ left = 0) ∧ e = err₁ ∧ con' = con ∧ os' = os₁ ∨
            err₁ ≠ .ok ∧ ∃ n, left = n+1 ∧
              Attempts (sendReconnect J fuel) call hdr buff n err₁ con os₁ e con' os'))) := by
  have lost : ∀ {con₁ con₂ : RtConnection} {os₁ os₂ : Os} {e₂ : RtError}, call < os₁.calls →
      sendReconnect J fuel con₁ os₁ = .ok (e₂, con₂, os₂) →
        ∃ evs, os₂.sent = os₁.sent ++ evs ∧ NoPayload call evs := by
    intro con₁ con₂ os₁ os₂ e₂ hcall hr
    obtain ⟨evs, hevs, hlo⟩ := (sendReconnect_keeps hr).sent
    exact ⟨evs, hevs, NoPayload.later hcall hlo⟩
  obtain ⟨data, err₁, os₁, e₂, con₂, os₂, hdata, hs, hr, hend⟩ := h.step
  have hcall₁ := Nat.lt_of_lt_of_le hcall (Keeps.attemptSends (Nat.zero_le call) con hs).calls
  refine ⟨data, err₁, os₁, CArray.read_length hdata, hdata, hs, ?_⟩
  rcases reregister_cases hr with ⟨hno, rfl, rfl, rfl⟩ | ⟨hyes, hr⟩
  · exact .inr ⟨hno, hend⟩
  · have hsock := (sendReconnect_failed hr).1
    refine .inl ⟨hyes, ?_⟩
    rcases hend with ⟨-, rfl, rfl, rfl⟩ | ⟨hne, n, -, hrest⟩
    · exact ⟨hsock, lost hcall₁ hr⟩
    · -- the reconnect failed, and the attempts that are left have no descriptor
      obtain ⟨rfl, rfl, rfl⟩ := attempts_closed hrest ((sendReconnect_failed hr).2 hne)
      refine ⟨?_, lost hcall₁ hr⟩
      simp [hne] at hsock
      simp [hsock]

/-- **A retry.** Its attempts send the header only, and it succeeds exactly if one of them
    finds the connection lost and a socket is there. -/
theorem attempts_retry {left sock : Nat} {err e : RtError} {con con' : RtConnection}
    {os os' : Os}
    (h : Attempts (sendReconnect J fuel) call hdr buff left err con os e con' os')
    (hfd : con.fd = some sock) (herr : err ≠ .ok)
    (hkept : rtConnectionShouldReregister err = false) (hcall : call < os.calls) :
    (e = .ok ↔ LostWithin (left+1) os.sends ∧ os.sockets.head = none) ∧
      ∃ evs, os'.sent = os.sent ++ evs ∧ NoPayload call evs := by
  induction left using Nat.strongRecOn generalizing err con os with
  | ind left ih =>
    obtain ⟨data, err₁, os₁, hdata, -, hs, hstep⟩ := attempts_step h hcall
    rw [hfd, attemptSends_header hdata (.inl herr)] at hs
    cases hs
    have hne : sendError err hdr.headerLength.toNat
        (os.sends.head.reply hdr.headerLength.toNat) ≠ .ok := by
      rw [Ne, sendError_eq_ok]
      exact fun h => herr h.1
    rcases hstep with ⟨hyes, hok, evs, hevs, hnp⟩ | ⟨hno, hend⟩
    · have hl := (shouldReregister_iff_lost hkept _ _).mp hyes
      refine ⟨?_, _, by rw [hevs, List.append_assoc], NoPayload.header.append hnp⟩
      simp only [hok, LostWithin, hl, true_or, true_and]
    · have hnl : ¬ os.sends.head.Lost := by
        rw [← shouldReregister_iff_lost hkept hdr.headerLength.toNat, hno]
        exact Bool.false_ne_true
      rw [lostWithin_succ hnl]
      rcases hend with ⟨hor, rfl, rfl, rfl⟩ | ⟨-, n, rfl, hrest⟩
      · have hleft : left = 0 := hor.resolve_left hne
        subst hleft
        exact ⟨by simp [hne, LostWithin], _, rfl, NoPayload.header⟩
      · obtain ⟨hok, evs, hevs, hnp⟩ := ih n (Nat.lt_succ_self n) hrest hfd hne hno hcall
        exact ⟨hok, _, by rw [hevs, List.append_assoc], NoPayload.header.append hnp⟩

/-- **When a call reports success**: its first attempt sent the frame whole, or one of its
    sends found the connection lost and there was a socket. -/
theorem attempts_first {e : RtError} {con con' : RtConnection} {os os' : Os} {f : Frame}
    (hh : hdr.headerLength.toNat = f.headerLength)
    (hp : hdr.payloadLength.toNat = f.payload.length)
    (hbuff : buff.take hdr.payloadLength.toNat = f.payload)
    (hread : con.sendBuffer.read 0 f.headerLength = .ok f.headerBytes)
    (h : Attempts (sendReconnect J fuel) call hdr buff 2 .ok con os e con' os')
    (hcall : call < os.calls) :
    ∃ evs, os'.sent = os.sent ++ evs ∧
      ((e = .ok ∧ ¬ ReconnectsInSend con f os ∧
          ∃ sock, con'.fd = some sock ∧ Accepted call sock f evs) ∨
        ((e = .ok ↔ ReconnectsInSend con f os) ∧ NoPayload call evs)) := by
  have hok : rtConnectionShouldReregister .ok = false := by decide
  cases hfd : con.fd with
  | none =>
    obtain ⟨rfl, rfl, rfl⟩ := attempts_closed h hfd
    refine ⟨[], by simp, .inr ⟨?_, by simp [NoPayload]⟩⟩
    simp [ReconnectsInSend, hfd]
  | some sock =>
    obtain ⟨data, err₁, os₁, hdata, hread', hs, hstep⟩ := attempts_step h hcall
    rw [hh, hread] at hread'
    cases hread'
    have hcall₁ := Nat.lt_of_lt_of_le hcall (Keeps.attemptSends (Nat.zero_le call) con hs).calls
    -- the end of the call once an error is left over
    have rest : err₁ ≠ .ok →
        (e = .ok ↔ (rtConnectionShouldReregister err₁ = true ∨
            (rtConnectionShouldReregister err₁ = false ∧ LostWithin 2 os₁.sends)) ∧
          os₁.sockets.head = none) ∧
        ∃ evs, os'.sent = os₁.sent ++ evs ∧ NoPayload call evs := by
      intro hne
      rcases hstep with ⟨hyes, hok, hevs⟩ | ⟨hno, ⟨hor, -⟩ | ⟨-, n, hn, hrest⟩⟩
      · exact ⟨by simp [hok, hyes], hevs⟩
      · exact absurd (hor.resolve_left hne) (by decide)
      · cases hn
        obtain ⟨hok, hevs⟩ := attempts_retry hrest hfd hne hno hcall₁
        exact ⟨by simp [hok, hno], hevs⟩
    rw [hfd] at hs
    cases attemptSends_first hh hp hbuff hs with
    | whole hfull hfull' =>
      rcases hstep with ⟨hyes, -⟩ | ⟨-, ⟨-, rfl, rfl, rfl⟩ | ⟨hne, -⟩⟩
      · cases hok.symm.trans hyes
      · refine ⟨_, rfl, .inl ⟨rfl, ?_, sock, hfd, [], [], _, _, rfl, ?_, hfull'⟩⟩
        · simp only [ReconnectsInSend, OwnSendLost, hfull, hfull', hfull'.not_lost, if_true,
            not_true_eq_false, false_and, and_false, or_false, not_false_eq_true]
        · rw [f.headerBytes_length]
          exact hfull
      · exact absurd rfl hne
    | payload hfull hfull' hne hlost =>
      -- the header is out, and the payload was sent
      obtain ⟨hend, evs, hevs, hnp⟩ := rest hne
      refine ⟨_, by rw [hevs, afterBoth, List.append_assoc], .inr ⟨?_, ?_⟩⟩
      · rw [hend, ← Bool.not_eq_true, hlost]
        simp only [ReconnectsInSend, OwnSendLost, hfull, hfull', hfd, if_true, afterBoth]
        by_cases hl : os.sends.tail.head.Lost <;>
          simp only [hl, not_true_eq_false, not_false_eq_true, true_and, false_and, true_or,
            false_or, or_false, Option.some_ne_none, ne_eq]
      · refine NoPayload.append ?_ hnp
        intro ev hev _ hpart
        simp only [List.mem_cons, List.not_mem_nil, or_false] at hev
        rcases hev with rfl | rfl
        · cases hpart
        · exact hfull'
    | header hfull hne hlost =>
      -- the header did not go out whole
      obtain ⟨hend, evs, hevs, hnp⟩ := rest hne
      refine ⟨_, by rw [hevs, afterHeader, List.append_assoc], .inr ⟨?_, NoPayload.header.append hnp⟩⟩
      rw [hend, ← Bool.not_eq_true, hlost]
      simp only [ReconnectsInSend, OwnSendLost, hfull, hfd, if_false, LostWithin, afterHeader]
      by_cases hl : os.sends.head.Lost <;> simp [hl]

end Call

/-- **A reported success is a sent frame exactly if the call did not reconnect.** -/
theorem sendInternal_ok_accepted_iff {J : CJsonLib} {fuel : Nat} {con con' : RtConnection}
    {topic buff : Bytes} {replyTopic : Option Bytes} {flags : UInt32} {os os' : Os} {e : RtError}
    (h : rtConnectionSendInternal J fuel con topic buff replyTopic flags os =
      .ok (e, con', os')) :
    (e = .ok → ∃ sock evs, con'.fd = some sock ∧ os'.sent = os.sent ++ evs ∧
        Accepted os.calls sock (sentFrame con topic buff replyTopic flags) evs) ↔
      ¬ ReconnectsInSend con (sentFrame con topic buff replyTopic flags) os := by
  cases fuel with
  | zero => cases h
  | succ fuel =>
    obtain ⟨hdr, hh, hp, hbuff, hiff⟩ :=
      sendInternal_attempts J fuel con topic buff replyTopic flags os rfl
    obtain ⟨sendBuffer, hw, h⟩ := (hiff e con' os').mp h
    have hread := Frame.headerBytes_read hw
    obtain ⟨evs, hevs, hend⟩ := attempts_first hh hp hbuff hread h (Nat.lt_succ_self os.calls)
    change os'.sent = os.sent ++ evs at hevs
    rcases hend with ⟨rfl, hno, sock, hsock, hacc⟩ | ⟨hok, hnp⟩
    · exact ⟨fun _ => hno, fun _ _ => ⟨sock, evs, hsock, hevs, hacc⟩⟩
    · change (e = .ok ↔ ReconnectsInSend con _ os) at hok
      rw [← hok]
      constructor
      · intro hclaim he
        obtain ⟨sock, evs', -, hevs', hacc⟩ := hclaim he
        rw [hevs] at hevs'
        cases List.append_cancel_left hevs'
        exact hnp.not_accepted hacc
      · exact fun hne he => absurd he hne

/-- A header is sent, and the payload finds the connection lost. -/
def lostPayload : Stream' SendResult := fun n => if n = 1 then .error .EPIPE else .complete

/-- A message is sent on `A.B`, and success is reported. -/
def ReportsSent (sends : Stream' SendResult) (con' : RtConnection) (os' : Os) : Prop :=
  rtConnectionSendInternal .unused 2 openConnection (ascii "A.B") [1, 2] none 0 (.idle sends) =
    .ok (.ok, con', os')

/-- The current connection has accepted its frame. -/
def FrameAccepted (con' : RtConnection) (os' : Os) : Prop :=
  ∃ sock evs, con'.fd = some sock ∧ os'.sent = [] ++ evs ∧
    Accepted 0 sock (sentFrame openConnection (ascii "A.B") [1, 2] none 0) evs

theorem lostPayload_reported :
    (rtConnectionSendInternal .unused 2 openConnection (ascii "A.B") [1, 2] none 0
      (.idle lostPayload)).toOption.map (·.1) = some .ok := by decide +kernel

theorem sendInternal_ok_accepted_iff_example :
    (∃ con' os', ReportsSent (Stream'.const .complete) con' os' ∧ FrameAccepted con' os') ∧
    ∃ con' os', ReportsSent lostPayload con' os' ∧ ¬ FrameAccepted con' os' := by
  constructor
  · obtain ⟨sendBuffer, h⟩ := sendInternal_complete .unused 1 openConnection (ascii "A.B") [1, 2]
      none 0 (.idle (Stream'.const .complete)) rfl rfl rfl rfl
    refine ⟨_, _, h, (sendInternal_ok_accepted_iff h).mpr ?_ rfl⟩
    rintro ⟨-, (hlost | hlost) | ⟨hfull, -⟩, -⟩
    · cases hlost
    · cases hlost
    · exact hfull rfl
  · obtain ⟨⟨e, con', os'⟩, h, rfl⟩ := ok_of_toOption_map lostPayload_reported
    refine ⟨con', os', h, fun hclaim => ?_⟩
    refine (sendInternal_ok_accepted_iff h).mp (fun _ => hclaim) ⟨?_, .inl (.inl rfl), rfl⟩
    exact Option.some_ne_none 0

/-- The payload finds the connection lost, the call reconnects and reports success, and the
    new connection has been sent nothing. -/
theorem sendInternal_ok_not_accepted :
    ¬ ∀ (J : CJsonLib) (fuel : Nat) (con con' : RtConnection) (topic buff : Bytes)
        (replyTopic : Option Bytes) (flags : UInt32) (os os' : Os),
      rtConnectionSendInternal J fuel con topic buff replyTopic flags os = .ok (.ok, con', os') →
        ∃ sock evs, con'.fd = some sock ∧ os'.sent = os.sent ++ evs ∧
          Accepted os.calls sock (sentFrame con topic buff replyTopic flags) evs := by
  intro hclaim
  let J := CJsonLib.unused
  let f := sentFrame openConnection (ascii "A.B") [1, 2] none 0
  obtain ⟨hdr, hh, hp, hbuff, hiff⟩ :=
    sendInternal_attempts J 1 openConnection (ascii "A.B") [1, 2] none 0 (.idle lostPayload) rfl
  obtain ⟨sendBuffer, hw, hread⟩ := f.headerBytes_written (.zero 8192)
  have hlost : rtConnectionShouldReregister (sendError .ok f.payload.length
      (SendResult.reply f.payload.length (.error .EPIPE))) = true := rfl
  have hrun := (hiff .ok _ _).mpr ⟨sendBuffer, hw, .stop (by rw [hh]; exact hread)
    (attemptSends_both (by rw [f.headerBytes_length, hh]) rfl)
    (by
      rw [hbuff, hp]
      refine (reregister_lost hlost _ _).trans ?_
      rw [sendReconnect, connectAndRegister_connected _ 0 (by intro h; cases h) rfl rfl,
        registerListeners_free _ _ _ (fun l hl => by rw [List.eq_of_mem_replicate hl]; rfl),
        ok_bind]
      rfl)
    (.inl rfl)⟩
  obtain ⟨sock, evs, -, hevs, hacc⟩ := hclaim J 2 _ _ _ _ _ _ _ _ hrun
  have hnp : NoPayload 0 evs := by
    cases (List.append_cancel_left hevs).symm
    intro e he _ hpart
    simp only [List.mem_cons, List.not_mem_nil, or_false] at he
    rcases he with rfl | rfl
    · cases hpart
    · intro h
      cases h
  exact hnp.not_accepted hacc

end RtMessage
