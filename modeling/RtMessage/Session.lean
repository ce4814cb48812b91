import RtMessage.Lib.Run
import RtMessage.Listeners
import RtMessage.Reregistration
import RtMessage.Routing

/- A connection over its whole life: listeners added, frames sent and received, the connection
   lost in any of these and made again.

   `SessionStep` is a call that the application makes, or something that arrives between two
   calls. What a step can do wrong is said by `SessionEvent.Recovers`, on the answers that the
   system has for it. -/
namespace RtMessage
open Lib

/-! Reading. -/

/-- Nothing was sent and no socket was made. -/
structure SameSending (os os' : Os) : Prop where
  sends : os'.sends = os.sends
  sockets : os'.sockets = os.sockets
  sent : os'.sent = os.sent
  nextSock : os'.nextSock = os.nextSock

theorem SameSending.refl (os : Os) : SameSending os os := ⟨rfl, rfl, rfl, rfl⟩

theorem SameSending.trans {os os₁ os' : Os} (h : SameSending os os₁) (h' : SameSending os₁ os') :
    SameSending os os' where
  sends := h'.sends.trans h.sends
  sockets := h'.sockets.trans h.sockets
  sent := h'.sent.trans h.sent
  nextSock := h'.nextSock.trans h.nextSock

theorem SameSending.onlyLoses {os os' : Os} (h : SameSending os os') (hos : os.OnlyLoses) :
    os'.OnlyLoses :=
  ⟨fun n => h.sends.symm ▸ hos.sends n, fun n => h.sockets.symm ▸ hos.sockets n⟩

theorem SameSending.carries {os os' : Os} (h : SameSending os os') {con con' : RtConnection}
    {fs : List Frame} (hc : Carries con os fs) (hfd : con'.fd = con.fd) : Carries con' os' fs := by
  obtain ⟨sock, hsock, hcreated, hwire⟩ := hc.socket
  refine ⟨⟨sock, hfd.trans hsock, h.nextSock.symm ▸ hcreated, h.sent.symm ▸ hwire⟩, fun k hk => ?_⟩
  rw [h.sent]
  exact hc.untouched k (h.nextSock ▸ hk)

/-- The answer by which a read finds the connection lost. -/
def RecvEvent.Loses (ev : RecvEvent) : Prop :=
  ev.reply = .ok 0 ∨ ev.reply = .error .ENOTCONN ∨ ev.reply = .error .EPIPE

/-- A read since `os`: it has taken the answers recorded, and an error to reconnect on was one
    of them. -/
structure ReadSince (os os' : Os) (err : RtError) : Prop where
  same : SameSending os os'
  received : ∃ evs, os'.received = os.received ++ evs ∧
    (rtConnectionShouldReregister err = true → ∃ ev ∈ evs, ev.Loses)

theorem ReadSince.refl {os : Os} : ReadSince os os .ok :=
  ⟨.refl os, [], (List.append_nil _).symm, fun h => absurd h (by decide)⟩

theorem ReadSince.trans {os os₁ os' : Os} {err₁ err : RtError} (h : ReadSince os os₁ err₁)
    (h' : ReadSince os₁ os' err) : ReadSince os os' err := by
  obtain ⟨evs, hevs, -⟩ := h.received
  obtain ⟨evs', hevs', hlost⟩ := h'.received
  refine ⟨h.same.trans h'.same, evs ++ evs', ?_, fun herr => ?_⟩
  · rw [hevs', hevs, List.append_assoc]
  · obtain ⟨ev, hmem, hev⟩ := hlost herr
    exact ⟨ev, List.mem_append_right evs hmem, hev⟩

theorem recv_since {os os' : Os} {fd : Option Nat} {len : Nat} {reply : Except Errno Bytes}
    (hlen : len ≠ 0) (h : os.recv fd len = .ok (reply, os')) :
    SameSending os os' ∧ ((reply = .error .EBADF ∧ os' = os) ∨ ∃ sock,
      os'.received = os.received ++ [⟨sock, reply.map List.length⟩]) := by
  unfold Os.recv at h
  cases fd with
  | none =>
    cases h
    exact ⟨.refl os, .inl ⟨rfl, rfl⟩⟩
  | some sock =>
    dsimp only at h
    rw [if_neg hlen] at h
    split at h
    · split at h
      · cases h
      · cases h
        exact ⟨⟨rfl, rfl, rfl, rfl⟩, .inr ⟨sock, rfl⟩⟩
    · cases h
      exact ⟨⟨rfl, rfl, rfl, rfl⟩, .inr ⟨sock, rfl⟩⟩
    · cases h
      exact ⟨⟨rfl, rfl, rfl, rfl⟩, .inr ⟨sock, rfl⟩⟩

theorem readTurn_error_since {fd : Option Nat} {off : Nat} {count : Int} {s t : ReadState}
    {reply : Except Errno Bytes} {os' : Os} (hnone : s.err = none)
    (hrecv : s.os.recv fd (count - s.bytesRead).toNat = .ok (reply, os'))
    (h : readTurn fd off count s = .ok t) :
    t.os = os' ∧ (rtConnectionShouldReregister (t.err.getD .ok) = true →
      reply = .ok [] ∨ reply = .error .ENOTCONN ∨ reply = .error .EPIPE) := by
  have hkept : rtConnectionShouldReregister (s.err.getD .ok) = false := by
    rw [hnone]
    rfl
  rw [readTurn, hrecv, ok_bind] at h
  cases reply with
  | ok bs =>
    cases bs with
    | nil =>
      cases h
      exact ⟨rfl, fun _ => .inl rfl⟩
    | cons b bs =>
      obtain ⟨buffer, -, h⟩ := bind_eq_ok.mp h
      cases h
      exact ⟨rfl, fun hlost => absurd hlost (by rw [hkept]; exact Bool.false_ne_true)⟩
  | error e =>
    by_cases he : e = .EINTR
    · subst he
      cases h
      exact ⟨rfl, fun hlost => absurd hlost (by rw [hkept]; exact Bool.false_ne_true)⟩
    · have ht : t = { s with err := some (rtErrorFromErrno e), os := os' } := by
        cases e <;> first | exact absurd rfl he | exact (Except.ok.inj h).symm
      subst ht
      refine ⟨rfl, fun hlost => ?_⟩
      cases (shouldReregister_iff _).mp hlost with
      | inl heq => exact .inr (.inl (congrArg Except.error (RtError.errno.inj heq)))
      | inr heq => exact .inr (.inr (congrArg Except.error (RtError.errno.inj heq)))

theorem readTurn_since {fd : Option Nat} {off : Nat} {count : Int} {s t : ReadState}
    (hgo : s.goesOn count = true) (h : readTurn fd off count s = .ok t) :
    ReadSince s.os t.os (t.err.getD .ok) := by
  have hgo : (s.bytesRead : Int) < count ∧ s.err = none := by
    simpa [ReadState.goesOn] using hgo
  obtain ⟨hlt, hnone⟩ := hgo
  have hlen : (count - s.bytesRead).toNat ≠ 0 := by omega
  obtain ⟨⟨reply, os'⟩, hrecv, -⟩ := bind_eq_ok.mp h
  obtain ⟨hsame, hreply⟩ := recv_since hlen hrecv
  obtain ⟨hos, hlost⟩ := readTurn_error_since hnone hrecv h
  rw [hos]
  cases hreply with
  | inl hclosed =>
    obtain ⟨rfl, rfl⟩ := hclosed
    refine ⟨hsame, [], (List.append_nil _).symm, fun herr => ?_⟩
    cases hlost herr with
    | inl heq => cases heq
    | inr heq => cases heq with
      | inl heq => cases heq
      | inr heq => cases heq
  | inr hrecorded =>
    obtain ⟨sock, hreceived⟩ := hrecorded
    refine ⟨hsame, _, hreceived, fun herr => ⟨_, List.mem_singleton_self _, ?_⟩⟩
    cases hlost herr with
    | inl heq =>
      subst heq
      exact .inl rfl
    | inr heq => cases heq with
      | inl heq =>
        subst heq
        exact .inr (.inl rfl)
      | inr heq =>
        subst heq
        exact .inr (.inr rfl)

theorem readUntil_since {con con' : RtConnection} {off fuel : Nat} {count : Int} {os os' : Os}
    {err : RtError} (h : rtConnectionReadUntil fuel con off count os = .ok (err, con', os')) :
    ReadSince os os' err ∧ con'.fd = con.fd ∧ con'.listeners = con.listeners := by
  rw [rtConnectionReadUntil] at h
  obtain ⟨t, hloop, h⟩ := bind_eq_ok.mp h
  cases h
  have hstart : ReadSince os os ((none : Option RtError).getD .ok) := .refl
  refine ⟨(loop_invariant (fun s => ReadSince os s.os (s.err.getD .ok)) ?_ hstart hloop).1, rfl, rfl⟩
  intro s t hs hgo ht
  exact hs.trans (readTurn_since hgo ht)

theorem receiveAttempt_since {fuel : Nat} {hdr : RtMessageHeader} {con : RtConnection} {os : Os}
    {a : Received} (h : receiveAttempt fuel hdr con os = .ok a) :
    ReadSince os a.os a.err ∧ a.con.fd = con.fd ∧ a.con.listeners = con.listeners := by
  refine receiveAttempt_invariant (I := fun err con' os' => ReadSince os os' err ∧
    con'.fd = con.fd ∧ con'.listeners = con.listeners) ?_ ?_ ?_ h
  · exact ⟨.refl, rfl, rfl⟩
  · intro con₁ os₁ off count err con' os' hbefore hread
    obtain ⟨hsince, hfd, hls⟩ := hbefore
    obtain ⟨hsince', hfd', hls'⟩ := readUntil_since hread
    exact ⟨hsince.trans hsince', hfd'.trans hfd, hls'.trans hls⟩
  · exact fun _ hbefore => hbefore

/-- **The receive loop**: the connection was only read from, or it was lost and made again
    from where the reads had come to. -/
theorem receiveLoop_since {J : CJsonLib} {fuel left : Nat} {hdr : RtMessageHeader}
    {con : RtConnection} {os : Os} {r : Received} (hos : os.OnlyLoses)
    (h : receiveLoop (sendReconnect J fuel) fuel left hdr con os = .ok r) :
    (SameSending os r.os ∧ r.con.fd = con.fd ∧ r.con.listeners = con.listeners) ∨
    ∃ con₁ os₁ evs, sendReconnect J fuel con₁ os₁ = .ok (.ok, r.con, r.os) ∧
      SameSending os os₁ ∧ con₁.fd = con.fd ∧ con₁.listeners = con.listeners ∧
      r.os.received = os.received ++ evs ∧ ∃ ev ∈ evs, ev.Loses := by
  induction left using Nat.strongRecOn generalizing hdr con os with
  | ind left ih =>
    obtain ⟨a, err, con', os', ha, hre, hend⟩ := receiveLoop_turn h
    obtain ⟨hsince, hfd, hls⟩ := receiveAttempt_since ha
    obtain ⟨evs, hevs, hlost⟩ := hsince.received
    cases reregister_cases hre with
    | inl hkept =>
      obtain ⟨-, rfl, rfl, rfl⟩ := hkept
      obtain rfl | ⟨left, rfl, -, h⟩ := hend
      · exact .inl ⟨hsince.same, hfd, hls⟩
      · cases ih left (Nat.lt_succ_self left) (hsince.same.onlyLoses hos) h with
        | inl hread =>
          obtain ⟨hsame, hfd', hls'⟩ := hread
          exact .inl ⟨hsince.same.trans hsame, hfd'.trans hfd, hls'.trans hls⟩
        | inr hmade =>
          obtain ⟨con₁, os₁, evs', hrec, hsame, hfd', hls', hevs', ev, hev, hloses⟩ := hmade
          refine .inr ⟨con₁, os₁, evs ++ evs', hrec, hsince.same.trans hsame, hfd'.trans hfd,
            hls'.trans hls, ?_, ev, List.mem_append_right evs hev, hloses⟩
          rw [hevs', hevs, List.append_assoc]
    | inr hreconnect =>
      obtain ⟨hyes, hrec⟩ := hreconnect
      have hok : err = .ok :=
        (sendReconnect_failed hrec).1.mpr ((hsince.same.onlyLoses hos).sockets 0)
      obtain rfl | ⟨_, -, hne, -⟩ := hend
      · subst hok
        refine .inr ⟨a.con, a.os, evs, hrec, hsince.same, hfd, hls, ?_, hlost hyes⟩
        rw [(sendReconnect_keeps hrec).received, hevs]
      · exact absurd hok hne

/-! The steps. -/

/-- The connection and the system it runs on. -/
structure Session where
  con : RtConnection
  os : Os

def Session.inUse (s : Session) : Nat := (s.con.listeners.filter (·.inUse)).length

inductive SessionEvent where
  | added
  | sent (topic : Bytes)
  /-- a dispatch: what its reads were answered, and the reply topic of the header it handed on -/
  | dispatched (evs : List RecvEvent) (replyTopic : Bytes)
  | other

/-- A call on the connection. `rtConnection_SendRequest` sends its request, dispatches while it
    waits and takes the response. -/
inductive SessionStep (J : CJsonLib) (s : Session) : SessionEvent → Session → Prop where
  | add {fuel : Nat} {expression : Bytes} {callback : RtMessageCallback} {nextId : UInt32}
      {r : AddResult}
      (h : rtConnectionAddListener J fuel s.con expression callback nextId s.os = .ok r) :
      SessionStep J s .added ⟨r.con, r.os⟩
  | send {fuel : Nat} {topic buff : Bytes} {replyTopic : Option Bytes} {flags : UInt32}
      {e : RtError} {con' : RtConnection} {os' : Os}
      (h : rtConnectionSendInternal J fuel s.con topic buff replyTopic flags s.os =
        .ok (e, con', os')) : SessionStep J s (.sent topic) ⟨con', os'⟩
  | dispatch {fuel : Nat} {r : Received} {d : Dispatched} {evs : List RecvEvent}
      (hr : receiveLoop (sendReconnect J fuel) fuel 4 rtMessageHeaderInit s.con s.os = .ok r)
      (h : rtConnectionTimedDispatch J fuel s.con s.os = .ok d)
      (hevs : d.os.received = s.os.received ++ evs) :
      SessionStep J s (.dispatched evs r.hdr.replyTopic.str) ⟨d.con, d.os⟩
  | take : SessionStep J s .other ⟨{ s.con with response := none }, s.os⟩
  /-- bytes arrive, or those of a connection that was lost do not -/
  | arrive (input : Nat → Bytes) : SessionStep J s .other ⟨s.con, { s.os with input }⟩

/-- A message of the application, not a SUBSCRIBE of its own; a reply to a request without a
    route only while there is no listener whose id it could clear. -/
def SessionEvent.Plain (s : Session) : SessionEvent → Prop
  | .added => True
  | .sent topic => (Topic.cut topic).str ≠ subscribeTopic
  | .dispatched _ replyTopic => strstr replyTopic noRouteTopic = true → s.inUse = 0
  | .other => True

/-- The connection is not lost in a step, or the last of the losses finds no loop with a
    SUBSCRIBE left to send. -/
def SessionEvent.Recovers (s : Session) : SessionEvent → Prop
  | .added => s.con.listeners.findIdx? (fun l => !l.inUse) ≠ none →
      LossRecovers (s.inUse + 1) s.os.sends
  | .sent _ => LossRecovers s.inUse s.os.sends
  | .dispatched evs _ => (∃ ev ∈ evs, ev.Loses) → RtMessage.Recovers s.inUse 0 s.os.sends
  | .other => True

/-- A connection just made: nothing is on it and it has no listeners. -/
structure Session.Created (s : Session) : Prop where
  onlyLoses : s.os.OnlyLoses
  carries : Carries s.con s.os []
  unused : s.inUse = 0

/-! The invariant. -/

/-- Between two calls every listener in use has its one SUBSCRIBE on the current connection. -/
structure Session.Intact (J : CJsonLib) (s : Session) : Prop where
  onlyLoses : s.os.OnlyLoses
  registered : RegisteredOnce J s.con s.os

theorem listenerPayloads_length (J : CJsonLib) (ls : List RtListener) :
    (listenerPayloads J ls).length = (ls.filter (·.inUse)).length := List.length_map _

theorem listenerPayloads_unused {J : CJsonLib} {ls : List RtListener}
    (h : ∀ l ∈ ls, l.inUse = false) : listenerPayloads J ls = [] := by
  rw [listenerPayloads, List.map_eq_nil_iff, List.filter_eq_nil_iff]
  intro l hl
  rw [h l hl]
  exact Bool.false_ne_true

theorem listenerPayloads_set {J : CJsonLib} {ls : List RtListener} {l : RtListener} {i : Nat}
    (hslot : ls.findIdx? (fun l => !l.inUse) = some i) (huse : l.inUse = true) :
    (listenerPayloads J (ls.set i l)).Perm (listenerPayloads J ls ++ [listenerPayload J l]) := by
  induction ls generalizing i with
  | nil => cases hslot
  | cons k rest ih =>
    rw [List.findIdx?_cons] at hslot
    cases hk : k.inUse with
    | false =>
      rw [hk] at hslot
      cases hslot
      rw [List.set_cons_zero, listenerPayloads_inUse huse, listenerPayloads_free hk]
      exact (List.perm_append_singleton _ _).symm
    | true =>
      rw [hk] at hslot
      obtain ⟨j, hj, rfl⟩ := Option.map_eq_some_iff.mp hslot
      rw [List.set_cons_succ, listenerPayloads_inUse hk, listenerPayloads_inUse hk]
      exact (ih hj).cons _

theorem deliverFrame_fd {J : CJsonLib} {hdr : RtMessageHeader} {con con' : RtConnection}
    {call : Option CallbackCall} (h : deliverFrame J hdr con = .ok (con', call)) :
    con'.fd = con.fd := by
  cases deliverFrame_cases h with
  | inl h =>
    rw [h.1]
    rfl
  | inr h =>
    obtain ⟨_, _, cb, -, -, -, rfl, -⟩ := h
    cases cb with
    | onInboxMessage =>
      rw [calledBack, onInboxMessage]
      split <;> rfl
    | user id => rfl

/-- A delivery has nothing registered again: it keeps the ids, or there are no listeners. -/
theorem deliverFrame_payloads {J : CJsonLib} {hdr : RtMessageHeader} {con con' : RtConnection}
    {call : Option CallbackCall} (h : deliverFrame J hdr con = .ok (con', call))
    (hplain : strstr hdr.replyTopic.str noRouteTopic = true →
      (con.listeners.filter (·.inUse)).length = 0) :
    listenerPayloads J con'.listeners = listenerPayloads J con.listeners := by
  have hls := deliverFrame_listeners h
  cases hnoRoute : strstr hdr.replyTopic.str noRouteTopic with
  | false =>
    rw [hnoRoute, findListener_kept] at hls
    rw [hls]
  | true =>
    have hfree : ∀ l ∈ con.listeners, l.inUse = false := by
      have hnil := List.eq_nil_of_length_eq_zero (hplain hnoRoute)
      exact fun l hl => Bool.eq_false_iff.mpr (List.filter_eq_nil_iff.mp hnil l hl)
    rw [hnoRoute] at hls
    rw [hls, listenerPayloads_unused hfree]
    exact listenerPayloads_unused (findListener_free true hdr.controlData hfree).2

section
variable {J : CJsonLib} {con con' : RtConnection} {os os' : Os}

theorem RegisteredOnce.kept (h : RegisteredOnce J con os) (hsame : SameSending os os')
    (hfd : con'.fd = con.fd)
    (hls : listenerPayloads J con'.listeners = listenerPayloads J con.listeners) :
    RegisteredOnce J con' os' := by
  obtain ⟨fs, hc, hperm⟩ := h
  exact ⟨fs, hsame.carries hc hfd, hls ▸ hperm⟩

theorem subscribePayloads_plain {fs : List Frame} {f : Frame} (h : f.isSubscribe = false) :
    subscribePayloads (fs ++ [f]) = subscribePayloads fs := by
  rw [subscribePayloads_append, h, if_neg Bool.false_ne_true, List.append_nil]

end

namespace Session.Intact
variable {J : CJsonLib} {s : Session}

theorem sendInternal (h : s.Intact J) {fuel : Nat} {topic buff : Bytes}
    {replyTopic : Option Bytes} {flags : UInt32} {e : RtError} {con' : RtConnection} {os' : Os}
    (hplain : (Topic.cut topic).str ≠ subscribeTopic) (hloss : LossRecovers s.inUse s.os.sends)
    (hsend : rtConnectionSendInternal J fuel s.con topic buff replyTopic flags s.os =
      .ok (e, con', os')) : Session.Intact J ⟨con', os'⟩ := by
  obtain ⟨fs, hc, hperm⟩ := h.registered
  have hloss : LossRecovers (listenerPayloads J s.con.listeners).length s.os.sends := by
    rw [listenerPayloads_length]
    exact hloss
  obtain ⟨honly, hls, hend⟩ := sendInternal_registers h.onlyLoses hc hloss hsend
  refine ⟨honly, ?_⟩
  cases hend with
  | inl hagain => exact hagain
  | inr hc' =>
    refine ⟨_, hc', ?_⟩
    have hother : (sentFrame s.con topic buff replyTopic flags).isSubscribe = false :=
      beq_eq_false_iff_ne.mpr hplain
    rw [subscribePayloads_plain hother, hls]
    exact hperm

theorem addListener (h : s.Intact J) {fuel : Nat} {expression : Bytes}
    {callback : RtMessageCallback} {nextId : UInt32} {r : AddResult}
    (hloss : s.con.listeners.findIdx? (fun l => !l.inUse) ≠ none →
      LossRecovers (s.inUse + 1) s.os.sends)
    (hadd : rtConnectionAddListener J fuel s.con expression callback nextId s.os = .ok r) :
    Session.Intact J ⟨r.con, r.os⟩ := by
  unfold rtConnectionAddListener at hadd
  split at hadd
  · cases hadd
    exact h
  · next i hslot =>
    obtain ⟨⟨e, con', os'⟩, hsend, hadd⟩ := bind_eq_ok.mp hadd
    cases hadd
    obtain ⟨fs, hc, hperm⟩ := h.registered
    let l : RtListener := ⟨true, expression, nextId, some callback⟩
    have hset := listenerPayloads_set (J := J) (l := l) hslot rfl
    -- the listener is in its slot before its SUBSCRIBE is sent
    have hc₁ : Carries (s.con.withListener i l) s.os fs := ⟨hc.socket, hc.untouched⟩
    have hloss : LossRecovers (listenerPayloads J (s.con.withListener i l).listeners).length
        s.os.sends := by
      have hlen : (listenerPayloads J (s.con.withListener i l).listeners).length = s.inUse + 1 := by
        rw [show (s.con.withListener i l).listeners = s.con.listeners.set i l from rfl,
          hset.length_eq, List.length_append, listenerPayloads_length]
        rfl
      rw [hlen]
      exact hloss (by rw [hslot]; exact Option.some_ne_none i)
    obtain ⟨honly, hls, hend⟩ := sendInternal_registers h.onlyLoses hc₁ hloss hsend
    refine ⟨honly, ?_⟩
    cases hend with
    | inl hagain => exact hagain
    | inr hc' =>
      refine ⟨_, hc', ?_⟩
      change (subscribePayloads (fs ++ [listenerFrame J (s.con.withListener i l) l])).Perm
        (listenerPayloads J con'.listeners)
      rw [subscribePayloads_append, listenerFrame_subscribes, if_pos rfl, hls]
      exact (hperm.append_right _).trans hset.symm

theorem timedDispatch (h : s.Intact J) {fuel : Nat} {r : Received} {d : Dispatched}
    {evs : List RecvEvent}
    (hplain : strstr r.hdr.replyTopic.str noRouteTopic = true → s.inUse = 0)
    (hlost : (∃ ev ∈ evs, ev.Loses) → RtMessage.Recovers s.inUse 0 s.os.sends)
    (hr : receiveLoop (sendReconnect J fuel) fuel 4 rtMessageHeaderInit s.con s.os = .ok r)
    (hd : rtConnectionTimedDispatch J fuel s.con s.os = .ok d)
    (hevs : d.os.received = s.os.received ++ evs) : Session.Intact J ⟨d.con, d.os⟩ := by
  obtain ⟨fs, hc, hperm⟩ := h.registered
  obtain ⟨r', hr', -, hos, hend⟩ := timedDispatch_cases hd
  cases hr.symm.trans hr'
  -- what the loop leaves, and a delivery keeps
  have hloop : Session.Intact J ⟨r.con, r.os⟩ ∧ r.con.listeners = s.con.listeners := by
    cases receiveLoop_since h.onlyLoses hr with
    | inl hread =>
      obtain ⟨hsame, hfd, hls⟩ := hread
      exact ⟨⟨hsame.onlyLoses h.onlyLoses, h.registered.kept hsame hfd (by rw [hls])⟩, hls⟩
    | inr hmade =>
      obtain ⟨con₁, os₁, evs', hre, hsame, -, hls, hevs', hloses⟩ := hmade
      rw [hos, hevs', List.append_cancel_left_eq] at hevs
      have hrec := (hlost (hevs ▸ hloses)).restores
      have huntouched : ∀ sock, os₁.nextSock ≤ sock → wire sock os₁.sent = [] := by
        rw [hsame.nextSock, hsame.sent]
        exact hc.untouched
      have hagain := reconnects J fuel con₁ os₁ r.con r.os .ok 0 (hsame.onlyLoses h.onlyLoses)
        huntouched (by rw [hls, listenerPayloads_length, hsame.sends]; exact hrec) hre
      obtain ⟨honly, hregistered⟩ := hagain.registeredOnce
      exact ⟨⟨honly, hregistered⟩, hagain.listeners.trans hls⟩
  obtain ⟨hintact, hls⟩ := hloop
  rw [hos]
  cases hend with
  | inl hdelivered =>
    have hpayloads := deliverFrame_payloads hdelivered.2 (by rw [hls]; exact hplain)
    exact ⟨hintact.onlyLoses,
      hintact.registered.kept (.refl r.os) (deliverFrame_fd hdelivered.2) hpayloads⟩
  | inr hfailed =>
    rw [hfailed.2.1]
    exact hintact

theorem step (h : s.Intact J) {e : SessionEvent} {t : Session} (hplain : e.Plain s)
    (hrec : e.Recovers s) (hstep : SessionStep J s e t) : t.Intact J := by
  cases hstep with
  | add hadd => exact h.addListener hrec hadd
  | send hsend => exact h.sendInternal hplain hrec hsend
  | dispatch hr hd hevs => exact h.timedDispatch hplain hrec hr hd hevs
  | take => exact ⟨h.onlyLoses, h.registered.kept (.refl s.os) rfl rfl⟩
  | arrive input =>
    exact ⟨⟨h.onlyLoses.sends, h.onlyLoses.sockets⟩,
      h.registered.kept ⟨rfl, rfl, rfl, rfl⟩ rfl rfl⟩

end Session.Intact

theorem Session.Created.intact {s : Session} (h : s.Created) (J : CJsonLib) : s.Intact J := by
  refine ⟨h.onlyLoses, [], h.carries, ?_⟩
  have hnil : listenerPayloads J s.con.listeners = [] :=
    List.eq_nil_of_length_eq_zero ((listenerPayloads_length J _).trans h.unused)
  rw [hnil]
  exact .nil

/-- **Each subscription exactly once**, in every state of a run whose losses are all
    recovered from. -/
theorem subscriptions_registered_once {J : CJsonLib} {s t : Session} {es : List SessionEvent}
    (hs : s.Created)
    (hrun : Run (Allowing (fun s e => e.Plain s ∧ e.Recovers s) (SessionStep J)) s es t) :
    RegisteredOnce J t.con t.os := by
  have hintact : t.Intact J := hrun.invariant (I := fun _ t => t.Intact J) (hs.intact J)
    fun _ _ _ _ ht hstep => ht.step hstep.1.1 hstep.1.2 hstep.2
  exact hintact.registered

/-! Calls that succeed, and calls that find the connection lost once. -/

theorem created_of_connect {J : CJsonLib} {fuel : Nat} {family : AddressFamily} {inbox : Bytes}
    {os os' : Os} {e : RtError} {con' : RtConnection} (hos : os.OnlyLoses)
    (huntouched : ∀ sock, os.nextSock ≤ sock → wire sock os.sent = [])
    (h : sendReconnect J fuel (rtConnectionInit family inbox) os = .ok (e, con', os')) :
    Session.Created ⟨con', os'⟩ := by
  have hfree : ∀ l ∈ (rtConnectionInit family inbox).listeners, l.inUse = false := by
    intro l hl
    rw [List.eq_of_mem_replicate hl]
    rfl
  obtain ⟨connects, hos', hloop⟩ := hos.connectAndRegister h
  rw [registerListeners_free _ _ _ hfree] at hloop
  cases hloop
  refine ⟨hos', .connected _ connects huntouched, ?_⟩
  exact List.length_eq_zero_iff.mpr
    (List.filter_eq_nil_iff.mpr fun l hl => by rw [hfree l hl]; exact Bool.false_ne_true)

/-- There is always a socket, and the router is listening. -/
structure Os.Connects (os : Os) : Prop where
  sockets : ∀ n, os.sockets.get n = none
  connects : ∀ n, os.connects.get n = none

/-- The connection with SUBSCRIBEs of these payloads on it; no send to come is lost. -/
structure Resent (ls : List RtListener) (ps : List Bytes) (con : RtConnection) (os : Os) :
    Prop where
  listeners : con.listeners = ls
  sends : ∀ n, os.sends.get n = .complete
  carries : ∃ fs, Carries con os fs ∧ subscribePayloads fs = ps

section
variable (J : CJsonLib)

theorem registerListeners_whole (fuel : Nat) (ls : List RtListener) {L : List RtListener}
    {ps : List Bytes} {con : RtConnection} {os : Os} (h : Resent L ps con os) :
    ∃ con' os', registerListeners (fun con m topic os =>
        rtConnectionSendInternal J (fuel+1) con topic (rtMessageToByteArray J m) none 0 os)
        ls con os = .ok (con', os') ∧ Resent L (ps ++ listenerPayloads J ls) con' os' := by
  induction ls generalizing ps con os with
  | nil => exact ⟨con, os, rfl, by rw [listenerPayloads_nil, List.append_nil]; exact h⟩
  | cons l rest ih =>
    cases huse : l.inUse with
    | false =>
      rw [registerListeners, huse, if_neg Bool.false_ne_true, listenerPayloads_free huse]
      exact ih h
    | true =>
      obtain ⟨fs, hc, hps⟩ := h.carries
      obtain ⟨sock, hfd, -⟩ := hc.socket
      have hheader := h.sends 0
      have hpayload := h.sends 1
      obtain ⟨sendBuffer, hsend⟩ := sendInternal_complete J fuel con subscribeTopic
        (rtMessageToByteArray J (subscribeMessage l.expression l.subscriptionId)) none 0 os
        (show listenerFrame J con l = _ from rfl) hfd (by rw [show os.sends.head = _ from hheader]; rfl)
        (by rw [show os.sends.tail.head = _ from hpayload]; rfl)
      have hc₁ : Carries { con with sequenceNumber := con.sequenceNumber + 1, sendBuffer }
          (os.afterFrame sock (listenerFrame J con l)) (fs ++ [listenerFrame J con l]) :=
        hc.sent hfd rfl hheader hpayload
      have hps₁ : subscribePayloads (fs ++ [listenerFrame J con l]) =
          ps ++ [listenerPayload J l] := by
        rw [subscribePayloads_append, listenerFrame_subscribes, if_pos rfl, hps]
        rfl
      rw [registerListeners, huse, if_pos rfl, hsend, ok_bind, listenerPayloads_inUse huse,
        List.append_cons]
      exact ih ⟨h.listeners, fun n => h.sends (n+2), _, hc₁, hps₁⟩

theorem reconnect_whole (fuel : Nat) {con : RtConnection} {os : Os}
    (hfamily : con.remoteFamily ≠ .unspec) (hos : os.Connects)
    (hsends : ∀ n, os.sends.get n = .complete)
    (huntouched : ∀ sock, os.nextSock ≤ sock → wire sock os.sent = []) :
    ∃ con' os', sendReconnect J (fuel+1) con os = .ok (.ok, con', os') ∧
      Resent con.listeners (listenerPayloads J con.listeners) con' os' := by
  have hresent : Resent con.listeners [] { con with fd := some os.nextSock } { os with
      sockets := os.sockets.tail, nextSock := os.nextSock + 1, connects := os.connects.tail } :=
    ⟨rfl, hsends, [], .connected con _ huntouched, rfl⟩
  obtain ⟨con', os', hloop, hresent⟩ := registerListeners_whole J fuel con.listeners hresent
  refine ⟨con', os', ?_, hresent⟩
  rw [sendReconnect, connectAndRegister_connected _ fuel hfamily (hos.sockets 0) (hos.connects 0)]
  change (registerListeners _ con.listeners _ _ >>= _) = _
  rw [hloop]
  rfl

/-- A call whose header finds the connection lost is the reconnect. -/
theorem sendInternal_lost_header (fuel : Nat) (con : RtConnection) (topic buff : Bytes)
    (replyTopic : Option Bytes) (flags : UInt32) (os : Os) {sock : Nat}
    (hfd : con.fd = some sock) (hlost : os.sends.head.Lost) :
    ∃ con₁ ev, con₁.listeners = con.listeners ∧ con₁.remoteFamily = con.remoteFamily ∧
      ev.sock = sock ∧ ∀ con' os',
        sendReconnect J fuel con₁ { os with
            sends := os.sends.tail, calls := os.calls + 1, sent := os.sent ++ [ev] } =
          .ok (.ok, con', os') →
        rtConnectionSendInternal J (fuel+1) con topic buff replyTopic flags os =
          .ok (.ok, con', os') := by
  generalize hf : sentFrame con topic buff replyTopic flags = f
  obtain ⟨hdr, hh, -, -, hiff⟩ :=
    sendInternal_attempts J fuel con topic buff replyTopic flags os hf.symm
  obtain ⟨sendBuffer, hw, hread⟩ := f.headerBytes_written con.sendBuffer
  rw [← hh] at hread
  have hnot : ¬ os.beginCall.2.sends.head.Full hdr.headerLength.toNat :=
    fun hfull => hfull.not_lost hlost
  have hre : rtConnectionShouldReregister
      (sendError .ok hdr.headerLength.toNat (os.sends.head.reply hdr.headerLength.toNat)) =
        true := shouldReregister_of_lost hlost _ _
  have hattempt := @attemptSends_header os.calls sock hdr buff f.headerBytes .ok os.beginCall.2
    (by rw [f.headerBytes_length, hh]) (.inr hnot)
  rw [← hfd] at hattempt
  refine ⟨{ con with sequenceNumber := con.sequenceNumber + 1, sendBuffer }, _, rfl, rfl, ?_,
    fun con' os' h => (hiff _ _ _).mpr ⟨sendBuffer, hw,
      .stop hread hattempt ((reregister_lost hre _ _).trans h) (.inl rfl)⟩⟩
  rfl

/-- **A loss with the first SUBSCRIBE** of a reconnect: the reconnect in it registers all the
    listeners, and the loop goes on with the others on its connection. -/
theorem reconnect_lost_first (fuel : Nat) {con : RtConnection} {os : Os} {l : RtListener}
    {rest : List RtListener} (hfamily : con.remoteFamily ≠ .unspec) (hos : os.Connects)
    (hls : con.listeners = l :: rest) (huse : l.inUse = true) (hlost : os.sends.head.Lost)
    (hsends : ∀ n, os.sends.get (n+1) = .complete)
    (huntouched : ∀ sock, os.nextSock ≤ sock → wire sock os.sent = []) :
    ∃ con' os', sendReconnect J (fuel+2) con os = .ok (.ok, con', os') ∧
      Resent con.listeners (listenerPayloads J con.listeners ++ listenerPayloads J rest)
        con' os' := by
  let con₀ : RtConnection := { con with fd := some os.nextSock }
  let os₀ : Os := { os with
    sockets := os.sockets.tail, nextSock := os.nextSock + 1, connects := os.connects.tail }
  have hc : Carries con₀ os₀ [] := .connected con os.connects.tail huntouched
  obtain ⟨con₁, ev, hls₁, hfamily₁, hev, hsend⟩ := sendInternal_lost_header J (fuel+1) con₀
    subscribeTopic (rtMessageToByteArray J (subscribeMessage l.expression l.subscriptionId))
    none 0 os₀ rfl hlost
  let os₁ : Os := { os₀ with
    sends := os₀.sends.tail, calls := os₀.calls + 1, sent := os₀.sent ++ [ev] }
  have huntouched₁ : ∀ sock, os₁.nextSock ≤ sock → wire sock os₁.sent = [] :=
    hc.untouched_of_lost rfl rfl rfl fun ev' hmem => by rw [List.mem_singleton.mp hmem, hev]
  obtain ⟨con₂, os₂, hre, hresent⟩ := reconnect_whole J fuel (hfamily₁ ▸ hfamily)
    (show os₁.Connects from ⟨fun n => hos.sockets (n+1), fun n => hos.connects (n+1)⟩)
    hsends huntouched₁
  rw [hls₁] at hresent
  obtain ⟨con', os', hloop, hresent'⟩ := registerListeners_whole J (fuel+1) rest hresent
  refine ⟨con', os', ?_, hresent'⟩
  have hall : registerListeners (fun con m topic os =>
      rtConnectionSendInternal J (fuel+2) con topic (rtMessageToByteArray J m) none 0 os)
      con.listeners con₀ os₀ = .ok (con', os') := by
    rw [hls, registerListeners, if_pos huse, hsend _ _ hre, ok_bind]
    exact hloop
  rw [sendReconnect, connectAndRegister_connected _ (fuel+1) hfamily (hos.sockets 0)
    (hos.connects 0)]
  change (registerListeners _ con.listeners con₀ os₀ >>= _) = _
  rw [hall]
  rfl

end

/-! Runs. -/

theorem SessionStep.added_whole (J : CJsonLib) {s : Session} {i sock : Nat} (expression : Bytes)
    (callback : RtMessageCallback) (nextId : UInt32)
    (hslot : s.con.listeners.findIdx? (fun l => !l.inUse) = some i) (hfd : s.con.fd = some sock)
    (hheader : s.os.sends.head = .complete) (hpayload : s.os.sends.tail.head = .complete) :
    ∃ con', SessionStep J s .added
        ⟨con', s.os.afterFrame sock (listenerFrame J s.con ⟨true, expression, nextId, some callback⟩)⟩ ∧
      con'.fd = s.con.fd ∧ con'.remoteFamily = s.con.remoteFamily ∧
      con'.listeners = s.con.listeners.set i ⟨true, expression, nextId, some callback⟩ := by
  obtain ⟨sendBuffer, hadd⟩ := addListener_complete J 0 callback hslot
    (show listenerFrame J s.con ⟨true, expression, nextId, some callback⟩ = _ from rfl) hfd
    (by rw [hheader]; rfl) (by rw [hpayload]; rfl)
  exact ⟨_, .add hadd, rfl, rfl, rfl⟩

/-- A connection on which nothing has been sent yet, with these answers to come. -/
def openSession (sends : Stream' SendResult) : Session := ⟨openConnection, .idle sends⟩

theorem openSession_created {sends : Stream' SendResult}
    (h : ∀ n, sends.get n = .complete ∨ (sends.get n).Lost) : (openSession sends).Created :=
  ⟨⟨h, fun _ => rfl⟩, ⟨⟨0, rfl, Nat.zero_lt_one, rfl⟩, fun _ _ => rfl⟩, rfl⟩

theorem sent_afterFrame_sock {os : Os} {sock : Nat} (f : Frame) (h : ∀ ev ∈ os.sent, ev.sock = sock) :
    ∀ ev ∈ (os.afterFrame sock f).sent, ev.sock = sock := by
  intro ev hev
  cases List.mem_append.mp hev with
  | inl hev => exact h ev hev
  | inr hev =>
    cases List.mem_cons.mp hev with
    | inl heq => rw [heq]
    | inr hmem => rw [List.mem_singleton.mp hmem]

theorem SessionStep.sent_lost (J : CJsonLib) (fuel : Nat) {s : Session} (topic buff : Bytes)
    {sock : Nat} (hfd : s.con.fd = some sock) (hlost : s.os.sends.head.Lost) (hos : s.os.Connects)
    (hnext : s.os.nextSock = sock + 1) (hsent : ∀ ev ∈ s.os.sent, ev.sock = sock) :
    ∃ con₁ os₁, con₁.listeners = s.con.listeners ∧ con₁.remoteFamily = s.con.remoteFamily ∧
      os₁.sends = s.os.sends.tail ∧ os₁.Connects ∧
      (∀ sock, os₁.nextSock ≤ sock → wire sock os₁.sent = []) ∧
      ∀ con' os', sendReconnect J fuel con₁ os₁ = .ok (.ok, con', os') →
        SessionStep J s (.sent topic) ⟨con', os'⟩ := by
  obtain ⟨con₁, ev, hls, hfamily, hev, hsend⟩ :=
    sendInternal_lost_header J fuel s.con topic buff none 0 s.os hfd hlost
  refine ⟨con₁, { s.os with
    sends := s.os.sends.tail, calls := s.os.calls + 1, sent := s.os.sent ++ [ev] }, hls, hfamily,
    rfl, ⟨hos.sockets, hos.connects⟩, fun k hk => ?_, fun con' os' h => .send (hsend _ _ h)⟩
  have hone : ∀ e ∈ s.os.sent ++ [ev], e.sock = sock := by
    intro e he
    cases List.mem_append.mp he with
    | inl he => exact hsent e he
    | inr he => rw [List.mem_singleton.mp he, hev]
  have hlt : sock + 1 ≤ k := hnext ▸ hk
  exact wire_other hone (by omega)

/-- One listener is added, and a message finds the connection lost. -/
def lostOnce : Stream' SendResult := fun n => if n = 2 then .error .EPIPE else .complete

theorem subscriptions_registered_once_example : ∃ t : Session,
    (∃ l, t.con.listeners[0]? = some l ∧ l.inUse = true) ∧ RegisteredOnce .unused t.con t.os := by
  let J := CJsonLib.unused
  let s := openSession lostOnce
  have hwhole : ∀ n, lostOnce.get (n+3) = .complete := fun n => by
    change (if n + 3 = 2 then SendResult.error .EPIPE else .complete) = .complete
    exact if_neg (by omega)
  have hcreated : s.Created := openSession_created fun n => by
    change (if n = 2 then SendResult.error .EPIPE else .complete) = .complete ∨ _
    by_cases hn : n = 2
    · subst hn
      exact .inr (.inl rfl)
    · exact .inl (if_neg hn)
  obtain ⟨con₁, hadd, hfd, hfamily, hls⟩ := SessionStep.added_whole J (s := s)
    (ascii "A.B") (.user 0) 1 rfl rfl rfl rfl
  let os₁ := s.os.afterFrame 0 (listenerFrame J s.con ⟨true, ascii "A.B", 1, some (.user 0)⟩)
  obtain ⟨con₂, os₂, hls₂, hfamily₂, hsends₂, hconnects, huntouched, hstep⟩ :=
    SessionStep.sent_lost J 1 (s := ⟨con₁, os₁⟩) (ascii "A.B") [1] hfd (.inl rfl)
      ⟨fun _ => rfl, fun _ => rfl⟩ rfl (sent_afterFrame_sock _ fun _ hev => by cases hev)
  obtain ⟨con', os', hre, hresent⟩ := reconnect_whole J 0
    (by rw [hfamily₂, hfamily]; exact fun h => by cases h) hconnects
    (fun n => by rw [hsends₂]; exact hwhole n) huntouched
  have hmessage : (Topic.cut (ascii "A.B")).str ≠ subscribeTopic := by decide
  have hrecovers : LossRecovers 1 os₁.sends := by
    intro rest hrest
    cases hrest.unique (.header (.inl rfl))
    exact .last (.succ rfl rfl .zero)
  have hinUse : Session.inUse ⟨con₁, os₁⟩ = 1 := by
    rw [Session.inUse, hls]
    rfl
  have hallowed : (SessionEvent.sent (ascii "A.B")).Plain ⟨con₁, os₁⟩ ∧
      (SessionEvent.sent (ascii "A.B")).Recovers ⟨con₁, os₁⟩ := by
    refine ⟨hmessage, ?_⟩
    change LossRecovers (Session.inUse ⟨con₁, os₁⟩) os₁.sends
    rw [hinUse]
    exact hrecovers
  have hnone : LossRecovers (s.inUse + 1) s.os.sends := fun rest hrest => by
    exact absurd rfl (hrest.not_complete rfl)
  refine ⟨⟨con', os'⟩, ⟨⟨true, ascii "A.B", 1, some (.user 0)⟩, ?_, rfl⟩,
    subscriptions_registered_once hcreated
      ((Run.single (e := .added) ⟨⟨trivial, fun _ => hnone⟩, hadd⟩).snoc
        ⟨hallowed, hstep _ _ hre⟩)⟩
  rw [hresent.listeners, hls₂, hls]
  rfl

/-- Two listeners are added, a message finds the connection lost, and the first SUBSCRIBE of
    the reconnect finds the new one lost. -/
def lostTwice : Stream' SendResult := fun n => if n = 4 ∨ n = 5 then .error .EPIPE else .complete

/-- The router has three SUBSCRIBEs for two listeners. -/
theorem subscriptions_not_registered_once :
    ¬ ∀ (J : CJsonLib) (s t : Session) (es : List SessionEvent), s.Created →
      Run (Allowing SessionEvent.Plain (SessionStep J)) s es t → RegisteredOnce J t.con t.os := by
  intro hclaim
  let J := CJsonLib.unused
  let s := openSession lostTwice
  have hcreated : s.Created := openSession_created fun n => by
    change (if n = 4 ∨ n = 5 then SendResult.error .EPIPE else .complete) = .complete ∨ _
    by_cases hn : n = 4 ∨ n = 5
    · right
      change (if n = 4 ∨ n = 5 then SendResult.error .EPIPE else .complete).Lost
      rw [if_pos hn]
      exact .inl rfl
    · exact .inl (if_neg hn)
  -- the fifth and the sixth send find the connection lost, all others are whole
  have hwhole : ∀ n, lostTwice.get (n+6) = .complete := fun n => by
    change (if n + 6 = 4 ∨ n + 6 = 5 then SendResult.error .EPIPE else .complete) = .complete
    exact if_neg (by omega)
  obtain ⟨con₁, hadd₁, hfd₁, hfamily₁, hls₁⟩ := SessionStep.added_whole J (s := s)
    (ascii "A") (.user 0) 1 rfl rfl rfl rfl
  let os₁ := s.os.afterFrame 0 (listenerFrame J s.con ⟨true, ascii "A", 1, some (.user 0)⟩)
  obtain ⟨con₂, hadd₂, hfd₂, hfamily₂, hls₂⟩ := SessionStep.added_whole J (s := ⟨con₁, os₁⟩)
    (i := 1) (ascii "B") (.user 1) 2 (by rw [hls₁]; rfl) hfd₁ rfl rfl
  let os₂ := os₁.afterFrame 0 (listenerFrame J con₁ ⟨true, ascii "B", 2, some (.user 1)⟩)
  obtain ⟨con₃, os₃, hls₃, hfamily₃, hsends₃, hconnects, huntouched, hstep⟩ :=
    SessionStep.sent_lost J 2 (s := ⟨con₂, os₂⟩) (ascii "A.B") [1] (hfd₂.trans hfd₁) (.inl rfl)
      ⟨fun _ => rfl, fun _ => rfl⟩ rfl
      (sent_afterFrame_sock _ (sent_afterFrame_sock _ fun _ hev => by cases hev))
  have hls : con₃.listeners = ⟨true, ascii "A", 1, some (.user 0)⟩ ::
      (List.replicate 63 RtListener.free).set 0 ⟨true, ascii "B", 2, some (.user 1)⟩ := by
    rw [hls₃, hls₂, hls₁]
    rfl
  obtain ⟨con', os', hre, hresent⟩ := reconnect_lost_first J 0
    (by rw [hfamily₃, hfamily₂, hfamily₁]; exact fun h => by cases h) hconnects hls rfl
    (by rw [hsends₃]; exact .inl rfl) (fun n => by rw [hsends₃]; exact hwhole n) huntouched
  have hmessage : (Topic.cut (ascii "A.B")).str ≠ subscribeTopic := by decide
  have hsent : Allowing SessionEvent.Plain (SessionStep J) ⟨con₂, os₂⟩ (.sent (ascii "A.B"))
      ⟨con', os'⟩ := ⟨hmessage, hstep _ _ hre⟩
  obtain ⟨fs, hc, hperm⟩ := hclaim J s ⟨con', os'⟩ _ hcreated
    (((Run.single (e := .added) ⟨trivial, hadd₁⟩).snoc (e := .added) ⟨trivial, hadd₂⟩).snoc hsent)
  obtain ⟨fs', hc', hps⟩ := hresent.carries
  -- the frames on a wire can be read off it, so there are three payloads against two listeners
  have hfs : fs = fs' := by
    obtain ⟨sock, hsock, -, hwire⟩ := hc.socket
    obtain ⟨sock', hsock', -, hwire'⟩ := hc'.socket
    cases hsock.symm.trans hsock'
    exact frames_unique (hwire.symm.trans hwire')
  have hlen := hperm.length_eq
  rw [hfs, hps, hresent.listeners, hls, List.length_append, listenerPayloads_length,
    listenerPayloads_length] at hlen
  exact absurd hlen (by decide)

end RtMessage
