import RtMessage.SendingTasks

/- When sending ends, and within which bounds.

   Each of the functions counts its own attempts: a call makes at most three attempts at its
   frame (`sendInternal_sentSince`), and a connect loop at most four that are refused. But an
   error of `connect` other than a refusal is not counted, and a frame that is found lost costs
   a reconnect, which sends the SUBSCRIBEs again. `sending_returns_iff` says on which answers
   the calls return, and on which they return within the bounds. -/
namespace RtMessage
open Lib

/-! The attempts at a frame. -/

/-- The sends of the header of frame `call`. -/
def headerSends (call : Nat) (evs : List SendEvent) : Nat :=
  evs.countP fun ev => ev.call = call ∧ ev.part = .header

theorem headerSends_append (call : Nat) (evs evs' : List SendEvent) :
    headerSends call (evs ++ evs') = headerSends call evs + headerSends call evs' :=
  List.countP_append

theorem headerSends_eq_zero {call : Nat} {evs : List SendEvent} (h : ∀ ev ∈ evs, ev.call ≠ call) :
    headerSends call evs = 0 := by
  apply List.countP_eq_zero.mpr
  intro ev hev
  simp [h ev hev]

/-- What was sent since `os`: the header of `own`, a frame that was begun before, at most `k`
    times, and that of every frame begun since at most three times. -/
structure SentSince (own : Option Nat) (k : Nat) (os os' : Os) : Prop where
  begun : ∀ c ∈ own, c < os.calls
  calls : os.calls ≤ os'.calls
  sent : ∃ evs, os'.sent = os.sent ++ evs ∧
    (∀ ev ∈ evs, ev.call ∈ own ∨ os.calls ≤ ev.call ∧ ev.call < os'.calls) ∧
    (∀ c ∈ own, headerSends c evs ≤ k) ∧ ∀ c, c ∉ own → headerSends c evs ≤ 3

namespace SentSince
variable {own : Option Nat} {k k' : Nat} {os os₁ os' : Os}

theorem refl (h : ∀ c ∈ own, c < os.calls) : SentSince own 0 os os :=
  ⟨h, Nat.le_refl _, [], (List.append_nil _).symm, fun ev hev => (by cases hev),
    fun _ _ => Nat.le_refl 0, fun _ _ => Nat.zero_le 3⟩

theorem trans (h : SentSince own k os os₁) (h' : SentSince own k' os₁ os') :
    SentSince own (k + k') os os' := by
  obtain ⟨evs, hevs, hcalls, hown, hothers⟩ := h.sent
  obtain ⟨evs', hevs', hcalls', hown', hothers'⟩ := h'.sent
  have hle := h.calls
  have hle' := h'.calls
  refine ⟨h.begun, Nat.le_trans hle hle', evs ++ evs', ?_, ?_, fun c hc => ?_, fun c hc => ?_⟩
  · rw [hevs', hevs, List.append_assoc]
  · intro ev hev
    rcases List.mem_append.mp hev with hmem | hmem
    · rcases hcalls ev hmem with heq | hrange
      · exact .inl heq
      · exact .inr (by omega)
    · rcases hcalls' ev hmem with heq | hrange
      · exact .inl heq
      · exact .inr (by omega)
  · rw [headerSends_append]
    exact Nat.add_le_add (hown c hc) (hown' c hc)
  · -- a frame begun since then was begun in one of the two parts
    rw [headerSends_append]
    by_cases hfirst : c < os₁.calls
    · have hzero : headerSends c evs' = 0 := by
        apply headerSends_eq_zero
        intro ev hev heq
        rcases hcalls' ev hev with hmem | hrange
        · exact hc (heq ▸ hmem)
        · omega
      have := hothers c hc
      omega
    · have hzero : headerSends c evs = 0 := by
        apply headerSends_eq_zero
        intro ev hev heq
        rcases hcalls ev hev with hmem | hrange
        · exact hc (heq ▸ hmem)
        · omega
      have := hothers' c hc
      omega

theorem mono (h : SentSince own k os os') (hle : k ≤ k') : SentSince own k' os os' := by
  obtain ⟨evs, hevs, hcalls, hown, hothers⟩ := h.sent
  exact ⟨h.begun, h.calls, evs, hevs, hcalls, fun c hc => Nat.le_trans (hown c hc) hle, hothers⟩

theorem inside {call : Nat} (h : SentSince none 0 os os') (hcall : call < os.calls) :
    SentSince (some call) 0 os os' := by
  obtain ⟨evs, hevs, hcalls, -, hothers⟩ := h.sent
  have hrange : ∀ ev ∈ evs, os.calls ≤ ev.call ∧ ev.call < os'.calls := fun ev hev =>
    (hcalls ev hev).resolve_left fun hmem => by cases hmem
  refine ⟨fun c hc => Option.some.inj hc ▸ hcall, h.calls, evs, hevs, fun ev hev => .inr (hrange ev hev),
    fun c hc => ?_, fun c _ => hothers c fun hmem => by cases hmem⟩
  apply Nat.le_of_eq
  apply headerSends_eq_zero
  intro ev hev heq
  have := hrange ev hev
  have := Option.some.inj hc
  omega

theorem of_sends {call : Nat} {evs : List SendEvent} (h : call < os.calls)
    (hcalls : os₁.calls = os.calls) (hevs : os₁.sent = os.sent ++ evs)
    (hcall : ∀ ev ∈ evs, ev.call = call) (hk : headerSends call evs ≤ k) :
    SentSince (some call) k os os₁ := by
  refine ⟨fun c hc => Option.some.inj hc ▸ h, Nat.le_of_eq hcalls.symm, evs, hevs,
    fun ev hev => .inl (congrArg some (hcall ev hev).symm), fun c hc => Option.some.inj hc ▸ hk, ?_⟩
  intro c hc
  have hzero : headerSends c evs = 0 :=
    headerSends_eq_zero fun ev hev heq => hc (congrArg some ((hcall ev hev).symm.trans heq))
  omega

theorem send {call : Nat} (h : call < os.calls) (fd : Option Nat) (part : FramePart)
    (data : Bytes) :
    SentSince (some call) (if part = .header then 1 else 0) os (os.send fd call part data).2 := by
  cases fd with
  | none => exact (refl fun c hc => Option.some.inj hc ▸ h).mono (Nat.zero_le _)
  | some sock =>
    apply @of_sends _ os (os.send (some sock) call part data).2 call _ h rfl rfl
    · exact fun ev hev => by rw [List.mem_singleton.mp hev]
    · cases part with
      | header => simp [headerSends]
      | payload => simp [headerSends]

theorem attempt {call : Nat} {header : RtMessageHeader} {buff data : Bytes} {err err₁ : RtError}
    {fd : Option Nat} (h : call < os.calls)
    (hs : attemptSends call header buff data err fd os = (err₁, os₁)) :
    SentSince (some call) 1 os os₁ := by
  have hos : (attemptSends call header buff data err fd os).2 = os₁ := by rw [hs]
  have hheader := send h fd .header data
  rw [attemptSends] at hos
  by_cases hok : sendError err header.headerLength.toNat (os.send fd call .header data).1 = .ok
  · simp only [hok, if_true] at hos
    subst hos
    exact hheader.trans (send (Nat.lt_of_lt_of_le h hheader.calls) fd .payload _)
  · simp only [hok, if_false] at hos
    subst hos
    exact hheader

theorem attempts {R : RtConnection → Os → ConResult}
    (hR : ∀ con os e con' os', R con os = .ok (e, con', os') → SentSince none 0 os os')
    {call : Nat} {header : RtMessageHeader} {buff : Bytes} {left : Nat} {err e : RtError}
    {con con' : RtConnection} (h : Attempts R call header buff left err con os e con' os')
    (hcall : call < os.calls) : SentSince (some call) (left+1) os os' := by
  have hreregister : ∀ {err e con con' os os'}, call < os.calls →
      reregister R err con os = .ok (e, con', os') → SentSince (some call) 0 os os' := by
    intro err e con con' os os' hcall h
    rcases reregister_cases h with ⟨-, -, -, rfl⟩ | ⟨-, hre⟩
    · exact refl fun c hc => Option.some.inj hc ▸ hcall
    · exact (hR _ _ _ _ _ hre).inside hcall
  induction h with
  | stop _ hs hre _ =>
    have hsends := attempt hcall hs
    have hre := hreregister (Nat.lt_of_lt_of_le hcall hsends.calls) hre
    exact (hsends.trans hre).mono (by omega)
  | again _ hs hre _ _ ih =>
    have hsends := attempt hcall hs
    have hre := hreregister (Nat.lt_of_lt_of_le hcall hsends.calls) hre
    have hfirst := hsends.trans hre
    exact (hfirst.trans (ih (Nat.lt_of_lt_of_le hcall hfirst.calls))).mono (by omega)

theorem of_call (h : SentSince (some os.calls) 3 os.beginCall.2 os') : SentSince none 0 os os' := by
  obtain ⟨evs, hevs, hcalls, hown, hothers⟩ := h.sent
  have hlt : os.calls + 1 ≤ os'.calls := h.calls
  refine ⟨fun c hc => (by cases hc), by omega, evs, hevs, fun ev hev => .inr ?_,
    fun c hc => (by cases hc), fun c _ => ?_⟩
  · rcases hcalls ev hev with hmem | hrange
    · have := Option.some.inj hmem
      omega
    · have : os.calls + 1 ≤ ev.call := hrange.1
      omega
  · by_cases hc : c ∈ some os.calls
    · exact hown c hc
    · exact hothers c hc

end SentSince

theorem sentSince_reconnect {J : CJsonLib} {fuel : Nat}
    (ih : ∀ con topic buff replyTopic flags os e con' os',
      rtConnectionSendInternal J fuel con topic buff replyTopic flags os = .ok (e, con', os') →
        SentSince none 0 os os')
    {con con' : RtConnection} {os os' : Os} {e : RtError}
    (h : sendReconnect J fuel con os = .ok (e, con', os')) : SentSince none 0 os os' := by
  have hnone : ∀ {n : Nat}, ∀ c ∈ (none : Option Nat), c < n := fun c hc => by cases hc
  have hsame : ∀ {os₁ : Os}, os₁.calls = os.calls → os₁.sent = os.sent → SentSince none 0 os os₁ :=
    fun hcalls hsent => ⟨hnone, Nat.le_of_eq hcalls.symm, [], by rw [hsent, List.append_nil],
      fun ev hev => (by cases hev), fun _ _ => Nat.le_refl 0, fun _ _ => Nat.zero_le 3⟩
  rcases connectAndRegister_cases h with ⟨n, -, -, -, rfl⟩ | ⟨-, -, connects, hregister⟩
  · exact hsame rfl rfl
  · have hsocket : SentSince none 0 os { os with
        sockets := os.sockets.tail, nextSock := os.nextSock + 1, connects } := hsame rfl rfl
    refine registerListeners_invariant (fun _ os' => SentSince none 0 os os') ?_ hsocket hregister
    intro con₁ m topic os₁ e con₂ os₂ hsince hsend
    exact hsince.trans (ih _ _ _ _ _ _ _ _ _ hsend)

/-- **At most three attempts at a frame**: in a call, and in all the calls in it. -/
theorem sendInternal_sentSince {J : CJsonLib} {fuel : Nat} {con con' : RtConnection}
    {topic buff : Bytes} {replyTopic : Option Bytes} {flags : UInt32} {os os' : Os} {e : RtError}
    (h : rtConnectionSendInternal J fuel con topic buff replyTopic flags os = .ok (e, con', os')) :
    SentSince none 0 os os' := by
  induction fuel generalizing con topic buff replyTopic flags os e con' os' with
  | zero => cases h
  | succ fuel ih =>
    obtain ⟨hdr, sendBuffer, -, -, -, -, hrun⟩ :=
      sendRun_attempts (J := J) con topic buff replyTopic flags os rfl
    have hattempts := sendAttempts_iff.mp ((congrArg Prod.fst (hrun fuel)).symm.trans h)
    apply SentSince.of_call
    apply SentSince.attempts _ hattempts (Nat.lt_succ_self os.calls)
    intro con os e con' os' hre
    exact sentSince_reconnect (fun _ _ _ _ _ _ _ _ _ hsend => ih hsend) hre

/-! The calls. -/

/-- A call of one of the three functions. -/
inductive SenderCall where
  | sendInternal (topic buff : Bytes) (replyTopic : Option Bytes) (flags : UInt32)
  | connectAndRegister
  | sendMessage (msg : CJson) (topic : Bytes)

namespace SenderCall

def run (J : CJsonLib) (fuel : Nat) (con : RtConnection) (os : Os) : SenderCall → ConResult
  | .sendInternal topic buff replyTopic flags =>
    rtConnectionSendInternal J fuel con topic buff replyTopic flags os
  | .connectAndRegister => sendReconnect J fuel con os
  | .sendMessage msg topic => rtConnectionSendMessage J fuel con msg topic os

/-- The connects of the call. -/
def events (J : CJsonLib) (fuel : Nat) (con : RtConnection) (os : Os) :
    SenderCall → List ConnectEvent
  | .sendInternal topic buff replyTopic flags =>
    sendInternalEvents J fuel con topic buff replyTopic flags os
  | .connectAndRegister => reconnectEvents J fuel con os
  | .sendMessage msg topic =>
    sendInternalEvents J fuel con topic (rtMessageToByteArray J msg) none 0 os

def task (J : CJsonLib) (con : RtConnection) : SenderCall → Task
  | .sendInternal topic buff replyTopic flags => (sentFrame con topic buff replyTopic flags).task
  | .connectAndRegister => .reconnect
  | .sendMessage msg topic => (sentFrame con topic (rtMessageToByteArray J msg) none 0).task

/-- The call returns. -/
def Returns (J : CJsonLib) (con : RtConnection) (os : Os) (c : SenderCall) : Prop :=
  ∃ fuel e con' os', c.run J fuel con os = .ok (e, con', os')

/-- It returns, with at most four connects on a socket and three attempts at a frame. -/
def ReturnsInBounds (J : CJsonLib) (con : RtConnection) (os : Os) (c : SenderCall) : Prop :=
  ∃ fuel e con' os', c.run J fuel con os = .ok (e, con', os') ∧
    (∀ sock, (c.events J fuel con os).countP (fun ev => ev.sock = sock) ≤ 4) ∧
    ∃ sends, os'.sent = os.sent ++ sends ∧ ∀ call, headerSends call sends ≤ 3

/-- The task of the call can be worked off on the answers of the network. -/
def Settles (J : CJsonLib) (con : RtConnection) (os : Os) (c : SenderCall) : Prop :=
  ∃ ds opened net, Completes con.remoteFamily (subscribeTasks J con.listeners) [c.task J con]
    con.fd.isSome os.network ds opened net

/-- It can, and each connect loop on the way ends with its fourth connect at the latest. -/
def SettlesInBounds (J : CJsonLib) (con : RtConnection) (os : Os) (c : SenderCall) : Prop :=
  ∃ ds opened net, Completes con.remoteFamily (subscribeTasks J con.listeners) [c.task J con]
    con.fd.isSome os.network ds opened net ∧ ∀ as ∈ ds, as.length ≤ 4

variable {J : CJsonLib} {c : SenderCall} {con con' : RtConnection} {os os' : Os} {fuel : Nat}
  {e : RtError}

theorem works_off (h : c.run J fuel con os = .ok (e, con', os')) :
    ∃ ds, WorksOff J [c.task J con] con os ds (c.events J fuel con os) con' os' := by
  cases c with
  | sendInternal topic buff replyTopic flags => exact (worksOff J fuel).1 _ _ _ _ _ _ _ _ _ h
  | connectAndRegister => exact (worksOff J fuel).2 _ _ _ _ _ h
  | sendMessage msg topic => exact (worksOff J fuel).1 _ _ _ _ _ _ _ _ _ h

theorem sentSince (h : c.run J fuel con os = .ok (e, con', os')) : SentSince none 0 os os' := by
  cases c with
  | sendInternal topic buff replyTopic flags => exact sendInternal_sentSince h
  | connectAndRegister =>
    exact sentSince_reconnect (fun _ _ _ _ _ _ _ _ _ hsend => sendInternal_sentSince hsend) h
  | sendMessage msg topic => exact sendInternal_sentSince h

end SenderCall

/-- A frame that can be sent, or given up, is a call that returns. -/
theorem Completes.send_returns {J : CJsonLib} {con : RtConnection} {topic buff : Bytes}
    {replyTopic : Option Bytes} {flags : UInt32} {os : Os} {ds : List (List (Option Errno))}
    {opened : Bool} {net : Network}
    (h : Completes con.remoteFamily (subscribeTasks J con.listeners)
      [(sentFrame con topic buff replyTopic flags).task] con.fd.isSome os.network ds opened net) :
    ∃ fuel e con' os',
      rtConnectionSendInternal J fuel con topic buff replyTopic flags os = .ok (e, con', os') := by
  cases hfd : con.fd with
  | none =>
    obtain ⟨sendBuffer, hrun⟩ := sendRun_closed (J := J) con topic buff replyTopic flags os hfd
    exact ⟨1, _, _, _, congrArg Prod.fst (hrun 0)⟩
  | some sock =>
    rw [hfd] at h
    cases h with
    | kept hkept _ =>
      obtain ⟨e, sendBuffer, sent, hrun⟩ :=
        sendRun_kept (J := J) con topic buff replyTopic flags os rfl hfd hkept
      exact ⟨1, _, _, _, congrArg Prod.fst (hrun 0)⟩
    | lost hlost hrest =>
      obtain ⟨sendBuffer, sent, hrun⟩ :=
        sendRun_lost (J := J) con topic buff replyTopic flags os rfl hfd hlost
      obtain ⟨fuel, e, con₁, os₁, _, hre, -⟩ := (hrest.returns (con.begun sendBuffer)
        (os.after _ sent) rfl rfl (congrArg Option.isSome hfd) rfl).2 [] rfl
      obtain ⟨e', hsend⟩ := (hrun fuel).1 _ hre
      exact ⟨fuel+1, _, _, _, congrArg Prod.fst hsend⟩

namespace SenderCall
variable {J : CJsonLib} {c : SenderCall} {con : RtConnection} {os : Os}

theorem returns_of_settles (h : c.Settles J con os) : c.Returns J con os := by
  obtain ⟨ds, opened, net, h⟩ := h
  cases c with
  | sendInternal topic buff replyTopic flags => exact h.send_returns
  | connectAndRegister =>
    obtain ⟨fuel, e, con', os', _, hre, -⟩ := (h.returns con os rfl rfl rfl rfl).2 [] rfl
    exact ⟨fuel, e, con', os', hre⟩
  | sendMessage msg topic => exact h.send_returns

theorem settles_of_returns (h : c.Returns J con os) : c.Settles J con os := by
  obtain ⟨fuel, e, con', os', h⟩ := h
  obtain ⟨ds, hworks⟩ := works_off h
  exact ⟨ds, _, _, hworks.completes⟩

end SenderCall

theorem numbered_countP (n sock : Nat) (ds : List (List (Option Errno))) :
    (numbered n ds).countP (fun ev => ev.sock = sock) =
      if n ≤ sock then (ds[sock - n]?.getD []).length else 0 := by
  rw [List.countP_eq_length_filter, numbered_filter]
  split <;> simp

theorem numbered_countP_le_iff {n k : Nat} {ds : List (List (Option Errno))} :
    (∀ sock, (numbered n ds).countP (fun ev => ev.sock = sock) ≤ k) ↔ ∀ as ∈ ds, as.length ≤ k := by
  constructor
  · intro h as has
    obtain ⟨i, hi⟩ := List.mem_iff_getElem?.mp has
    have hle := h (n + i)
    rw [numbered_countP, if_pos (Nat.le_add_right n i), Nat.add_sub_cancel_left, hi] at hle
    exact hle
  · intro h sock
    rw [numbered_countP]
    by_cases hle : n ≤ sock
    · rw [if_pos hle]
      cases hget : ds[sock - n]? with
      | none => exact Nat.zero_le k
      | some as => exact h as (List.mem_of_getElem? hget)
    · rw [if_neg hle]
      exact Nat.zero_le k

/-- **When sending returns**, and when it returns within the bounds of its loops. -/
theorem sending_returns_iff (J : CJsonLib) (c : SenderCall) (con : RtConnection) (os : Os) :
    (c.Returns J con os ↔ c.Settles J con os) ∧
      (c.ReturnsInBounds J con os ↔ c.SettlesInBounds J con os) := by
  refine ⟨⟨SenderCall.settles_of_returns, SenderCall.returns_of_settles⟩, ?_, ?_⟩
  · rintro ⟨fuel, e, con', os', h, hconnects, -⟩
    obtain ⟨ds, hworks⟩ := SenderCall.works_off h
    rw [hworks.events, numbered_countP_le_iff] at hconnects
    exact ⟨ds, _, _, hworks.completes, hconnects⟩
  · rintro ⟨ds, opened, net, hcompletes, hle⟩
    obtain ⟨fuel, e, con', os', h⟩ := SenderCall.returns_of_settles ⟨ds, opened, net, hcompletes⟩
    obtain ⟨ds', hworks⟩ := SenderCall.works_off h
    obtain ⟨rfl, -, -⟩ := hcompletes.unique hworks.completes
    obtain ⟨evs, hevs, -, -, hheaders⟩ := (SenderCall.sentSince h).sent
    refine ⟨fuel, e, con', os', h, ?_, evs, hevs, fun call => hheaders call fun hc => by cases hc⟩
    rw [hworks.events, numbered_countP_le_iff]
    exact hle

/-! Answers on which nothing ends. -/

/-- The connect loop does not end while every connect fails and none is refused. -/
theorem not_dials_const {left n : Nat} {s : Stream' (Option Errno)} {as : List (Option Errno)}
    (h : Dials (left+1) s as) : s ≠ Stream'.const (some (.other n)) := by
  generalize hleft : left + 1 = more at h
  induction h with
  | exhausted => cases hleft
  | connected h =>
    intro hs
    rw [hs] at h
    cases h
  | refused h _ _ =>
    intro hs
    rw [hs] at h
    cases h
  | retried _ _ _ ih =>
    intro hs
    apply ih hleft
    rw [hs]
    rfl

/-- With a listener in use nothing ends while every send finds the connection lost. -/
theorem Completes.done_of_all_lost {family : AddressFamily} {again ts : List Task}
    {opened opened' : Bool} {net net' : Network} {ds : List (List (Option Errno))}
    (h : Completes family again ts opened net ds opened' net') (hagain : again ≠ [])
    (hopened : opened = true) (hsends : net.sends = Stream'.const (.error .EPIPE))
    (hsockets : net.sockets = Stream'.const none) : ts = [] := by
  induction h with
  | done => rfl
  | closed _ _ => cases hopened
  | kept hkept _ _ =>
    rw [hsends] at hkept
    cases hkept
  | lost hlost _ ih =>
    rw [hsends] at hlost
    cases hlost
    cases ih rfl rfl hsockets
  | noSocket _ hsocket _ _ =>
    rw [hsockets] at hsocket
    cases hsocket
  | @dialled _ _ _ net _ _ _ _ _ _ _ ih =>
    have hsockets' : net.sockets.tail = Stream'.const none := by
      rw [hsockets]
      rfl
    exact absurd (List.append_eq_nil_iff.mp (ih rfl hsends hsockets')).1 hagain

/-- No route to the router. -/
def unreachableRouter : Os :=
  { Os.idle (Stream'.const .complete) with connects := Stream'.const (some (.other 113)) }

/-- A reconnect to a router that cannot be reached does not return, and a send to one that
    accepts every connection and loses it again does not either. -/
theorem sending_never_returns :
    ¬ SenderCall.Returns .unused openConnection unreachableRouter .connectAndRegister ∧
      ¬ SenderCall.Returns .unused listeningConnection (.idle (Stream'.const (.error .EPIPE)))
        (.sendInternal (ascii "A.B") [1] none 0) := by
  constructor
  · intro hreturns
    obtain ⟨ds, opened, net, h⟩ := SenderCall.settles_of_returns hreturns
    cases h with
    | noSocket _ hsocket _ => cases hsocket
    | dialled _ _ hdials _ => exact not_dials_const hdials rfl
  · intro hreturns
    obtain ⟨ds, opened, net, h⟩ := SenderCall.settles_of_returns hreturns
    cases h.done_of_all_lost (List.cons_ne_nil _ _) rfl rfl rfl

end RtMessage
