import RtMessage.Reconnection

/- Sending and reconnecting as one list of tasks.

   `rtConnection_SendInternal`, `rtConnection_ConnectAndRegister` and
   `rtConnection_SendMessage` call each other. A frame that is found lost becomes a reconnect,
   and a reconnect the SUBSCRIBEs of all listeners, in front of what the calls around have
   still to send; so the calls under way are a list of tasks, and what becomes of it depends on
   the answers of the network alone. `Completes` is that list worked off. A call that returns
   has worked off its tasks (`sendInternal_completes`), and tasks that can be worked off are a
   call that returns under some bound (`Completes.sends_return`). -/
namespace RtMessage
open Lib

/-! The tasks. -/

/-- What the system has to answer the calls that sending makes. -/
structure Network where
  sends : Stream' SendResult
  sockets : Stream' (Option Errno)
  connects : Stream' (Option Errno)

def Os.network (os : Os) : Network := ⟨os.sends, os.sockets, os.connects⟩

/-- A frame to be sent, by the lengths of its header and its payload, or a reconnect. -/
inductive Task where
  | frame (header payload : Nat)
  | reconnect
  deriving DecidableEq, Repr

def Frame.task (f : Frame) : Task := .frame f.headerLength f.payload.length

/-- The SUBSCRIBEs of a reconnect. -/
def subscribeTasks (J : CJsonLib) (ls : List RtListener) : List Task :=
  (ls.filter (·.inUse)).map fun l =>
    .frame (28 + subscribeTopic.length) (listenerPayload J l).length

/-- The tasks are worked off. `again` are the tasks of a reconnect that gets a socket, and
    the flag says whether there is a descriptor; the answers that the connects of each such
    reconnect use up are collected. -/
inductive Completes (family : AddressFamily) (again : List Task) :
    List Task → Bool → Network → List (List (Option Errno)) → Bool → Network → Prop where
  | done {opened : Bool} {net : Network} : Completes family again [] opened net [] opened net
  /-- without a descriptor nothing is asked of the network -/
  | closed {h p : Nat} {ts : List Task} {net net' : Network} {ds : List (List (Option Errno))}
      {opened' : Bool} (hrest : Completes family again ts false net ds opened' net') :
      Completes family again (.frame h p :: ts) false net ds opened' net'
  | kept {h p : Nat} {ts : List Task} {net net' : Network} {ds : List (List (Option Errno))}
      {rest : Stream' SendResult} {opened' : Bool}
      (hkept : sendOutcome h p net.sends = (false, rest))
      (hrest : Completes family again ts true { net with sends := rest } ds opened' net') :
      Completes family again (.frame h p :: ts) true net ds opened' net'
  | lost {h p : Nat} {ts : List Task} {net net' : Network} {ds : List (List (Option Errno))}
      {rest : Stream' SendResult} {opened' : Bool}
      (hlost : sendOutcome h p net.sends = (true, rest))
      (hrest : Completes family again (.reconnect :: ts) true { net with sends := rest } ds
        opened' net') :
      Completes family again (.frame h p :: ts) true net ds opened' net'
  | noSocket {ts : List Task} {opened opened' : Bool} {net net' : Network}
      {ds : List (List (Option Errno))} {e : Errno} (hfamily : family ≠ .unspec)
      (hsocket : net.sockets.head = some e)
      (hrest : Completes family again ts false { net with sockets := net.sockets.tail } ds
        opened' net') :
      Completes family again (.reconnect :: ts) opened net ds opened' net'
  | dialled {ts : List Task} {opened opened' : Bool} {net net' : Network}
      {ds : List (List (Option Errno))} {as : List (Option Errno)} (hfamily : family ≠ .unspec)
      (hsocket : net.sockets.head = none) (hdials : Dials 4 net.connects as)
      (hrest : Completes family again (again ++ ts) true { net with
        sockets := net.sockets.tail, connects := net.connects.drop as.length } ds opened' net') :
      Completes family again (.reconnect :: ts) opened net (as :: ds) opened' net'

namespace Completes
variable {family : AddressFamily} {again ts us : List Task} {opened opened₁ opened' : Bool}
  {net net₁ net' : Network} {ds ds' : List (List (Option Errno))}

theorem append (h : Completes family again ts opened net ds opened₁ net₁)
    (h' : Completes family again us opened₁ net₁ ds' opened' net') :
    Completes family again (ts ++ us) opened net (ds ++ ds') opened' net' := by
  induction h with
  | done => exact h'
  | closed _ ih => exact .closed (ih h')
  | kept hkept _ ih => exact .kept hkept (ih h')
  | lost hlost _ ih => exact .lost hlost (ih h')
  | noSocket hfamily hsocket _ ih => exact .noSocket hfamily hsocket (ih h')
  | dialled hfamily hsocket hdials _ ih =>
    have hrest := ih h'
    rw [List.append_assoc] at hrest
    exact .dialled hfamily hsocket hdials hrest

/-- The answers of the network determine what becomes of the tasks. -/
theorem unique {opened'' : Bool} {net'' : Network}
    (h : Completes family again ts opened net ds opened' net')
    (h' : Completes family again ts opened net ds' opened'' net'') :
    ds = ds' ∧ opened' = opened'' ∧ net' = net'' := by
  induction h generalizing ds' with
  | done =>
    cases h'
    exact ⟨rfl, rfl, rfl⟩
  | closed _ ih =>
    cases h' with
    | closed hrest => exact ih hrest
  | kept hkept _ ih =>
    cases h' with
    | kept hkept' hrest =>
      cases hkept.symm.trans hkept'
      exact ih hrest
    | lost hlost' _ => cases hkept.symm.trans hlost'
  | lost hlost _ ih =>
    cases h' with
    | kept hkept' _ => cases hlost.symm.trans hkept'
    | lost hlost' hrest =>
      cases hlost.symm.trans hlost'
      exact ih hrest
  | noSocket _ hsocket _ ih =>
    cases h' with
    | noSocket _ _ hrest => exact ih hrest
    | dialled _ hsocket' _ _ => cases hsocket.symm.trans hsocket'
  | dialled _ hsocket hdials _ ih =>
    cases h' with
    | noSocket _ hsocket' _ => cases hsocket.symm.trans hsocket'
    | dialled _ _ hdials' hrest =>
      cases hdials.unique hdials'
      obtain ⟨hds, hopened, hnet⟩ := ih hrest
      exact ⟨by rw [hds], hopened, hnet⟩

end Completes

/-! Calls that return. -/

/-- The connects of some reconnects, on sockets numbered from `n` on. -/
def numbered : Nat → List (List (Option Errno)) → List ConnectEvent
  | _, [] => []
  | n, as :: ds => as.map (ConnectEvent.mk n) ++ numbered (n+1) ds

theorem numbered_append (n : Nat) (ds ds' : List (List (Option Errno))) :
    numbered n (ds ++ ds') = numbered n ds ++ numbered (n + ds.length) ds' := by
  induction ds generalizing n with
  | nil => rfl
  | cons as ds ih =>
    calc numbered n (as :: ds ++ ds')
        = as.map (ConnectEvent.mk n) ++ numbered (n+1) (ds ++ ds') := rfl
      _ = as.map (ConnectEvent.mk n) ++ (numbered (n+1) ds ++
            numbered (n + (as :: ds).length) ds') := by
          rw [ih, List.length_cons, Nat.add_assoc, Nat.add_comm 1]
      _ = numbered n (as :: ds) ++ numbered (n + (as :: ds).length) ds' :=
          (List.append_assoc _ _ _).symm

theorem numbered_filter (n sock : Nat) (ds : List (List (Option Errno))) :
    (numbered n ds).filter (fun ev => ev.sock = sock) =
      if n ≤ sock then (ds[sock - n]?.getD []).map (ConnectEvent.mk sock) else [] := by
  induction ds generalizing n with
  | nil => simp [numbered]
  | cons as ds ih =>
    rw [numbered, List.filter_append, ih]
    by_cases heq : n = sock
    · subst heq
      have hown : (as.map (ConnectEvent.mk n)).filter (fun ev => ev.sock = n) =
          as.map (ConnectEvent.mk n) := by simp
      rw [hown, if_neg (by omega), if_pos (Nat.le_refl n), Nat.sub_self, List.append_nil]
      rfl
    · have hother : (as.map (ConnectEvent.mk n)).filter (fun ev => ev.sock = sock) = [] := by
        simp [heq]
      rw [hother, List.nil_append]
      by_cases hle : n ≤ sock
      · have hindex : sock - n = (sock - (n+1)) + 1 := by omega
        rw [if_pos (by omega), if_pos hle, hindex, List.getElem?_cons_succ]
      · rw [if_neg (by omega), if_neg hle]

/-- A part of a run that works off the tasks `ts`, making the connects `evs`. -/
structure WorksOff (J : CJsonLib) (ts : List Task) (con : RtConnection) (os : Os)
    (ds : List (List (Option Errno))) (evs : List ConnectEvent) (con' : RtConnection) (os' : Os) :
    Prop where
  completes : Completes con.remoteFamily (subscribeTasks J con.listeners) ts con.fd.isSome
    os.network ds con'.fd.isSome os'.network
  remoteFamily : con'.remoteFamily = con.remoteFamily
  listeners : con'.listeners = con.listeners
  nextSock : os'.nextSock = os.nextSock + ds.length
  events : evs = numbered os.nextSock ds
  /-- the descriptor is the old one, or the last one made -/
  fd : ∀ sock, con'.fd = some sock →
    ds = [] ∧ con.fd = some sock ∨ ds ≠ [] ∧ sock + 1 = os'.nextSock

namespace WorksOff
variable {J : CJsonLib} {ts us : List Task} {con con₁ con' : RtConnection} {os os₁ os' : Os}
  {ds ds' : List (List (Option Errno))} {evs evs' : List ConnectEvent}

theorem done : WorksOff J [] con os [] [] con os where
  completes := .done
  remoteFamily := rfl
  listeners := rfl
  nextSock := rfl
  events := rfl
  fd := fun _ hsock => .inl ⟨rfl, hsock⟩

theorem append (h : WorksOff J ts con os ds evs con₁ os₁)
    (h' : WorksOff J us con₁ os₁ ds' evs' con' os') :
    WorksOff J (ts ++ us) con os (ds ++ ds') (evs ++ evs') con' os' where
  completes := by
    have hrest := h'.completes
    rw [h.remoteFamily, h.listeners] at hrest
    exact h.completes.append hrest
  remoteFamily := h'.remoteFamily.trans h.remoteFamily
  listeners := h'.listeners.trans h.listeners
  nextSock := by
    rw [h'.nextSock, h.nextSock, List.length_append]
    omega
  events := by rw [numbered_append, h'.events, h.events, h.nextSock]
  fd := by
    intro sock hsock
    rcases h'.fd sock hsock with ⟨hnil, hold⟩ | ⟨hne, hlast⟩
    · subst hnil
      have hnext : os'.nextSock = os₁.nextSock := h'.nextSock
      rw [List.append_nil, hnext]
      exact h.fd sock hold
    · refine .inr ⟨fun hnil => hne ?_, hlast⟩
      exact (List.append_eq_nil_iff.mp hnil).2

end WorksOff

section Returns
variable {J : CJsonLib} {fuel : Nat}

/-- A send that returns has worked off its frame. -/
def SendWorksOff (J : CJsonLib) (fuel : Nat) : Prop :=
  ∀ con topic buff replyTopic flags os e con' os',
    rtConnectionSendInternal J fuel con topic buff replyTopic flags os = .ok (e, con', os') →
      ∃ ds, WorksOff J [(sentFrame con topic buff replyTopic flags).task] con os ds
        (sendInternalEvents J fuel con topic buff replyTopic flags os) con' os'

/-- A reconnect that returns has worked itself off. -/
def ReconnectWorksOff (J : CJsonLib) (fuel : Nat) : Prop :=
  ∀ con os e con' os', sendReconnect J fuel con os = .ok (e, con', os') →
    ∃ ds, WorksOff J [.reconnect] con os ds (reconnectEvents J fuel con os) con' os'

theorem send_worksOff (ih : ReconnectWorksOff J fuel) : SendWorksOff J (fuel+1) := by
  intro con topic buff replyTopic flags os e con' os' h
  cases hfd : con.fd with
  | none =>
    obtain ⟨sendBuffer, hrun⟩ :=
      sendRun_closed (J := J) con topic buff replyTopic flags os hfd
    cases (congrArg Prod.fst (hrun fuel)).symm.trans h
    refine ⟨[], ⟨?_, rfl, rfl, rfl, congrArg Prod.snd (hrun fuel), ?_⟩⟩
    · show Completes _ _ _ con.fd.isSome os.network [] con.fd.isSome os.network
      rw [hfd]
      exact .closed .done
    · exact fun sock hsock => .inl ⟨rfl, hsock⟩
  | some sock =>
    generalize hf : sentFrame con topic buff replyTopic flags = f
    -- with a descriptor the frame is sent, given up, or found lost
    cases hout : sendOutcome f.headerLength f.payload.length os.sends with
    | mk lost rest =>
      cases lost with
      | false =>
        obtain ⟨e₁, sendBuffer, sent, hrun⟩ :=
          sendRun_kept (J := J) con topic buff replyTopic flags os hf.symm hfd hout
        cases (congrArg Prod.fst (hrun fuel)).symm.trans h
        refine ⟨[], ⟨?_, rfl, rfl, rfl, congrArg Prod.snd (hrun fuel), ?_⟩⟩
        · show Completes _ _ [f.task] con.fd.isSome os.network [] con.fd.isSome
            { os.network with sends := rest }
          rw [hfd]
          exact .kept hout .done
        · exact fun sock hsock => .inl ⟨rfl, hsock⟩
      | true =>
        obtain ⟨sendBuffer, sent, hrun⟩ :=
          sendRun_lost (J := J) con topic buff replyTopic flags os hf.symm hfd hout
        -- the reconnect stands in place of the frame
        cases hre : sendReconnect J fuel (con.begun sendBuffer) (os.after rest sent) with
        | error fault => cases ((hrun fuel).2 fault hre).symm.trans h
        | ok r =>
          obtain ⟨e₁, con₁, os₁⟩ := r
          obtain ⟨e₂, hsend⟩ := (hrun fuel).1 _ hre
          cases (congrArg Prod.fst hsend).symm.trans h
          obtain ⟨ds, hworks⟩ := ih _ _ _ _ _ hre
          refine ⟨ds, ⟨?_, hworks.remoteFamily, hworks.listeners, hworks.nextSock,
            (congrArg Prod.snd hsend).trans hworks.events, hworks.fd⟩⟩
          have hrest := hworks.completes
          show Completes _ _ [f.task] con.fd.isSome os.network ds con'.fd.isSome os'.network
          rw [show (con.begun sendBuffer).fd.isSome = true from congrArg Option.isSome hfd] at hrest
          rw [hfd]
          exact .lost hout hrest

theorem listenerFrame_task (J : CJsonLib) (con : RtConnection) (l : RtListener) :
    (listenerFrame J con l).task =
      .frame (28 + subscribeTopic.length) (listenerPayload J l).length := by
  have htopic : (Topic.cut subscribeTopic).str.length = subscribeTopic.length := by decide
  show Task.frame (28 + (Topic.cut subscribeTopic).str.length + 0) _ = _
  rw [htopic]
  rfl

theorem subscribeTasks_inUse {l : RtListener} {ls : List RtListener} (h : l.inUse = true) :
    subscribeTasks J (l :: ls) =
      .frame (28 + subscribeTopic.length) (listenerPayload J l).length :: subscribeTasks J ls := by
  simp [subscribeTasks, h]

theorem subscribeTasks_free {l : RtListener} {ls : List RtListener} (h : l.inUse = false) :
    subscribeTasks J (l :: ls) = subscribeTasks J ls := by
  simp [subscribeTasks, h]

theorem subscribeTasks_append (ls ls' : List RtListener) :
    subscribeTasks J (ls ++ ls') = subscribeTasks J ls ++ subscribeTasks J ls' := by
  simp [subscribeTasks]

/-- The loop over the listeners, with the connects it makes. -/
def registerRun (J : CJsonLib) (fuel : Nat) (ls : List RtListener) (con : RtConnection) (os : Os) :
    Except Fault (RtConnection × Os) × List ConnectEvent :=
  (registerListeners (fun con m topic os =>
      rtConnectionSendInternal J fuel con topic (rtMessageToByteArray J m) none 0 os) ls con os,
    registerEvents (fun con m topic os =>
        rtConnectionSendInternal J fuel con topic (rtMessageToByteArray J m) none 0 os)
      (fun con m topic os =>
        sendInternalEvents J fuel con topic (rtMessageToByteArray J m) none 0 os) ls con os)

theorem register_worksOff (ih : SendWorksOff J fuel) {ls : List RtListener}
    {con con' : RtConnection} {os os' : Os}
    (h : (registerRun J fuel ls con os).1 = .ok (con', os')) :
    ∃ ds, WorksOff J (subscribeTasks J ls) con os ds (registerRun J fuel ls con os).2 con' os' := by
  induction ls generalizing con os with
  | nil =>
    cases h
    exact ⟨[], .done⟩
  | cons l rest ihls =>
    cases huse : l.inUse with
    | false =>
      have heq : registerRun J fuel (l :: rest) con os = registerRun J fuel rest con os := by
        simp [registerRun, registerListeners, registerEvents, huse]
      rw [heq] at h ⊢
      rw [subscribeTasks_free huse]
      exact ihls h
    | true =>
      simp only [registerRun, registerListeners, huse, if_true] at h
      obtain ⟨⟨e, con₁, os₁⟩, hsend, hrest⟩ := bind_eq_ok.mp h
      obtain ⟨ds, hfirst⟩ := ih _ _ _ _ _ _ _ _ _ hsend
      obtain ⟨ds', hothers⟩ := ihls hrest
      refine ⟨ds ++ ds', ?_⟩
      have hevents : (registerRun J fuel (l :: rest) con os).2 =
          sendInternalEvents J fuel con subscribeTopic (rtMessageToByteArray J
            (subscribeMessage l.expression l.subscriptionId)) none 0 os ++
              (registerRun J fuel rest con₁ os₁).2 := by
        simp only [registerRun, registerEvents, huse, if_true, hsend, eventsAfter]
      rw [hevents, subscribeTasks_inUse huse, ← listenerFrame_task J con l]
      exact hfirst.append hothers

theorem sendReconnect_dials {con con' : RtConnection} {os os' : Os} {e : RtError}
    (hsocket : os.sockets.head = none) (h : sendReconnect J fuel con os = .ok (e, con', os')) :
    con.remoteFamily ≠ .unspec ∧ e = .ok ∧ ∃ as, Dials 4 os.connects as ∧
      (registerRun J fuel con.listeners { con with fd := some os.nextSock }
        (os.socket.2.dialled as)).1 = .ok (con', os') ∧
      reconnectEvents J fuel con os = as.map (ConnectEvent.mk os.nextSock) ++
        (registerRun J fuel con.listeners { con with fd := some os.nextSock }
          (os.socket.2.dialled as)).2 := by
  rw [sendReconnect, rtConnectionConnectAndRegister] at h
  obtain ⟨_, hfamily, h⟩ := bind_eq_ok.mp h
  have hsocket' : os.socket = (.ok os.nextSock, os.socket.2) := by
    simp only [Os.socket, hsocket]
  rw [hsocket'] at h
  obtain ⟨t, hloop, h⟩ := bind_eq_ok.mp h
  obtain ⟨⟨con₁, os₁⟩, hregister, h⟩ := bind_eq_ok.mp h
  cases h
  obtain ⟨as, hdials, ht, hevents⟩ :=
    connectLoop_dials os.nextSock (show 0 + 4 = 4 from rfl) hloop
  have hconnects : os.socket.2.connects = os.connects := by simp only [Os.socket, hsocket]
  rw [hconnects] at hdials
  rw [ht] at hregister
  refine ⟨?_, rfl, as, hdials, hregister, ?_⟩
  · intro hunspec
    rw [hunspec] at hfamily
    cases hfamily
  · rw [reconnectEvents, connectAndRegisterEvents, hfamily, hsocket']
    simp only [eventsAfter]
    rw [hevents, hloop, ← ht]
    rfl

theorem reconnect_worksOff (ih : SendWorksOff J fuel) : ReconnectWorksOff J fuel := by
  intro con os e con' os' h
  cases hsocket : os.sockets.head with
  | some n =>
    rw [sendReconnect, rtConnectionConnectAndRegister] at h
    obtain ⟨_, hfamily, h⟩ := bind_eq_ok.mp h
    have hsocket' : os.socket = (.error n, { os with sockets := os.sockets.tail }) := by
      simp only [Os.socket, hsocket]
    rw [hsocket'] at h
    cases h
    refine ⟨[], ⟨.noSocket ?_ hsocket .done, rfl, rfl, rfl, ?_, fun sock hsock => by cases hsock⟩⟩
    · intro hunspec
      rw [hunspec] at hfamily
      cases hfamily
    · rw [reconnectEvents, connectAndRegisterEvents, hfamily, hsocket']
      rfl
  | none =>
    obtain ⟨hfamily, -, as, hdials, hregister, hevents⟩ := sendReconnect_dials hsocket h
    obtain ⟨ds, hworks⟩ := register_worksOff ih hregister
    have hos : (os.socket.2.dialled as).network = { os.network with
        sockets := os.network.sockets.tail, connects := os.network.connects.drop as.length } := by
      simp only [Os.socket, hsocket]
      rfl
    have hnext : (os.socket.2.dialled as).nextSock = os.nextSock + 1 := by
      simp only [Os.socket, hsocket]
      rfl
    refine ⟨as :: ds, ⟨?_, hworks.remoteFamily, hworks.listeners, ?_, ?_, ?_⟩⟩
    · have hrest := hworks.completes
      rw [hos] at hrest
      refine .dialled hfamily hsocket hdials ?_
      rw [List.append_nil]
      exact hrest
    · rw [hworks.nextSock, hnext, List.length_cons]
      omega
    · rw [hevents, hworks.events, hnext]
      rfl
    · intro sock hsock
      refine .inr ⟨List.cons_ne_nil _ _, ?_⟩
      rcases hworks.fd sock hsock with ⟨hnil, hold⟩ | ⟨-, hlast⟩
      · subst hnil
        rw [hworks.nextSock, hnext, ← Option.some.inj hold]
        rfl
      · exact hlast

/-- **A call that returns has worked off its tasks**, whatever the bound. -/
theorem worksOff (J : CJsonLib) (fuel : Nat) : SendWorksOff J fuel ∧ ReconnectWorksOff J fuel := by
  induction fuel with
  | zero =>
    have hsend : SendWorksOff J 0 := by
      intro con topic buff replyTopic flags os e con' os' h
      cases h
    exact ⟨hsend, reconnect_worksOff hsend⟩
  | succ fuel ih =>
    have hsend := send_worksOff ih.2
    exact ⟨hsend, reconnect_worksOff hsend⟩

end Returns

/-! Bounds. -/

section Bounds
variable {R R' : RtConnection → Os → ConResult}
  {send send' : RtConnection → CJson → Bytes → Os → ConResult}

theorem attempts_mono (hR : ∀ con os r, R con os = .ok r → R' con os = .ok r) {call : Nat}
    {hdr : RtMessageHeader} {buff : Bytes} {left : Nat} {err e : RtError}
    {con con' : RtConnection} {os os' : Os}
    (h : Attempts R call hdr buff left err con os e con' os') :
    Attempts R' call hdr buff left err con os e con' os' := by
  have hreregister : ∀ {err e con con' os os'}, reregister R err con os = .ok (e, con', os') →
      reregister R' err con os = .ok (e, con', os') := by
    intro err e con con' os os' h
    rcases reregister_cases h with ⟨hkept, rfl, rfl, rfl⟩ | ⟨hlost, hre⟩
    · exact reregister_kept hkept _ _
    · rw [reregister_lost hlost]
      exact hR _ _ _ hre
  induction h with
  | stop hdata hs hre hover => exact .stop hdata hs (hreregister hre) hover
  | again hdata hs hre hne _ ih => exact .again hdata hs (hreregister hre) hne ih

theorem registerListeners_mono
    (hsend : ∀ con m topic os r, send con m topic os = .ok r → send' con m topic os = .ok r)
    {ls : List RtListener} {con : RtConnection} {os : Os} {r : RtConnection × Os}
    (h : registerListeners send ls con os = .ok r) : registerListeners send' ls con os = .ok r := by
  induction ls generalizing con os with
  | nil => exact h
  | cons l rest ih =>
    rw [registerListeners] at h ⊢
    split at h
    · next huse =>
      obtain ⟨r₁, hfirst, hrest⟩ := bind_eq_ok.mp h
      rw [if_pos huse, hsend _ _ _ _ _ hfirst, ok_bind]
      exact ih hrest
    · next hfree =>
      rw [if_neg hfree]
      exact ih h

theorem connectAndRegister_mono
    (hsend : ∀ con m topic os r, send con m topic os = .ok r → send' con m topic os = .ok r)
    {fuel more : Nat} (hle : fuel ≤ more) {con : RtConnection} {os : Os}
    {r : RtError × RtConnection × Os} (h : rtConnectionConnectAndRegister send fuel con os = .ok r) :
    rtConnectionConnectAndRegister send' more con os = .ok r := by
  rw [rtConnectionConnectAndRegister] at h ⊢
  obtain ⟨u, hfamily, h⟩ := bind_eq_ok.mp h
  rw [hfamily, ok_bind]
  cases hsocket : os.socket with
  | mk reply os₁ =>
    rw [hsocket] at h
    cases reply with
    | error e => exact h
    | ok sock =>
      obtain ⟨t, hloop, h⟩ := bind_eq_ok.mp h
      obtain ⟨⟨con₁, os₂⟩, hregister, h⟩ := bind_eq_ok.mp h
      have hloop' := loop_mono hloop hle
      have hregister' := registerListeners_mono hsend hregister
      simp only [hloop', ok_bind, hregister']
      exact h

/-- A call that returns under a bound returns the same under every larger one. -/
theorem sendInternal_mono {J : CJsonLib} {fuel more : Nat} (hle : fuel ≤ more)
    {con : RtConnection} {topic buff : Bytes} {replyTopic : Option Bytes} {flags : UInt32} {os : Os}
    {r : RtError × RtConnection × Os}
    (h : rtConnectionSendInternal J fuel con topic buff replyTopic flags os = .ok r) :
    rtConnectionSendInternal J more con topic buff replyTopic flags os = .ok r := by
  induction fuel generalizing more con topic buff replyTopic flags os r with
  | zero => cases h
  | succ fuel ih =>
    obtain ⟨more, rfl⟩ : ∃ k, more = k + 1 := ⟨more - 1, by omega⟩
    obtain ⟨e, con', os'⟩ := r
    obtain ⟨hdr, sendBuffer, -, -, -, -, hrun⟩ :=
      sendRun_attempts (J := J) con topic buff replyTopic flags os rfl
    have hfuel := (congrArg Prod.fst (hrun fuel)).symm.trans h
    apply (congrArg Prod.fst (hrun more)).trans
    apply sendAttempts_iff.mpr
    refine attempts_mono (fun con os r hre => ?_) (sendAttempts_iff.mp hfuel)
    apply connectAndRegister_mono _ (by omega) hre
    exact fun con m topic os r hsend => ih (by omega) hsend

theorem sendReconnect_mono {J : CJsonLib} {fuel more : Nat} (hle : fuel ≤ more)
    {con : RtConnection} {os : Os} {r : RtError × RtConnection × Os}
    (h : sendReconnect J fuel con os = .ok r) : sendReconnect J more con os = .ok r :=
  connectAndRegister_mono (fun _ _ _ _ _ hsend => sendInternal_mono hle hsend) hle h

end Bounds

/-! Tasks that can be worked off. -/

section Runs
variable {J : CJsonLib}

/-- The loop over the listeners `ls` returns under some bound. -/
def RegisterReturns (J : CJsonLib) (ls : List RtListener) (con : RtConnection) (os : Os) : Prop :=
  ∃ fuel r, (registerRun J fuel ls con os).1 = .ok r

/-- A reconnect returns under some bound, and so does the loop over `ls` after it. -/
def ReconnectReturns (J : CJsonLib) (ls : List RtListener) (con : RtConnection) (os : Os) : Prop :=
  ∃ fuel e con₁ os₁ r, sendReconnect J fuel con os = .ok (e, con₁, os₁) ∧
    (registerRun J fuel ls con₁ os₁).1 = .ok r

theorem registerRun_mono {fuel more : Nat} (hle : fuel ≤ more) {ls : List RtListener}
    {con : RtConnection} {os : Os} {r : RtConnection × Os}
    (h : (registerRun J fuel ls con os).1 = .ok r) : (registerRun J more ls con os).1 = .ok r :=
  registerListeners_mono (fun _ _ _ _ _ hsend => sendInternal_mono hle hsend) h

theorem registerRun_inUse {fuel : Nat} {l : RtListener} (ls : List RtListener)
    {con con₁ : RtConnection} {os os₁ : Os} {e : RtError} (huse : l.inUse = true)
    (h : rtConnectionSendInternal J fuel con subscribeTopic (rtMessageToByteArray J
      (subscribeMessage l.expression l.subscriptionId)) none 0 os = .ok (e, con₁, os₁)) :
    (registerRun J fuel (l :: ls) con os).1 = (registerRun J fuel ls con₁ os₁).1 := by
  simp only [registerRun, registerListeners, huse, if_true, h, ok_bind]

theorem registerRun_append {fuel : Nat} (ls ls' : List RtListener) (con : RtConnection) (os : Os) :
    (registerRun J fuel (ls ++ ls') con os).1 =
      (registerRun J fuel ls con os).1 >>= fun r => (registerRun J fuel ls' r.1 r.2).1 := by
  induction ls generalizing con os with
  | nil => rfl
  | cons l rest ih =>
    cases huse : l.inUse with
    | false =>
      simp only [List.cons_append, registerRun, registerListeners, huse, Bool.false_eq_true, if_false]
      exact ih con os
    | true =>
      simp only [List.cons_append, registerRun, registerListeners, huse, if_true]
      cases hsend : rtConnectionSendInternal J fuel con subscribeTopic (rtMessageToByteArray J
          (subscribeMessage l.expression l.subscriptionId)) none 0 os with
      | error fault => rfl
      | ok r => exact ih _ _

theorem subscribeTasks_cons {ls : List RtListener} {t : Task} {ts : List Task}
    (h : subscribeTasks J ls = t :: ts) :
    ∃ l rest, l.inUse = true ∧
      t = .frame (28 + subscribeTopic.length) (listenerPayload J l).length ∧
      subscribeTasks J rest = ts ∧ ∀ fuel con os,
        (registerRun J fuel ls con os).1 = (registerRun J fuel (l :: rest) con os).1 := by
  induction ls with
  | nil => cases h
  | cons l rest ih =>
    cases huse : l.inUse with
    | true =>
      rw [subscribeTasks_inUse huse] at h
      injection h with ht hts
      exact ⟨l, rest, huse, ht.symm, hts, fun _ _ _ => rfl⟩
    | false =>
      rw [subscribeTasks_free huse] at h
      obtain ⟨l', rest', huse', ht, hts, hrun⟩ := ih h
      refine ⟨l', rest', huse', ht, hts, fun fuel con os => ?_⟩
      rw [← hrun]
      simp [registerRun, registerListeners, huse]

theorem RegisterReturns.nil {ls : List RtListener} (h : subscribeTasks J ls = [])
    (con : RtConnection) (os : Os) : RegisterReturns J ls con os := by
  refine ⟨0, (con, os), registerListeners_free _ con os fun l hl => ?_⟩
  have hnone := List.filter_eq_nil_iff.mp (List.map_eq_nil_iff.mp h) l hl
  simpa using hnone

theorem RegisterReturns.cons {ls : List RtListener} {l : RtListener} {rest : List RtListener}
    {con con₁ : RtConnection} {os os₁ : Os} {fuel : Nat} {e : RtError}
    (hrun : ∀ fuel con os,
      (registerRun J fuel ls con os).1 = (registerRun J fuel (l :: rest) con os).1)
    (huse : l.inUse = true)
    (hsend : rtConnectionSendInternal J fuel con subscribeTopic (rtMessageToByteArray J
      (subscribeMessage l.expression l.subscriptionId)) none 0 os = .ok (e, con₁, os₁))
    (h : RegisterReturns J rest con₁ os₁) : RegisterReturns J ls con os := by
  obtain ⟨more, r, hrest⟩ := h
  refine ⟨max fuel more, r, ?_⟩
  rw [hrun, registerRun_inUse rest huse (sendInternal_mono (Nat.le_max_left fuel more) hsend)]
  exact registerRun_mono (Nat.le_max_right fuel more) hrest

theorem sendReconnect_of_dials {con con' : RtConnection} {os os' : Os}
    {as : List (Option Errno)} {fuel : Nat} (hfamily : con.remoteFamily ≠ .unspec)
    (hsocket : os.sockets.head = none) (hdials : Dials 4 os.connects as)
    (h : (registerRun J fuel con.listeners { con with fd := some os.nextSock }
      (os.socket.2.dialled as)).1 = .ok (con', os')) :
    ∃ more, sendReconnect J more con os = .ok (.ok, con', os') := by
  have hsocket' : os.socket = (.ok os.nextSock, os.socket.2) := by
    simp only [Os.socket, hsocket]
  have hconnects : os.socket.2.connects = os.connects := by simp only [Os.socket, hsocket]
  obtain ⟨turns, t, hloop, ht⟩ := hdials.loop_ends (show 0 + 4 = 4 from rfl) hconnects
  refine ⟨max fuel turns, ?_⟩
  have hloop' := loop_mono hloop (Nat.le_max_right fuel turns)
  have hregister := registerRun_mono (Nat.le_max_left fuel turns) h
  rw [← ht] at hregister
  rw [sendReconnect, rtConnectionConnectAndRegister, rtSocketStorageGetLength, if_neg hfamily,
    ok_bind, hsocket']
  show (loop _ _ _ _ _ >>= _) = _
  rw [hloop', ok_bind]
  show (registerListeners _ _ _ _ >>= _) = _
  rw [show registerListeners _ con.listeners _ _ = _ from hregister]
  rfl

/-! One task, and the tasks behind it. -/

section Steps
variable {ls : List RtListener} {ts : List Task} {con : RtConnection} {os : Os} {h p sock : Nat}
  {sends : Stream' SendResult}

theorem RegisterReturns.closed (hls : subscribeTasks J ls = .frame h p :: ts)
    (hfd : con.fd = none)
    (hrest : ∀ rest sendBuffer, subscribeTasks J rest = ts →
      RegisterReturns J rest (con.begun sendBuffer) os.beginCall.2) : RegisterReturns J ls con os := by
  obtain ⟨l, rest, huse, -, hts, hrun⟩ := subscribeTasks_cons hls
  obtain ⟨sendBuffer, hsend⟩ := sendRun_closed (J := J) con subscribeTopic
    (rtMessageToByteArray J (subscribeMessage l.expression l.subscriptionId)) none 0 os hfd
  exact .cons hrun huse (congrArg Prod.fst (hsend 0)) (hrest rest sendBuffer hts)

theorem RegisterReturns.kept (hls : subscribeTasks J ls = .frame h p :: ts)
    (hfd : con.fd = some sock) (hkept : sendOutcome h p os.sends = (false, sends))
    (hrest : ∀ rest sendBuffer sent, subscribeTasks J rest = ts →
      RegisterReturns J rest (con.begun sendBuffer) (os.after sends sent)) :
    RegisterReturns J ls con os := by
  obtain ⟨l, rest, huse, ht, hts, hrun⟩ := subscribeTasks_cons hls
  cases (listenerFrame_task J con l).trans ht.symm
  obtain ⟨e, sendBuffer, sent, hsend⟩ := sendRun_kept (J := J) con subscribeTopic
    (rtMessageToByteArray J (subscribeMessage l.expression l.subscriptionId)) none 0 os rfl
    hfd hkept
  exact .cons hrun huse (congrArg Prod.fst (hsend 0)) (hrest rest sendBuffer sent hts)

/-- A SUBSCRIBE whose sends lose the connection: the reconnect is a part of its call. -/
theorem RegisterReturns.lost (hls : subscribeTasks J ls = .frame h p :: ts)
    (hfd : con.fd = some sock) (hlost : sendOutcome h p os.sends = (true, sends))
    (hrest : ∀ rest sendBuffer sent, subscribeTasks J rest = ts →
      ReconnectReturns J rest (con.begun sendBuffer) (os.after sends sent)) :
    RegisterReturns J ls con os := by
  obtain ⟨l, rest, huse, ht, hts, hrun⟩ := subscribeTasks_cons hls
  cases (listenerFrame_task J con l).trans ht.symm
  obtain ⟨sendBuffer, sent, hsend⟩ := sendRun_lost (J := J) con subscribeTopic
    (rtMessageToByteArray J (subscribeMessage l.expression l.subscriptionId)) none 0 os rfl
    hfd hlost
  obtain ⟨fuel, e, con₁, os₁, r, hre, hregister⟩ := hrest rest sendBuffer sent hts
  obtain ⟨e', hcall⟩ := (hsend fuel).1 _ hre
  exact .cons hrun huse (congrArg Prod.fst hcall) ⟨fuel, r, hregister⟩

theorem ReconnectReturns.noSocket {e : Errno} (hfamily : con.remoteFamily ≠ .unspec)
    (hsocket : os.sockets.head = some e)
    (hrest : RegisterReturns J ls { con with fd := none } { os with sockets := os.sockets.tail }) :
    ReconnectReturns J ls con os := by
  have hre : sendReconnect J 0 con os =
      .ok (.errno e, { con with fd := none }, { os with sockets := os.sockets.tail }) := by
    have hsocket' : os.socket = (.error e, { os with sockets := os.sockets.tail }) := by
      rw [Os.socket, hsocket]
    rw [sendReconnect, rtConnectionConnectAndRegister, rtSocketStorageGetLength,
      if_neg hfamily, ok_bind, hsocket']
    rfl
  obtain ⟨fuel, r, hregister⟩ := hrest
  exact ⟨fuel, _, _, _, r, sendReconnect_mono (Nat.zero_le fuel) hre, hregister⟩

/-- A reconnect that has its socket and the answers for its connect loop registers the listeners
    of the connection before the loop over the others goes on. -/
theorem ReconnectReturns.dialled {as : List (Option Errno)} (hfamily : con.remoteFamily ≠ .unspec)
    (hsocket : os.sockets.head = none) (hdials : Dials 4 os.connects as)
    (hrest : RegisterReturns J (con.listeners ++ ls) { con with fd := some os.nextSock }
      (os.socket.2.dialled as)) : ReconnectReturns J ls con os := by
  obtain ⟨fuel, r, hall⟩ := hrest
  rw [registerRun_append] at hall
  obtain ⟨⟨con₁, os₁⟩, hfirst, hregister⟩ := bind_eq_ok.mp hall
  obtain ⟨more, hre⟩ := sendReconnect_of_dials hfamily hsocket hdials hfirst
  exact ⟨max fuel more, _, _, _, r, sendReconnect_mono (Nat.le_max_right fuel more) hre,
    registerRun_mono (Nat.le_max_left fuel more) hregister⟩

end Steps

/-- **Tasks that can be worked off**, as the loop over some listeners, or as a reconnect and
    the loop over some listeners after it, are a call that returns. -/
theorem Completes.returns {family : AddressFamily} {again ts : List Task} {opened opened' : Bool}
    {net net' : Network} {ds : List (List (Option Errno))}
    (h : Completes family again ts opened net ds opened' net') (con : RtConnection) (os : Os)
    (hfamily : con.remoteFamily = family) (hagain : subscribeTasks J con.listeners = again)
    (hfd : con.fd.isSome = opened) (hnet : os.network = net) :
    (∀ ls, subscribeTasks J ls = ts → RegisterReturns J ls con os) ∧
      ∀ ls, .reconnect :: subscribeTasks J ls = ts → ReconnectReturns J ls con os := by
  -- the next task is of the one kind or of the other
  have hframe : ∀ {ls h p ts}, .reconnect :: subscribeTasks J ls ≠ Task.frame h p :: ts :=
    fun heq => by cases heq
  have hreconnect : ∀ {ls ts}, subscribeTasks J ls ≠ .reconnect :: ts := by
    intro ls ts hls
    obtain ⟨_, _, -, ht, -⟩ := subscribeTasks_cons hls
    cases ht
  induction h generalizing con os with
  | done =>
    refine ⟨fun ls hls => .nil hls con os, fun ls hls => ?_⟩
    cases hls
  | closed _ ih =>
    refine ⟨fun ls hls => .closed hls ?_ fun rest sendBuffer => ?_,
      fun ls hls => absurd hls hframe⟩
    · exact Option.isNone_iff_eq_none.mp (Option.isSome_eq_false_iff.mp hfd)
    · exact (ih (con.begun sendBuffer) os.beginCall.2 hfamily hagain hfd hnet).1 rest
  | kept hkept _ ih =>
    subst hnet
    obtain ⟨sock, hsock⟩ := Option.isSome_iff_exists.mp hfd
    refine ⟨fun ls hls => .kept hls hsock hkept fun rest sendBuffer sent => ?_,
      fun ls hls => absurd hls hframe⟩
    exact (ih (con.begun sendBuffer) (os.after _ sent) hfamily hagain hfd rfl).1 rest
  | lost hlost _ ih =>
    subst hnet
    obtain ⟨sock, hsock⟩ := Option.isSome_iff_exists.mp hfd
    refine ⟨fun ls hls => .lost hls hsock hlost fun rest sendBuffer sent hts => ?_,
      fun ls hls => absurd hls hframe⟩
    exact (ih (con.begun sendBuffer) (os.after _ sent) hfamily hagain hfd rfl).2 rest (by rw [hts])
  | noSocket hspec hsocket _ ih =>
    subst hnet
    refine ⟨fun ls hls => absurd hls hreconnect, fun ls hls => ?_⟩
    injection hls with _ hts
    refine .noSocket (hfamily ▸ hspec) hsocket ?_
    exact (ih { con with fd := none } { os with sockets := os.sockets.tail } hfamily hagain rfl
      rfl).1 ls hts
  | @dialled ts opened opened' net net' ds as hspec hsocket hdials _ ih =>
    subst hnet
    refine ⟨fun ls hls => absurd hls hreconnect, fun ls hls => ?_⟩
    injection hls with _ hts
    have hos : (os.socket.2.dialled as).network = { os.network with
        sockets := os.network.sockets.tail, connects := os.network.connects.drop as.length } := by
      rw [Os.socket, show os.sockets.head = none from hsocket]
      rfl
    refine .dialled (hfamily ▸ hspec) hsocket hdials ?_
    exact (ih { con with fd := some os.nextSock } (os.socket.2.dialled as) hfamily hagain rfl
      hos).1 (con.listeners ++ ls) (by rw [subscribeTasks_append, hagain, hts])

end Runs

end RtMessage
