import RtMessage.Lib.Run
import RtMessage.TimedDispatch

/- The listeners of a connection and their subscription ids.

   A listener is given its id once, by `rtConnection_AddListener`, and the router knows
   it by that id. `ConnectionStep` is what can happen to a connection between two looks
   at its listeners: whatever the system calls answer, the only step that writes an id
   besides the first is the receipt of a reply to a request without a route. -/
namespace RtMessage
open Lib

/-! The search for a listener. -/

theorem findListener_kept (controlData : UInt32) (ls : List RtListener) :
    findListener false controlData ls =
      (ls, ls.findIdx? fun l => l.inUse && l.subscriptionId == controlData) := by
  induction ls with
  | nil => rfl
  | cons l rest ih =>
    rw [findListener, List.findIdx?_cons]
    simp only [Bool.false_eq_true, if_false, ih]
    split <;> rfl

theorem findListener_free (noRoute : Bool) (controlData : UInt32) {ls : List RtListener}
    (h : ∀ l ∈ ls, l.inUse = false) :
    (findListener noRoute controlData ls).2 = none ∧
      ∀ l ∈ (findListener noRoute controlData ls).1, l.inUse = false := by
  constructor
  · cases hfound : (findListener noRoute controlData ls).2 with
    | none => rfl
    | some i =>
      obtain ⟨l, hl, huse, -⟩ := findListener_some hfound
      obtain ⟨l₀, hl₀, rfl | rfl⟩ := findListener_slot (List.mem_of_getElem? hl)
      · rw [h l hl₀] at huse
        cases huse
      · rw [show _ = l₀.inUse from rfl, h l₀ hl₀] at huse
        cases huse
  · intro l hl
    obtain ⟨l₀, hl₀, rfl | rfl⟩ := findListener_slot hl
    · exact h l hl₀
    · exact h l₀ hl₀

/-- The listener in use whose id is searched for is found, if it is the only one. -/
theorem findListener_found {controlData : UInt32} {ls : List RtListener} {i : Nat} {l : RtListener}
    (hl : ls[i]? = some l) (huse : l.inUse = true) (hid : l.subscriptionId = controlData)
    (honly : ∀ (j : Nat) (k : RtListener), ls[j]? = some k → k.inUse = true →
      k.subscriptionId = controlData → j = i) :
    (findListener false controlData ls).2 = some i := by
  have hmatch : ∀ k : RtListener, (k.inUse && k.subscriptionId == controlData) = true ↔
      k.inUse = true ∧ k.subscriptionId = controlData := fun k => by
    rw [Bool.and_eq_true, beq_iff_eq]
  obtain ⟨hi, hget⟩ := List.getElem?_eq_some_iff.mp hl
  rw [findListener_kept, List.findIdx?_eq_some_iff_getElem]
  refine ⟨hi, (hmatch _).mpr ⟨hget ▸ huse, hget ▸ hid⟩, fun j hj hm => ?_⟩
  obtain ⟨huse', hid'⟩ := (hmatch _).mp hm
  exact absurd (honly j _ (List.getElem?_eq_getElem _) huse' hid') (Nat.ne_of_lt hj)

theorem calledBack_listeners (J : CJsonLib) (hdr : RtMessageHeader) (p : Bytes)
    (cb : RtMessageCallback) (con : RtConnection) :
    (calledBack J hdr p cb con).listeners = con.listeners := by
  cases cb with
  | onInboxMessage =>
    rw [calledBack, onInboxMessage]
    split <;> rfl
  | user id => rfl

theorem deliverFrame_listeners {J : CJsonLib} {hdr : RtMessageHeader} {con con' : RtConnection}
    {call : Option CallbackCall} (h : deliverFrame J hdr con = .ok (con', call)) :
    con'.listeners = (findListener (strstr hdr.replyTopic.str noRouteTopic) hdr.controlData
      con.listeners).1 := by
  rcases deliverFrame_cases h with ⟨rfl, -⟩ | ⟨_, _, _, -, -, -, rfl, -⟩
  · rfl
  · rw [calledBack_listeners]
    rfl

/-- A frame that is no reply to a request without a route. -/
def Frame.Routed (f : Frame) : Prop := strstr f.replyTopic.str noRouteTopic = false

theorem searched_routed {f : Frame} (h : f.Routed) (con : RtConnection) :
    con.searched f.header = con := by
  have hfind := findListener_kept f.header.controlData con.listeners
  cases con
  simp only [RtConnection.searched, f.header_replyTopic_str, show strstr _ _ = false from h, hfind]

/-- **A frame that bears the id of a listener** is handed to its callback. -/
theorem deliverFrame_found {J : CJsonLib} {f : Frame} {con con' : RtConnection} {rest : Bytes}
    {call : Option CallbackCall} {i : Nat} {l : RtListener} {cb : RtMessageCallback}
    (h : deliverFrame J f.header con = .ok (con', call))
    (hbuf : con.recvBuffer.data.drop f.headerLength = f.payload ++ rest) (hroute : f.Routed)
    (hl : con.listeners[i]? = some l) (huse : l.inUse = true)
    (hid : l.subscriptionId = f.controlData) (hcb : l.callback = some cb)
    (honly : ∀ (j : Nat) (k : RtListener), con.listeners[j]? = some k → k.inUse = true →
      k.subscriptionId = f.controlData → j = i) :
    con' = calledBack J f.header (f.payload ++ rest) cb con ∧
      call = some ⟨i, cb, f.header, f.payload, f.header.payloadLength⟩ := by
  have hfound : (findListener (strstr f.header.replyTopic.str noRouteTopic) f.header.controlData
      con.listeners).2 = some i := by
    rw [f.header_replyTopic_str, show strstr _ _ = false from hroute]
    exact findListener_found hl huse hid honly
  rcases deliverFrame_cases h with ⟨-, -, hnone⟩ | ⟨j, k, cb', hj, hk, hcb', hcon, hcall⟩
  · cases hfound.symm.trans hnone
  · cases hfound.symm.trans hj
    rw [searched_routed hroute] at hk hcon
    cases hl.symm.trans hk
    cases hcb.symm.trans hcb'
    rw [f.header_headerLength, hbuf] at hcon hcall
    rw [f.header_payloadLength, List.take_left] at hcall
    exact ⟨hcon, hcall⟩

/-! Adding a listener. -/

/-- A call finds no free slot, or puts its listener into the first one, with the next id. -/
theorem addListener_cases {J : CJsonLib} {fuel : Nat} {con : RtConnection} {expression : Bytes}
    {callback : RtMessageCallback} {nextId : UInt32} {os : Os} {r : AddResult}
    (h : rtConnectionAddListener J fuel con expression callback nextId os = .ok r) :
    (con.listeners.findIdx? (fun l => !l.inUse) = none ∧
      r = ⟨.errno .ENOMEM, con, nextId, os⟩) ∨
    ∃ i, con.listeners.findIdx? (fun l => !l.inUse) = some i ∧ r.err = .ok ∧
      r.nextId = nextId + 1 ∧
      r.con.listeners = con.listeners.set i ⟨true, expression, nextId, some callback⟩ := by
  unfold rtConnectionAddListener at h
  split at h
  · next hfree =>
    cases h
    exact .inl ⟨hfree, rfl⟩
  · next i hfree =>
    obtain ⟨⟨e, con', os'⟩, hsend, h⟩ := bind_eq_ok.mp h
    cases h
    exact .inr ⟨i, hfree, rfl, rfl, (sendInternal_keeps hsend).listeners⟩

/-- The connection with a listener put into a slot. -/
def RtConnection.withListener (con : RtConnection) (i : Nat) (l : RtListener) : RtConnection :=
  { con with
    listeners := con.listeners.set i l
    listeners_size := by rw [List.length_set, con.listeners_size] }

theorem addListener_complete (J : CJsonLib) (fuel : Nat) {con : RtConnection}
    {expression : Bytes} (callback : RtMessageCallback) {nextId : UInt32} {os : Os} {i sock : Nat}
    {f : Frame} (hslot : con.listeners.findIdx? (fun l => !l.inUse) = some i)
    (hf : f = sentFrame con subscribeTopic
      (rtMessageToByteArray J (subscribeMessage expression nextId)) none 0)
    (hfd : con.fd = some sock) (hheader : os.sends.head.Full f.headerLength)
    (hpayload : os.sends.tail.head.Full f.payload.length) :
    ∃ sendBuffer, rtConnectionAddListener J (fuel+1) con expression callback nextId os =
      .ok ⟨.ok, { con.withListener i ⟨true, expression, nextId, some callback⟩ with
          sequenceNumber := con.sequenceNumber + 1, sendBuffer }, nextId + 1,
        os.afterFrame sock f⟩ := by
  obtain ⟨sendBuffer, hsend⟩ := sendInternal_complete J fuel
    (con.withListener i ⟨true, expression, nextId, some callback⟩) subscribeTopic
    (rtMessageToByteArray J (subscribeMessage expression nextId)) none 0 os hf hfd hheader hpayload
  refine ⟨sendBuffer, ?_⟩
  unfold rtConnectionAddListener
  simp only [hslot]
  change (rtConnectionSendInternal J (fuel+1)
    (con.withListener i ⟨true, expression, nextId, some callback⟩) subscribeTopic
    (rtMessageToByteArray J (subscribeMessage expression nextId)) none 0 os >>= _) = _
  rw [hsend, ok_bind]
  rfl

theorem openConnection_slot :
    openConnection.listeners.findIdx? (fun l => !l.inUse) = some 0 := by decide

theorem openConnection_adds (J : CJsonLib) (expression : Bytes) (callback : RtMessageCallback)
    (nextId : UInt32) : ∃ r, rtConnectionAddListener J 1 openConnection expression callback nextId
      (.idle (Stream'.const .complete)) = .ok r ∧ r.err = .ok := by
  have hfull : ∀ n, (Os.idle (Stream'.const .complete)).sends.head.Full n := fun n => rfl
  obtain ⟨sendBuffer, hadd⟩ := addListener_complete J 0 callback openConnection_slot rfl
    (show openConnection.fd = some 0 from rfl) (hfull _) (hfull _)
  exact ⟨_, hadd, rfl⟩

/-! Steps. -/

/-- What a step did to the listeners. -/
inductive ConnectionEvent where
  /-- a listener was put into a slot -/
  | added (slot : Nat) (l : RtListener)
  /-- a frame was read and a callback made, or none -/
  | received (f : Frame) (call : Option CallbackCall)
  | other

/-- One call on a connection. The rest of the world may have done anything since the last
    one, so every step has an `Os` of its own, and the process may have given ids to other
    connections. -/
inductive ConnectionStep (J : CJsonLib) (con : RtConnection) :
    ConnectionEvent → RtConnection → Prop where
  | add {fuel slot : Nat} {expression : Bytes} {callback : RtMessageCallback} {nextId : UInt32}
      {os : Os} {r : AddResult}
      (h : rtConnectionAddListener J fuel con expression callback nextId os = .ok r)
      (hslot : con.listeners.findIdx? (fun l => !l.inUse) = some slot) :
      ConnectionStep J con (.added slot
        ⟨true, expression, (rtConnectionGetNextSubscriptionId nextId).1, some callback⟩) r.con
  | full {fuel : Nat} {expression : Bytes} {callback : RtMessageCallback} {nextId : UInt32}
      {os : Os} {r : AddResult}
      (h : rtConnectionAddListener J fuel con expression callback nextId os = .ok r)
      (hfull : con.listeners.findIdx? (fun l => !l.inUse) = none) :
      ConnectionStep J con .other r.con
  | receive {fuel sock : Nat} {f : Frame} {rest : Bytes} {os : Os} {recvs' : Stream' RecvResult}
      {d : Dispatched} (hfd : con.fd = some sock) (hin : os.input sock = f.bytes ++ rest)
      (hsize : f.size < 8192) (hanswers : FrameAnswers f 4 os.recvs recvs')
      (h : rtConnectionTimedDispatch J fuel con os = .ok d) :
      ConnectionStep J con (.received f d.call) d.con
  | send {fuel : Nat} {topic buff : Bytes} {replyTopic : Option Bytes} {flags : UInt32}
      {os os' : Os} {e : RtError} {con' : RtConnection}
      (h : rtConnectionSendInternal J fuel con topic buff replyTopic flags os =
        .ok (e, con', os')) : ConnectionStep J con .other con'
  | connect {fuel : Nat} {os os' : Os} {e : RtError} {con' : RtConnection}
      (h : sendReconnect J fuel con os = .ok (e, con', os')) : ConnectionStep J con .other con'
  /-- a request that was waited for takes its response -/
  | take : ConnectionStep J con .other { con with response := none }

/-- An id is not given a second time while its listener is there, and a reply to a request
    without a route comes only before the first listener. -/
def ConnectionEvent.Allowed (con : RtConnection) : ConnectionEvent → Prop
  | .added _ l => ∀ k ∈ con.listeners, k.inUse = true → k.subscriptionId ≠ l.subscriptionId
  | .received f _ => strstr f.replyTopic.str noRouteTopic = true →
      ∀ k ∈ con.listeners, k.inUse = false
  | .other => True

/-- The slots in use hold what was put into them, each under an id of its own. -/
structure Registered (es : List ConnectionEvent) (con : RtConnection) : Prop where
  callable : con.Callable
  slots : ∀ (i : Nat) (l : RtListener),
    con.listeners[i]? = some l ∧ l.inUse = true ↔ .added i l ∈ es
  ids : ∀ (i j : Nat) (l k : RtListener), con.listeners[i]? = some l →
    con.listeners[j]? = some k → l.inUse = true → k.inUse = true →
    l.subscriptionId = k.subscriptionId → i = j

namespace Registered
variable {J : CJsonLib} {es : List ConnectionEvent} {con con' : RtConnection}

theorem init (family : AddressFamily) (inbox : Bytes) :
    Registered [] (rtConnectionInit family inbox) := by
  have hfree : ∀ (i : Nat) (l : RtListener),
      (rtConnectionInit family inbox).listeners[i]? = some l → l.inUse = false := by
    intro i l hl
    rw [List.eq_of_mem_replicate (List.mem_of_getElem? hl)]
    rfl
  refine ⟨fun l hl huse => ?_, fun i l => ⟨fun ⟨hl, huse⟩ => ?_, fun hmem => by simp at hmem⟩, ?_⟩
  · obtain ⟨i, hl⟩ := List.getElem?_of_mem hl
    rw [hfree i l hl] at huse
    cases huse
  · rw [hfree i l hl] at huse
    cases huse
  · intro i j l k hl _ huse
    rw [hfree i l hl] at huse
    cases huse

theorem kept (h : Registered es con) (hls : con'.listeners = con.listeners) {e : ConnectionEvent}
    (he : ∀ i l, e ≠ .added i l) : Registered (es ++ [e]) con' := by
  refine ⟨by rw [RtConnection.Callable, hls]; exact h.callable, fun i l => ?_,
    by rw [hls]; exact h.ids⟩
  have hmem : .added i l ∈ es ++ [e] ↔ .added i l ∈ es := by
    rw [List.mem_append, List.mem_singleton, or_iff_left (fun heq => he i l heq.symm)]
  rw [hls, h.slots, hmem]

theorem added (h : Registered es con) {slot : Nat} {l : RtListener}
    (hslot : con.listeners.findIdx? (fun l => !l.inUse) = some slot) (huse : l.inUse = true)
    (hcb : l.callback ≠ none)
    (hls : con'.listeners = con.listeners.set slot l)
    (hfresh : ∀ k ∈ con.listeners, k.inUse = true → k.subscriptionId ≠ l.subscriptionId) :
    Registered (es ++ [.added slot l]) con' := by
  obtain ⟨hlt, hfree, -⟩ := List.findIdx?_eq_some_iff_getElem.mp hslot
  have hfree : ∀ k : RtListener, con.listeners[slot]? = some k → k.inUse = true → False := by
    intro k hk hkuse
    obtain ⟨_, rfl⟩ := List.getElem?_eq_some_iff.mp hk
    simp [hkuse] at hfree
  have hget : ∀ i : Nat, con'.listeners[i]? = if slot = i then some l else con.listeners[i]? := by
    intro i
    rw [hls, List.getElem?_set]
    by_cases hi : slot = i
    · subst hi
      rw [if_pos rfl, if_pos rfl, if_pos hlt]
    · rw [if_neg hi, if_neg hi]
  refine ⟨fun k hk hkuse => ?_, ?_, ?_⟩
  · rw [hls] at hk
    rcases List.mem_or_eq_of_mem_set hk with hk | rfl
    · exact h.callable k hk hkuse
    · exact hcb
  · -- the slot has the listener that was added, the others what they had
    intro i k
    rw [hget, List.mem_append, List.mem_singleton, ← h.slots]
    by_cases hi : slot = i
    · subst hi
      rw [if_pos rfl]
      constructor
      · rintro ⟨hk, -⟩
        cases hk
        exact .inr rfl
      · rintro (⟨hk, hkuse⟩ | hk)
        · exact absurd hkuse (fun hkuse => hfree k hk hkuse)
        · cases hk
          exact ⟨rfl, huse⟩
    · rw [if_neg hi]
      constructor
      · exact .inl
      · rintro (hk | hk)
        · exact hk
        · cases hk
          exact absurd rfl hi
  · -- no two slots share an id: the new one is nobody's
    intro i j k k' hk hk' hkuse hkuse' hid
    rw [hget] at hk hk'
    by_cases hi : slot = i <;> by_cases hj : slot = j
    · exact hi.symm.trans hj
    · rw [if_pos hi] at hk
      rw [if_neg hj] at hk'
      cases hk
      exact absurd hid.symm (hfresh k' (List.mem_of_getElem? hk') hkuse')
    · rw [if_neg hi] at hk
      rw [if_pos hj] at hk'
      cases hk'
      exact absurd hid (hfresh k (List.mem_of_getElem? hk) hkuse)
    · rw [if_neg hi] at hk
      rw [if_neg hj] at hk'
      exact h.ids i j k k' hk hk' hkuse hkuse' hid

theorem received (h : Registered es con) {hdr : RtMessageHeader} {buffer : CArray 8192}
    {call call' : Option CallbackCall} {f : Frame} (hreply : hdr.replyTopic.str = f.replyTopic.str)
    (hd : deliverFrame J hdr { con with recvBuffer := buffer } = .ok (con', call))
    (hallowed : ConnectionEvent.Allowed con (.received f call')) :
    Registered (es ++ [.received f call']) con' := by
  have hls := deliverFrame_listeners hd
  rw [hreply] at hls
  cases hnoRoute : strstr f.replyTopic.str noRouteTopic with
  | false =>
    rw [hnoRoute, findListener_kept] at hls
    exact h.kept hls (fun _ _ => by simp)
  | true =>
    obtain ⟨-, hfree'⟩ := findListener_free true hdr.controlData (hallowed hnoRoute)
    rw [hnoRoute] at hls
    have hnone : ∀ (i : Nat) (l : RtListener),
        con'.listeners[i]? = some l → l.inUse = true → False := by
      intro i l hl huse
      rw [hls] at hl
      rw [hfree' l (List.mem_of_getElem? hl)] at huse
      cases huse
    refine ⟨fun l hl huse => ?_,
      fun i l => ⟨fun ⟨hl, huse⟩ => absurd huse (fun huse => hnone i l hl huse), ?_⟩, ?_⟩
    · obtain ⟨i, hl⟩ := List.getElem?_of_mem hl
      exact absurd huse (fun huse => hnone i l hl huse)
    · intro hmem
      rw [List.mem_append, List.mem_singleton, or_iff_left (by simp), ← h.slots] at hmem
      rw [hallowed hnoRoute l (List.mem_of_getElem? hmem.1)] at hmem
      cases hmem.2
    · intro i j l k hl _ huse
      exact absurd huse (fun huse => hnone i l hl huse)

theorem step (h : Registered es con) {e : ConnectionEvent} (hstep : ConnectionStep J con e con')
    (hallowed : e.Allowed con) : Registered (es ++ [e]) con' := by
  cases hstep with
  | add hadd hslot =>
    rcases addListener_cases hadd with ⟨hnone, -⟩ | ⟨i, hi, -, -, hls⟩
    · cases hslot.symm.trans hnone
    · cases hi.symm.trans hslot
      exact h.added hslot rfl (Option.some_ne_none _) hls hallowed
  | full hadd hfull =>
    rcases addListener_cases hadd with ⟨-, rfl⟩ | ⟨i, hi, -⟩
    · exact h.kept rfl (by simp)
    · cases hi.symm.trans hfull
  | @receive fuel sock f rest os recvs' d hfd hin hsize hanswers hd =>
    obtain ⟨evs, buffer, -, -, honly, -⟩ := timedDispatch_frame (J := J) hfd hin hsize hanswers
    obtain ⟨-, -, hdeliver⟩ := honly fuel d hd
    exact h.received f.header_replyTopic_str hdeliver hallowed
  | send hsend => exact h.kept (sendInternal_keeps hsend).listeners (by simp)
  | connect hre => exact h.kept (sendReconnect_keeps hre).listeners (by simp)
  | take =>
    refine h.kept ?_ (by simp)
    rfl

theorem called (h : Registered es con) {f : Frame} {call : Option CallbackCall}
    (hstep : ConnectionStep J con (.received f call) con')
    (hallowed : ConnectionEvent.Allowed con (.received f call)) {i : Nat} {l : RtListener}
    {cb : RtMessageCallback} (hmem : .added i l ∈ es) (hcb : l.callback = some cb)
    (hid : l.subscriptionId = f.controlData) :
    call = some ⟨i, cb, f.header, f.payload, f.header.payloadLength⟩ := by
  obtain ⟨hl, huse⟩ := (h.slots i l).mpr hmem
  have hroute : f.Routed := by
    rw [Frame.Routed, Bool.eq_false_iff]
    intro htrue
    rw [hallowed htrue l (List.mem_of_getElem? hl)] at huse
    cases huse
  cases hstep with
  | @receive fuel sock _ rest os recvs' d hfd hin hsize hanswers hd =>
    obtain ⟨evs, buffer, hw, -, honly, -⟩ := timedDispatch_frame (J := J) hfd hin hsize hanswers
    obtain ⟨-, -, hdeliver⟩ := honly fuel d hd
    obtain ⟨after, hbuf⟩ := frame_in_buffer hw
    exact (deliverFrame_found hdeliver hbuf hroute hl huse hid hcb fun j k hk hkuse hkid =>
      h.ids j i k l hk hl hkuse huse (hkid.trans hid.symm)).2

end Registered

end RtMessage
