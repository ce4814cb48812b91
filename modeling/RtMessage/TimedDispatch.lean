import RtMessage.FrameDelivery
import RtMessage.Framing

/- What `rtConnection_TimedDispatch` reports and whom it calls back.

   A delivery searches the listeners for the id of the frame (`deliverFrame_cases`), and
   a call delivers whenever its receive loop ends without an error, which a reconnect
   brings about as well. `timedDispatch_exact_iff` says when the call did what it
   reports. -/
namespace RtMessage
open Lib

/-! The callback. -/

theorem findListener_some {noRoute : Bool} {controlData : UInt32} {ls : List RtListener} {i : Nat}
    (h : (findListener noRoute controlData ls).2 = some i) :
    ∃ l, (findListener noRoute controlData ls).1[i]? = some l ∧ l.inUse = true ∧
      l.subscriptionId = controlData := by
  induction ls generalizing i with
  | nil => cases h
  | cons l rest ih =>
    simp only [findListener] at h ⊢
    generalize (if noRoute = true then { l with subscriptionId := 0 } else l) = l' at h ⊢
    by_cases hl : (l'.inUse && l'.subscriptionId == controlData) = true
    · rw [if_pos hl] at h ⊢
      cases h
      obtain ⟨huse, hid⟩ := Bool.and_eq_true_iff.mp hl
      exact ⟨l', rfl, huse, eq_of_beq hid⟩
    · rw [if_neg hl] at h ⊢
      obtain ⟨j, hj, rfl⟩ := Option.map_eq_some_iff.mp h
      exact ih hj

/-- The connection after the search for the listener of a frame. -/
def RtConnection.searched (con : RtConnection) (hdr : RtMessageHeader) : RtConnection :=
  { con with
    listeners :=
      (findListener (strstr hdr.replyTopic.str noRouteTopic) hdr.controlData con.listeners).1
    listeners_size := by rw [findListener_length, con.listeners_size] }

/-- What a callback does to the connection. -/
def calledBack (J : CJsonLib) (hdr : RtMessageHeader) (p : Bytes) (cb : RtMessageCallback)
    (con : RtConnection) : RtConnection :=
  match cb with
  | .onInboxMessage => onInboxMessage J hdr p con
  | .user _ => con

section Delivery
variable {J : CJsonLib} {hdr : RtMessageHeader} {con : RtConnection} {i : Nat} {l : RtListener}

theorem deliverFrame_none
    (hfound : (findListener (strstr hdr.replyTopic.str noRouteTopic) hdr.controlData
      con.listeners).2 = none) : deliverFrame J hdr con = .ok (con.searched hdr, none) := by
  simp only [deliverFrame, hfound, Option.bind_none]
  rfl

theorem deliverFrame_some
    (hfound : (findListener (strstr hdr.replyTopic.str noRouteTopic) hdr.controlData
      con.listeners).2 = some i)
    (hl : (con.searched hdr).listeners[i]? = some l) {cb : RtMessageCallback}
    (hcb : l.callback = some cb) :
    deliverFrame J hdr con =
      .ok (calledBack J hdr (con.recvBuffer.data.drop hdr.headerLength.toNat) cb (con.searched hdr),
        some ⟨i, cb, hdr, (con.recvBuffer.data.drop hdr.headerLength.toNat).take
          hdr.payloadLength.toNat, hdr.payloadLength⟩) := by
  have hl : (findListener (strstr hdr.replyTopic.str noRouteTopic) hdr.controlData
      con.listeners).1[i]? = some l := hl
  simp only [deliverFrame, hfound, Option.bind_some, hl, Option.map_some, hcb]
  cases cb <;> rfl

theorem deliverFrame_null
    (hfound : (findListener (strstr hdr.replyTopic.str noRouteTopic) hdr.controlData
      con.listeners).2 = some i)
    (hl : (con.searched hdr).listeners[i]? = some l) (hcb : l.callback = none) :
    deliverFrame J hdr con = .error .undefinedBehaviour := by
  have hl : (findListener (strstr hdr.replyTopic.str noRouteTopic) hdr.controlData
      con.listeners).1[i]? = some l := hl
  simp only [deliverFrame, hfound, Option.bind_some, hl, Option.map_some, hcb]

end Delivery

/-- **Every delivery**: no listener was found, or the one that was is called back. -/
theorem deliverFrame_cases {J : CJsonLib} {hdr : RtMessageHeader} {con con' : RtConnection}
    {call : Option CallbackCall} (h : deliverFrame J hdr con = .ok (con', call)) :
    (con' = con.searched hdr ∧ call = none ∧
      (findListener (strstr hdr.replyTopic.str noRouteTopic) hdr.controlData con.listeners).2 =
        none) ∨
    ∃ i l cb,
      (findListener (strstr hdr.replyTopic.str noRouteTopic) hdr.controlData con.listeners).2 =
        some i ∧
      (con.searched hdr).listeners[i]? = some l ∧ l.callback = some cb ∧
      con' = calledBack J hdr (con.recvBuffer.data.drop hdr.headerLength.toNat) cb
        (con.searched hdr) ∧
      call = some ⟨i, cb, hdr, (con.recvBuffer.data.drop hdr.headerLength.toNat).take
        hdr.payloadLength.toNat, hdr.payloadLength⟩ := by
  cases hfound : (findListener (strstr hdr.replyTopic.str noRouteTopic) hdr.controlData
      con.listeners).2 with
  | none =>
    rw [deliverFrame_none hfound] at h
    cases h
    exact .inl ⟨rfl, rfl, rfl⟩
  | some i =>
    obtain ⟨l, hl, -⟩ := findListener_some hfound
    cases hcb : l.callback with
    | none =>
      rw [deliverFrame_null hfound hl hcb] at h
      cases h
    | some cb =>
      rw [deliverFrame_some hfound hl hcb] at h
      cases h
      exact .inr ⟨i, l, cb, rfl, hl, hcb, rfl, rfl⟩

theorem frame_in_buffer {f : Frame} {a b : CArray 8192} (h : a.write 0 (f.bytes ++ [0]) = .ok b) :
    ∃ rest, b.data.drop f.headerLength = f.payload ++ 0 :: rest := by
  have hb := (CArray.write_eq_ok h).2
  rw [List.take_zero, List.nil_append, Frame.bytes, List.append_assoc, List.append_assoc] at hb
  rw [hb, List.drop_left' f.headerBytes_length]
  exact ⟨_, by rw [List.append_assoc]; rfl⟩

/-- A call was made for this frame: its header, its payload and its length. -/
def CallbackCall.Of (call : CallbackCall) (f : Frame) : Prop :=
  call.hdr = f.header ∧ call.buff = f.payload ∧ call.n.toNat = f.payload.length

theorem deliverFrame_call {J : CJsonLib} {f : Frame} {con con' : RtConnection} {rest : Bytes}
    {call : CallbackCall} (hbuf : con.recvBuffer.data.drop f.headerLength = f.payload ++ rest)
    (h : deliverFrame J f.header con = .ok (con', some call)) : call.Of f := by
  rcases deliverFrame_cases h with ⟨-, hnone, -⟩ | ⟨i, l, cb, -, -, -, -, hcall⟩
  · cases hnone
  · cases hcall
    refine ⟨rfl, ?_, f.header_payloadLength⟩
    change (con.recvBuffer.data.drop f.header.headerLength.toNat).take
      f.header.payloadLength.toNat = _
    rw [f.header_headerLength, hbuf, f.header_payloadLength, List.take_left]

/-- The search does not touch which slots are in use, nor their callbacks. -/
theorem findListener_slot {noRoute : Bool} {controlData : UInt32} {ls : List RtListener}
    {l : RtListener} (h : l ∈ (findListener noRoute controlData ls).1) :
    ∃ l₀ ∈ ls, l = l₀ ∨ l = { l₀ with subscriptionId := 0 } := by
  induction ls with
  | nil => simp [findListener] at h
  | cons k rest ih =>
    have hk : (if noRoute = true then { k with subscriptionId := 0 } else k) = k ∨
        (if noRoute = true then { k with subscriptionId := 0 } else k) =
          { k with subscriptionId := 0 } := by
      cases noRoute
      · exact .inl rfl
      · exact .inr rfl
    simp only [findListener] at h
    generalize (if noRoute = true then { k with subscriptionId := 0 } else k) = k' at h hk
    by_cases hfound : (k'.inUse && k'.subscriptionId == controlData) = true
    · rw [if_pos hfound] at h
      rcases List.mem_cons.mp h with rfl | h
      · exact ⟨k, List.mem_cons_self, hk⟩
      · exact ⟨l, List.mem_cons_of_mem _ h, .inl rfl⟩
    · rw [if_neg hfound] at h
      rcases List.mem_cons.mp h with rfl | h
      · exact ⟨k, List.mem_cons_self, hk⟩
      · obtain ⟨l₀, hl₀, hl⟩ := ih h
        exact ⟨l₀, List.mem_cons_of_mem _ hl₀, hl⟩

/-- Every listener in use has a callback. -/
def RtConnection.Callable (con : RtConnection) : Prop :=
  ∀ l ∈ con.listeners, l.inUse = true → l.callback ≠ none

theorem deliverFrame_returns (J : CJsonLib) (hdr : RtMessageHeader) {con : RtConnection}
    (hcall : con.Callable) : ∃ x, deliverFrame J hdr con = .ok x := by
  cases hfound : (findListener (strstr hdr.replyTopic.str noRouteTopic) hdr.controlData
      con.listeners).2 with
  | none => exact ⟨_, deliverFrame_none hfound⟩
  | some i =>
    obtain ⟨l, hl, huse, -⟩ := findListener_some hfound
    obtain ⟨l₀, hl₀, hsame⟩ := findListener_slot (List.mem_of_getElem? hl)
    have hcb : l.callback ≠ none := by
      rcases hsame with rfl | rfl
      · exact hcall l hl₀ huse
      · exact hcall l₀ hl₀ huse
    obtain ⟨cb, hcb⟩ := Option.ne_none_iff_exists'.mp hcb
    exact ⟨_, deliverFrame_some hfound hl hcb⟩

/-! The call. -/

/-- The call did what it reports: success if and only if the frame was read, and a callback
    only then and with that frame. -/
def Dispatched.Exact (f : Frame) (os : Os) (d : Dispatched) : Prop :=
  ∃ evs, d.os.received = os.received ++ evs ∧ (d.err = .ok ↔ ReadFrame f.size evs) ∧
    ∀ call, d.call = some call → ReadFrame f.size evs ∧ call.Of f

/-- A call is its receive loop and, on success, a delivery; the error of the loop is lost. -/
theorem timedDispatch_cases {J : CJsonLib} {fuel : Nat} {con : RtConnection} {os : Os}
    {d : Dispatched} (h : rtConnectionTimedDispatch J fuel con os = .ok d) :
    ∃ r, receiveLoop (sendReconnect J fuel) fuel 4 rtMessageHeaderInit con os = .ok r ∧
      d.err = .ok ∧ d.os = r.os ∧
      (r.err = .ok ∧ deliverFrame J r.hdr r.con = .ok (d.con, d.call) ∨
        r.err ≠ .ok ∧ d.con = r.con ∧ d.call = none) := by
  obtain ⟨r, hr, h⟩ := bind_eq_ok.mp h
  refine ⟨r, hr, ?_⟩
  by_cases herr : r.err = .ok
  · rw [if_pos herr] at h
    obtain ⟨⟨con', call⟩, hd, h⟩ := bind_eq_ok.mp h
    cases h
    exact ⟨rfl, rfl, .inl ⟨herr, hd⟩⟩
  · rw [if_neg herr] at h
    cases h
    exact ⟨rfl, rfl, .inr ⟨herr, rfl, rfl⟩⟩

theorem timedDispatch_of_loop {J : CJsonLib} {fuel : Nat} {con : RtConnection} {os : Os}
    {r : Received} (hr : receiveLoop (sendReconnect J fuel) fuel 4 rtMessageHeaderInit con os = .ok r)
    (herr : r.err = .ok) : rtConnectionTimedDispatch J fuel con os = do
      let (con, call) ← deliverFrame J r.hdr r.con
      return ⟨.ok, con, r.os, call⟩ := by
  change (receiveLoop (sendReconnect J fuel) fuel 4 rtMessageHeaderInit con os >>= _) = _
  rw [hr, ok_bind, if_pos herr]

/-- **A call whose answers deliver the frame** hands it to the search for its listener. -/
theorem timedDispatch_frame {J : CJsonLib} {f : Frame} {rest : Bytes} {con : RtConnection}
    {os : Os} {sock : Nat} {recvs' : Stream' RecvResult} (hfd : con.fd = some sock)
    (hin : os.input sock = f.bytes ++ rest) (hsize : f.size < 8192)
    (hanswers : FrameAnswers f 4 os.recvs recvs') :
    ∃ evs buffer, con.recvBuffer.write 0 (f.bytes ++ [0]) = .ok buffer ∧ ReadFrame f.size evs ∧
      (∀ fuel d, rtConnectionTimedDispatch J fuel con os = .ok d →
        d.err = .ok ∧ d.os = os.consume sock f.size evs recvs' ∧
        deliverFrame J f.header { con with recvBuffer := buffer } = .ok (d.con, d.call)) ∧
      ∀ con' call, deliverFrame J f.header { con with recvBuffer := buffer } = .ok (con', call) →
        ∃ enough, ∀ fuel, enough ≤ fuel → rtConnectionTimedDispatch J fuel con os =
          .ok ⟨.ok, con', os.consume sock f.size evs recvs', call⟩ := by
  obtain ⟨evs, buffer, hw, hread, ⟨enough, hloop⟩, honly⟩ :=
    receiveLoop_frame hanswers hfd hsize os rfl hin
  refine ⟨evs, buffer, hw, hread, fun fuel d h => ?_, fun con' call hd => ⟨enough, fun fuel hf => ?_⟩⟩
  · obtain ⟨r, hr, hok, hos, hend⟩ := timedDispatch_cases h
    obtain rfl := honly _ _ _ hr
    rcases hend with ⟨-, hd⟩ | ⟨hne, -⟩
    · exact ⟨hok, hos, hd⟩
    · exact absurd rfl hne
  · rw [timedDispatch_of_loop (hloop fuel hf _) rfl, hd]
    rfl

theorem timedDispatch_returns (J : CJsonLib) {f : Frame} {rest : Bytes} {con : RtConnection}
    {os : Os} {sock : Nat} {recvs' : Stream' RecvResult} (hfd : con.fd = some sock)
    (hin : os.input sock = f.bytes ++ rest) (hsize : f.size < 8192)
    (hanswers : FrameAnswers f 4 os.recvs recvs') (hcall : con.Callable) :
    ∃ fuel d, rtConnectionTimedDispatch J fuel con os = .ok d := by
  obtain ⟨evs, buffer, -, -, -, hreturns⟩ := timedDispatch_frame (J := J) hfd hin hsize hanswers
  obtain ⟨⟨con', call⟩, hd⟩ := (deliverFrame_returns J f.header hcall :
    ∃ x, deliverFrame J f.header { con with recvBuffer := buffer } = .ok x)
  obtain ⟨enough, hfuel⟩ := hreturns con' call hd
  exact ⟨enough, _, hfuel enough (Nat.le_refl _)⟩

/-- What has arrived on each socket and is unread is whole frames that fit the buffer, each
    with what is known of it, and `recv` is going to deliver them. -/
structure Arriving {α : Type} (frame : α → Frame) (unread : Nat → List α) (os : Os) : Prop where
  input : ∀ sock, os.input sock = (unread sock).flatMap fun a => (frame a).bytes
  size_lt : ∀ sock, ∀ a ∈ unread sock, (frame a).size < 8192
  delivers : Delivers os.recvs

/-- Bytes arrive on a socket. -/
def Os.arrive (os : Os) (sock : Nat) (bs : Bytes) : Os :=
  { os with input := Function.update os.input sock (os.input sock ++ bs) }

section Arriving
variable {α : Type} {frame : α → Frame} {unread : Nat → List α} {os os' : Os}

/-- What does not touch the input and the answers to come leaves what has arrived. -/
theorem Arriving.of_same (h : Arriving frame unread os) (hinput : os'.input = os.input)
    (hrecvs : os'.recvs = os.recvs) : Arriving frame unread os' where
  input := by
    rw [hinput]
    exact h.input
  size_lt := h.size_lt
  delivers := by
    rw [hrecvs]
    exact h.delivers

theorem Arriving.arrive_all (h : Arriving frame unread os) (sock : Nat) {as : List α}
    (hsize : ∀ a ∈ as, (frame a).size < 8192) :
    Arriving frame (Function.update unread sock (unread sock ++ as))
      (os.arrive sock (as.flatMap fun a => (frame a).bytes)) where
  input := by
    intro k
    change Function.update os.input sock _ k = _
    by_cases hk : k = sock
    · subst hk
      rw [Function.update_self, Function.update_self, h.input, List.flatMap_append]
    · rw [Function.update_of_ne hk, Function.update_of_ne hk, h.input]
  size_lt := by
    intro k b hb
    by_cases hk : k = sock
    · subst hk
      rw [Function.update_self] at hb
      cases List.mem_append.mp hb with
      | inl hb => exact h.size_lt k b hb
      | inr hb => exact hsize b hb
    · rw [Function.update_of_ne hk] at hb
      exact h.size_lt k b hb
  delivers := h.delivers

theorem Arriving.arrive (h : Arriving frame unread os) (sock : Nat) {a : α}
    (hsize : (frame a).size < 8192) :
    Arriving frame (Function.update unread sock (unread sock ++ [a]))
      (os.arrive sock (frame a).bytes) := by
  have hone : ∀ b ∈ [a], (frame b).size < 8192 := by
    intro b hb
    rw [List.mem_singleton.mp hb]
    exact hsize
  have hall := h.arrive_all sock hone
  rwa [List.flatMap_singleton] at hall

end Arriving

/-- **Every call where frames arrive**: there is no descriptor and nothing happens, or it reads
    the next frame. -/
theorem Arriving.dispatch {α : Type} {frame : α → Frame} {unread : Nat → List α} {os : Os}
    (h : Arriving frame unread os) {J : CJsonLib} {fuel : Nat} {con : RtConnection} {d : Dispatched}
    (hd : rtConnectionTimedDispatch J fuel con os = .ok d) :
    (con.fd = none ∧ d = ⟨.ok, con, os, none⟩) ∨
    ∃ sock a rest buffer evs recvs', con.fd = some sock ∧ unread sock = a :: rest ∧
      con.recvBuffer.write 0 ((frame a).bytes ++ [0]) = .ok buffer ∧ d.err = .ok ∧
      d.os = os.consume sock (frame a).size evs recvs' ∧
      deliverFrame J (frame a).header { con with recvBuffer := buffer } = .ok (d.con, d.call) ∧
      Arriving frame (Function.update unread sock rest) d.os := by
  rcases Option.eq_none_or_eq_some con.fd with hfd | ⟨sock, hfd⟩
  · obtain ⟨r, hr, hok, hos, hend⟩ := timedDispatch_cases hd
    obtain rfl := receiveLoop_closed hfd hr
    rcases hend with ⟨hne, -⟩ | ⟨-, hcon, hcall⟩
    · cases hne
    · refine .inl ⟨hfd, ?_⟩
      cases d
      cases hok
      cases hos
      cases hcon
      cases hcall
      rfl
  · cases hun : unread sock with
    | nil =>
      obtain ⟨r, hr, -⟩ := timedDispatch_cases hd
      have hin : os.input sock = [] := by rw [h.input, hun, List.flatMap_nil]
      exact absurd hr (receiveLoop_waits hfd hin h.delivers)
    | cons a rest =>
      have hin : os.input sock = (frame a).bytes ++ rest.flatMap fun a => (frame a).bytes := by
        rw [h.input, hun, List.flatMap_cons]
      have hsize := h.size_lt sock a (by rw [hun]; exact List.mem_cons_self)
      obtain ⟨recvs', hanswers, hdelivers⟩ := h.delivers.frame (frame a) 4
      obtain ⟨evs, buffer, hw, -, honly, -⟩ :=
        timedDispatch_frame (J := J) hfd hin hsize hanswers
      obtain ⟨hok, hos, hdeliver⟩ := honly fuel d hd
      refine .inr ⟨sock, a, rest, buffer, evs, recvs', hfd, hun, hw, hok, hos, hdeliver, ?_⟩
      rw [hos]
      -- the frame is off its socket, and the other sockets have what they had
      refine ⟨fun k => ?_, fun k b hb => ?_, hdelivers⟩
      · by_cases hk : k = sock
        · subst hk
          rw [consume_input, hin, Function.update_self, ← (frame a).bytes_length, List.drop_left]
        · rw [Function.update_of_ne hk, ← h.input]
          exact Function.update_of_ne hk ..
      · by_cases hk : k = sock
        · subst hk
          rw [Function.update_self] at hb
          exact h.size_lt k b (by rw [hun]; exact List.mem_cons_of_mem _ hb)
        · rw [Function.update_of_ne hk] at hb
          exact h.size_lt k b hb

/-- **When a call does what it reports**: exactly if there is a descriptor and the answers
    deliver the frame, which leaves room for the NUL behind it. Then the call returns. -/
theorem timedDispatch_exact_iff {J : CJsonLib} {f : Frame} {rest : Bytes} {con : RtConnection}
    {os : Os} (hin : ∀ sock, con.fd = some sock → os.input sock = f.bytes ++ rest)
    (hcall : con.Callable) :
    (∀ fuel d, rtConnectionTimedDispatch J fuel con os = .ok d →
      (d.Exact f os ↔ con.fd ≠ none ∧ f.size < 8192 ∧ ∃ recvs', FrameAnswers f 4 os.recvs recvs')) ∧
    (con.fd ≠ none → f.size < 8192 → (∃ recvs', FrameAnswers f 4 os.recvs recvs') →
      ∃ fuel d, rtConnectionTimedDispatch J fuel con os = .ok d) := by
  refine ⟨fun fuel d h => ?_, ?_⟩
  · obtain ⟨r, hr, hok, hos, hend⟩ := timedDispatch_cases h
    constructor
    · -- a frame was read, so the answers delivered it
      rintro ⟨evs, hevs, hiff, -⟩
      have hread := hiff.mp hok
      rw [hos] at hevs
      cases hfd : con.fd with
      | none =>
        rw [receiveLoop_closed hfd hr, List.self_eq_append_right] at hevs
        subst hevs
        exact absurd hread not_readFrame_nil
      | some sock =>
        exact ⟨by simp, frameAnswers_of_read hfd (hin sock hfd) hr hevs hread⟩
    · -- the answers deliver the frame, so the loop returns it
      rintro ⟨hfd, hsize, recvs', hanswers⟩
      obtain ⟨sock, hfd⟩ := Option.ne_none_iff_exists'.mp hfd
      obtain ⟨evs, buffer, hw, hread, honly, -⟩ :=
        timedDispatch_frame (J := J) hfd (hin sock hfd) hsize hanswers
      obtain ⟨-, hos, hd⟩ := honly fuel d h
      obtain ⟨after, hbuf⟩ := frame_in_buffer hw
      refine ⟨evs, by rw [hos, consume_received], iff_of_true hok hread, fun call hc => ?_⟩
      rw [hc] at hd
      exact ⟨hread, deliverFrame_call hbuf hd⟩
  · rintro hfd hsize ⟨recvs', hanswers⟩
    obtain ⟨sock, hfd⟩ := Option.ne_none_iff_exists'.mp hfd
    exact timedDispatch_returns J hfd (hin sock hfd) hsize hanswers hcall

theorem listeningConnection_callable : listeningConnection.Callable := by
  intro l hl huse
  rcases List.mem_or_eq_of_mem_set hl with hfree | rfl
  · rw [List.eq_of_mem_replicate hfree] at huse
    cases huse
  · simp

/-- The frame of `exampleFrame` has arrived for that listener; `recvs` is what the calls of
    `recv` to come answer. -/
def exampleArrived (recvs : Stream' RecvResult) : Os :=
  { Os.idle (Stream'.const .complete) with
    recvs := recvs, input := fun _ => (exampleFrame.withControlData 1).bytes }

theorem timedDispatch_exact_iff_example : ∃ fuel d,
    rtConnectionTimedDispatch .unused fuel listeningConnection
      (exampleArrived (Stream'.const (.data 8191))) = .ok d ∧
    d.Exact (exampleFrame.withControlData 1) (exampleArrived (Stream'.const (.data 8191))) := by
  have hdelivers : Delivers (Stream'.const (.data 8191)) := fun n => ⟨8191, rfl⟩
  obtain ⟨s', hframe, -⟩ := hdelivers.frame (exampleFrame.withControlData 1) 4
  have hanswers : ∃ recvs', FrameAnswers (exampleFrame.withControlData 1) 4
      (exampleArrived (Stream'.const (.data 8191))).recvs recvs' := ⟨s', hframe⟩
  have hsize : (exampleFrame.withControlData 1).size < 8192 := by
    rw [Frame.withControlData_size]
    decide
  have hin : ∀ sock, listeningConnection.fd = some sock →
      (exampleArrived (Stream'.const (.data 8191))).input sock =
        (exampleFrame.withControlData 1).bytes ++ [] := fun _ _ => (List.append_nil _).symm
  obtain ⟨hiff, hreturns⟩ :=
    timedDispatch_exact_iff (J := .unused) hin listeningConnection_callable
  obtain ⟨fuel, d, hd⟩ := hreturns (by decide) hsize hanswers
  exact ⟨fuel, d, hd, (hiff fuel d hd).mpr ⟨by decide, hsize, hanswers⟩⟩

/-- Two answers with data, and the end of the stream. -/
def cutAnswers : Stream' RecvResult := fun n => if n < 2 then .data 8191 else .eof

theorem listeningConnection_reconnect (fuel : Nat) (os : Os) (recvBuffer : CArray 8192)
    (hsockets : os.sockets = Stream'.const none) (hconnects : os.connects = Stream'.const none)
    (hsends : os.sends = Stream'.const .complete) :
    ∃ x, sendReconnect .unused (fuel+1) { listeningConnection with recvBuffer } os =
      .ok (.ok, x) := by
  let os₁ : Os := { os with sockets := os.sockets.tail, nextSock := os.nextSock + 1
                            connects := os.connects.tail }
  let con₁ : RtConnection := { listeningConnection with fd := some os.nextSock, recvBuffer }
  obtain ⟨sendBuffer, hsend⟩ := sendInternal_complete .unused fuel con₁ subscribeTopic
    (rtMessageToByteArray .unused (subscribeMessage (ascii "A.B") 1)) none 0 os₁ rfl rfl
    (by rw [show os₁.sends = _ from hsends]; rfl) (by rw [show os₁.sends = _ from hsends]; rfl)
  have hfree : ∀ l ∈ List.replicate 63 RtListener.free, l.inUse = false := by
    intro l hl
    rw [List.eq_of_mem_replicate hl]
    rfl
  have hls : listeningConnection.listeners =
      ⟨true, ascii "A.B", 1, some (.user 0)⟩ :: List.replicate 63 .free := rfl
  have hfamily : ({ listeningConnection with recvBuffer } : RtConnection).remoteFamily ≠ .unspec :=
    show listeningConnection.remoteFamily ≠ .unspec by decide
  rw [sendReconnect, connectAndRegister_connected _ fuel hfamily (by rw [hsockets]; rfl)
    (by rw [hconnects]; rfl)]
  change ∃ x, (registerListeners _ listeningConnection.listeners con₁ os₁ >>= _) = _
  rw [hls, registerListeners, if_pos rfl, hsend, ok_bind]
  dsimp only
  rw [registerListeners_free _ _ _ hfree]
  exact ⟨_, rfl⟩

/-- The stream ends behind the header of a frame and the reconnect succeeds: the listener is
    called back for a payload that was not received. -/
theorem timedDispatch_not_exact : ∃ fuel d,
    rtConnectionTimedDispatch .unused fuel listeningConnection (exampleArrived cutAnswers) = .ok d ∧
    d.err = .ok ∧ d.call.isSome ∧
    ¬ d.Exact (exampleFrame.withControlData 1) (exampleArrived cutAnswers) := by
  let f := exampleFrame.withControlData 1
  have hlen : f.headerLength = 31 := by decide
  have hfirst : Fills 4 (exampleArrived cutAnswers).recvs cutAnswers.tail :=
    .once (k := 8191) (by decide) rfl (by decide)
  have hsecond : Fills (f.headerLength - 4) cutAnswers.tail cutAnswers.tail.tail :=
    .once (k := 8191) (by rw [hlen]; decide) rfl (by rw [hlen]; decide)
  -- the header, the end of the stream, and the reconnect
  have hfd : listeningConnection.fd = some 0 := rfl
  have hin : (exampleArrived cutAnswers).input 0 = f.bytes ++ [] := (List.append_nil _).symm
  obtain ⟨evs, buffer, hevs, enough, hattempt⟩ :=
    receiveAttempt_cut hfd hin (by decide) hfirst hsecond rfl
  obtain ⟨⟨con', os'⟩, hre⟩ := listeningConnection_reconnect enough
    ((exampleArrived cutAnswers).consume 0 f.headerLength evs cutAnswers.tail.tail.tail) buffer
    rfl rfl rfl
  have hkeeps := sendReconnect_keeps hre
  have hloop : receiveLoop (sendReconnect .unused (enough+1)) (enough+1) 4 rtMessageHeaderInit
      listeningConnection (exampleArrived cutAnswers) = .ok ⟨.ok, f.header, con', os'⟩ := by
    rw [receiveLoop, hattempt (enough+1) (Nat.le_succ _), ok_bind, reregister_lost rfl, hre, ok_bind]
    rfl
  -- the callback
  have hfound : (findListener (strstr f.header.replyTopic.str noRouteTopic) f.header.controlData
      con'.listeners).2 = some 0 := by
    rw [hkeeps.listeners, f.header_replyTopic_str]
    change (findListener (strstr f.replyTopic.str noRouteTopic) f.header.controlData
      listeningConnection.listeners).2 = some 0
    decide
  have hcallable : con'.Callable := by
    rw [RtConnection.Callable, hkeeps.listeners]
    exact listeningConnection_callable
  obtain ⟨⟨con, call⟩, hd⟩ := deliverFrame_returns .unused f.header hcallable
  have hcalled : call.isSome := by
    rcases deliverFrame_cases hd with ⟨-, -, hnone⟩ | ⟨_, _, _, -, -, -, -, rfl⟩
    · rw [hfound] at hnone
      cases hnone
    · rfl
  refine ⟨enough+1, ⟨.ok, con, os', call⟩, ?_, rfl, hcalled, ?_⟩
  · rw [timedDispatch_of_loop hloop rfl, hd]
    rfl
  · rintro ⟨evs', hevs', hiff, -⟩
    have hsame : [] ++ evs = [] ++ evs' := hkeeps.received.symm.trans hevs'
    rw [List.append_cancel_left_eq] at hsame
    subst hsame
    have hall := readFrame_received (hiff.mp rfl)
    rw [hevs, hlen] at hall
    exact absurd hall (by decide)

end RtMessage
