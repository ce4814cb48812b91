import RtMessage.Requests
import RtMessage.Routing
import RtMessage.DataProvider.Answers

/- `dmProviderHostImpl::run`: the thread of a host, which dispatches its connection for ever.

   Frames of any kind may arrive. The requests among them that bear the id of a provider's
   listener are answered one after the other, each by the providers as the ones before have left
   them; the thread survives them exactly if it can read all of them (`host_answers_in_order`). -/
namespace RtMessage
open Lib

/-- The listener that a frame is for. -/
def RtConnection.listenerFor (con : RtConnection) (f : Frame) : Option RtListener :=
  con.listeners.find? fun l => l.inUse && l.subscriptionId == f.controlData

def RtListener.isUser (l : RtListener) : Bool :=
  match l.callback with
  | some (.user _) => true
  | _ => false

/-- The frame is a request for one of the host's listeners. -/
def RtConnection.takesRequest (con : RtConnection) (f : Frame) : Bool :=
  rtMessageHeaderIsRequest f.header && (con.listenerFor f).any (·.isUser)

/-! A delivery. -/

section Delivery
variable {J : CJsonLib} {f : Frame} {con con' : RtConnection} {rest : Bytes}
  {call : Option CallbackCall}

theorem takesRequest_congr {con con' : RtConnection} (h : con'.listeners = con.listeners) :
    con'.takesRequest = con.takesRequest := by
  funext f
  rw [RtConnection.takesRequest, RtConnection.takesRequest, RtConnection.listenerFor,
    RtConnection.listenerFor, h]

theorem listenerFor_eq (con : RtConnection) (f : Frame) :
    con.listenerFor f =
      (findListener false f.controlData con.listeners).2.bind fun i => con.listeners[i]? := by
  rw [findListener_kept]
  exact List.find?_eq_bind_findIdx?_getElem?

theorem deliverFrame_listenerFor (hroute : f.Routed)
    (hbuf : con.recvBuffer.data.drop f.headerLength = f.payload ++ rest)
    (h : deliverFrame J f.header con = .ok (con', call)) :
    (con.listenerFor f = none ∧ con' = con ∧ call = none) ∨
    ∃ i l cb, con.listenerFor f = some l ∧ l.callback = some cb ∧
      con' = calledBack J f.header (f.payload ++ rest) cb con ∧
      call = some ⟨i, cb, f.header, f.payload, f.header.payloadLength⟩ := by
  have hnoRoute : strstr f.header.replyTopic.str noRouteTopic = false := by
    rw [f.header_replyTopic_str]
    exact hroute
  have hsearched := searched_routed hroute con
  obtain ⟨hcon, hcall, hnone⟩ | ⟨i, l, cb, hi, hl, hcb, hcon, hcall⟩ := deliverFrame_cases h
  · rw [hsearched] at hcon
    rw [hnoRoute] at hnone
    refine .inl ⟨?_, hcon, hcall⟩
    rw [listenerFor_eq]
    exact congrArg (Option.bind · _) hnone
  · rw [hsearched] at hl hcon
    rw [hnoRoute] at hi
    rw [f.header_headerLength, hbuf] at hcon hcall
    rw [f.header_payloadLength, List.take_left] at hcall
    refine .inr ⟨i, l, cb, ?_, hcb, hcon, hcall⟩
    rw [listenerFor_eq]
    exact (congrArg (Option.bind · _) hi).trans hl

theorem calledBack_keeps (J : CJsonLib) (hdr : RtMessageHeader) (p : Bytes)
    (cb : RtMessageCallback) (con : RtConnection) :
    (calledBack J hdr p cb con).fd = con.fd ∧
    (calledBack J hdr p cb con).listeners = con.listeners ∧
    (calledBack J hdr p cb con).sequenceNumber = con.sequenceNumber := by
  cases cb with
  | onInboxMessage =>
    rw [calledBack, onInboxMessage]
    split <;> exact ⟨rfl, rfl, rfl⟩
  | user id => exact ⟨rfl, rfl, rfl⟩

end Delivery

end RtMessage

namespace RtMessage.DataProvider
open Lib

/-- A host, `m_con` and the system. -/
structure HostProcess (σ : Type) where
  host : DmProviderHost σ
  con : RtConnection
  os : Os

section Source
variable {σ : Type}

/-- A turn of `while (true)`. The listeners that a host adds have `requestHandler` for their
    callback. -/
def dmProviderHostImplTurn (J : CJsonLib) (F : FloatText) (fuel : Nat) (s : HostProcess σ) :
    Except Fault (HostProcess σ) := do
  let d ← rtConnectionTimedDispatch J fuel s.con s.os
  match d.call with
  | some ⟨_, .user _, hdr, buff, _⟩ =>
    let (host, con, os) ← dmProviderHostImplRequestHandler J F fuel s.host hdr buff d.con d.os
    .ok ⟨host, con, os⟩
  | _ => .ok ⟨s.host, d.con, d.os⟩

/-- The first turns of the loop. -/
def dmProviderHostImplRun (J : CJsonLib) (F : FloatText) (fuel : Nat) :
    Nat → HostProcess σ → Except Fault (HostProcess σ)
  | 0, s => .ok s
  | n+1, s => do dmProviderHostImplRun J F fuel n (← dmProviderHostImplTurn J F fuel s)

end Source

/-- The response to `f` that is the `n`-th frame of a connection. -/
def answerFrame (J : CJsonLib) (F : FloatText) (n : UInt32) (f : Frame) (result : DmQueryResult) :
    Frame :=
  { sentFrame openConnection f.replyTopic.str
      (rtMessageToByteArray J (encodeResult F rtMessageCreate result)) (some f.topic.str)
      rtMessageFlagsResponse with sequenceNumber := n }

/-- The frames `gs` answer the requests `fs`, and leave the host as it is then. They are numbered
    from `n` on. -/
inductive AnsweredBy {σ : Type} (J : CJsonLib) (F : FloatText) :
    DmProviderHost σ → UInt32 → List Frame → List Frame → DmProviderHost σ → UInt32 → Prop where
  | nil {host : DmProviderHost σ} {n : UInt32} : AnsweredBy J F host n [] [] host n
  | cons {host host' : DmProviderHost σ} {n n' : UInt32} {f : Frame} {fs gs : List Frame}
      {req : CJson} {out : Handled σ} (hparse : rtMessageFromBytes J f.payload = some req)
      (hout : host.requestHandler req = .ok out)
      (hrest : AnsweredBy J F out.host (n + 1) fs gs host' n') :
      AnsweredBy J F host n (f :: fs) (answerFrame J F n f out.result :: gs) host' n'

/-! A turn. -/

/-- The frames that are unread on the connection of a host. -/
structure HostProcess.Waiting {σ : Type} (sock : Nat) (rest : Bytes) (fs : List Frame)
    (s : HostProcess σ) : Prop where
  fd : s.con.fd = some sock
  callable : s.con.Callable
  takes : Takes s.os.sends
  delivers : Delivers s.os.recvs
  input : s.os.input sock = fs.flatMap Frame.bytes ++ rest

section Turn
variable {σ : Type} {J : CJsonLib} {F : FloatText} {host : DmProviderHost σ} {f : Frame}
  {con : RtConnection} {os : Os} {sock : Nat}

theorem requestHandler_sends (hfd : con.fd = some sock) (htakes : Takes os.sends)
    (hreq : rtMessageHeaderIsRequest f.header = true) {req : CJson}
    (hparse : rtMessageFromBytes J f.payload = some req) {out : Handled σ}
    (hout : host.requestHandler req = .ok out) :
    ∃ sendBuffer, ∀ fuel,
      dmProviderHostImplRequestHandler J F (fuel+1) host f.header f.payload con os =
        .ok (out.host, { con with sequenceNumber := con.sequenceNumber + 1, sendBuffer },
          os.afterFrame sock (answerFrame J F con.sequenceNumber f out.result)) := by
  have hframe : answerFrame J F con.sequenceNumber f out.result =
      sentFrame con f.header.replyTopic.str
        (rtMessageToByteArray J (encodeResult F rtMessageCreate out.result))
        (some f.header.topic.str) rtMessageFlagsResponse := by
    rw [f.header_replyTopic_str, f.header_topic_str]
    rfl
  obtain ⟨sendBuffer, hsend⟩ := sendInternal_whole J con f.header.replyTopic.str
    (rtMessageToByteArray J (encodeResult F rtMessageCreate out.result))
    (some f.header.topic.str) rtMessageFlagsResponse os hframe hfd
    (by rw [show os.sends.head = .complete from htakes 0]; rfl)
    (by rw [show os.sends.tail.head = .complete from htakes 1]; rfl)
  refine ⟨sendBuffer, fun fuel => ?_⟩
  rw [handler_eq hreq hparse hout, rtConnectionSendResponse, hsend, ok_bind]

theorem requestHandler_reads {fuel : Nat} {x : DmProviderHost σ × RtConnection × Os}
    (hreq : rtMessageHeaderIsRequest f.header = true)
    (h : dmProviderHostImplRequestHandler J F fuel host f.header f.payload con os = .ok x) :
    ∃ req out fuel', rtMessageFromBytes J f.payload = some req ∧
      host.requestHandler req = .ok out ∧ fuel = fuel' + 1 := by
  have hrun := h
  rw [dmProviderHostImplRequestHandler, hreq, if_neg (by decide)] at hrun
  cases hparse : rtMessageFromBytes J f.payload with
  | none =>
    rw [hparse] at hrun
    cases hrun
  | some req =>
    rw [hparse] at hrun
    obtain ⟨out, hout, -⟩ := bind_eq_ok.mp hrun
    rw [handler_eq hreq hparse hout] at h
    cases fuel with
    | zero => cases h
    | succ fuel => exact ⟨req, out, fuel, rfl, hout, rfl⟩

/-- The dispatch of a host's connection reads the next frame, and calls the request handler if the
    frame is for one of its listeners. -/
theorem HostProcess.Waiting.dispatch {s : HostProcess σ} {rest : Bytes} {fs : List Frame}
    (h : s.Waiting sock rest (f :: fs)) (J : CJsonLib) (hsize : f.size < 8192) (hroute : f.Routed) :
    ∃ con' os' call, HostProcess.Waiting sock rest fs ⟨s.host, con', os'⟩ ∧
      con'.listeners = s.con.listeners ∧ con'.sequenceNumber = s.con.sequenceNumber ∧
      os'.sent = s.os.sent ∧
      (((s.con.listenerFor f).any (·.isUser) = true ∧
          ∃ i k n, call = some ⟨i, .user k, f.header, f.payload, n⟩) ∨
        ((s.con.listenerFor f).any (·.isUser) = false ∧
          ∀ i k hdr buff n, call ≠ some ⟨i, .user k, hdr, buff, n⟩)) ∧
      (∀ fuel d, rtConnectionTimedDispatch J fuel s.con s.os = .ok d →
        d.con = con' ∧ d.os = os' ∧ d.call = call) ∧
      ∃ enough, ∀ fuel, enough ≤ fuel →
        rtConnectionTimedDispatch J fuel s.con s.os = .ok ⟨.ok, con', os', call⟩ := by
  have hin : s.os.input sock = f.bytes ++ (fs.flatMap Frame.bytes ++ rest) := by
    rw [h.input, List.flatMap_cons, List.append_assoc]
  obtain ⟨recvs', hanswers, hdelivers⟩ := h.delivers.frame f 4
  obtain ⟨evs, buffer, hw, -, honly, hreturns⟩ :=
    timedDispatch_frame (J := J) h.fd hin hsize hanswers
  obtain ⟨⟨con', call⟩, hd⟩ := (deliverFrame_returns J f.header h.callable :
    ∃ x, deliverFrame J f.header { s.con with recvBuffer := buffer } = .ok x)
  obtain ⟨after, hbuf⟩ := frame_in_buffer hw
  -- whoever is called back, the connection keeps its descriptor and its listeners
  have hkeeps : con'.fd = s.con.fd ∧ con'.listeners = s.con.listeners ∧
      con'.sequenceNumber = s.con.sequenceNumber := by
    obtain ⟨-, rfl, -⟩ | ⟨_, _, cb, -, -, rfl, -⟩ := deliverFrame_listenerFor hroute hbuf hd
    · exact ⟨rfl, rfl, rfl⟩
    · exact calledBack_keeps J _ _ cb _
  refine ⟨con', s.os.consume sock f.size evs recvs', call, ?_, hkeeps.2.1, hkeeps.2.2, rfl, ?_, ?_,
    hreturns con' call hd⟩
  · refine ⟨hkeeps.1.trans h.fd, ?_, h.takes, hdelivers, ?_⟩
    · rw [RtConnection.Callable, hkeeps.2.1]
      exact h.callable
    · rw [consume_input, hin, ← f.bytes_length, List.drop_left]
  · obtain ⟨hnone, -, rfl⟩ | ⟨i, l, cb, hl, hcb, -, rfl⟩ := deliverFrame_listenerFor hroute hbuf hd
    · have hnone : s.con.listenerFor f = none := hnone
      rw [hnone]
      exact .inr ⟨rfl, fun _ _ _ _ _ heq => by cases heq⟩
    · have hl : s.con.listenerFor f = some l := hl
      rw [hl, Option.any_some, RtListener.isUser, hcb]
      cases cb with
      | onInboxMessage => exact .inr ⟨rfl, fun _ _ _ _ _ heq => by cases heq⟩
      | user k => exact .inl ⟨rfl, i, k, _, rfl⟩
  · intro fuel d hdispatch
    obtain ⟨-, hos, hdeliver⟩ := honly fuel d hdispatch
    cases hd.symm.trans hdeliver
    exact ⟨rfl, hos, rfl⟩

/-- A frame that is not for the handler, or no request, is read and nothing else. -/
theorem turn_ignores {s : HostProcess σ} {fuel : Nat} {d : Dispatched}
    (hd : rtConnectionTimedDispatch J fuel s.con s.os = .ok d)
    (hcall : (∀ i k hdr buff n, d.call ≠ some ⟨i, .user k, hdr, buff, n⟩) ∨
      rtMessageHeaderIsRequest f.header = false ∧
        ∃ i k n, d.call = some ⟨i, .user k, f.header, f.payload, n⟩) :
    dmProviderHostImplTurn J F fuel s = .ok ⟨s.host, d.con, d.os⟩ := by
  rw [dmProviderHostImplTurn, hd, ok_bind]
  obtain hnone | ⟨hreq, i, k, n, hcall⟩ := hcall
  · split
    · next i k hdr buff n heq => exact absurd heq (hnone i k hdr buff n)
    · rfl
  · rw [hcall]
    dsimp only
    rw [dmProviderHostImplRequestHandler, hreq]
    rfl

theorem turn_handles {s : HostProcess σ} {fuel i k : Nat} {n : UInt32} {d : Dispatched}
    (hd : rtConnectionTimedDispatch J fuel s.con s.os = .ok d)
    (hcall : d.call = some ⟨i, .user k, f.header, f.payload, n⟩) :
    dmProviderHostImplTurn J F fuel s =
      dmProviderHostImplRequestHandler J F fuel s.host f.header f.payload d.con d.os >>=
        fun x => .ok ⟨x.1, x.2.1, x.2.2⟩ := by
  rw [dmProviderHostImplTurn, hd, ok_bind, hcall]

/-- What a turn has made of the frame `f`: its answers, if it is a request for the host. -/
structure HostProcess.Served (J : CJsonLib) (F : FloatText) (sock : Nat) (s : HostProcess σ)
    (fs gs : List Frame) (s' : HostProcess σ) : Prop where
  listeners : s'.con.listeners = s.con.listeners
  answered : AnsweredBy J F s.host s.con.sequenceNumber (fs.filter s.con.takesRequest) gs s'.host
    s'.con.sequenceNumber
  sent : ∀ k, wire k s'.os.sent =
    wire k s.os.sent ++ if k = sock then gs.flatMap Frame.bytes else []

/-- **A turn of the loop** reads the next frame and answers it if it is a request for the host. It
    returns unless that is a request which cannot be read. -/
theorem HostProcess.Waiting.turn {s : HostProcess σ} {rest : Bytes} {fs : List Frame}
    (h : s.Waiting sock rest (f :: fs)) (J : CJsonLib) (F : FloatText) (hsize : f.size < 8192)
    (hroute : f.Routed) :
    (∀ fuel s', dmProviderHostImplTurn J F fuel s = .ok s' → s'.Waiting sock rest fs ∧
      (s.con.takesRequest f = true → Readable J f.payload) ∧ ∃ gs, s.Served J F sock [f] gs s') ∧
    ((s.con.takesRequest f = true → Readable J f.payload) → ∃ s' enough, ∀ fuel, enough ≤ fuel →
      dmProviderHostImplTurn J F fuel s = .ok s') := by
  obtain ⟨con', os', call, hwaiting, hlisteners, hnumber, hsent, hcall, honly, enough,
    hdispatch⟩ := h.dispatch J hsize hroute
  -- a turn that ignores the frame
  have hignored : s.con.takesRequest f = false → ∀ s' : HostProcess σ, s' = ⟨s.host, con', os'⟩ →
      s.Served J F sock [f] [] s' := by
    rintro htakes s' rfl
    refine ⟨hlisteners, ?_, fun k => ?_⟩
    · rw [List.filter_cons, htakes, ← hnumber]
      exact .nil
    · rw [hsent]
      simp
  obtain ⟨hany, i, k, n, rfl⟩ | ⟨hany, hnone⟩ := hcall
  · cases hreq : rtMessageHeaderIsRequest f.header with
    | false =>
      have htakes : s.con.takesRequest f = false := by rw [RtConnection.takesRequest, hreq]; rfl
      constructor
      · intro fuel s' hturn
        obtain ⟨d, hd, -⟩ := bind_eq_ok.mp hturn
        obtain ⟨rfl, rfl, hc⟩ := honly fuel d hd
        rw [turn_ignores hd (.inr ⟨hreq, i, k, n, hc⟩)] at hturn
        cases hturn
        exact ⟨hwaiting, fun ht => (by cases htakes.symm.trans ht), [],
          hignored htakes _ rfl⟩
      · exact fun _ => ⟨_, enough, fun fuel hfuel =>
          turn_ignores (hdispatch fuel hfuel) (.inr ⟨hreq, i, k, n, rfl⟩)⟩
    | true =>
      have htakes : s.con.takesRequest f = true := by
        rw [RtConnection.takesRequest, hreq, hany]
        rfl
      constructor
      · intro fuel s' hturn
        obtain ⟨d, hd, -⟩ := bind_eq_ok.mp hturn
        obtain ⟨rfl, rfl, hc⟩ := honly fuel d hd
        rw [turn_handles hd hc] at hturn
        obtain ⟨x, hx, hturn⟩ := bind_eq_ok.mp hturn
        obtain ⟨req, out, fuel', hparse, hout, rfl⟩ := requestHandler_reads hreq hx
        obtain ⟨sendBuffer, hhandled⟩ :=
          requestHandler_sends (F := F) hwaiting.fd hwaiting.takes hreq hparse hout
        cases (hhandled fuel').symm.trans hx
        cases hturn
        have hreadable : Readable J f.payload :=
          ⟨req, hparse, (requestHandler_ok_iff s.host req).mp ⟨out, hout⟩⟩
        refine ⟨⟨hwaiting.fd, hwaiting.callable, hwaiting.takes.tail.tail, hwaiting.delivers,
          hwaiting.input⟩, fun _ => hreadable,
          [answerFrame J F d.con.sequenceNumber f out.result], hlisteners, ?_, fun k => ?_⟩
        · rw [List.filter_cons, if_pos htakes, ← hnumber]
          exact .cons hparse hout .nil
        · rw [wire_afterFrame (hwaiting.takes 0) (hwaiting.takes 1), hsent, List.flatMap_singleton]
          simp only [eq_comm]
      · intro hread
        obtain ⟨req, hparse, hdecodable⟩ := hread htakes
        obtain ⟨out, hout⟩ := (requestHandler_ok_iff s.host req).mpr hdecodable
        obtain ⟨sendBuffer, hhandled⟩ :=
          requestHandler_sends (F := F) hwaiting.fd hwaiting.takes hreq hparse hout
        let con₁ : RtConnection :=
          { con' with sequenceNumber := con'.sequenceNumber + 1, sendBuffer }
        let os₁ := os'.afterFrame sock (answerFrame J F con'.sequenceNumber f out.result)
        refine ⟨⟨out.host, con₁, os₁⟩, enough + 1, fun fuel hfuel => ?_⟩
        obtain ⟨fuel, rfl⟩ : ∃ m, fuel = m + 1 := ⟨fuel - 1, by omega⟩
        rw [turn_handles (hdispatch _ (by omega)) rfl, hhandled fuel, ok_bind]
  · have htakes : s.con.takesRequest f = false := by
      rw [RtConnection.takesRequest, hany, Bool.and_false]
    constructor
    · intro fuel s' hturn
      obtain ⟨d, hd, -⟩ := bind_eq_ok.mp hturn
      obtain ⟨rfl, rfl, rfl⟩ := honly fuel d hd
      rw [turn_ignores (f := f) hd (.inl hnone)] at hturn
      cases hturn
      exact ⟨hwaiting, fun ht => (by cases htakes.symm.trans ht), [],
          hignored htakes _ rfl⟩
    · exact fun _ => ⟨_, enough, fun fuel hfuel =>
        turn_ignores (f := f) (hdispatch fuel hfuel) (.inl hnone)⟩

end Turn

/-! The loop. -/

section Loop
variable {σ : Type} {J : CJsonLib} {F : FloatText} {sock : Nat} {rest : Bytes}

theorem AnsweredBy.append {host host₁ host' : DmProviderHost σ} {n n₁ n' : UInt32}
    {fs gs fs' gs' : List Frame} (h : AnsweredBy J F host n fs gs host₁ n₁)
    (h' : AnsweredBy J F host₁ n₁ fs' gs' host' n') :
    AnsweredBy J F host n (fs ++ fs') (gs ++ gs') host' n' := by
  induction h with
  | nil => exact h'
  | cons hparse hout _ ih => exact .cons hparse hout (ih h')

theorem HostProcess.Served.trans {s s₁ s' : HostProcess σ} {fs gs fs' gs' : List Frame}
    (h : s.Served J F sock fs gs s₁) (h' : s₁.Served J F sock fs' gs' s') :
    s.Served J F sock (fs ++ fs') (gs ++ gs') s' := by
  have hsame := takesRequest_congr h.listeners
  refine ⟨h'.listeners.trans h.listeners, ?_, fun k => ?_⟩
  · rw [List.filter_append]
    exact h.answered.append (hsame ▸ h'.answered)
  · rw [h'.sent, h.sent, List.append_assoc, List.flatMap_append]
    split <;> simp

theorem HostProcess.Waiting.run {s : HostProcess σ} {fs : List Frame} (h : s.Waiting sock rest fs)
    (hframes : ∀ f ∈ fs, f.size < 8192 ∧ f.Routed) {fuel : Nat} {s' : HostProcess σ}
    (hrun : dmProviderHostImplRun J F fuel fs.length s = .ok s') :
    s'.Waiting sock rest [] ∧ (∀ f ∈ fs, s.con.takesRequest f = true → Readable J f.payload) ∧
    ∃ gs, s.Served J F sock fs gs s' := by
  induction fs generalizing s with
  | nil =>
    cases hrun
    refine ⟨h, fun f hf => (by cases hf), [], rfl, .nil, fun k => ?_⟩
    simp
  | cons f fs ih =>
    obtain ⟨s₁, hturn, hrun⟩ := bind_eq_ok.mp hrun
    obtain ⟨hsize, hroute⟩ := hframes f List.mem_cons_self
    obtain ⟨hwaiting, hread, gs, hserved⟩ := (h.turn J F hsize hroute).1 fuel s₁ hturn
    obtain ⟨hend, hreads, gs', hserved'⟩ :=
      ih hwaiting (fun g hg => hframes g (List.mem_cons_of_mem f hg)) hrun
    rw [takesRequest_congr hserved.listeners] at hreads
    refine ⟨hend, fun g hg => ?_, gs ++ gs', hserved.trans hserved'⟩
    cases List.mem_cons.mp hg with
    | inl heq => exact heq ▸ hread
    | inr hmem => exact hreads g hmem

/-- Turns whose requests can be read return. -/
theorem HostProcess.Waiting.returns {s : HostProcess σ} {fs : List Frame}
    (h : s.Waiting sock rest fs) (hframes : ∀ f ∈ fs, f.size < 8192 ∧ f.Routed)
    (hread : ∀ f ∈ fs, s.con.takesRequest f = true → Readable J f.payload) :
    ∃ s' enough, ∀ fuel, enough ≤ fuel →
      dmProviderHostImplRun J F fuel fs.length s = .ok s' := by
  induction fs generalizing s with
  | nil => exact ⟨s, 0, fun _ _ => rfl⟩
  | cons f fs ih =>
    obtain ⟨hsize, hroute⟩ := hframes f List.mem_cons_self
    obtain ⟨honly, hreturns⟩ := h.turn J F hsize hroute
    obtain ⟨s₁, enough, hturn⟩ := hreturns (hread f List.mem_cons_self)
    obtain ⟨hwaiting, -, gs, hserved⟩ := honly enough s₁ (hturn enough (Nat.le_refl _))
    obtain ⟨s', enough', hrun⟩ := ih hwaiting (fun g hg => hframes g (List.mem_cons_of_mem f hg))
      fun g hg hg' => hread g (List.mem_cons_of_mem f hg)
        (takesRequest_congr hserved.listeners ▸ hg')
    refine ⟨s', max enough enough', fun fuel hfuel => ?_⟩
    rw [List.length_cons, dmProviderHostImplRun, hturn fuel (by omega), ok_bind]
    exact hrun fuel (by omega)

/-- **A host answers its requests in order**, whatever else arrives between them: the turns that
    read the frames return exactly if every request among them for a provider's listener can be
    read. Then one response went out for each of those, in their order and each from the providers
    as the requests before it left them, and nothing else. -/
theorem host_answers_in_order (J : CJsonLib) (F : FloatText) {s : HostProcess σ} {fs : List Frame}
    (h : s.Waiting sock rest fs) (hframes : ∀ f ∈ fs, f.size < 8192 ∧ f.Routed) :
    ((∃ fuel s', dmProviderHostImplRun J F fuel fs.length s = .ok s') ↔
      ∀ f ∈ fs, s.con.takesRequest f = true → Readable J f.payload) ∧
    ∀ fuel s', dmProviderHostImplRun J F fuel fs.length s = .ok s' →
      s'.Waiting sock rest [] ∧ ∃ gs, s.Served J F sock fs gs s' := by
  refine ⟨⟨?_, fun hread => ?_⟩, fun fuel s' hrun => ?_⟩
  · rintro ⟨fuel, s', hrun⟩
    exact (h.run hframes hrun).2.1
  · obtain ⟨s', enough, hrun⟩ := h.returns (F := F) hframes hread
    exact ⟨enough, s', hrun enough (Nat.le_refl _)⟩
  · obtain ⟨hend, -, hserved⟩ := h.run hframes hrun
    exact ⟨hend, hserved⟩

end Loop

/-! Two sets, and a request for nobody between them. -/

def setsWithStray : List Frame :=
  [setRequestFrame.withControlData 1, emptyRequest.withControlData 2,
    setRequestFrame.withControlData 1]

/-- The host of the relay when they have arrived. -/
def busyProcess : HostProcess (Option DmValue) where
  host := relayHost
  con := listeningConnection
  os := { Os.idle (Stream'.const .complete) with
    input := fun _ => setsWithStray.flatMap Frame.bytes }

theorem host_answers_in_order_example : ∃ fuel s' gs,
    dmProviderHostImplRun setLib noFloats fuel 3 busyProcess = .ok s' ∧
    busyProcess.Served setLib noFloats 0 setsWithStray gs s' := by
  have hwaiting : busyProcess.Waiting 0 [] setsWithStray :=
    ⟨rfl, listeningConnection_callable, fun _ => rfl, fun _ => ⟨8191, rfl⟩,
      (List.append_nil _).symm⟩
  have hset : (setRequestFrame.withControlData 1).size < 8192 := by
    have hlength := setText_length.1
    have hsize := Frame.size_le (setRequestFrame.withControlData 1)
    change _ ≤ 282 + setText.length at hsize
    omega
  have hroute : emptyRequest.Routed :=
    (by decide : strstr emptyRequest.replyTopic.str noRouteTopic = false)
  have hstray : busyProcess.con.takesRequest (emptyRequest.withControlData 2) = false := by decide
  have hframes : ∀ f ∈ setsWithStray, f.size < 8192 ∧ f.Routed := by
    intro f hf
    simp only [setsWithStray, List.mem_cons, List.not_mem_nil, or_false] at hf
    obtain rfl | rfl | rfl := hf
    · exact ⟨hset, hroute⟩
    · exact ⟨by rw [Frame.withControlData_size]; decide, hroute⟩
    · exact ⟨hset, hroute⟩
  obtain ⟨hiff, hserved⟩ := host_answers_in_order setLib noFloats hwaiting hframes
  obtain ⟨fuel, s', hrun⟩ := hiff.mpr fun f hf htakes => by
    simp only [setsWithStray, List.mem_cons, List.not_mem_nil, or_false] at hf
    obtain rfl | rfl | rfl := hf
    · exact setText_readable
    · cases hstray.symm.trans htakes
    · exact setText_readable
  obtain ⟨-, gs, hgs⟩ := hserved fuel s' hrun
  exact ⟨fuel, s', gs, hrun, hgs⟩

end RtMessage.DataProvider
