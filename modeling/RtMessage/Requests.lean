import RtMessage.Listeners

/- Requests and their responses.

   `rtConnection_SendRequest` takes the first response that the connection's dispatch
   stores, and nothing in a response says which request it is for. `RequestStep` is one
   connection in a world of responders: a response to a request arrives after the request
   was made, while it is waited for or later. A request gets its own response as long as
   it meets no other (`request_matched`). -/
namespace RtMessage
open Lib

/-! What a dispatch does to the response. -/

theorem cstr_append_nul (s t : Bytes) : cstr (s ++ 0 :: t) = cstr s := by
  induction s with
  | nil => rfl
  | cons b s ih =>
    simp only [cstr, List.cons_append, List.takeWhile_cons] at ih ⊢
    split
    · rw [ih]
    · rfl

theorem deliverFrame_response {J : CJsonLib} {f : Frame} {con con' : RtConnection} {rest : Bytes}
    {call : Option CallbackCall} (h : deliverFrame J f.header con = .ok (con', call))
    (hbuf : con.recvBuffer.data.drop f.headerLength = f.payload ++ 0 :: rest) :
    con'.fd = con.fd ∧ (con'.response = con.response ∨
      f.flags &&& rtMessageFlagsResponse ≠ 0 ∧
        con'.response = rtMessageFromBytes J f.payload) := by
  rcases deliverFrame_cases h with ⟨rfl, -⟩ | ⟨_, _, cb, -, -, -, rfl, -⟩
  · exact ⟨rfl, .inl rfl⟩
  · rw [f.header_headerLength, hbuf]
    cases cb with
    | user id => exact ⟨rfl, .inl rfl⟩
    | onInboxMessage =>
      rw [calledBack, onInboxMessage]
      by_cases hflags : f.flags &&& rtMessageFlagsResponse = 0
      · rw [if_neg (not_not_intro (show f.header.flags &&& _ = 0 from hflags))]
        exact ⟨rfl, .inl rfl⟩
      · rw [if_pos (show f.header.flags &&& _ ≠ 0 from hflags)]
        refine ⟨rfl, .inr ⟨hflags, ?_⟩⟩
        simp only [rtMessageFromBytes, cstr_append_nul]

section Wait
variable {α : Type} {frame : α → Frame}

/-- A response among those that are unread on a socket. -/
def StoredFrom (J : CJsonLib) (frame : α → Frame) (unread : List α) (res : Option CJson) : Prop :=
  ∃ a ∈ unread, (frame a).flags &&& rtMessageFlagsResponse ≠ 0 ∧
    res = rtMessageFromBytes J (frame a).payload

/-- A dispatch reads from the descriptor's socket only, and at most one frame. -/
theorem Arriving.dispatch_response {unread : Nat → List α} {os : Os}
    (h : Arriving frame unread os) {J : CJsonLib} {fuel : Nat} {con : RtConnection} {d : Dispatched}
    (hd : rtConnectionTimedDispatch J fuel con os = .ok d) :
    d.err = .ok ∧ d.con.fd = con.fd ∧
    ∃ unread', Arriving frame unread' d.os ∧ (∀ sock, unread' sock <:+ unread sock) ∧
      (d.con.response = con.response ∨
        ∃ sock, con.fd = some sock ∧ StoredFrom J frame (unread sock) d.con.response) := by
  rcases h.dispatch hd with ⟨-, rfl⟩ |
    ⟨sock, a, rest, buffer, evs, recvs', hfd, hun, hw, hok, -, hdeliver, harriving⟩
  · exact ⟨rfl, rfl, unread, h, fun _ => List.suffix_refl _, .inl rfl⟩
  · obtain ⟨after, hbuf⟩ := frame_in_buffer hw
    obtain ⟨hfd', hres⟩ := deliverFrame_response hdeliver hbuf
    refine ⟨hok, hfd', _, harriving, fun k => ?_, ?_⟩
    · by_cases hk : k = sock
      · subst hk
        rw [Function.update_self, hun]
        exact List.suffix_cons _ _
      · rw [Function.update_of_ne hk]
    · rcases hres with hres | ⟨hflags, hres⟩
      · exact .inl hres
      · exact .inr ⟨sock, hfd, a, by rw [hun]; exact List.mem_cons_self, hflags, hres⟩

theorem StoredFrom.mono {J : CJsonLib} {l l' : List α} {res : Option CJson}
    (h : StoredFrom J frame l res) (hl : l <:+ l') : StoredFrom J frame l' res := by
  obtain ⟨a, ha, hrest⟩ := h
  exact ⟨a, hl.subset ha, hrest⟩

/-- What holds while a request waits that was sent on `con`: frames were taken off the front,
    and if no response was stored to begin with, the result is a response among them. -/
structure Waiting (J : CJsonLib) (frame : α → Frame) (con : RtConnection) (unread : Nat → List α)
    (q : RequestState) : Prop where
  fd_eq : q.con.fd = con.fd
  reads : ∃ unread', Arriving frame unread' q.os ∧ ∀ sock, unread' sock <:+ unread sock
  clear : con.response = none → q.con.response = none
  result : ∀ err res, q.result = some (err, res) → err = .ok ∧ (con.response = none → res ≠ none ∧
    ∃ sock, con.fd = some sock ∧ StoredFrom J frame (unread sock) res)

theorem Waiting.turn {J : CJsonLib} {fuel start : Nat} {timeout : Int} {con : RtConnection}
    {unread : Nat → List α} {q q' : RequestState} (h : Waiting J frame con unread q)
    (hgo : q.goesOn start timeout = true) (hturn : requestTurn J fuel q = .ok q') :
    Waiting J frame con unread q' := by
  have hresult : q.result = none := by
    rw [RequestState.goesOn, Bool.and_eq_true] at hgo
    exact Option.isNone_iff_eq_none.mp hgo.2
  obtain ⟨unread₁, harriving, hsuffix⟩ := h.reads
  obtain ⟨d, hd, hturn⟩ := bind_eq_ok.mp hturn
  obtain ⟨hok, hfd, unread₂, harriving', hsuffix', hres⟩ := harriving.dispatch_response hd
  have hread : ∀ sock, unread₂ sock <:+ unread sock := fun sock =>
    (hsuffix' sock).trans (hsuffix sock)
  rw [if_neg (by simp [hok])] at hturn
  cases hresponse : d.con.response with
  | none =>
    simp only [hresponse] at hturn
    cases hturn
    refine ⟨hfd.trans h.fd_eq, ⟨unread₂, ?_, hread⟩, fun _ => hresponse, fun err res hr => ?_⟩
    · exact harriving'.of_same rfl rfl
    · cases hresult.symm.trans hr
  | some res =>
    simp only [hresponse] at hturn
    cases hturn
    refine ⟨hfd.trans h.fd_eq, ⟨unread₂, harriving', hread⟩, fun _ => rfl, fun err res' hr => ?_⟩
    cases hr
    refine ⟨rfl, fun hnone => ⟨Option.some_ne_none _, ?_⟩⟩
    rw [h.clear hnone, hresponse] at hres
    rcases hres with hres | ⟨sock, hsock, hstored⟩
    · cases hres
    · exact ⟨sock, h.fd_eq.symm.trans hsock, hstored.mono (hsuffix sock)⟩

/-- **What a request returns** is a response that it read, if it found none stored, and it
    leaves the rest of what had arrived. -/
theorem sendRequest_cases {J : CJsonLib} {fuel : Nat} {con con' : RtConnection} {req : CJson}
    {topic : Bytes} {timeout : Int} {os os' : Os} {err : RtError} {res : Option CJson}
    {unread : Nat → List α}
    (h : rtConnectionSendRequest J fuel con req topic timeout os = .ok (err, res, con', os'))
    (harriving : Arriving frame unread os) :
    (∃ unread', Arriving frame unread' os' ∧ ∀ sock, unread' sock <:+ unread sock) ∧
    (con.response = none → err = .ok → res ≠ none ∧
      ∃ sock, (con.fd = some sock ∨ os.nextSock ≤ sock) ∧
        StoredFrom J frame (unread sock) res) := by
  obtain ⟨⟨e, con₁, os₁⟩, hsend, h⟩ := bind_eq_ok.mp h
  have hkeeps := sendInternal_keeps hsend
  have harriving₁ : Arriving frame unread os₁ :=
    harriving.of_same hkeeps.input hkeeps.recvs
  by_cases he : e = .ok
  · simp only [he, ne_eq, not_true_eq_false, if_false] at h
    obtain ⟨q, hloop, h⟩ := bind_eq_ok.mp h
    have hstart : Waiting J frame con₁ unread ⟨os₁.time.1, none, con₁, os₁.time.2⟩ :=
      ⟨rfl, ⟨unread, harriving₁.of_same rfl rfl, fun _ => List.suffix_refl _⟩, id,
        fun _ _ hr => by cases hr⟩
    have hend := (loop_invariant (Waiting J frame con₁ unread) (fun _ _ hw hgo ht => hw.turn hgo ht)
      hstart hloop).1
    cases hq : q.result with
    | none =>
      rw [hq] at h
      cases h
      exact ⟨hend.reads, fun _ herr => by cases herr⟩
    | some r =>
      rw [hq] at h
      cases h
      refine ⟨hend.reads, fun hnone _ => ?_⟩
      obtain ⟨-, hres⟩ := hend.result _ _ hq
      obtain ⟨hne, sock, hsock, hstored⟩ := hres (hkeeps.response.trans hnone)
      refine ⟨hne, sock, ?_, hstored⟩
      rcases hkeeps.fd with hfd | hfd
      · exact .inl (hfd.symm.trans hsock)
      · exact .inr (hfd sock hsock)
  · simp only [ne_eq, he, not_false_eq_true, if_true] at h
    cases h
    exact ⟨⟨unread, harriving₁, fun _ => List.suffix_refl _⟩, fun _ hok => absurd hok he⟩

end Wait

/-! Responders. -/

/-- A frame that reaches the connection, and the request it answers. -/
structure Arrival where
  frame : Frame
  size_lt : frame.size < 8192
  answers : Option Nat
  /-- only responders set the flag -/
  response : frame.flags &&& rtMessageFlagsResponse ≠ 0 → answers ≠ none

/-- A connection and what has arrived for it; requests are numbered from 0. -/
structure Requester where
  con : RtConnection
  os : Os
  unread : Nat → List Arrival
  arriving : Arriving Arrival.frame unread os
  issued : Nat
  calling : Bool

/-- A frame arrives on a socket. -/
def Requester.arrive (s : Requester) (sock : Nat) (a : Arrival) : Requester :=
  { s with
    os := s.os.arrive sock a.frame.bytes
    unread := Function.update s.unread sock (s.unread sock ++ [a])
    arriving := s.arriving.arrive sock a.size_lt }

inductive RequestEvent where
  | called (n : Nat)
  | arrived (a : Arrival)
  | dispatched
  | returned (n : Nat) (err : RtError) (res : Option CJson)

/-- One step of a connection and its responders. A call is entered and left in two steps,
    and what arrives between them arrives while it waits. Outside of a call the application
    may dispatch by itself. -/
inductive RequestStep (J : CJsonLib) (s : Requester) : RequestEvent → Requester → Prop where
  | call (hidle : s.calling = false) :
      RequestStep J s (.called s.issued) { s with issued := s.issued + 1, calling := true }
  | arrive (sock : Nat) (a : Arrival) (hissued : ∀ n, a.answers = some n → n < s.issued) :
      RequestStep J s (.arrived a) (s.arrive sock a)
  | dispatch {fuel : Nat} {d : Dispatched} {unread : Nat → List Arrival}
      (hidle : s.calling = false) (h : rtConnectionTimedDispatch J fuel s.con s.os = .ok d)
      (hread : ∀ sock, unread sock <:+ s.unread sock)
      (harriving : Arriving Arrival.frame unread d.os) :
      RequestStep J s .dispatched ⟨d.con, d.os, unread, harriving, s.issued, false⟩
  | returns {fuel n : Nat} {req : CJson} {topic : Bytes} {timeout : Int} {err : RtError}
      {res : Option CJson} {con : RtConnection} {os : Os} {unread : Nat → List Arrival}
      (hcalling : s.calling = true) (hn : s.issued = n + 1)
      (h : rtConnectionSendRequest J fuel s.con req topic timeout s.os = .ok (err, res, con, os))
      (hread : ∀ sock, unread sock <:+ s.unread sock)
      (harriving : Arriving Arrival.frame unread os) :
      RequestStep J s (.returned n err res) ⟨con, os, unread, harriving, s.issued, false⟩

/-- When a request looks for its response, none is stored, and no response to another request
    is unread on the connection's socket or on one that it may be given. -/
def RequestEvent.Allowed (s : Requester) : RequestEvent → Prop
  | .returned n _ _ => s.con.response = none ∧
      ∀ sock, (s.con.fd = some sock ∨ s.os.nextSock ≤ sock) →
        ∀ a ∈ s.unread sock, ∀ m, a.answers = some m → m = n
  | _ => True

/-- Every request that returned a response returned one that answers it. -/
def Matched (J : CJsonLib) (es : List RequestEvent) : Prop :=
  ∀ n res, .returned n .ok res ∈ es → res ≠ none ∧
    ∃ a, .arrived a ∈ es ∧ a.answers = some n ∧ res = rtMessageFromBytes J a.frame.payload

/-- What is unread has arrived, and the requests so far are matched. -/
structure Requester.Accounted (J : CJsonLib) (es : List RequestEvent) (s : Requester) : Prop where
  arrived : ∀ sock, ∀ a ∈ s.unread sock, .arrived a ∈ es
  matched : Matched J es

theorem Matched.snoc {J : CJsonLib} {es : List RequestEvent} (h : Matched J es) {e : RequestEvent}
    (he : ∀ n res, e = .returned n .ok res → res ≠ none ∧
      ∃ a, .arrived a ∈ es ∧ a.answers = some n ∧ res = rtMessageFromBytes J a.frame.payload) :
    Matched J (es ++ [e]) := by
  intro n res hmem
  have hres : res ≠ none ∧ ∃ a, .arrived a ∈ es ∧ a.answers = some n ∧
      res = rtMessageFromBytes J a.frame.payload := by
    rcases List.mem_append.mp hmem with hmem | hmem
    · exact h n res hmem
    · exact he n res (List.mem_singleton.mp hmem).symm
  obtain ⟨hne, a, ha, hans, heq⟩ := hres
  exact ⟨hne, a, List.mem_append_left _ ha, hans, heq⟩

theorem Requester.Accounted.step {J : CJsonLib} {es : List RequestEvent} {s t : Requester}
    (h : s.Accounted J es) {e : RequestEvent} (hallowed : e.Allowed s)
    (hstep : RequestStep J s e t) : t.Accounted J (es ++ [e]) := by
  have hkept : ∀ a, .arrived a ∈ es → .arrived a ∈ es ++ [e] := fun a ha =>
    List.mem_append_left _ ha
  cases hstep with
  | call hidle =>
    exact ⟨fun sock a ha => hkept a (h.arrived sock a ha), h.matched.snoc (by simp)⟩
  | arrive sock a hissued =>
    refine ⟨fun k b hb => ?_, h.matched.snoc (by simp)⟩
    change b ∈ Function.update s.unread sock (s.unread sock ++ [a]) k at hb
    by_cases hk : k = sock
    · subst hk
      rw [Function.update_self] at hb
      rcases List.mem_append.mp hb with hb | hb
      · exact hkept b (h.arrived k b hb)
      · rw [List.mem_singleton.mp hb]
        simp
    · rw [Function.update_of_ne hk] at hb
      exact hkept b (h.arrived k b hb)
  | dispatch hidle hd hread harriving =>
    exact ⟨fun sock a ha => hkept a (h.arrived sock a ((hread sock).subset ha)),
      h.matched.snoc (by simp)⟩
  | @returns fuel n req topic timeout err res con os unread hcalling hn hreq hread harriving =>
    refine ⟨fun sock a ha => hkept a (h.arrived sock a ((hread sock).subset ha)),
      h.matched.snoc ?_⟩
    rintro _ _ ⟨⟩
    obtain ⟨hnone, honly⟩ := hallowed
    obtain ⟨-, hres⟩ := sendRequest_cases hreq s.arriving
    obtain ⟨hne, sock, hsock, a, ha, hflags, heq⟩ := hres hnone rfl
    refine ⟨hne, a, h.arrived sock a ha, ?_, heq⟩
    obtain ⟨m, hm⟩ := Option.ne_none_iff_exists'.mp (a.response hflags)
    rw [hm, honly sock hsock a ha m hm]

/-- **Requests and responses match** in every run in which each request meets no response but
    its own. -/
theorem request_matched {J : CJsonLib} {s t : Requester} {es : List RequestEvent}
    (hstart : ∀ sock, s.unread sock = [])
    (h : Run (Allowing RequestEvent.Allowed (RequestStep J)) s es t) : Matched J es := by
  have hnil : s.Accounted J [] :=
    ⟨fun sock a ha => by simp [hstart] at ha, fun n res hmem => by simp at hmem⟩
  exact (h.invariant (I := fun es (t : Requester) => t.Accounted J es) hnil
    fun _ _ _ _ hI hs => hI.step hs.1 hs.2).matched

/-- Every call that returns is a step. -/
theorem Requester.return_step {J : CJsonLib} {s : Requester} {fuel n : Nat} {req : CJson}
    {topic : Bytes} {timeout : Int} {err : RtError} {res : Option CJson} {con : RtConnection}
    {os : Os} (hcalling : s.calling = true) (hn : s.issued = n + 1)
    (h : rtConnectionSendRequest J fuel s.con req topic timeout s.os = .ok (err, res, con, os)) :
    ∃ t, RequestStep J s (.returned n err res) t ∧ t.con = con ∧ t.os = os := by
  obtain ⟨⟨unread, harriving, hread⟩, -⟩ := sendRequest_cases h s.arriving
  exact ⟨_, .returns hcalling hn h hread harriving, rfl, rfl⟩

/-! Two calls. -/

section Calls
variable (J : CJsonLib) {con : RtConnection} {os : Os} {sock : Nat} (req : CJson) (topic : Bytes)
  {timeout : Int}

/-- The frame of a request. -/
def requestFrame (con : RtConnection) : Frame :=
  sentFrame con topic (rtMessageToByteArray J req) (some con.inboxName) rtMessageFlagsRequest

theorem sendRequest_sent (hfd : con.fd = some sock) (hsends : os.sends = Stream'.const .complete)
    (timeout : Int) :
    ∃ sendBuffer, ∀ fuel, rtConnectionSendRequest J (fuel+1) con req topic timeout os = do
      let q ← loop .outOfFuel (RequestState.goesOn os.clock.head timeout)
        (requestTurn J (fuel+1)) (fuel+1) ⟨os.clock.head, none,
          { con with sequenceNumber := con.sequenceNumber + 1, sendBuffer },
          (os.afterFrame sock (requestFrame J req topic con)).time.2⟩
      let (err, res) := q.result.getD (.timeout, none)
      return (err, res, q.con, q.os) := by
  obtain ⟨sendBuffer, hsend⟩ := sendInternal_whole J con topic (rtMessageToByteArray J req)
    (some con.inboxName) rtMessageFlagsRequest os rfl hfd (by rw [hsends]; rfl)
    (by rw [hsends]; rfl)
  refine ⟨sendBuffer, fun fuel => ?_⟩
  rw [rtConnectionSendRequest, hsend]
  rfl

/-- A timeout of less than a second has passed at once. -/
theorem sendRequest_timeout (hfd : con.fd = some sock)
    (hsends : os.sends = Stream'.const .complete) (htimeout : timeout.tdiv 1000 ≤ 0) (fuel : Nat) :
    ∃ sendBuffer, rtConnectionSendRequest J (fuel+1) con req topic timeout os =
      .ok (.timeout, none, { con with sequenceNumber := con.sequenceNumber + 1, sendBuffer },
        (os.afterFrame sock (requestFrame J req topic con)).time.2) := by
  obtain ⟨sendBuffer, h⟩ := sendRequest_sent J req topic hfd hsends timeout
  refine ⟨sendBuffer, ?_⟩
  rw [h, loop_done]
  · rfl
  · simp [RequestState.goesOn, htimeout]

theorem sendRequest_answered {f : Frame} {rest : Bytes} {i : Nat} {l : RtListener} {res : CJson}
    (hfd : con.fd = some sock) (hsends : os.sends = Stream'.const .complete)
    (hdelivers : Delivers os.recvs) (htimeout : 0 < timeout.tdiv 1000)
    (hin : os.input sock = f.bytes ++ rest) (hsize : f.size < 8192) (hroute : f.Routed)
    (hflags : f.flags &&& rtMessageFlagsResponse ≠ 0) (hcall : con.Callable)
    (hl : con.listeners[i]? = some l) (huse : l.inUse = true)
    (hid : l.subscriptionId = f.controlData) (hcb : l.callback = some .onInboxMessage)
    (honly : ∀ (j : Nat) (k : RtListener), con.listeners[j]? = some k → k.inUse = true →
      k.subscriptionId = f.controlData → j = i)
    (hres : rtMessageFromBytes J f.payload = some res) :
    ∃ fuel con' os', rtConnectionSendRequest J fuel con req topic timeout os =
      .ok (.ok, some res, con', os') := by
  obtain ⟨sendBuffer, hsent⟩ := sendRequest_sent J req topic hfd hsends timeout
  let con₁ : RtConnection := { con with sequenceNumber := con.sequenceNumber + 1, sendBuffer }
  let os₁ : Os := (os.afterFrame sock (requestFrame J req topic con)).time.2
  -- the dispatch that reads the response
  obtain ⟨recvs', hanswers, -⟩ := hdelivers.frame f 4
  have hfd₁ : con₁.fd = some sock := hfd
  have hin₁ : os₁.input sock = f.bytes ++ rest := hin
  obtain ⟨evs, buffer, hw, -, -, hreturns⟩ := timedDispatch_frame (J := J) hfd₁ hin₁ hsize hanswers
  obtain ⟨⟨con', call⟩, hd⟩ := (deliverFrame_returns J f.header hcall :
    ∃ x, deliverFrame J f.header { con₁ with recvBuffer := buffer } = .ok x)
  obtain ⟨after, hbuf⟩ := frame_in_buffer hw
  obtain ⟨hcon', -⟩ := deliverFrame_found hd hbuf hroute hl huse hid hcb honly
  obtain ⟨enough, hfuel⟩ := hreturns con' call hd
  have hresponse : con'.response = some res := by
    rw [hcon', calledBack, onInboxMessage, if_pos (show f.header.flags &&& _ ≠ 0 from hflags),
      ← hres]
    simp only [rtMessageFromBytes, cstr_append_nul]
  -- the only turn of the wait
  have hgo : RequestState.goesOn os.clock.head timeout ⟨os.clock.head, none, con₁, os₁⟩ = true := by
    simp [RequestState.goesOn, htimeout]
  have hturn : requestTurn J (enough+1) ⟨os.clock.head, none, con₁, os₁⟩ =
      .ok ⟨os.clock.head, some (.ok, some res), { con' with response := none },
        os₁.consume sock f.size evs recvs'⟩ := by
    rw [requestTurn, hfuel (enough+1) (Nat.le_succ _), ok_bind, if_neg (by simp)]
    simp only [hresponse]
    rfl
  refine ⟨enough+1, { con' with response := none }, os₁.consume sock f.size evs recvs', ?_⟩
  rw [hsent, loop_step hgo hturn, loop_done]
  · rfl
  · simp [RequestState.goesOn]

end Calls

/-- A library that reads every text as a string. -/
def stringLib : CJsonLib := ⟨fun bs => some (.string bs), fun _ => []⟩

/-- A connection with its inbox in the first slot. -/
def inboxConnection : RtConnection :=
  openConnection.withListener 0 ⟨true, ascii "app.INBOX.1", 1, some .onInboxMessage⟩

/-- The response to request 0. -/
def exampleAnswer : Arrival where
  frame := (sentFrame openConnection (ascii "app.INBOX.1") (ascii "0") (some (ascii "A.B"))
    rtMessageFlagsResponse).withControlData 1
  size_lt := by decide
  answers := some 0
  response := fun _ => Option.some_ne_none _

def exampleRequester : Requester where
  con := inboxConnection
  os := .idle (Stream'.const .complete)
  unread := fun _ => []
  arriving := ⟨fun _ => rfl, fun _ _ h => absurd h List.not_mem_nil, fun _ => ⟨8191, rfl⟩⟩
  issued := 0
  calling := false

theorem inboxConnection_answered {con : RtConnection} {os : Os} (hfd : con.fd = some 0)
    (hls : con.listeners = inboxConnection.listeners) (hsends : os.sends = Stream'.const .complete)
    (hdelivers : Delivers os.recvs) (hin : os.input 0 = exampleAnswer.frame.bytes) :
    ∃ fuel con' os', rtConnectionSendRequest stringLib fuel con .null (ascii "A.B") 1000 os =
      .ok (.ok, some (.string (ascii "0")), con', os') := by
  have honly : ∀ (j : Nat) (k : RtListener), con.listeners[j]? = some k → k.inUse = true →
      j = 0 ∧ k.callback = some .onInboxMessage := by
    intro j k hk huse
    rw [hls] at hk
    cases j with
    | zero =>
      cases hk
      exact ⟨rfl, rfl⟩
    | succ j =>
      have hfree : k ∈ List.replicate 63 RtListener.free := List.mem_of_getElem? hk
      rw [List.eq_of_mem_replicate hfree] at huse
      cases huse
  have hcall : con.Callable := by
    intro k hk huse
    obtain ⟨j, hk⟩ := List.getElem?_of_mem hk
    rw [(honly j k hk huse).2]
    exact Option.some_ne_none _
  have hroute : exampleAnswer.frame.Routed :=
    (by decide : strstr exampleAnswer.frame.replyTopic.str noRouteTopic = false)
  have hpayload : rtMessageFromBytes stringLib exampleAnswer.frame.payload =
      some (.string (ascii "0")) := rfl
  exact sendRequest_answered stringLib .null (ascii "A.B") hfd hsends hdelivers (by decide)
    (hin.trans (List.append_nil _).symm) exampleAnswer.size_lt hroute (by decide) hcall
    (i := 0) (l := ⟨true, ascii "app.INBOX.1", 1, some .onInboxMessage⟩) (by rw [hls]; rfl) rfl rfl
    rfl (fun j k hk huse _ => (honly j k hk huse).1) hpayload

theorem request_matched_example : ∃ t,
    Run (Allowing RequestEvent.Allowed (RequestStep stringLib)) exampleRequester
      [.called 0, .arrived exampleAnswer, .returned 0 .ok (some (.string (ascii "0")))] t ∧
    Matched stringLib
      [.called 0, .arrived exampleAnswer, .returned 0 .ok (some (.string (ascii "0")))] := by
  let s₁ : Requester := { exampleRequester with issued := 1, calling := true }
  let s₂ : Requester := s₁.arrive 0 exampleAnswer
  have hcall : Allowing RequestEvent.Allowed (RequestStep stringLib) exampleRequester (.called 0)
      s₁ := ⟨trivial, .call rfl⟩
  have harrive : Allowing RequestEvent.Allowed (RequestStep stringLib) s₁ (.arrived exampleAnswer)
      s₂ := by
    refine ⟨trivial, .arrive 0 exampleAnswer fun n hn => ?_⟩
    cases hn
    exact Nat.zero_lt_one
  have hin : s₂.os.input 0 = exampleAnswer.frame.bytes := List.nil_append _
  have hls : s₂.con.listeners = inboxConnection.listeners := rfl
  obtain ⟨fuel, con, os, h⟩ := inboxConnection_answered rfl hls rfl s₂.arriving.delivers hin
  obtain ⟨t, hreturn, -⟩ := Requester.return_step (s := s₂) (n := 0) rfl rfl h
  have hallowed : RequestEvent.Allowed s₂ (.returned 0 .ok (some (.string (ascii "0")))) := by
    refine ⟨rfl, fun sock _ a ha m hm => ?_⟩
    change a ∈ Function.update (fun _ => []) 0 [exampleAnswer] sock at ha
    by_cases hsock : sock = 0
    · subst hsock
      rw [Function.update_self, List.mem_singleton] at ha
      subst ha
      cases hm
      rfl
    · rw [Function.update_of_ne hsock] at ha
      cases ha
  have hrun := ((Run.single hcall).snoc harrive).snoc ⟨hallowed, hreturn⟩
  exact ⟨t, hrun, request_matched (fun _ => rfl) hrun⟩

/-- The request that an event answers. -/
def RequestEvent.answer : RequestEvent → Option Nat
  | .arrived a => a.answers
  | _ => none

/-- Request 0 has timed out when its response arrives, and request 1 is given it. -/
theorem request_not_matched : ¬ ∀ (J : CJsonLib) (s t : Requester) (es : List RequestEvent),
    s.con.response = none → (∀ sock, s.unread sock = []) →
    (es.filterMap RequestEvent.answer).Nodup → Run (RequestStep J) s es t → Matched J es := by
  intro hclaim
  let s₁ : Requester := { exampleRequester with issued := 1, calling := true }
  have hcall : RequestStep stringLib exampleRequester (.called 0) s₁ := .call rfl
  -- request 0
  have hfd : s₁.con.fd = some 0 := rfl
  have hsends : s₁.os.sends = Stream'.const .complete := rfl
  have hzero : (0 : Int).tdiv 1000 ≤ 0 := by decide
  obtain ⟨sendBuffer, htimeout⟩ :=
    sendRequest_timeout stringLib .null (ascii "A.B") hfd hsends hzero 0
  let s₂ : Requester :=
    { con := { s₁.con with sequenceNumber := s₁.con.sequenceNumber + 1, sendBuffer }
      os := (s₁.os.afterFrame 0 (requestFrame stringLib .null (ascii "A.B") s₁.con)).time.2
      unread := fun _ => []
      arriving := ⟨fun _ => rfl, fun _ _ h => absurd h List.not_mem_nil, fun _ => ⟨8191, rfl⟩⟩
      issued := 1
      calling := false }
  have htimedOut : RequestStep stringLib s₁ (.returned 0 .timeout none) s₂ :=
    .returns rfl rfl htimeout (fun _ => List.suffix_refl _) s₂.arriving
  -- its response
  let s₃ : Requester := s₂.arrive 0 exampleAnswer
  have harrive : RequestStep stringLib s₂ (.arrived exampleAnswer) s₃ :=
    .arrive 0 exampleAnswer fun n hn => by
      cases hn
      exact Nat.zero_lt_one
  -- request 1
  let s₄ : Requester := { s₃ with issued := 2, calling := true }
  have hcall' : RequestStep stringLib s₃ (.called 1) s₄ := .call rfl
  have hin : s₄.os.input 0 = exampleAnswer.frame.bytes := List.nil_append _
  have hls : s₄.con.listeners = inboxConnection.listeners := rfl
  obtain ⟨fuel, con, os, h⟩ := inboxConnection_answered rfl hls rfl s₄.arriving.delivers hin
  obtain ⟨t, hreturn, -⟩ := Requester.return_step (s := s₄) (n := 1) rfl rfl h
  have hrun := ((((Run.single hcall).snoc htimedOut).snoc harrive).snoc hcall').snoc hreturn
  obtain ⟨-, a, ha, hanswers, -⟩ := hclaim _ _ _ _ rfl (fun _ => rfl) (by decide) hrun 1 _
    (List.mem_append_right _ List.mem_cons_self)
  have ha : a = exampleAnswer := by simpa using ha
  rw [ha] at hanswers
  cases hanswers

end RtMessage
