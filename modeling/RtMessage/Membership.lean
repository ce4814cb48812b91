import RtMessage.MainLoop

/- Clients that come and go.

   `RouterSpec` knows clients that are there for good. Here one connects at any time and is gone
   at any time, with part of its stream unread: `deliveriesAmong` is what goes out when frames
   are completed and clients leave, and `clients_come_and_go` that the router refines it. A
   client that has left gets nothing more and takes its subscriptions with it; a later one
   starts with none. -/
namespace RtMessage
open Lib

/-! What the clients may think of it. -/

inductive Happening where
  /-- a frame of a client is completed -/
  | frame (client : Nat) (f : Frame)
  | left (client : Nat)

section Deliveries
variable (J : CJsonLib) (own : List Bytes)

def tableAmong (table : List Subscription) : List Happening → List Subscription
  | [] => table
  | .frame client f :: rest => tableAmong (table ++ subscribed J (client, f)) rest
  | .left client :: rest => tableAmong (table.filter fun u => decide (u.client ≠ client)) rest

/-- All that goes out, in order. -/
def deliveriesAmong (table : List Subscription) : List Happening → List (Nat × Frame)
  | [] => []
  | .frame client f :: rest =>
    outputs J own table (client, f) ++ deliveriesAmong (table ++ subscribed J (client, f)) rest
  | .left client :: rest => deliveriesAmong (table.filter fun u => decide (u.client ≠ client)) rest

variable {J own}

theorem tableAmong_append (table : List Subscription) (a b : List Happening) :
    tableAmong J table (a ++ b) = tableAmong J (tableAmong J table a) b := by
  induction a generalizing table with
  | nil => rfl
  | cons e a ih => cases e <;> exact ih _

theorem deliveriesAmong_append (table : List Subscription) (a b : List Happening) :
    deliveriesAmong J own table (a ++ b) =
      deliveriesAmong J own table a ++ deliveriesAmong J own (tableAmong J table a) b := by
  induction a generalizing table with
  | nil => rfl
  | cons e a ih =>
    cases e with
    | frame client f =>
      rw [List.cons_append, deliveriesAmong, deliveriesAmong, tableAmong, ih, List.append_assoc]
    | left client =>
      rw [List.cons_append, deliveriesAmong, deliveriesAmong, tableAmong, ih]

/-- Where nobody leaves, these are the deliveries of `RouterSpec`. -/
theorem deliveriesAmong_frames (table : List Subscription) (done : List (Nat × Frame)) :
    deliveriesAmong J own table (done.map fun p => .frame p.1 p.2) =
      deliveries J own table done := by
  induction done generalizing table with
  | nil => rfl
  | cons p done ih => rw [List.map_cons, deliveriesAmong, deliveries, ih]

theorem tableAmong_frames (table : List Subscription) (done : List (Nat × Frame)) :
    tableAmong J table (done.map fun p => .frame p.1 p.2) = tableAfter J table done := by
  induction done generalizing table with
  | nil => exact (List.append_nil table).symm
  | cons p done ih =>
    rw [List.map_cons, tableAmong, ih, tableAfter, tableAfter, List.flatMap_cons, List.append_assoc]

end Deliveries

inductive MemberEvent where
  | accepted (client fd : Nat)
  /-- `recv` returns `n` bytes of a client -/
  | read (client n : Nat)
  /-- a client's stream has ended, or `recv` has failed -/
  | left (client : Nat)

def MemberEvent.accepted? : MemberEvent → Option (Nat × Nat)
  | .accepted client fd => some (client, fd)
  | _ => none

def MemberEvent.left? : MemberEvent → Option Nat
  | .left client => some client
  | _ => none

/-- The clients of a run, each with its descriptor. -/
def acceptedIn (es : List MemberEvent) : List (Nat × Nat) := es.filterMap (·.accepted?)

def leftIn (es : List MemberEvent) : List Nat := es.filterMap (·.left?)

/-- The streams behind an event. -/
def streamsBehind (s : Nat → Progress) : MemberEvent → Nat → Progress
  | .read client n => readStream s (client, n)
  | _ => s

def streamsAmong (s : Nat → Progress) (es : List MemberEvent) : Nat → Progress :=
  es.foldl streamsBehind s

def happened (s : Nat → Progress) : MemberEvent → List Happening
  | .accepted _ _ => []
  | .read client n => (completed s (client, n)).map fun p => .frame p.1 p.2
  | .left client => [.left client]

/-- What has happened after the events, for the clients. -/
def happenings (s : Nat → Progress) : List MemberEvent → List Happening
  | [] => []
  | e :: es => happened s e ++ happenings (streamsBehind s e) es

theorem happenings_snoc (s : Nat → Progress) (es : List MemberEvent) (e : MemberEvent) :
    happenings s (es ++ [e]) = happenings s es ++ happened (streamsAmong s es) e := by
  induction es generalizing s with
  | nil => exact List.append_nil _
  | cons a es ih =>
    rw [List.cons_append, happenings, happenings, ih, List.append_assoc]
    rfl

theorem streamsAmong_snoc (s : Nat → Progress) (es : List MemberEvent) (e : MemberEvent) :
    streamsAmong s (es ++ [e]) = streamsBehind (streamsAmong s es) e :=
  List.foldl_concat ..

/-! The steps of the router. -/

/-- A connection on the next socket, whose peer sends these bytes. -/
def Os.opened (os : Os) (bs : Bytes) : Os :=
  { os with nextSock := os.nextSock + 1, input := Function.update os.input os.nextSock bs }

/-- The next `recv` answers this. -/
def Os.answers (os : Os) (reply : RecvResult) : Os :=
  { os with recvs := Stream'.cons reply os.recvs }

/-- A connection is accepted, a client is read, or its end is noticed. What a client sends in
    all has arrived when it is accepted; it is read when `recv` is called for it. -/
inductive MemberStep (J : CJsonLib) (streams : Nat → List Frame) (r : RtRouted Os) :
    MemberEvent → RtRouted Os → Prop where
  | accept : MemberStep J streams r (.accepted r.nextPtr r.env.nextSock)
      (rtRoutedAcceptClientConnection (.ok r.env.nextSock)
        { r with env := r.env.opened ((streams r.nextPtr).flatMap Frame.bytes) })
  | read {client n : Nat} {r' : RtRouted Os} (h : RouterStep J r (client, n) r') :
      MemberStep J streams r (.read client n) r'
  | leave {clnt : RtConnectedClient} {fuel : Nat} {reply : RecvResult} {r' : RtRouted Os}
      (hmem : clnt ∈ r.clients) (hreply : ∀ k, reply ≠ .data k)
      (h : serveClient J fuel clnt.ptr { r with env := r.env.answers reply } = .ok r') :
      MemberStep J streams r (.left clnt.ptr) r'

/-! A new client. -/

section Serving
variable {J : CJsonLib} {own : List Bytes} {streams : Nat → Progress} {r r' : RtRouted Os}
  {clnt : RtConnectedClient}

theorem Serving.accept (h : Serving J own streams r) (hno : NoDangling r) {fs : List Frame}
    (hstream : streams r.nextPtr = (fs, 0)) (hframes : ∀ f ∈ fs, f.Admissible J)
    (hsock : ∀ k ∈ r.clients, k.fd ≠ r.env.nextSock) :
    Serving J own streams (rtRoutedAcceptClientConnection (.ok r.env.nextSock)
      { r with env := r.env.opened (fs.flatMap Frame.bytes) }) where
  distinct := by
    have hptr : ∀ k ∈ r.clients, k.ptr ≠ r.nextPtr := fun k hk => Nat.ne_of_lt (hno.allocated k hk)
    constructor
    · change ((r.clients ++ [_]).map _).Nodup
      rw [List.map_append]
      refine List.nodup_append.mpr ⟨h.distinct.ptrs, List.nodup_singleton _, ?_⟩
      intro a ha b hb heq
      obtain ⟨k, hk, rfl⟩ := List.mem_map.mp ha
      exact hptr k hk (heq.trans (List.mem_singleton.mp hb))
    · change ((r.clients ++ [_]).map _).Nodup
      rw [List.map_append]
      refine List.nodup_append.mpr ⟨h.distinct.fds, List.nodup_singleton _, ?_⟩
      intro a ha b hb heq
      obtain ⟨k, hk, rfl⟩ := List.mem_map.mp ha
      exact hsock k hk (heq.trans (List.mem_singleton.mp hb))
  routes := ⟨h.routes.internal, fun e he ptr howner => by
    obtain ⟨k, hk, hkptr⟩ := h.routes.served e he ptr howner
    exact ⟨k, List.mem_append_left _ hk, hkptr⟩⟩
  own_eq := h.own_eq
  takes := h.takes
  delivers := h.delivers
  input := by
    intro k hk
    change Function.update r.env.input r.env.nextSock _ k.fd = _
    rcases List.mem_append.mp hk with hk | hk
    · rw [Function.update_of_ne (hsock k hk), h.input k hk]
    · rw [List.mem_singleton.mp hk]
      change Function.update r.env.input r.env.nextSock _ r.env.nextSock =
        (streams r.nextPtr).unread
      rw [Function.update_self, hstream]
      rfl
  frames := by
    intro k hk f hf
    rcases List.mem_append.mp hk with hk | hk
    · exact h.frames k hk f hf
    · rw [List.mem_singleton.mp hk] at hf
      change f ∈ (streams r.nextPtr).1 at hf
      rw [hstream] at hf
      exact hframes f hf
  reading := by
    intro k hk
    rcases List.mem_append.mp hk with hk | hk
    · exact h.reading k hk
    · rw [List.mem_singleton.mp hk]
      change ReadingAt (streams r.nextPtr) _
      rw [hstream]
      exact (resting_init _ _).readingAt fs

/-! A client that leaves. -/

theorem Serving.asks (h : Serving J own streams r) (hmem : clnt ∈ r.clients) :
    toSize (clnt.bytesToRead - clnt.bytesRead) ≠ 0 := by
  have hreading := h.reading clnt hmem
  have hframes := h.frames clnt hmem
  generalize streams clnt.ptr = p at hreading hframes
  cases hreading with
  | ended hrest =>
    rw [hrest.bytesToRead, hrest.bytesRead]
    decide
  | @frame f fs got _ hreader =>
    have hsize := (hframes f List.mem_cons_self).size_le
    have hlt := hreader.unfinished
    have hhead : f.headerLength ≤ f.size := by rw [Frame.size]; omega
    rw [hreader.bytesRead]
    have hphase := hreader.phase
    generalize clnt.bytesToRead = want, clnt.state = state, clnt.header = header at hphase ⊢
    have hwant : (got : Int) < want ∧ want ≤ 8192 := by
      cases hphase <;> omega
    unfold toSize
    omega

theorem recv_failed {os : Os} {sock len : Nat} {reply : RecvResult} (hlen : len ≠ 0)
    (hreply : ∀ k, reply ≠ .data k) :
    ∃ result event, (result = .ok [] ∨ ∃ e, result = .error e) ∧
      (os.answers reply).recv (some sock) len =
        .ok (result, { os with received := os.received ++ [event] }) := by
  cases reply with
  | data k => exact absurd rfl (hreply k)
  | eof =>
    refine ⟨.ok [], ⟨sock, .ok 0⟩, .inl rfl, ?_⟩
    simp only [Os.recv, if_neg hlen]
    rfl
  | error e =>
    refine ⟨.error e, ⟨sock, .error e⟩, .inr ⟨e, rfl⟩, ?_⟩
    simp only [Os.recv, if_neg hlen]
    rfl

/-- The router without a client. -/
def RtRouted.without (r : RtRouted Os) (ptr : Nat) (env : Os) : RtRouted Os :=
  { r with
    clients := r.clients.eraseP fun k => k.ptr == ptr
    routes := withoutClient ptr r.routes
    env }

/-- **The end of a client's stream**, or a failed `recv`: the client is taken out of the vector,
    and its routes out of the table. -/
theorem Serving.leave (h : Serving J own streams r) (hno : NoDangling r) (hmem : clnt ∈ r.clients)
    {reply : RecvResult} (hreply : ∀ k, reply ≠ .data k) :
    ∃ event, ∀ fuel, serveClient J fuel clnt.ptr { r with env := r.env.answers reply } =
      .ok (r.without clnt.ptr { r.env with received := r.env.received ++ [event] }) := by
  obtain ⟨result, event, hresult, hrecv⟩ :=
    @recv_failed r.env clnt.fd _ reply (h.asks hmem) hreply
  refine ⟨event, fun fuel => ?_⟩
  have hread : ∃ err, err ≠ .ok ∧
      rtConnectedClientRead J fuel clnt { r with env := r.env.answers reply } =
        .ok (err, clnt,
          { r with env := { r.env with received := r.env.received ++ [event] } }) := by
    rw [rtConnectedClientRead]
    dsimp only
    rw [hrecv, ok_bind]
    rcases hresult with rfl | ⟨e, rfl⟩
    · exact ⟨.streamClosed, by decide, rfl⟩
    · exact ⟨rtErrorFromErrno e, by simp [rtErrorFromErrno], rfl⟩
  obtain ⟨err, herr, hread⟩ := hread
  rw [serveClient]
  dsimp only
  rw [h.distinct.find hmem]
  dsimp only
  rw [hread, ok_bind]
  dsimp only
  rw [if_pos herr, rtConnectedClientDestroy]
  dsimp only
  rw [clearClientRoutes_eq _ hno.table]
  rfl

theorem Serving.without (h : Serving J own streams r) (ptr : Nat) {evs : List RecvEvent} :
    Serving J own streams (r.without ptr { r.env with received := evs }) := by
  have hsub : (r.clients.eraseP fun k => k.ptr == ptr).Sublist r.clients := List.eraseP_sublist
  constructor
  case distinct => exact ⟨h.distinct.ptrs.sublist (hsub.map _), h.distinct.fds.sublist (hsub.map _)⟩
  case routes =>
    obtain ⟨p, rest, hroutes, hrest⟩ := h.routes.internal
    refine ⟨⟨p, withoutClient ptr rest, ?_, fun e he => hrest e (List.mem_of_mem_filter he)⟩, ?_⟩
    · change withoutClient ptr r.routes = _
      rw [hroutes]
      rfl
    · intro e he owner howner
      obtain ⟨he, hother⟩ := List.mem_filter.mp he
      obtain ⟨k, hk, rfl⟩ := h.routes.served e he owner howner
      refine ⟨k, (List.mem_eraseP_of_neg ?_).mpr hk, rfl⟩
      intro heq
      rw [beq_iff_eq.mp heq] at howner
      exact of_decide_eq_true hother howner
  case own_eq =>
    have hown : ownExpressions (withoutClient ptr r.routes) = ownExpressions r.routes := by
      rw [ownExpressions, ownExpressions, withoutClient, List.filter_filter]
      congr 1
      refine List.filter_congr fun e _ => ?_
      rw [subscription_owner]
      cases e.subscription <;> simp
    exact hown.trans h.own_eq
  case takes => exact h.takes
  case delivers => exact h.delivers
  case input => exact fun k hk => h.input k (hsub.subset hk)
  case frames => exact fun k hk => h.frames k (hsub.subset hk)
  case reading => exact fun k hk => h.reading k (hsub.subset hk)

theorem subscriptions_without (ptr : Nat) (routes : List RtRouteEntry) :
    subscriptions (withoutClient ptr routes) =
      (subscriptions routes).filter fun u => decide (u.client ≠ ptr) := by
  rw [subscriptions, subscriptions, withoutClient, List.filter_filterMap, List.filterMap_filter]
  refine List.filterMap_congr fun e _ => ?_
  rw [subscription_owner]
  cases e.subscription with
  | none => rfl
  | some u => by_cases hu : u.client = ptr <;> simp [Option.filter, hu]

/-! A read. -/

/-- What a read does to the system: it takes bytes from the client's socket, and the frames that
    it sends go to clients. -/
theorem Serving.serve_env (h : Serving J own streams r) (hmem : clnt ∈ r.clients)
    (hin : r.env.input clnt.fd ≠ []) {fuel : Nat}
    (hserve : serveClient J fuel clnt.ptr r = .ok r') :
    r.nextPtr ≤ r'.nextPtr ∧ ∃ n evs recvs out,
      (∀ p ∈ out, ∃ k ∈ r.clients, k.ptr = p.1) ∧
      r'.env = (r.env.consume clnt.fd n evs recvs).afterFrames (onSockets r.clients out) := by
  cases hstream : streams clnt.ptr with
  | mk fs got =>
  have hreading := h.reading clnt hmem
  have hinput := h.input clnt hmem
  rw [hstream] at hreading hinput
  cases hreading with
  | ended hrest => exact absurd hinput hin
  | @frame f fs got _ hreader =>
    have hf : f.Admissible J := h.frames clnt hmem f (by rw [hstream]; simp)
    have hsplit : r.env.input clnt.fd = f.bytes.drop got ++ fs.flatMap Frame.bytes := by
      rw [hinput, Progress.unread, List.flatMap_cons, List.drop_append_of_le_length]
      rw [f.bytes_length]
      exact Nat.le_of_lt hreader.unfinished
    obtain ⟨n, full, complete, hn, -, hptr, hfd, hend, hclient⟩ :=
      hreader.read_client hf.size_le hf.payload_pos h.delivers hsplit
    rw [serveClient, h.distinct.find hmem] at hserve
    dsimp only at hserve
    rw [connectedClientRead_eq, hclient, ok_bind] at hserve
    -- a part of a frame sends nothing, and a whole one what its dispatch sends
    cases hend with
    | partway hreader' =>
      cases hserve
      exact ⟨Nat.le_refl _, n, _, _, [], (fun p hp => by cases hp), rfl⟩
    | complete hsize hheader hbuffer =>
      obtain ⟨x, hx, hserve⟩ := bind_eq_ok.mp hserve
      obtain ⟨r₂, hdispatch, hx⟩ := bind_eq_ok.mp hx
      cases hx
      cases hserve
      obtain ⟨a, -, -, r₃, hr₃, hunique, -⟩ :=
        dispatch_outputs (J := J)
          (r := { r with env := r.env.consume clnt.fd n [⟨clnt.fd, .ok n⟩] r.env.recvs.tail })
          h.distinct h.routes h.takes hf hmem hptr hfd hheader hbuffer
      cases hunique _ _ hdispatch
      refine ⟨?_, n, [⟨clnt.fd, .ok n⟩], r.env.recvs.tail,
        outputs J (ownExpressions r.routes) (subscriptions r.routes) (clnt.ptr, f),
        outputs_clients h.routes hmem f, ?_⟩
      · change r.nextPtr ≤ r₂.nextPtr
        rw [hr₃]
        cases a with
        | none => exact Nat.le_refl _
        | some a => exact Nat.le_add_right _ 2
      · change r₂.env = _
        rw [hr₃, RtRouted.subscribe_env]

theorem afterFrames_nextSock {os : Os} (out : List (Nat × Frame)) :
    (os.afterFrames out).nextSock = os.nextSock := by
  induction out generalizing os with
  | nil => rfl
  | cons p out ih => exact ih

theorem Serving.serve_quiet (h : Serving J own streams r) (hmem : clnt ∈ r.clients)
    (hin : r.env.input clnt.fd ≠ []) {fuel : Nat} (hserve : serveClient J fuel clnt.ptr r = .ok r')
    {sock : Nat} (hsock : ∀ k ∈ r.clients, k.fd ≠ sock) :
    wire sock r'.env.sent = wire sock r.env.sent := by
  obtain ⟨-, n, evs, recvs, out, hout, henv⟩ := h.serve_env hmem hin hserve
  have htakes : Takes (r.env.consume clnt.fd n evs recvs).sends := h.takes
  have hnone : framesTo sock (onSockets r.clients out) = [] := by
    refine List.filterMap_eq_nil_iff.mpr fun q hq => ?_
    obtain ⟨p, hp, rfl⟩ := List.mem_map.mp hq
    obtain ⟨k, hk, hptr⟩ := hout p hp
    rw [← hptr, h.distinct.socketOf hk]
    exact if_neg (hsock k hk)
  rw [henv, wire_afterFrames htakes, hnone]
  exact List.append_nil _

end Serving

/-! Runs. -/

/-- What a router has brought about by the events `es`. -/
structure Attends (J : CJsonLib) (own : List Bytes) (streams : Nat → List Frame)
    (es : List MemberEvent) (r : RtRouted Os) : Prop where
  noDangling : NoDangling r
  serving : Serving J own (streamsAmong (unreadStreams streams) es) r
  table : subscriptions r.routes = tableAmong J [] (happenings (unreadStreams streams) es)
  clients : clientEnds r.clients = (acceptedIn es).filter fun p => decide (p.1 ∉ leftIn es)
  allocated : ∀ p ∈ acceptedIn es, p.1 < r.nextPtr
  socks : ∀ p ∈ acceptedIn es, p.2 < r.env.nextSock
  ptrs : ((acceptedIn es).map Prod.fst).Nodup
  fds : ((acceptedIn es).map Prod.snd).Nodup
  leavers : ∀ ptr ∈ leftIn es, ptr ∈ (acceptedIn es).map Prod.fst
  untouched : ∀ ptr, r.nextPtr ≤ ptr →
    streamsAmong (unreadStreams streams) es ptr = (streams ptr, 0)
  addressed : ∀ q ∈ deliveriesAmong J own [] (happenings (unreadStreams streams) es),
    q.1 ∈ (acceptedIn es).map Prod.fst
  unused : ∀ sock, r.env.nextSock ≤ sock → wire sock r.env.sent = []
  sent : ∀ p ∈ acceptedIn es, wire p.2 r.env.sent =
    (framesTo p.1 (deliveriesAmong J own [] (happenings (unreadStreams streams) es))).flatMap
      Frame.bytes

section Runs
variable {J : CJsonLib} {own : List Bytes} {streams : Nat → List Frame} {r r' : RtRouted Os}
  {es : List MemberEvent} {e : MemberEvent}

theorem mem_clientEnds {clients : List RtConnectedClient} {p : Nat × Nat} :
    p ∈ clientEnds clients ↔ ∃ k ∈ clients, k.ptr = p.1 ∧ k.fd = p.2 := by
  rw [clientEnds, List.mem_map]
  constructor
  · rintro ⟨k, hk, rfl⟩
    exact ⟨k, hk, rfl, rfl⟩
  · rintro ⟨k, hk, hptr, hfd⟩
    exact ⟨k, hk, Prod.ext hptr hfd⟩

theorem Attends.client (h : Attends J own streams es r) {k : RtConnectedClient}
    (hk : k ∈ r.clients) : (k.ptr, k.fd) ∈ acceptedIn es ∧ k.ptr ∉ leftIn es := by
  have hmem : (k.ptr, k.fd) ∈ clientEnds r.clients := List.mem_map_of_mem hk
  rw [h.clients] at hmem
  obtain ⟨hmem, hleft⟩ := List.mem_filter.mp hmem
  exact ⟨hmem, of_decide_eq_true hleft⟩

theorem acceptedIn_snoc (es : List MemberEvent) (e : MemberEvent) :
    acceptedIn (es ++ [e]) = acceptedIn es ++ e.accepted?.toList := by
  rw [acceptedIn, List.filterMap_append, List.filterMap_cons, List.filterMap_nil]
  cases e.accepted? <;> rfl

theorem leftIn_snoc (es : List MemberEvent) (e : MemberEvent) :
    leftIn (es ++ [e]) = leftIn es ++ e.left?.toList := by
  rw [leftIn, List.filterMap_append, List.filterMap_cons, List.filterMap_nil]
  cases e.left? <;> rfl

theorem deliveriesAmong_snoc (es : List MemberEvent) (e : MemberEvent) (s : Nat → Progress) :
    deliveriesAmong J own [] (happenings s (es ++ [e])) =
      deliveriesAmong J own [] (happenings s es) ++
        deliveriesAmong J own (tableAmong J [] (happenings s es))
          (happened (streamsAmong s es) e) := by
  rw [happenings_snoc, deliveriesAmong_append]

/-! The start. -/

theorem Attends.start (J : CJsonLib) (streams : Nat → List Frame) (debugRoutes : Nat) {os : Os}
    (htakes : Takes os.sends) (hdelivers : Delivers os.recvs) (hsent : os.sent = []) :
    Attends J (ownExpressions (startRoutes debugRoutes)) streams []
      (startRouter debugRoutes os) where
  noDangling := .start debugRoutes os
  serving :=
    { distinct := ⟨List.nodup_nil, List.nodup_nil⟩
      routes := by
        refine ⟨⟨0, _, rfl, fun e he => ?_⟩, fun e he ptr howner => ?_⟩
        · obtain ⟨k, -, rfl⟩ := List.mem_map.mp he
          exact RtRouteTarget.noConfusion
        · cases (startRoutes_owner he).1.symm.trans howner
      own_eq := rfl
      takes := htakes
      delivers := hdelivers
      input := fun k hk => by cases hk
      frames := fun k hk => by cases hk
      reading := fun k hk => by cases hk }
  table := by
    refine List.filterMap_eq_nil_iff.mpr fun e he => ?_
    have howner := (startRoutes_owner he).1
    rw [subscription_owner] at howner
    exact Option.map_eq_none_iff.mp howner
  clients := rfl
  allocated := fun p hp => by cases hp
  socks := fun p hp => by cases hp
  ptrs := List.nodup_nil
  fds := List.nodup_nil
  leavers := fun p hp => by cases hp
  untouched := fun _ _ => rfl
  addressed := fun q hq => by cases hq
  unused := fun sock _ => by
    change wire sock os.sent = []
    rw [hsent]
    rfl
  sent := fun p hp => by cases hp

/-! The steps. -/

theorem framesTo_eq_nil {client : Nat} {out : List (Nat × Frame)} (h : ∀ q ∈ out, q.1 ≠ client) :
    framesTo client out = [] :=
  List.filterMap_eq_nil_iff.mpr fun q hq => if_neg (h q hq)

theorem Attends.accept (h : Attends J own streams es r)
    (hframes : ∀ ptr, ∀ f ∈ streams ptr, f.Admissible J) :
    Attends J own streams (es ++ [.accepted r.nextPtr r.env.nextSock])
      (rtRoutedAcceptClientConnection (.ok r.env.nextSock)
        { r with env := r.env.opened ((streams r.nextPtr).flatMap Frame.bytes) }) := by
  have haccepted := acceptedIn_snoc es (.accepted r.nextPtr r.env.nextSock)
  have hleft : leftIn (es ++ [.accepted r.nextPtr r.env.nextSock]) = leftIn es := by
    rw [leftIn_snoc]
    exact List.append_nil _
  have hhappenings : happenings (unreadStreams streams)
      (es ++ [.accepted r.nextPtr r.env.nextSock]) = happenings (unreadStreams streams) es := by
    rw [happenings_snoc]
    exact List.append_nil _
  -- the address is new, so nothing that happened before is about it
  have hnew : r.nextPtr ∉ (acceptedIn es).map Prod.fst := by
    intro hmem
    obtain ⟨p, hp, heq⟩ := List.mem_map.mp hmem
    exact Nat.lt_irrefl _ (heq ▸ h.allocated p hp)
  constructor
  case noDangling => exact (h.noDangling.env _).accept _
  case serving =>
    rw [streamsAmong_snoc]
    refine h.serving.accept h.noDangling (h.untouched _ (Nat.le_refl _)) (hframes _) ?_
    intro k hk
    exact Nat.ne_of_lt (h.socks _ (h.client hk).1)
  case table =>
    rw [hhappenings]
    exact h.table
  case clients =>
    rw [haccepted, hleft]
    change clientEnds (r.clients ++ [rtConnectedClientInit r.nextPtr r.env.nextSock]) =
      (acceptedIn es ++ [(r.nextPtr, r.env.nextSock)]).filter _
    have hstays : r.nextPtr ∉ leftIn es := fun hmem => hnew (h.leavers _ hmem)
    rw [clientEnds, List.map_append, List.filter_append,
      List.filter_cons_of_pos (by simpa using hstays)]
    exact congrArg (· ++ [(r.nextPtr, r.env.nextSock)]) h.clients
  case allocated =>
    rw [haccepted]
    intro p hp
    rcases List.mem_append.mp hp with hp | hp
    · exact Nat.lt_succ_of_lt (h.allocated p hp)
    · rw [List.mem_singleton.mp hp]
      exact Nat.lt_succ_self _
  case socks =>
    rw [haccepted]
    intro p hp
    rcases List.mem_append.mp hp with hp | hp
    · exact Nat.lt_succ_of_lt (h.socks p hp)
    · rw [List.mem_singleton.mp hp]
      exact Nat.lt_succ_self _
  case ptrs =>
    rw [haccepted, List.map_append]
    refine List.nodup_append.mpr ⟨h.ptrs, List.nodup_singleton _, ?_⟩
    intro a ha b hb heq
    rw [heq, List.mem_singleton.mp hb] at ha
    exact hnew ha
  case fds =>
    rw [haccepted, List.map_append]
    refine List.nodup_append.mpr ⟨h.fds, List.nodup_singleton _, ?_⟩
    intro a ha b hb heq
    obtain ⟨p, hp, rfl⟩ := List.mem_map.mp ha
    have hlt := h.socks p hp
    rw [heq, List.mem_singleton.mp hb] at hlt
    exact Nat.lt_irrefl _ hlt
  case leavers =>
    rw [hleft, haccepted, List.map_append]
    exact fun ptr hptr => List.mem_append_left _ (h.leavers ptr hptr)
  case untouched =>
    rw [streamsAmong_snoc]
    exact fun ptr hptr => h.untouched ptr (Nat.le_of_succ_le hptr)
  case addressed =>
    rw [hhappenings, haccepted, List.map_append]
    exact fun q hq => List.mem_append_left _ (h.addressed q hq)
  case unused => exact fun sock hsock => h.unused sock (Nat.le_of_succ_le hsock)
  case sent =>
    rw [hhappenings, haccepted]
    intro p hp
    rcases List.mem_append.mp hp with hp | hp
    · exact h.sent p hp
    · rw [List.mem_singleton.mp hp, framesTo_eq_nil]
      · exact h.unused _ (Nat.le_refl _)
      · intro q hq heq
        have haddressed := h.addressed q hq
        rw [heq] at haddressed
        exact hnew haddressed

/-- A client that is not in the vector has left, and no client has its socket. -/
theorem Attends.gone (h : Attends J own streams es r) {p : Nat × Nat} (hp : p ∈ acceptedIn es) :
    (∃ k ∈ r.clients, k.ptr = p.1 ∧ k.fd = p.2) ∨
      ∀ k ∈ r.clients, k.ptr ≠ p.1 ∧ k.fd ≠ p.2 := by
  by_cases hleft : p.1 ∈ leftIn es
  · refine .inr fun k hk => ?_
    obtain ⟨hmem, hstays⟩ := h.client hk
    refine ⟨fun hptr => hstays (hptr ▸ hleft), fun hfd => ?_⟩
    have hpair : (k.ptr, k.fd) = p := List.inj_on_of_nodup_map h.fds hmem hp hfd
    rw [← hpair] at hleft
    exact hstays hleft
  · refine .inl (mem_clientEnds.mp ?_)
    rw [h.clients]
    exact List.mem_filter.mpr ⟨hp, decide_eq_true hleft⟩

/-- What a read completes goes to clients of the vector. -/
theorem Serving.deliveries_clients {s : Nat → Progress} (h : Serving J own s r)
    {clnt : RtConnectedClient} (hmem : clnt ∈ r.clients) (n : Nat) :
    ∀ q ∈ deliveries J own (subscriptions r.routes) (completed s (clnt.ptr, n)),
      ∃ k ∈ r.clients, k.ptr = q.1 := by
  intro q hq
  unfold completed at hq
  split at hq
  · cases hq
  · split at hq
    · cases hq
    · rw [deliveries, deliveries, List.append_nil] at hq
      exact outputs_clients h.routes hmem _ q hq

theorem Serving.routerStep {s : Nat → Progress} (h : Serving J own s r) {client n : Nat}
    (hstep : RouterStep J r (client, n) r') :
    ∃ clnt ∈ r.clients, clnt.ptr = client ∧ 0 < n ∧ r.env.input clnt.fd ≠ [] ∧
      (∃ fuel, serveClient J fuel clnt.ptr r = .ok r') ∧ ServedRead J own s clnt n r r' := by
  cases hstep with
  | @read clnt n fuel _ hmem hserve hrecv =>
    by_cases hin : r.env.input clnt.fd = []
    · cases hserve.symm.trans (h.blocked hmem hin fuel)
    · obtain ⟨m, r₁, hm, hread, hunique, -⟩ := h.serve hmem hin
      cases hunique fuel r' hserve
      have heq : m = n := by simpa using List.append_cancel_left (hread.received.symm.trans hrecv)
      subst heq
      exact ⟨clnt, hmem, rfl, hm, hin, ⟨fuel, hserve⟩, hread⟩

theorem Attends.read (h : Attends J own streams es r) {client n : Nat}
    (hstep : RouterStep J r (client, n) r') :
    Attends J own streams (es ++ [.read client n]) r' := by
  obtain ⟨clnt, hmem, rfl, -, hin, ⟨fuel, hserve⟩, hread⟩ := h.serving.routerStep hstep
  obtain ⟨hptrs, k₁, evs, recvs, out, -, henv⟩ := h.serving.serve_env hmem hin hserve
  -- a read accepts nobody and nobody leaves
  have haccepted : acceptedIn (es ++ [.read clnt.ptr n]) = acceptedIn es := by
    rw [acceptedIn_snoc]
    exact List.append_nil _
  have hleft : leftIn (es ++ [.read clnt.ptr n]) = leftIn es := by
    rw [leftIn_snoc]
    exact List.append_nil _
  have hsock : r'.env.nextSock = r.env.nextSock := by
    rw [henv, afterFrames_nextSock]
    rfl
  have hdeliveries := @deliveriesAmong_snoc J own es (.read clnt.ptr n) (unreadStreams streams)
  rw [happened, deliveriesAmong_frames, ← h.table] at hdeliveries
  have hclients := h.serving.deliveries_clients hmem n
  constructor
  case noDangling => exact (h.noDangling.serve hserve).1
  case serving =>
    rw [streamsAmong_snoc]
    exact hread.serving
  case table =>
    rw [happenings_snoc, tableAmong_append, happened, tableAmong_frames, ← h.table]
    exact hread.table
  case clients =>
    rw [haccepted, hleft, ← h.clients]
    exact hread.clients
  case allocated =>
    rw [haccepted]
    exact fun p hp => Nat.lt_of_lt_of_le (h.allocated p hp) hptrs
  case socks =>
    rw [haccepted, hsock]
    exact h.socks
  case ptrs =>
    rw [haccepted]
    exact h.ptrs
  case fds =>
    rw [haccepted]
    exact h.fds
  case leavers =>
    rw [haccepted, hleft]
    exact h.leavers
  case untouched =>
    rw [streamsAmong_snoc]
    intro ptr hptr
    have hle := Nat.le_trans hptrs hptr
    refine (readStream_other ?_ n).trans (h.untouched ptr hle)
    exact Nat.ne_of_gt (Nat.lt_of_lt_of_le (h.noDangling.allocated clnt hmem) hle)
  case addressed =>
    rw [hdeliveries, haccepted]
    intro q hq
    rcases List.mem_append.mp hq with hq | hq
    · exact h.addressed q hq
    · obtain ⟨k, hk, hptr⟩ := hclients q hq
      rw [← hptr]
      exact List.mem_map_of_mem (h.client hk).1
  case unused =>
    rw [hsock]
    intro sock hle
    rw [h.serving.serve_quiet hmem hin hserve, h.unused sock hle]
    intro k hk
    exact Nat.ne_of_lt (Nat.lt_of_lt_of_le (h.socks _ (h.client hk).1) hle)
  case sent =>
    rw [hdeliveries, haccepted]
    intro p hp
    rw [framesTo_append, List.flatMap_append, ← h.sent p hp]
    -- a socket of a client that is there takes what is due to it, any other one nothing
    rcases h.gone hp with ⟨k, hk, hptr, hfd⟩ | hgone
    · rw [← hptr, ← hfd]
      exact hread.sent k hk
    · rw [h.serving.serve_quiet hmem hin hserve fun k hk => (hgone k hk).2, framesTo_eq_nil]
      · exact (List.append_nil _).symm
      · intro q hq heq
        obtain ⟨k, hk, hptr⟩ := hclients q hq
        exact (hgone k hk).1 (hptr.trans heq)

theorem eraseP_eq_filter {clients : List RtConnectedClient} (h : (clients.map (·.ptr)).Nodup)
    (ptr : Nat) : clients.eraseP (fun k => k.ptr == ptr) =
      clients.filter fun k => decide (k.ptr ≠ ptr) := by
  induction clients with
  | nil => rfl
  | cons k clients ih =>
    rw [List.map_cons, List.nodup_cons] at h
    by_cases hk : k.ptr = ptr
    · subst hk
      have hothers : clients.filter (fun j => decide (j.ptr ≠ k.ptr)) = clients := by
        refine List.filter_eq_self.mpr fun j hj => decide_eq_true fun heq => h.1 ?_
        rw [← heq]
        exact List.mem_map_of_mem hj
      rw [List.filter_cons_of_neg (by simp), hothers]
      simp
    · rw [List.filter_cons_of_pos (by simpa using hk), List.eraseP_cons_of_neg (by simpa using hk),
        ih h.2]

theorem Attends.leave (h : Attends J own streams es r) {clnt : RtConnectedClient} {fuel : Nat}
    {reply : RecvResult} (hmem : clnt ∈ r.clients) (hreply : ∀ k, reply ≠ .data k)
    (hserve : serveClient J fuel clnt.ptr { r with env := r.env.answers reply } = .ok r') :
    Attends J own streams (es ++ [.left clnt.ptr]) r' := by
  obtain ⟨event, hleaves⟩ := h.serving.leave h.noDangling hmem hreply
  cases (hleaves fuel).symm.trans hserve
  have haccepted : acceptedIn (es ++ [.left clnt.ptr]) = acceptedIn es := by
    rw [acceptedIn_snoc]
    exact List.append_nil _
  have hleft : leftIn (es ++ [.left clnt.ptr]) = leftIn es ++ [clnt.ptr] := leftIn_snoc es _
  have hdeliveries : deliveriesAmong J own []
      (happenings (unreadStreams streams) (es ++ [.left clnt.ptr])) =
        deliveriesAmong J own [] (happenings (unreadStreams streams) es) := by
    rw [deliveriesAmong_snoc]
    exact List.append_nil _
  constructor
  case noDangling => exact ((h.noDangling.env _).serve hserve).1
  case serving =>
    rw [streamsAmong_snoc]
    exact h.serving.without clnt.ptr
  case table =>
    rw [happenings_snoc, tableAmong_append, ← h.table]
    exact subscriptions_without clnt.ptr r.routes
  case clients =>
    rw [haccepted, hleft]
    change clientEnds (r.clients.eraseP fun k => k.ptr == clnt.ptr) = _
    -- taking the client out is dropping its address, as addresses differ
    have herase : clientEnds (r.clients.eraseP fun k => k.ptr == clnt.ptr) =
        (clientEnds r.clients).filter fun p => decide (p.1 ≠ clnt.ptr) := by
      rw [eraseP_eq_filter h.noDangling.distinct, clientEnds, clientEnds, List.filter_map]
      rfl
    rw [herase, h.clients, List.filter_filter]
    refine List.filter_congr fun p _ => ?_
    simp only [List.mem_append, List.mem_singleton, not_or, Bool.decide_and, Bool.and_comm]
  case allocated =>
    rw [haccepted]
    exact h.allocated
  case socks =>
    rw [haccepted]
    exact h.socks
  case ptrs =>
    rw [haccepted]
    exact h.ptrs
  case fds =>
    rw [haccepted]
    exact h.fds
  case leavers =>
    rw [haccepted, hleft]
    intro ptr hptr
    rcases List.mem_append.mp hptr with hptr | hptr
    · exact h.leavers ptr hptr
    · rw [List.mem_singleton.mp hptr]
      exact List.mem_map_of_mem (h.client hmem).1
  case untouched =>
    rw [streamsAmong_snoc]
    exact h.untouched
  case addressed =>
    rw [hdeliveries, haccepted]
    exact h.addressed
  case unused => exact h.unused
  case sent =>
    rw [hdeliveries, haccepted]
    exact h.sent

theorem Attends.step (h : Attends J own streams es r)
    (hframes : ∀ ptr, ∀ f ∈ streams ptr, f.Admissible J) (hstep : MemberStep J streams r e r') :
    Attends J own streams (es ++ [e]) r' := by
  cases hstep with
  | accept => exact h.accept hframes
  | read hread => exact h.read hread
  | leave hmem hreply hserve => exact h.leave hmem hreply hserve

theorem Attends.of_run {debugRoutes : Nat} {os : Os} (htakes : Takes os.sends)
    (hdelivers : Delivers os.recvs) (hsent : os.sent = [])
    (hframes : ∀ ptr, ∀ f ∈ streams ptr, f.Admissible J)
    (hrun : Run (MemberStep J streams) (startRouter debugRoutes os) es r) :
    Attends J (ownExpressions (startRoutes debugRoutes)) streams es r :=
  hrun.invariant (I := Attends J (ownExpressions (startRoutes debugRoutes)) streams)
    (.start J streams debugRoutes htakes hdelivers hsent)
    fun _ _ _ _ h hstep => h.step hframes hstep

theorem Attends.drain (h : Attends J own streams es r)
    (hframes : ∀ ptr, ∀ f ∈ streams ptr, f.Admissible J) {clnt : RtConnectedClient}
    (hmem : clnt ∈ r.clients) :
    ∃ es' r', Run (MemberStep J streams) r es' r' ∧ clientEnds r'.clients = clientEnds r.clients ∧
      acceptedIn es' = [] ∧ leftIn es' = [] ∧
      happenings (unreadStreams streams) (es ++ es') = happenings (unreadStreams streams) es ++
        (streamsAmong (unreadStreams streams) es clnt.ptr).1.map (.frame clnt.ptr) := by
  generalize hleft : (streamsAmong (unreadStreams streams) es clnt.ptr).unread.length = left
  induction left using Nat.strong_induction_on generalizing es r clnt with
  | _ left ih =>
    have hreading := h.serving.reading clnt hmem
    cases hstream : streamsAmong (unreadStreams streams) es clnt.ptr with
    | mk fs got =>
    rw [hstream] at hreading hleft
    cases hreading with
    | ended _ =>
      refine ⟨[], r, .nil, rfl, rfl, rfl, ?_⟩
      rw [List.append_nil]
      exact (List.append_nil _).symm
    | @frame f fs got _ hreader =>
      have hlt := hreader.unfinished
      have hin : r.env.input clnt.fd ≠ [] := by
        have hlength := Progress.unread_length f fs got
        rw [h.serving.input clnt hmem, hstream]
        intro hnil
        rw [hnil] at hlength
        change 0 = _ at hlength
        omega
      obtain ⟨n, r₁, hn, hread, -, hserve⟩ := h.serving.serve hmem hin
      have hstep : MemberStep J streams r (.read clnt.ptr n) r₁ :=
        .read (.read hmem (hserve _ (Nat.lt_succ_self _)) hread.received)
      have h₁ := h.step hframes hstep
      have hends : clientEnds r₁.clients = clientEnds r.clients := hread.clients
      obtain ⟨k, hk, hptr, -⟩ := mem_of_same hread.clients hmem
      have hstream' : streamsAmong (unreadStreams streams) (es ++ [.read clnt.ptr n]) k.ptr =
          readStream (streamsAmong (unreadStreams streams) es) (clnt.ptr, n) clnt.ptr := by
        rw [streamsAmong_snoc, hptr]
        rfl
      have hshorter : (streamsAmong (unreadStreams streams) (es ++ [.read clnt.ptr n])
          k.ptr).unread.length < left := by
        rw [hstream', ← hleft, ← hstream]
        exact readStream_shorter hstream hlt hn
      obtain ⟨es', r', hrun, hends', haccepted, hleft, hdone⟩ := ih _ hshorter h₁ hk rfl
      refine ⟨.read clnt.ptr n :: es', r', (Run.single hstep).trans hrun, hends'.trans hends,
        haccepted, hleft, ?_⟩
      rw [List.append_cons, hdone, happenings_snoc, happened, hstream', readStream_cons hstream,
        Function.update_self, completed_cons hstream, hptr, List.append_assoc]
      split <;> rfl

/-- What an event sends goes to clients that have not left. -/
theorem Attends.sends (h : Attends J own streams es r) (hstep : MemberStep J streams r e r') :
    ∀ q ∈ deliveriesAmong J own (tableAmong J [] (happenings (unreadStreams streams) es))
      (happened (streamsAmong (unreadStreams streams) es) e), q.1 ∉ leftIn es := by
  intro q hq
  cases hstep with
  | accept => cases hq
  | @read client n _ hread =>
    cases hread with
    | @read clnt n fuel _ hmem hserve hrecv =>
      rw [happened, deliveriesAmong_frames, ← h.table] at hq
      obtain ⟨k, hk, hptr⟩ := h.serving.deliveries_clients hmem n q hq
      rw [← hptr]
      exact (h.client hk).2
  | leave hmem hreply hserve => cases hq

/-- What went to a client before it left is all that goes to it. -/
def NothingAfterLeaving (J : CJsonLib) (own : List Bytes) (streams : Nat → List Frame)
    (es : List MemberEvent) : Prop :=
  ∀ before after, es = before ++ after → ∀ ptr ∈ leftIn before,
    framesTo ptr (deliveriesAmong J own [] (happenings (unreadStreams streams) es)) =
      framesTo ptr (deliveriesAmong J own [] (happenings (unreadStreams streams) before))

theorem NothingAfterLeaving.step (hnothing : NothingAfterLeaving J own streams es)
    (h : Attends J own streams es r) (hstep : MemberStep J streams r e r') :
    NothingAfterLeaving J own streams (es ++ [e]) := by
  intro before after heq ptr hptr
  rcases List.eq_nil_or_concat after with rfl | ⟨after, last, rfl⟩
  · rw [heq, List.append_nil]
  · rw [List.concat_eq_append, ← List.append_assoc] at heq
    obtain ⟨rfl, -⟩ := List.append_inj' heq rfl
    have hleft : ptr ∈ leftIn (before ++ after) := by
      rw [leftIn, List.filterMap_append]
      exact List.mem_append_left _ hptr
    have hnew := framesTo_eq_nil fun q hq hq' => h.sends hstep q hq (hq' ▸ hleft)
    rw [deliveriesAmong_snoc, framesTo_append, hnew, List.append_nil]
    exact hnothing before after rfl ptr hptr

/-- **Clients that come and go**: in every run, each client ever accepted was sent exactly the
    frames that are due to it, also if it has left; then nothing more is due to it, and none of
    its subscriptions is in the table. The clients of the vector are those accepted that have
    not left; each can be read as long as there is something to read, and can leave. -/
theorem clients_come_and_go (J : CJsonLib) {streams : Nat → List Frame} {debugRoutes : Nat}
    {os : Os}
    (htakes : Takes os.sends) (hdelivers : Delivers os.recvs) (hsent : os.sent = [])
    (hframes : ∀ ptr, ∀ f ∈ streams ptr, f.Admissible J)
    (hrun : Run (MemberStep J streams) (startRouter debugRoutes os) es r) :
    (∀ p ∈ acceptedIn es, wire p.2 r.env.sent =
      (framesTo p.1 (deliveriesAmong J (ownExpressions (startRoutes debugRoutes)) []
        (happenings (unreadStreams streams) es))).flatMap Frame.bytes) ∧
    NothingAfterLeaving J (ownExpressions (startRoutes debugRoutes)) streams es ∧
    clientEnds r.clients = (acceptedIn es).filter (fun p => decide (p.1 ∉ leftIn es)) ∧
    (∀ u ∈ subscriptions r.routes, u.client ∉ leftIn es) ∧
    ∀ clnt ∈ r.clients,
      (r.env.input clnt.fd ≠ [] → ∃ n r', 0 < n ∧ MemberStep J streams r (.read clnt.ptr n) r') ∧
      ∃ r', MemberStep J streams r (.left clnt.ptr) r' := by
  have h := Attends.of_run htakes hdelivers hsent hframes hrun
  refine ⟨h.sent, ?_, h.clients, ?_, ?_⟩
  · refine (hrun.invariant (I := fun es r =>
      Attends J (ownExpressions (startRoutes debugRoutes)) streams es r ∧
        NothingAfterLeaving J (ownExpressions (startRoutes debugRoutes)) streams es) ?_ ?_).2
    · refine ⟨.start J streams debugRoutes htakes hdelivers hsent, ?_⟩
      intro before after heq ptr hptr
      rw [(List.append_eq_nil_iff.mp heq.symm).1] at hptr
      cases hptr
    · exact fun es t e u ⟨ht, hnothing⟩ hstep => ⟨ht.step hframes hstep, hnothing.step ht hstep⟩
  · intro u hu
    obtain ⟨e, he, howner⟩ := mem_subscriptions hu
    obtain ⟨k, hk, hptr⟩ := h.noDangling.served e he u.client howner
    rw [← hptr]
    exact (h.client hk).2
  · refine fun clnt hmem => ⟨fun hin => ?_, ?_⟩
    · obtain ⟨n, r', hn, hread, -, hserve⟩ := h.serving.serve hmem hin
      exact ⟨n, r', hn, .read (.read hmem (hserve _ (Nat.lt_succ_self _)) hread.received)⟩
    · have hreply : ∀ k, RecvResult.eof ≠ .data k := fun k => RecvResult.noConfusion
      obtain ⟨event, hleaves⟩ := h.serving.leave h.noDangling hmem hreply
      exact ⟨_, .leave hmem hreply (hleaves 0)⟩

/-! A turn of the main loop. -/

def MemberEvent.reader? : MemberEvent → Option Nat
  | .read client _ => some client
  | _ => none

/-- The clients of which something can be read. -/
def Readable (r : RtRouted Os) (ptr : Nat) : Prop :=
  ∃ clnt ∈ r.clients, clnt.ptr = ptr ∧ r.env.input clnt.fd ≠ []

/-- A read of one client leaves something to read of the others. -/
theorem Attends.readable_other (h : Attends J own streams es r) {client n ptr : Nat}
    (h' : Attends J own streams (es ++ [.read client n]) r') (hne : ptr ≠ client)
    (hready : Readable r ptr) : Readable r' ptr := by
  obtain ⟨clnt, hmem, rfl, hin⟩ := hready
  have hends : (clnt.ptr, clnt.fd) ∈ clientEnds r'.clients := by
    have hleft : leftIn (es ++ [.read client n]) = leftIn es := by
      rw [leftIn_snoc]
      exact List.append_nil _
    rw [h'.clients, acceptedIn_snoc, hleft]
    exact List.mem_filter.mpr ⟨List.mem_append_left _ (h.client hmem).1,
      decide_eq_true (h.client hmem).2⟩
  obtain ⟨k, hk, hptr, hfd⟩ := mem_clientEnds.mp hends
  refine ⟨k, hk, hptr, ?_⟩
  rw [h'.serving.input k hk, streamsAmong_snoc, hptr]
  change (readStream _ (client, n) clnt.ptr).unread ≠ []
  rw [readStream_other hne, ← h.serving.input clnt hmem]
  exact hin

/-- Clients of which something can be read are served one after the other. -/
theorem Attends.serveEach (h : Attends J own streams es r)
    (hframes : ∀ ptr, ∀ f ∈ streams ptr, f.Admissible J) {ptrs : List Nat} (hnodup : ptrs.Nodup)
    (hready : ∀ ptr ∈ ptrs, Readable r ptr) :
    ∃ es' r', Run (MemberStep J streams) r es' r' ∧ es'.map (·.reader?) = ptrs.map some ∧
      (∀ fuel x, serveEach J fuel ptrs r = .ok x → x = r') ∧
      ∃ bound, ∀ fuel, bound ≤ fuel → serveEach J fuel ptrs r = .ok r' := by
  induction ptrs generalizing es r with
  | nil =>
    refine ⟨[], r, .nil, rfl, fun fuel x hx => ?_, 0, fun fuel _ => rfl⟩
    cases hx
    rfl
  | cons ptr ptrs ih =>
    obtain ⟨hfirst, hrest⟩ := List.nodup_cons.mp hnodup
    obtain ⟨clnt, hmem, rfl, hin⟩ := hready ptr List.mem_cons_self
    obtain ⟨n, r₁, -, hread, hunique, hserve⟩ := h.serving.serve hmem hin
    have hstep : MemberStep J streams r (.read clnt.ptr n) r₁ :=
      .read (.read hmem (hserve _ (Nat.lt_succ_self _)) hread.received)
    have h₁ := h.step hframes hstep
    obtain ⟨es', r', hrun, hreaders, hone, bound, hserves⟩ := ih h₁ hrest fun other hother =>
      h.readable_other h₁ (fun heq => hfirst (heq ▸ hother))
        (hready other (List.mem_cons_of_mem _ hother))
    refine ⟨.read clnt.ptr n :: es', r', (Run.single hstep).trans hrun, ?_, ?_,
      max (r.routes.length + 1) bound, fun fuel hfuel => ?_⟩
    · rw [List.map_cons, List.map_cons, hreaders]
      rfl
    · intro fuel x hx
      rw [RtMessage.serveEach, List.foldlM_cons] at hx
      obtain ⟨r₂, hr₂, hx⟩ := bind_eq_ok.mp hx
      cases hunique fuel r₂ hr₂
      exact hone fuel x hx
    · rw [RtMessage.serveEach, List.foldlM_cons, hserve fuel (by omega), ok_bind]
      exact hserves fuel (by omega)

theorem Attends.mainTurn (h : Attends J own streams es r) {listeners : List RoutedListener}
    (hframes : ∀ ptr, ∀ f ∈ streams ptr, f.Admissible J)
    (hfds : (Daemon.fds ⟨listeners, r⟩).Nodup)
    (hsize : ∀ fd ∈ Daemon.fds ⟨listeners, r⟩, fd < FD_SETSIZE) {readFds : FdSet}
    (hready : ∀ fd ∈ readFds, ∃ clnt ∈ r.clients, clnt.fd = fd ∧ r.env.input fd ≠ [])
    (accepted : Nat → Except Errno Nat) :
    ∃ es' r', Run (MemberStep J streams) r es' r' ∧
      es'.map (·.reader?) = (readable readFds r.clients).map some ∧
      (∀ fuel d, mainTurn J fuel ⟨.ready readFds, accepted, r.env⟩ ⟨listeners, r⟩ = .ok d →
        d = ⟨listeners, r'⟩) ∧
      ∃ bound, ∀ fuel, bound ≤ fuel →
        mainTurn J fuel ⟨.ready readFds, accepted, r.env⟩ ⟨listeners, r⟩ = .ok ⟨listeners, r'⟩ := by
  have hsound : Daemon.Sound ⟨listeners, r⟩ := ⟨h.noDangling, hfds⟩
  -- No listener is readable.
  have hlisteners : ∀ l ∈ listeners, l.fd ∉ readFds := by
    intro l hl hmem
    obtain ⟨clnt, hclnt, hfd, -⟩ := hready l.fd hmem
    refine (List.nodup_append.mp hfds).2.2 l.fd (List.mem_map_of_mem hl) clnt.fd ?_ hfd.symm
    exact List.mem_map_of_mem hclnt
  have hkernel : Kernel ⟨listeners, r⟩ ⟨.ready readFds, accepted, r.env⟩ := by
    refine .of_ready rfl ?_ ?_ ?_
    · intro fd hfd
      obtain ⟨clnt, hclnt, rfl, -⟩ := hready fd hfd
      exact List.mem_append_right _ (List.mem_map_of_mem hclnt)
    · rw [acceptedFds_none hlisteners]
      exact fun fd hfd => by cases hfd
    · rw [acceptedFds_none hlisteners]
      exact List.nodup_nil
  obtain ⟨es', r', hrun', hreaders, hone, bound, hserves⟩ := h.serveEach hframes
    (hsound.readable_nodup readFds) fun ptr hptr => by
      obtain ⟨clnt, hclnt, rfl⟩ := List.mem_map.mp hptr
      obtain ⟨hclnt, hfd⟩ := List.mem_filter.mp hclnt
      obtain ⟨-, -, -, hin⟩ := hready clnt.fd (of_decide_eq_true hfd)
      exact ⟨clnt, hclnt, rfl, hin⟩
  have hturn : ∀ fuel, RtMessage.mainTurn J fuel ⟨.ready readFds, accepted, r.env⟩ ⟨listeners, r⟩ =
      (RtMessage.serveEach J fuel (readable readFds r.clients) r).map (⟨listeners, ·⟩) := by
    intro fuel
    rw [hsound.mainTurn_eq hkernel, if_pos hsize, servedTurn]
    dsimp only
    rw [acceptClients_none hlisteners, acceptedFds_none hlisteners]
    refine bind_congr fun x => if_pos fun fd hfd => ?_
    cases hfd
  refine ⟨es', r', hrun', hreaders, fun fuel d hd => ?_, bound, fun fuel hfuel => ?_⟩
  · rw [hturn] at hd
    cases hserve : RtMessage.serveEach J fuel (readable readFds r.clients) r with
    | error e =>
      rw [hserve] at hd
      cases hd
    | ok x =>
      rw [hserve] at hd
      cases hd
      rw [hone fuel x hserve]
  · rw [hturn, hserves fuel hfuel]
    rfl

/-- **A turn of the main loop** in which `select` reports clients of which something can be
    read: it returns, and has read each of them once, in the order of the vector. -/
theorem main_turn_reads (J : CJsonLib) {listeners : List RoutedListener}
    {streams : Nat → List Frame} {debugRoutes : Nat} {os : Os} (htakes : Takes os.sends)
    (hdelivers : Delivers os.recvs) (hsent : os.sent = [])
    (hframes : ∀ ptr, ∀ f ∈ streams ptr, f.Admissible J)
    (hrun : Run (MemberStep J streams) (startRouter debugRoutes os) es r)
    (hfds : (Daemon.fds ⟨listeners, r⟩).Nodup)
    (hsize : ∀ fd ∈ Daemon.fds ⟨listeners, r⟩, fd < FD_SETSIZE) {readFds : FdSet}
    (hready : ∀ fd ∈ readFds, ∃ clnt ∈ r.clients, clnt.fd = fd ∧ r.env.input fd ≠ [])
    (accepted : Nat → Except Errno Nat) :
    ∃ es' r', Run (MemberStep J streams) r es' r' ∧
      es'.map (·.reader?) = (readable readFds r.clients).map some ∧
      ∃ bound, ∀ fuel, bound ≤ fuel →
        mainTurn J fuel ⟨.ready readFds, accepted, r.env⟩ ⟨listeners, r⟩ = .ok ⟨listeners, r'⟩ := by
  have h := Attends.of_run htakes hdelivers hsent hframes hrun
  obtain ⟨es', r', hrun', hreaders, -, hreturns⟩ := h.mainTurn hframes hfds hsize hready accepted
  exact ⟨es', r', hrun', hreaders, hreturns⟩

end Runs

/-! A client that connects and leaves. -/

def quietOs : Os := .idle (Stream'.const .complete)

theorem firstAccepted : Run (MemberStep subscribeLib exampleStreams) (startRouter 0 quietOs)
    [.accepted 1 1] (rtRoutedAcceptClientConnection (.ok 1)
      { startRouter 0 quietOs with
        env := quietOs.opened ((exampleStreams 1).flatMap Frame.bytes) }) :=
  .single .accept

/-- A client subscribes to what it publishes. -/
def echoStreams : Nat → List Frame
  | 1 => [subscribeFrame, exampleFrame]
  | _ => []

theorem echoStreams_admissible (ptr : Nat) : ∀ f ∈ echoStreams ptr, f.Admissible subscribeLib := by
  intro f hf
  unfold echoStreams at hf
  split at hf
  · simp only [List.mem_cons, List.not_mem_nil, or_false] at hf
    rcases hf with rfl | rfl
    · exact subscribeFrame_admissible
    · exact frame_admissible (by decide) (by decide) (by decide) (by decide)
  · cases hf

theorem clients_come_and_go_example : ∃ es r,
    Run (MemberStep subscribeLib echoStreams) (startRouter 0 quietOs) es r ∧
      leftIn es = [1] ∧ wire 1 r.env.sent = (exampleFrame.withControlData 5).bytes ∧
      r.clients = [] := by
  have htakes : Takes quietOs.sends := fun _ => rfl
  have hdelivers : Delivers quietOs.recvs := fun _ => ⟨8191, rfl⟩
  have haccepted : Run (MemberStep subscribeLib echoStreams) (startRouter 0 quietOs)
      [.accepted 1 1] _ := .single .accept
  have hattends := Attends.of_run htakes hdelivers rfl echoStreams_admissible haccepted
  obtain ⟨es, r, hread, hends, hnone, hstays, hdone⟩ :=
    hattends.drain echoStreams_admissible List.mem_cons_self
  have hread := haccepted.trans hread
  have hstart : rtConnectedClientInit 1 1 ∈ [rtConnectedClientInit 1 1] := List.mem_cons_self
  obtain ⟨clnt, hmem, hptr, -⟩ := mem_of_same hends hstart
  obtain ⟨r', hleave⟩ := ((clients_come_and_go subscribeLib htakes hdelivers rfl
    echoStreams_admissible hread).2.2.2.2 clnt hmem).2
  have hptr : clnt.ptr = 1 := hptr
  rw [hptr] at hleave
  have hrun := hread.snoc hleave
  obtain ⟨hsent, -, hclients, -⟩ := clients_come_and_go subscribeLib htakes hdelivers rfl
    echoStreams_admissible hrun
  have hdone : happenings (unreadStreams echoStreams) ([.accepted 1 1] ++ es) =
      [.frame 1 subscribeFrame, .frame 1 exampleFrame] := hdone
  have hall : happenings (unreadStreams echoStreams) ([.accepted 1 1] ++ es ++ [.left 1]) =
      [.frame 1 subscribeFrame, .frame 1 exampleFrame, .left 1] := by
    rw [happenings_snoc, hdone]
    rfl
  have hleft : leftIn ([.accepted 1 1] ++ es ++ [.left 1]) = [1] := by
    rw [leftIn_snoc, leftIn, List.filterMap_append, ← leftIn, ← leftIn, hstays]
    rfl
  have haccepts : acceptedIn ([.accepted 1 1] ++ es ++ [.left 1]) = [(1, 1)] := by
    rw [acceptedIn_snoc, acceptedIn, List.filterMap_append, ← acceptedIn, ← acceptedIn, hnone]
    rfl
  rw [hleft, haccepts] at hclients
  refine ⟨_, r', hrun, hleft, ?_, List.map_eq_nil_iff.mp (hclients.trans (by decide))⟩
  rw [hsent (1, 1) List.mem_cons_self, hall]
  decide

theorem main_turn_reads_example : ∃ r d fuel,
    Run (MemberStep subscribeLib exampleStreams) (startRouter 0 quietOs) [.accepted 1 1] r ∧
    mainTurn subscribeLib fuel ⟨.ready [1], fun _ => .error .EAGAIN, r.env⟩ ⟨[⟨3, .zero⟩], r⟩ =
      .ok d := by
  have hready : ∀ fd ∈ [1], ∃ clnt ∈ [rtConnectedClientInit 1 1], clnt.fd = fd ∧
      (quietOs.opened ((exampleStreams 1).flatMap Frame.bytes)).input fd ≠ [] := by
    intro fd hfd
    rw [List.mem_singleton.mp hfd]
    refine ⟨_, List.mem_cons_self, rfl, ?_⟩
    change [subscribeFrame].flatMap Frame.bytes ≠ []
    rw [List.flatMap_singleton, ← List.length_pos_iff, subscribeFrame.bytes_length]
    exact subscribeFrame.size_pos
  obtain ⟨es', r', -, -, bound, hturn⟩ := main_turn_reads subscribeLib (fun _ => rfl)
    (fun _ => ⟨8191, rfl⟩) rfl exampleStreams_admissible firstAccepted
    (by decide : (Daemon.fds ⟨[⟨3, .zero⟩], _⟩).Nodup) (by decide) hready fun _ => .error .EAGAIN
  exact ⟨_, _, bound, firstAccepted, hturn bound (Nat.le_refl _)⟩

end RtMessage
