import RtMessage.Framing
import RtMessage.Lib.Run
import RtMessage.Routing
import RtMessage.TwoReaders

/- The router refines what its clients may think of it.

   `Serving` relates a router to its clients' streams: each reader is where its stream is.
   `Serving.serve` is the next read of a client and `router_refines` a whole run, in which
   the clients are read in any order and `recv` splits their streams in any way. -/
namespace RtMessage
open Lib

/-- Where a client's reader is in its stream. -/
inductive ReadingAt : Progress → RtConnectedClient → Prop where
  | ended {clnt : RtConnectedClient} (h : Resting clnt) : ReadingAt ([], 0) clnt
  | frame {f : Frame} {fs : List Frame} {got : Nat} {clnt : RtConnectedClient}
      (h : ReaderAt f got clnt) : ReadingAt (f :: fs, got) clnt

theorem Resting.readingAt {clnt : RtConnectedClient} (h : Resting clnt) (fs : List Frame) :
    ReadingAt (fs, 0) clnt := by
  cases fs with
  | nil => exact .ended h
  | cons f fs => exact .frame (h.readerAt f)

/-- The router serves clients whose streams are there. -/
structure Serving (J : CJsonLib) (own : List Bytes) (streams : Nat → Progress) (r : RtRouted Os) :
    Prop where
  distinct : DistinctClients r.clients
  routes : RoutesOf r.clients r.routes
  own_eq : ownExpressions r.routes = own
  takes : Takes r.env.sends
  delivers : Delivers r.env.recvs
  input : ∀ clnt ∈ r.clients, r.env.input clnt.fd = (streams clnt.ptr).unread
  frames : ∀ clnt ∈ r.clients, ∀ f ∈ (streams clnt.ptr).1, f.Admissible J
  reading : ∀ clnt ∈ r.clients, ReadingAt (streams clnt.ptr) clnt

/-- The vector with a client's new state. -/
def putClient (clnt : RtConnectedClient) (clients : List RtConnectedClient) :
    List RtConnectedClient :=
  clients.map fun k => if k.ptr = clnt.ptr then clnt else k

section Clients
variable {clients : List RtConnectedClient} {clnt clnt' : RtConnectedClient}

theorem putClient_map {β : Type} (g : RtConnectedClient → β) (h : DistinctClients clients)
    (hmem : clnt ∈ clients) (hptr : clnt'.ptr = clnt.ptr) (hg : g clnt' = g clnt) :
    (putClient clnt' clients).map g = clients.map g := by
  rw [putClient, List.map_map]
  refine List.map_congr_left fun k hk => ?_
  rw [Function.comp_apply]
  by_cases hp : k.ptr = clnt'.ptr
  · rw [if_pos hp, hg, h.eq_of_ptr hk hmem (hp.trans hptr)]
  · rw [if_neg hp]

theorem mem_putClient {k : RtConnectedClient} (hk : k ∈ putClient clnt clients) :
    k = clnt ∨ k ∈ clients ∧ k.ptr ≠ clnt.ptr := by
  obtain ⟨j, hj, rfl⟩ := List.mem_map.mp hk
  by_cases hp : j.ptr = clnt.ptr
  · rw [if_pos hp]
    exact .inl rfl
  · rw [if_neg hp]
    exact .inr ⟨hj, hp⟩

theorem DistinctClients.putClient (h : DistinctClients clients) (hmem : clnt ∈ clients)
    (hptr : clnt'.ptr = clnt.ptr) (hfd : clnt'.fd = clnt.fd) :
    DistinctClients (putClient clnt' clients) where
  ptrs := by
    rw [putClient_map (·.ptr) h hmem hptr hptr]
    exact h.ptrs
  fds := by
    rw [putClient_map (·.fd) h hmem hptr hfd]
    exact h.fds

theorem RoutesOf.putClient {routes : List RtRouteEntry} (h : RoutesOf clients routes) :
    RoutesOf (putClient clnt' clients) routes where
  internal := h.internal
  served := by
    intro e he ptr howner
    obtain ⟨k, hk, hkptr⟩ := h.served e he ptr howner
    refine ⟨_, List.mem_map_of_mem hk, ?_⟩
    by_cases hp : k.ptr = clnt'.ptr
    · rw [if_pos hp, ← hkptr, hp]
    · rw [if_neg hp, hkptr]

end Clients

theorem Progress.unread_drop {f : Frame} {fs : List Frame} {got n : Nat} (h : got + n ≤ f.size) :
    (Progress.unread (f :: fs, got)).drop n =
      Progress.unread (if got + n < f.size then (f :: fs, got + n) else (fs, 0)) := by
  rw [Progress.unread, List.drop_drop]
  by_cases hlt : got + n < f.size
  · rw [if_pos hlt]
    rfl
  · have hend : got + n = f.bytes.length := by
      rw [f.bytes_length]
      omega
    rw [if_neg hlt, hend, List.flatMap_cons, List.drop_left]
    rfl

theorem readStream_cons {streams : Nat → Progress} {ptr n got : Nat} {f : Frame}
    {fs : List Frame} (h : streams ptr = (f :: fs, got)) :
    readStream streams (ptr, n) =
      Function.update streams ptr (if got + n < f.size then (f :: fs, got + n) else (fs, 0)) := by
  rw [readStream]
  dsimp only
  rw [h]

theorem readStream_other {streams : Nat → Progress} {ptr other : Nat} (h : other ≠ ptr) (n : Nat) :
    readStream streams (ptr, n) other = streams other := by
  cases hstream : streams ptr with
  | mk fs got =>
  cases fs with
  | nil =>
    rw [readStream]
    dsimp only
    rw [hstream]
  | cons f fs => rw [readStream_cons hstream, Function.update_of_ne h]

theorem completed_cons {streams : Nat → Progress} {ptr n got : Nat} {f : Frame}
    {fs : List Frame} (h : streams ptr = (f :: fs, got)) :
    completed streams (ptr, n) = if got + n < f.size then [] else [(ptr, f)] := by
  rw [completed]
  dsimp only
  rw [h]

theorem Progress.unread_length (f : Frame) (fs : List Frame) (got : Nat) :
    (Progress.unread (f :: fs, got)).length = f.size + (fs.flatMap Frame.bytes).length - got := by
  rw [Progress.unread, List.length_drop, List.flatMap_cons, List.length_append, f.bytes_length]

theorem readStream_shorter {streams : Nat → Progress} {ptr n got : Nat} {f : Frame}
    {fs : List Frame} (h : streams ptr = (f :: fs, got)) (hlt : got < f.size) (hn : 0 < n) :
    (readStream streams (ptr, n) ptr).unread.length < (streams ptr).unread.length := by
  rw [readStream_cons h, Function.update_self, h, Progress.unread_length]
  by_cases hmore : got + n < f.size
  · rw [if_pos hmore, Progress.unread_length]
    omega
  · rw [if_neg hmore, Progress.unread, List.drop_zero]
    dsimp only
    omega

section Serve
variable {J : CJsonLib} {own : List Bytes} {streams : Nat → Progress} {r r' : RtRouted Os}
  {clnt clnt' : RtConnectedClient} {n : Nat}

theorem Serving.advance (h : Serving J own streams r) (hmem : clnt ∈ r.clients)
    (hptr : clnt'.ptr = clnt.ptr) (hfd : clnt'.fd = clnt.fd) {p : Progress}
    (hstream : readStream streams (clnt.ptr, n) = Function.update streams clnt.ptr p)
    (hunread : (streams clnt.ptr).unread.drop n = p.unread)
    (hframes : ∀ f ∈ p.1, f ∈ (streams clnt.ptr).1) (hreading : ReadingAt p clnt')
    (hclients : r'.clients = putClient clnt' r.clients) (hroutes : RoutesOf r.clients r'.routes)
    (hown : ownExpressions r'.routes = own) (htakes : Takes r'.env.sends)
    (hrecvs : r'.env.recvs = r.env.recvs.tail)
    (hinput : r'.env.input =
      Function.update r.env.input clnt.fd ((r.env.input clnt.fd).drop n)) :
    Serving J own (readStream streams (clnt.ptr, n)) r' where
  distinct := hclients ▸ h.distinct.putClient hmem hptr hfd
  routes := hclients ▸ hroutes.putClient
  own_eq := hown
  takes := htakes
  delivers := by
    rw [hrecvs]
    exact fun k => h.delivers (k + 1)
  input := by
    intro k hk
    rw [hclients] at hk
    rw [hstream, hinput]
    rcases mem_putClient hk with rfl | ⟨hk, hne⟩
    · rw [hptr, hfd, Function.update_self, Function.update_self, h.input clnt hmem, hunread]
    · rw [hptr] at hne
      rw [Function.update_of_ne hne, Function.update_of_ne, h.input k hk]
      intro heq
      exact hne (congrArg _ (h.distinct.eq_of_fd hk hmem heq))
  frames := by
    intro k hk f hf
    rw [hclients] at hk
    rw [hstream] at hf
    rcases mem_putClient hk with rfl | ⟨hk, hne⟩
    · rw [hptr, Function.update_self] at hf
      exact h.frames clnt hmem f (hframes f hf)
    · rw [hptr] at hne
      rw [Function.update_of_ne hne] at hf
      exact h.frames k hk f hf
  reading := by
    intro k hk
    rw [hclients] at hk
    rw [hstream]
    rcases mem_putClient hk with rfl | ⟨hk, hne⟩
    · rw [hptr, Function.update_self]
      exact hreading
    · rw [hptr] at hne
      rw [Function.update_of_ne hne]
      exact h.reading k hk

/-- What a read of a client brings about: its stream goes on, and the frame that it completes,
    if any, is dispatched. -/
structure ServedRead (J : CJsonLib) (own : List Bytes) (streams : Nat → Progress)
    (clnt : RtConnectedClient) (n : Nat) (r r' : RtRouted Os) : Prop where
  serving : Serving J own (readStream streams (clnt.ptr, n)) r'
  clients : r'.clients.map (fun k => (k.ptr, k.fd)) = r.clients.map fun k => (k.ptr, k.fd)
  received : r'.env.received = r.env.received ++ [⟨clnt.fd, .ok n⟩]
  table : subscriptions r'.routes =
    tableAfter J (subscriptions r.routes) (completed streams (clnt.ptr, n))
  sent : ∀ k ∈ r.clients, wire k.fd r'.env.sent = wire k.fd r.env.sent ++
    (framesTo k.ptr (deliveries J own (subscriptions r.routes)
      (completed streams (clnt.ptr, n)))).flatMap Frame.bytes

theorem outputs_clients (hroutes : RoutesOf r.clients r.routes) (hmem : clnt ∈ r.clients)
    (f : Frame) : ∀ p ∈ outputs J own (subscriptions r.routes) (clnt.ptr, f),
      ∃ k ∈ r.clients, k.ptr = p.1 := by
  intro p hp
  rcases List.mem_append.mp hp with hp | hp
  · obtain ⟨u, hu, rfl⟩ := List.mem_map.mp hp
    obtain ⟨e, he, howner⟩ := mem_subscriptions (List.mem_filter.mp hu).1
    exact hroutes.served e he u.client howner
  · rw [refusals] at hp
    split at hp
    · rw [List.mem_singleton.mp hp]
      exact ⟨clnt, hmem, rfl⟩
    · cases hp

theorem serveClient_ok (hdistinct : DistinctClients r.clients) (hmem : clnt ∈ r.clients)
    (hptr : clnt'.ptr = clnt.ptr) {fuel : Nat}
    (hread : rtConnectedClientRead J fuel clnt r = .ok (.ok, clnt', r')) :
    serveClient J fuel clnt.ptr r = .ok { r' with clients := putClient clnt' r'.clients } := by
  rw [serveClient, hdistinct.find hmem]
  dsimp only
  rw [hread, ok_bind]
  dsimp only
  rw [if_neg (not_not_intro rfl), pure_eq_ok, putClient, hptr]

/-- What the reader makes of `n` bytes of its stream: it has part of a frame, or has extracted
    the frame that they complete. -/
inductive ReadOf (streams : Nat → Progress) (ptr n : Nat) (full : RtConnectedClient) :
    ClientRead → Prop where
  | partway (h : completed streams (ptr, n) = []) : ReadOf streams ptr n full .partway
  | message {f : Frame} (h : completed streams (ptr, n) = [(ptr, f)])
      (hextracted : full.extracted = (f.header, f.payload)) : ReadOf streams ptr n full .message

/-- A read of `n` bytes and what comes of it, whatever the bound on the loops. -/
structure Serves (J : CJsonLib) (own : List Bytes) (streams : Nat → Progress)
    (clnt : RtConnectedClient) (n : Nat) (r r' : RtRouted Os) (read : ClientRead)
    (full : RtConnectedClient) : Prop where
  served : ServedRead J own streams clnt n r r'
  readOf : ReadOf streams clnt.ptr n full read
  unique : ∀ fuel x, serveClient J fuel clnt.ptr r = .ok x → x = r'
  returns : ∀ fuel, r.routes.length < fuel → serveClient J fuel clnt.ptr r = .ok r'

section Frame
variable {f : Frame} {fs : List Frame} {got : Nat} {full : RtConnectedClient} {os₁ : Os}

theorem Serving.serve_partway (h : Serving J own streams r) (hmem : clnt ∈ r.clients)
    (hstream : streams clnt.ptr = (f :: fs, got)) (hptr : full.ptr = clnt.ptr)
    (hfd : full.fd = clnt.fd) (hreader : ReaderAt f (got + n) full)
    (hos : os₁ = r.env.consume clnt.fd n [⟨clnt.fd, .ok n⟩] r.env.recvs.tail)
    (hclient : readClient clnt r.env = .ok (.partway, full, os₁)) :
    ∃ r', Serves J own streams clnt n r r' .partway full := by
  subst hos
  have hlt := hreader.unfinished
  have hunread := @Progress.unread_drop f fs got n (Nat.le_of_lt hlt)
  rw [if_pos hlt] at hunread
  let r₁ : RtRouted Os :=
    { r with env := r.env.consume clnt.fd n [⟨clnt.fd, .ok n⟩] r.env.recvs.tail }
  have hread : ∀ fuel, rtConnectedClientRead J fuel clnt r = .ok (.ok, full, r₁) := fun fuel => by
    rw [connectedClientRead_eq, hclient]
    rfl
  have hserve : ∀ fuel, serveClient J fuel clnt.ptr r =
      .ok { r₁ with clients := putClient full r.clients } :=
    fun fuel => serveClient_ok h.distinct hmem hptr (hread fuel)
  have hcompleted : completed streams (clnt.ptr, n) = [] := by
    rw [completed_cons hstream, if_pos hlt]
  refine ⟨_, ⟨?_, putClient_map _ h.distinct hmem hptr (by rw [hptr, hfd]), rfl, ?_, ?_⟩,
    .partway hcompleted, fun fuel x hx => Except.ok.inj (hx.symm.trans (hserve fuel)),
    fun fuel _ => hserve fuel⟩
  · refine h.advance hmem hptr hfd ?_ (hstream ▸ hunread) ?_ (.frame hreader) rfl h.routes
      h.own_eq h.takes rfl rfl
    · rw [readStream_cons hstream, if_pos hlt]
    · rw [hstream]
      exact fun f hf => hf
  · rw [hcompleted]
    exact (List.append_nil _).symm
  · intro k hk
    rw [hcompleted]
    exact (List.append_nil _).symm

theorem Serving.serve_message (h : Serving J own streams r) (hmem : clnt ∈ r.clients)
    (hstream : streams clnt.ptr = (f :: fs, got)) (hptr : full.ptr = clnt.ptr)
    (hfd : full.fd = clnt.fd) (hsize : got + n = f.size) (hheader : full.header = f.header)
    {rest : Bytes} (hbuffer : full.readBuffer.data = f.bytes ++ rest)
    (hos : os₁ = r.env.consume clnt.fd n [⟨clnt.fd, .ok n⟩] r.env.recvs.tail)
    (hclient : readClient clnt r.env = .ok (.message, full, os₁)) :
    ∃ r', Serves J own streams clnt n r r' .message full := by
  subst hos
  have hnot : ¬ got + n < f.size := by omega
  have hunread := @Progress.unread_drop f fs got n (Nat.le_of_eq hsize)
  rw [if_neg hnot] at hunread
  have hf : f.Admissible J := h.frames clnt hmem f (by rw [hstream]; simp)
  let r₁ : RtRouted Os :=
    { r with env := r.env.consume clnt.fd n [⟨clnt.fd, .ok n⟩] r.env.recvs.tail }
  obtain ⟨a, hlength, hsub, r₂, hr₂, hunique, hdispatch⟩ :=
    dispatch_outputs (r := r₁) (J := J) h.distinct h.routes h.takes hf hmem hptr hfd hheader
      hbuffer
  have hclients₂ : r₂.clients = r.clients := by rw [hr₂, RtRouted.subscribe_clients]
  have hread₂ : ∀ fuel x, rtConnectedClientRead J fuel clnt r = .ok x ↔
      ∃ r₂, rtRouterDispatchMessageFromClient J fuel full r₁ = .ok r₂ ∧
        (.ok, readerReset full, r₂) = x := by
    intro fuel x
    rw [connectedClientRead_eq, hclient, ok_bind]
    dsimp only
    rw [bind_eq_ok]
    simp only [pure_eq_ok, Except.ok.injEq]
    exact Iff.rfl
  have hptr' : (readerReset full).ptr = clnt.ptr := hptr
  have hfd' : (readerReset full).fd = clnt.fd := hfd
  have htakes₁ : Takes r₁.env.sends := h.takes
  have hresult : ∀ fuel, rtRouterDispatchMessageFromClient J fuel full r₁ = .ok r₂ →
      serveClient J fuel clnt.ptr r =
        .ok { r₂ with clients := putClient (readerReset full) r.clients } := by
    intro fuel hd
    rw [← hclients₂]
    exact serveClient_ok h.distinct hmem hptr' ((hread₂ fuel _).mpr ⟨r₂, hd, rfl⟩)
  have hsent : r₂.env = r₁.env.afterFrames (onSockets r.clients
      (outputs J own (subscriptions r.routes) (clnt.ptr, f))) := by
    rw [hr₂, RtRouted.subscribe_env, ← h.own_eq]
  have hcompleted : completed streams (clnt.ptr, n) = [(clnt.ptr, f)] := by
    rw [completed_cons hstream, if_neg hnot]
  refine ⟨{ r₂ with clients := putClient (readerReset full) r.clients },
    ⟨?_, putClient_map _ h.distinct hmem hptr' (by rw [hptr', hfd']), ?_, ?_, ?_⟩,
    .message hcompleted (extracted_of_stored hheader hbuffer), ?_,
    fun fuel hfuel => hresult fuel (hdispatch fuel hfuel)⟩
  · have hroutes₂ : RoutesOf r.clients r₂.routes := by
      have hroutes := RoutesOf.subscribe (r := r) h.routes hmem a
      rw [hr₂]
      cases a <;> exact hroutes
    refine h.advance hmem hptr' hfd' ?_ (hstream ▸ hunread) ?_
      ((resting_reset full).readingAt fs) rfl hroutes₂ ?_ ?_ ?_ ?_
    · rw [readStream_cons hstream, if_neg hnot]
    · rw [hstream]
      exact fun g hg => List.mem_cons_of_mem f hg
    · change ownExpressions r₂.routes = own
      rw [hr₂, ownExpressions_subscribe, ← h.own_eq]
    · change Takes r₂.env.sends
      rw [hsent]
      exact afterFrames_takes htakes₁ _
    · change r₂.env.recvs = _
      rw [hsent, afterFrames_recvs]
      rfl
    · change r₂.env.input = _
      rw [hsent, afterFrames_input]
      rfl
  · change r₂.env.received = _
    rw [hsent, afterFrames_received]
    rfl
  · change subscriptions r₂.routes = _
    rw [hr₂, subscriptions_subscribe _ _ hlength, hcompleted, tableAfter,
      List.flatMap_singleton, subscribed, hsub]
    cases a <;> rfl
  · intro k hk
    change wire k.fd r₂.env.sent = _
    rw [hsent, wire_afterFrames htakes₁, h.distinct.framesTo hk (outputs_clients h.routes hmem f),
      hcompleted, deliveries, deliveries, List.append_nil]
    rfl
  · intro fuel x hx
    have hx₀ := hx
    rw [serveClient, h.distinct.find hmem] at hx
    obtain ⟨y, hy, -⟩ := bind_eq_ok.mp hx
    obtain ⟨r₃, hr₃, -⟩ := (hread₂ fuel y).mp hy
    rw [hunique fuel r₃ hr₃] at hr₃
    exact Except.ok.inj (hx₀.symm.trans (hresult fuel hr₃))

end Frame

/-- **The next read of a client** whose stream goes on, with what it extracts. -/
theorem Serving.serve_extracts (h : Serving J own streams r) (hmem : clnt ∈ r.clients)
    (hin : r.env.input clnt.fd ≠ []) :
    ∃ n r' read full os', 0 < n ∧ readClient clnt r.env = .ok (read, full, os') ∧
      Serves J own streams clnt n r r' read full := by
  cases hstream : streams clnt.ptr with
  | mk fs got =>
  cases fs with
  | nil =>
    refine absurd ?_ hin
    rw [h.input clnt hmem, hstream]
    exact List.drop_nil
  | cons f fs =>
    have hreader : ReaderAt f got clnt := by
      have hreading := h.reading clnt hmem
      rw [hstream] at hreading
      cases hreading with
      | frame hreader => exact hreader
    have hf : f.Admissible J := h.frames clnt hmem f (by rw [hstream]; simp)
    have hinput : r.env.input clnt.fd = f.bytes.drop got ++ fs.flatMap Frame.bytes := by
      rw [h.input clnt hmem, hstream, Progress.unread, List.flatMap_cons,
        List.drop_append_of_le_length]
      rw [f.bytes_length]
      exact Nat.le_of_lt hreader.unfinished
    obtain ⟨n, full, complete, hn, -, hptr, hfd, hend, hclient⟩ :=
      hreader.read_client hf.size_le hf.payload_pos h.delivers hinput
    cases hend with
    | partway hreader' =>
      obtain ⟨r', hserves⟩ := h.serve_partway hmem hstream hptr hfd hreader' rfl hclient
      exact ⟨n, r', _, full, _, hn, hclient, hserves⟩
    | complete hsize hheader hbuffer =>
      obtain ⟨r', hserves⟩ :=
        h.serve_message hmem hstream hptr hfd hsize hheader hbuffer rfl hclient
      exact ⟨n, r', _, full, _, hn, hclient, hserves⟩

theorem Serving.serve (h : Serving J own streams r) (hmem : clnt ∈ r.clients)
    (hin : r.env.input clnt.fd ≠ []) :
    ∃ n r', 0 < n ∧ ServedRead J own streams clnt n r r' ∧
      (∀ fuel x, serveClient J fuel clnt.ptr r = .ok x → x = r') ∧
      ∀ fuel, r.routes.length < fuel → serveClient J fuel clnt.ptr r = .ok r' := by
  obtain ⟨n, r', _, _, _, hn, -, hserves⟩ := h.serve_extracts hmem hin
  exact ⟨n, r', hn, hserves.served, hserves.unique, hserves.returns⟩

end Serve

/-! Runs. -/

/-- The router reads a client, and `recv` returns `n` bytes. -/
inductive RouterStep (J : CJsonLib) (r : RtRouted Os) : Nat × Nat → RtRouted Os → Prop where
  | read {clnt : RtConnectedClient} {n fuel : Nat} {r' : RtRouted Os} (hmem : clnt ∈ r.clients)
      (hserve : serveClient J fuel clnt.ptr r = .ok r')
      (hrecv : r'.env.received = r.env.received ++ [⟨clnt.fd, .ok n⟩]) :
      RouterStep J r (clnt.ptr, n) r'

/-- A router that has accepted its clients and read none of them. Their streams are those
    of the frames. -/
structure Fresh (J : CJsonLib) (streams : Nat → List Frame) (r : RtRouted Os) : Prop where
  clients : ∀ clnt ∈ r.clients, clnt = rtConnectedClientInit clnt.ptr clnt.fd
  distinct : DistinctClients r.clients
  routes : ∃ ptr prints, r.routes = internalRoute ptr :: prints ∧
    ∀ e ∈ prints, e.target = .printMessage
  sent : r.env.sent = []
  input : ∀ clnt ∈ r.clients, r.env.input clnt.fd = (streams clnt.ptr).flatMap Frame.bytes
  frames : ∀ clnt ∈ r.clients, ∀ f ∈ streams clnt.ptr, f.Admissible J
  takes : Takes r.env.sends
  delivers : Delivers r.env.recvs

/-- The streams before the first read. -/
def unreadStreams (streams : Nat → List Frame) : Nat → Progress := fun ptr => (streams ptr, 0)

/-- What a router has brought about by the reads `es`. -/
structure Follows (J : CJsonLib) (streams : Nat → List Frame) (r₀ : RtRouted Os)
    (es : List (Nat × Nat)) (r : RtRouted Os) : Prop where
  serving : Serving J (ownExpressions r₀.routes) (streamsAfter (unreadStreams streams) es) r
  clients : r.clients.map (fun k => (k.ptr, k.fd)) = r₀.clients.map fun k => (k.ptr, k.fd)
  table : subscriptions r.routes = tableAfter J [] (completions (unreadStreams streams) es)
  sent : ∀ clnt ∈ r.clients, wire clnt.fd r.env.sent =
    (framesTo clnt.ptr (deliveries J (ownExpressions r₀.routes) []
      (completions (unreadStreams streams) es))).flatMap Frame.bytes

section Runs
variable {J : CJsonLib} {streams : Nat → List Frame} {r₀ r r' : RtRouted Os}
  {es : List (Nat × Nat)} {e : Nat × Nat} {clnt : RtConnectedClient}

theorem mem_of_same {clients clients' : List RtConnectedClient}
    (h : clients'.map (fun k => (k.ptr, k.fd)) = clients.map fun k => (k.ptr, k.fd))
    (hmem : clnt ∈ clients) : ∃ k ∈ clients', k.ptr = clnt.ptr ∧ k.fd = clnt.fd := by
  have hpair : (clnt.ptr, clnt.fd) ∈ clients'.map fun k => (k.ptr, k.fd) := by
    rw [h]
    exact List.mem_map_of_mem hmem
  obtain ⟨k, hk, heq⟩ := List.mem_map.mp hpair
  exact ⟨k, hk, congrArg Prod.fst heq, congrArg Prod.snd heq⟩

theorem Fresh.subscriptions_nil (h : Fresh J streams r) : subscriptions r.routes = [] := by
  obtain ⟨ptr, prints, hroutes, hprints⟩ := h.routes
  rw [hroutes]
  refine List.filterMap_eq_nil_iff.mpr fun e he => ?_
  rcases List.mem_cons.mp he with rfl | he
  · rfl
  · rw [RtRouteEntry.subscription, hprints e he]

theorem Fresh.follows (h : Fresh J streams r) : Follows J streams r [] r where
  serving :=
    { distinct := h.distinct
      routes := by
        obtain ⟨ptr, prints, hroutes, hprints⟩ := h.routes
        refine ⟨⟨ptr, prints, hroutes, fun e he htarget => ?_⟩, fun e he owner howner => ?_⟩
        · cases (hprints e he).symm.trans htarget
        · rw [hroutes] at he
          rcases List.mem_cons.mp he with rfl | he
          · cases howner
          · rw [RtRouteEntry.owner, hprints e he] at howner
            cases howner
      own_eq := rfl
      takes := h.takes
      delivers := h.delivers
      input := h.input
      frames := h.frames
      reading := by
        intro clnt hmem
        have hrest : Resting clnt := by
          rw [h.clients clnt hmem]
          exact resting_init _ _
        exact hrest.readingAt _ }
  clients := rfl
  table := h.subscriptions_nil
  sent := by
    intro clnt _
    rw [h.sent]
    rfl

theorem ReadingAt.of_unread_nil {p : Progress} (h : ReadingAt p clnt) (hunread : p.unread = []) :
    p.1 = [] ∧ Resting clnt := by
  cases h with
  | ended hrest => exact ⟨rfl, hrest⟩
  | @frame f fs got _ hreader =>
    have hlength := congrArg List.length hunread
    have hlt := hreader.unfinished
    rw [Progress.unread, List.length_drop, List.flatMap_cons, List.length_append,
      f.bytes_length] at hlength
    change _ = 0 at hlength
    omega

/-- A read of a client that has nothing to read does not return. -/
theorem Serving.blocked {own : List Bytes} {streams : Nat → Progress}
    (h : Serving J own streams r) (hmem : clnt ∈ r.clients) (hin : r.env.input clnt.fd = [])
    (fuel : Nat) : serveClient J fuel clnt.ptr r = .error .blocked := by
  have hunread := (h.input clnt hmem).symm.trans hin
  have hrest := ((h.reading clnt hmem).of_unread_nil hunread).2
  obtain ⟨k, hk⟩ := h.delivers 0
  have hhead : r.env.recvs.head = .data k := hk
  have hlen : toSize (clnt.bytesToRead - clnt.bytesRead) = 4 := by
    rw [hrest.bytesToRead, hrest.bytesRead]
    rfl
  rw [serveClient, h.distinct.find hmem]
  dsimp only
  rw [rtConnectedClientRead, hlen]
  simp only [Os.recv, if_neg (show ¬ (4 = 0) by decide), hhead, hin, List.take_nil, if_pos,
    error_bind]

/-- **One step of the router**, for the clients. -/
theorem Follows.step (h : Follows J streams r₀ es r) (hstep : RouterStep J r e r') :
    Follows J streams r₀ (es ++ [e]) r' := by
  cases hstep with
  | @read clnt n fuel _ hmem hserve hrecv =>
    by_cases hin : r.env.input clnt.fd = []
    · cases hserve.symm.trans (h.serving.blocked hmem hin fuel)
    · obtain ⟨m, r₁, -, hread, hunique, -⟩ := h.serving.serve hmem hin
      cases hunique fuel r' hserve
      have hm : m = n := by
        have hlast := List.append_cancel_left (hread.received.symm.trans hrecv)
        simpa using hlast
      subst hm
      have hone : completions (unreadStreams streams) (es ++ [(clnt.ptr, m)]) =
          completions (unreadStreams streams) es ++
            completed (streamsAfter (unreadStreams streams) es) (clnt.ptr, m) := by
        rw [completions_append, completions, completions, List.append_nil]
      constructor
      · rw [streamsAfter_append]
        exact hread.serving
      · exact hread.clients.trans h.clients
      · rw [hone, tableAfter_append, ← h.table]
        exact hread.table
      · intro k hk
        obtain ⟨k', hk', hptr, hfd⟩ := mem_of_same hread.clients.symm hk
        rw [hone, deliveries_append, framesTo_append, List.flatMap_append, ← hptr, ← hfd,
          ← h.sent k' hk', ← h.table]
        exact hread.sent k' hk'

theorem Follows.of_run (hstart : Fresh J streams r₀) (hrun : Run (RouterStep J) r₀ es r) :
    Follows J streams r₀ es r :=
  hrun.invariant (I := Follows J streams r₀) hstart.follows fun _ _ _ _ h hstep => h.step hstep

theorem Follows.progress (h : Follows J streams r₀ es r) (hmem : clnt ∈ r.clients)
    (hin : r.env.input clnt.fd ≠ []) : ∃ n r', 0 < n ∧ RouterStep J r (clnt.ptr, n) r' := by
  obtain ⟨n, r', hn, hread, -, hserve⟩ := h.serving.serve hmem hin
  exact ⟨n, r', hn, .read hmem (hserve _ (Nat.lt_succ_self _)) hread.received⟩

/-- **The router refines what its clients may think of it**: each client is sent the copies
    and the refusals that are due to it, in the order in which frames are completed. What was
    completed is what was read of the streams, and what is left can be read. -/
theorem router_refines (J : CJsonLib) {streams : Nat → List Frame} {r₀ r : RtRouted Os}
    {es : List (Nat × Nat)} (hstart : Fresh J streams r₀) (hrun : Run (RouterStep J) r₀ es r) :
    ∀ clnt ∈ r₀.clients,
      wire clnt.fd r.env.sent =
        (framesTo clnt.ptr (deliveries J (ownExpressions r₀.routes) []
          (completions (unreadStreams streams) es))).flatMap Frame.bytes ∧
      (∃ left got, framesTo clnt.ptr (completions (unreadStreams streams) es) ++ left =
          streams clnt.ptr ∧
        r.env.input clnt.fd = (left.flatMap Frame.bytes).drop got ∧ (left = [] → got = 0) ∧
        ∀ f ∈ left.head?, got < f.size) ∧
      (r.env.input clnt.fd ≠ [] → ∃ n r', 0 < n ∧ RouterStep J r (clnt.ptr, n) r') := by
  intro clnt hmem
  have h := Follows.of_run hstart hrun
  obtain ⟨k, hk, hptr, hfd⟩ := mem_of_same h.clients hmem
  rw [← hptr, ← hfd]
  refine ⟨h.sent k hk, ?_, h.progress hk⟩
  have hsplit := completions_streamsAfter (unreadStreams streams) es k.ptr
  have hinput := h.serving.input k hk
  have hreading := h.serving.reading k hk
  generalize streamsAfter (unreadStreams streams) es k.ptr = p at hsplit hinput hreading
  refine ⟨p.1, p.2, hsplit, hinput, ?_, ?_⟩
  · cases hreading with
    | ended _ => exact fun _ => rfl
    | frame _ => intro hnil; cases hnil
  · cases hreading with
    | ended _ => intro f hf; cases hf
    | frame hreader =>
      intro f hf
      cases hf
      exact hreader.unfinished

theorem Follows.drain (h : Follows J streams r₀ es r) (hrun : Run (RouterStep J) r₀ es r)
    (hmem : clnt ∈ r.clients) :
    ∃ es' r', Run (RouterStep J) r₀ (es ++ es') r' ∧ Follows J streams r₀ (es ++ es') r' ∧
      completions (streamsAfter (unreadStreams streams) es) es' =
        (streamsAfter (unreadStreams streams) es clnt.ptr).1.map fun f => (clnt.ptr, f) := by
  generalize hleft : (streamsAfter (unreadStreams streams) es clnt.ptr).unread.length = left
  induction left using Nat.strong_induction_on generalizing es r clnt with
  | _ left ih =>
    have hreading := h.serving.reading clnt hmem
    cases hstream : streamsAfter (unreadStreams streams) es clnt.ptr with
    | mk fs got =>
    rw [hstream] at hreading hleft
    cases hreading with
    | ended _ => exact ⟨[], r, by rwa [List.append_nil], by rwa [List.append_nil], rfl⟩
    | @frame f fs got _ hreader =>
      have hlt := hreader.unfinished
      have hin : r.env.input clnt.fd ≠ [] := by
        have hlength := Progress.unread_length f fs got
        rw [h.serving.input clnt hmem, hstream]
        intro hnil
        rw [hnil] at hlength
        change 0 = _ at hlength
        omega
      obtain ⟨n, r', hn, hstep⟩ := h.progress hmem hin
      have h' := h.step hstep
      obtain ⟨k, hk, hptr, -⟩ := mem_of_same (h'.clients.trans h.clients.symm) hmem
      have hstream' : streamsAfter (unreadStreams streams) (es ++ [(clnt.ptr, n)]) k.ptr =
          readStream (streamsAfter (unreadStreams streams) es) (clnt.ptr, n) clnt.ptr := by
        rw [streamsAfter_append, hptr]
        rfl
      have hshorter : (streamsAfter (unreadStreams streams) (es ++ [(clnt.ptr, n)])
          k.ptr).unread.length < left := by
        rw [hstream', ← hleft, ← hstream]
        exact readStream_shorter hstream hlt hn
      obtain ⟨es', r'', hrun'', h'', hdone⟩ := ih _ hshorter h' (hrun.snoc hstep) hk rfl
      refine ⟨(clnt.ptr, n) :: es', r'', by simpa using hrun'', by simpa using h'', ?_⟩
      rw [streamsAfter_append] at hdone hstream'
      change completions (readStream (streamsAfter _ es) (clnt.ptr, n)) es' = _ at hdone
      rw [completions, hdone, hstream', readStream_cons hstream, Function.update_self,
        completed_cons hstream, hptr]
      split <;> rfl

end Runs

/-! Two clients. -/

/-- A router with clients 1 and 2, on sockets 0 and 1, and no routes but the internal one. -/
def twoClients (streams : Nat → List Frame) : RtRouted Os where
  clients := [rtConnectedClientInit 1 0, rtConnectedClientInit 2 1]
  routes := [internalRoute 3]
  nextPtr := 4
  env := { Os.idle (Stream'.const .complete) with
    input := fun sock => (streams (sock + 1)).flatMap Frame.bytes }

theorem twoClients_fresh {J : CJsonLib} {streams : Nat → List Frame}
    (h : ∀ ptr, ∀ f ∈ streams ptr, f.Admissible J) : Fresh J streams (twoClients streams) where
  clients := by
    intro clnt hmem
    rcases List.mem_cons.mp hmem with rfl | hmem
    · rfl
    · rw [List.mem_singleton.mp hmem]
      rfl
  distinct := by
    constructor <;> simp [twoClients, rtConnectedClientInit]
  routes := ⟨3, [], rfl, by simp⟩
  sent := rfl
  input := by
    intro clnt hmem
    rcases List.mem_cons.mp hmem with rfl | hmem
    · rfl
    · rw [List.mem_singleton.mp hmem]
      rfl
  frames := fun clnt _ => h clnt.ptr
  takes := fun _ => rfl
  delivers := fun _ => ⟨8191, rfl⟩

theorem twoClients_run {J : CJsonLib} {streams : Nat → List Frame}
    (h : ∀ ptr, ∀ f ∈ streams ptr, f.Admissible J) :
    ∃ es r, Run (RouterStep J) (twoClients streams) es r ∧
      completions (unreadStreams streams) es =
        (streams 1).map (fun f => (1, f)) ++ (streams 2).map fun f => (2, f) := by
  have h₀ := (twoClients_fresh h).follows
  have hmem : rtConnectedClientInit 1 0 ∈ (twoClients streams).clients := by simp [twoClients]
  obtain ⟨es, r, hrun, h₁, hdone⟩ := h₀.drain .nil hmem
  rw [List.nil_append] at hrun h₁
  have hmem₂ : rtConnectedClientInit 2 1 ∈ (twoClients streams).clients := by simp [twoClients]
  obtain ⟨clnt, hclnt, hptr, -⟩ := mem_of_same h₁.clients hmem₂
  obtain ⟨es', r', hrun', -, hdone'⟩ := h₁.drain hrun hclnt
  refine ⟨es ++ es', r', hrun', ?_⟩
  have hdone : completions (unreadStreams streams) es = (streams 1).map fun f => (1, f) := hdone
  have hleft := completions_streamsAfter (unreadStreams streams) es 2
  have hnone : framesTo 2 ((streams 1).map fun f => (1, f)) = [] :=
    List.filterMap_eq_nil_iff.mpr fun p hp => by
      obtain ⟨f, -, rfl⟩ := List.mem_map.mp hp
      rfl
  rw [hdone, hnone, List.nil_append] at hleft
  have hptr : clnt.ptr = 2 := hptr
  rw [completions_append, hdone, hdone', hptr, hleft]
  rfl

def subscribeText : Bytes := ascii "\x7b\"topic\":\"A.B\",\"route_id\":5\x7d"

/-- A library that reads this text, whatever follows it. -/
def subscribeLib : CJsonLib where
  parse text := if subscribeText.isPrefixOf text
    then some (subscribeMessage (ascii "A.B") 5) else none
  print _ := []

def subscribeFrame : Frame where
  sequenceNumber := 1
  flags := 0
  controlData := 0
  topic := ⟨subscribeTopic, by decide, by decide⟩
  replyTopic := ⟨[], by decide, by decide⟩
  payload := subscribeText
  payload_lt := by decide

theorem subscribeFrame_admissible : subscribeFrame.Admissible subscribeLib where
  payload_pos := by decide
  size_le := by decide
  not_hello := by decide
  subscribe := by
    intro _
    refine ⟨subscribeMessage (ascii "A.B") 5, ascii "A.B", 5, fun rest => ?_, by decide,
      by decide, by decide⟩
    have hfront : subscribeText.isPrefixOf (subscribeText ++ cstr rest) = true :=
      List.isPrefixOf_iff_prefix.mpr (List.prefix_append _ _)
    have hnul : 0 ∉ subscribeText := by decide
    rw [subscribeFrame, cstr_append hnul]
    unfold subscribeLib
    dsimp only
    rw [if_pos hfront]

theorem frame_admissible {J : CJsonLib} {f : Frame} (hpayload : 0 < f.payload.length)
    (hsize : f.size ≤ 8192) (hhello : f.topic.str ≠ helloTopic)
    (hsubscribe : f.topic.str ≠ subscribeTopic) : f.Admissible J :=
  ⟨hpayload, hsize, hhello, fun h => absurd h hsubscribe⟩

/-- Client 1 subscribes, and client 2 then publishes. -/
def exampleStreams : Nat → List Frame
  | 1 => [subscribeFrame]
  | 2 => [exampleFrame]
  | _ => []

theorem exampleStreams_admissible (ptr : Nat) :
    ∀ f ∈ exampleStreams ptr, f.Admissible subscribeLib := by
  intro f hf
  unfold exampleStreams at hf
  split at hf
  · rw [List.mem_singleton.mp hf]
    exact subscribeFrame_admissible
  · rw [List.mem_singleton.mp hf]
    exact frame_admissible (by decide) (by decide) (by decide) (by decide)
  · cases hf

theorem router_refines_example : ∃ es r,
    Run (RouterStep subscribeLib) (twoClients exampleStreams) es r ∧
      wire 0 r.env.sent = (exampleFrame.withControlData 5).bytes ∧ wire 1 r.env.sent = [] := by
  obtain ⟨es, r, hrun, hdone⟩ := twoClients_run exampleStreams_admissible
  have hrefines := router_refines subscribeLib (twoClients_fresh exampleStreams_admissible) hrun
  refine ⟨es, r, hrun, ?_, ?_⟩
  · have hsent := (hrefines (rtConnectedClientInit 1 0) (by simp [twoClients])).1
    rw [hdone] at hsent
    refine hsent.trans ?_
    decide
  · have hsent := (hrefines (rtConnectedClientInit 2 1) (by simp [twoClients])).1
    rw [hdone] at hsent
    refine hsent.trans ?_
    decide

/-! Copies alone. -/

/-- The copies of the frames without the refusals. -/
def copiesOnly (J : CJsonLib) (table : List Subscription) : List (Nat × Frame) → List (Nat × Frame)
  | [] => []
  | p :: rest => copies table p.2 ++ copiesOnly J (table ++ subscribed J p) rest

/-- Client 1 asks for something that has no route. -/
def unroutedStreams : Nat → List Frame
  | 1 => [{ exampleFrame with flags := rtMessageFlagsRequest }]
  | _ => []

theorem unroutedStreams_admissible (J : CJsonLib) (ptr : Nat) :
    ∀ f ∈ unroutedStreams ptr, f.Admissible J := by
  intro f hf
  unfold unroutedStreams at hf
  split at hf
  · rw [List.mem_singleton.mp hf]
    exact frame_admissible (by decide) (by decide) (by decide) (by decide)
  · cases hf

/-- The clients are not sent copies alone: a request without a route is answered. -/
theorem router_sends_refusals : ¬ ∀ (J : CJsonLib) (streams : Nat → List Frame)
    (r₀ r : RtRouted Os) (es : List (Nat × Nat)), Fresh J streams r₀ →
    Run (RouterStep J) r₀ es r → ∀ clnt ∈ r₀.clients,
      wire clnt.fd r.env.sent = (framesTo clnt.ptr
        (copiesOnly J [] (completions (unreadStreams streams) es))).flatMap Frame.bytes := by
  intro hclaim
  have hadmissible := unroutedStreams_admissible .unused
  obtain ⟨es, r, hrun, hdone⟩ := twoClients_run hadmissible
  have hfresh := twoClients_fresh hadmissible
  have hmem : rtConnectedClientInit 1 0 ∈ (twoClients unroutedStreams).clients := by
    simp [twoClients]
  have hcopies := hclaim _ _ _ _ _ hfresh hrun _ hmem
  have hfollows := Follows.of_run hfresh hrun
  obtain ⟨clnt, hclnt, hptr, hfd⟩ := mem_of_same hfollows.clients hmem
  have hsent := hfollows.sent clnt hclnt
  rw [hfd, hcopies, hptr, hdone] at hsent
  revert hsent
  decide

end RtMessage
