import Mathlib.Algebra.Order.BigOperators.Group.List
import RtMessage.World
import RtMessage.Membership
import RtMessage.DataProvider.RoundTrip

/- Many clients and one provider host at once.

   The clients' requests come to the router in pieces and in any order. The host's thread answers
   what has reached it at its own pace, and the router reads the answers in pieces too. All this
   may be interleaved in any way: there is one order of the requests, the one in which the router
   completes them, such that the host is as if it had carried them out one after the other, and each
   client is sent the answers to its own requests, each once and in its own order
   (`service_linearizes`). And each gets its answer (`service_answers`). -/
namespace RtMessage
open Lib

/-! Routes. -/

/-- The id of the first route of a topic. -/
def routeId (table : List Subscription) (topic : Bytes) : UInt32 :=
  ((table.find? fun u => rtRoutedIsTopicMatch topic u.expression).map (·.id)).getD 0

/-- The frame as it is passed on by that route. -/
def routedCopy (table : List Subscription) (f : Frame) : Frame :=
  f.withControlData (routeId table f.topic.str)

theorem OnlyRoute.routeId_eq {table : List Subscription} {topic : Bytes} {client : Nat}
    {id : UInt32} (h : OnlyRoute table topic client id) : routeId table topic = id := by
  obtain ⟨expression, hfilter⟩ := h
  rw [routeId, ← List.head?_filter, hfilter]
  rfl

theorem outputs_route {J : CJsonLib} {own : List Bytes} {table : List Subscription} {f : Frame}
    {client : Nat} (h : ∃ id, OnlyRoute table f.topic.str client id) (ptr : Nat) :
    outputs J own table (ptr, f) = [(client, routedCopy table f)] := by
  obtain ⟨id, honly⟩ := h
  rw [outputs_only honly ptr, routedCopy, honly.routeId_eq]

theorem subscribed_nil (J : CJsonLib) {p : Nat × Frame} (h : p.2.topic.str ≠ subscribeTopic) :
    subscribed J p = [] := by
  rw [subscribed, Frame.subscription, if_neg h]
  rfl

theorem deliveries_routed {J : CJsonLib} {own : List Bytes} {table : List Subscription}
    {done : List (Nat × Frame)} (target : Nat × Frame → Nat)
    (hplain : ∀ q ∈ done, q.2.topic.str ≠ subscribeTopic)
    (hroute : ∀ q ∈ done, ∃ id, OnlyRoute table q.2.topic.str (target q) id) :
    deliveries J own table done = done.map (fun q => (target q, routedCopy table q.2)) ∧
      tableAfter J table done = table := by
  induction done with
  | nil => exact ⟨rfl, List.append_nil table⟩
  | cons q done ih =>
    obtain ⟨hdeliveries, htable⟩ := ih (fun x hx => hplain x (List.mem_cons_of_mem _ hx))
      fun x hx => hroute x (List.mem_cons_of_mem _ hx)
    have hnone := subscribed_nil J (hplain q List.mem_cons_self)
    constructor
    · rw [deliveries, hnone, List.append_nil, hdeliveries,
        outputs_route (hroute q List.mem_cons_self)]
      rfl
    · rw [tableAfter, List.flatMap_cons, hnone]
      exact htable

theorem framesTo_same (client : Nat) (fs : List Frame) :
    framesTo client (fs.map fun f => (client, f)) = fs := by
  induction fs with
  | nil => rfl
  | cons f fs ih =>
    rw [List.map_cons, framesTo, List.filterMap_cons, if_pos rfl]
    exact congrArg (f :: ·) ih

/-! A stream that is not read. -/

section Streams
variable {s : Nat → Progress} {ptr client n : Nat} {x : Progress}

theorem completed_update (h : client ≠ ptr) :
    completed (Function.update s ptr x) (client, n) = completed s (client, n) := by
  rw [completed, completed]
  dsimp only
  rw [Function.update_of_ne h]

theorem readStream_update (h : client ≠ ptr) : readStream (Function.update s ptr x) (client, n) =
    Function.update (readStream s (client, n)) ptr x := by
  cases hstream : s client with
  | mk fs got =>
    cases fs with
    | nil =>
      rw [readStream, readStream]
      dsimp only
      rw [Function.update_of_ne h, hstream]
    | cons f fs =>
      have hupdated : Function.update s ptr x client = (f :: fs, got) := by
        rw [Function.update_of_ne h, hstream]
      rw [readStream_cons hupdated, readStream_cons hstream, Function.update_comm h]

theorem streamsAfter_mem {streams : Nat → List Frame} {es : List (Nat × Nat)} {f : Frame}
    (h : f ∈ (streamsAfter (unreadStreams streams) es client).1) : f ∈ streams client := by
  have hall := completions_streamsAfter (unreadStreams streams) es client
  change _ = streams client at hall
  rw [← hall]
  exact List.mem_append_right _ h

theorem completed_mem {p : Nat × Frame} (h : p ∈ completed s (client, n)) :
    p.1 = client ∧ p.2 ∈ (s client).1 := by
  rw [completed] at h
  dsimp only at h
  split at h
  · cases h
  · next f fs got hstream =>
    split at h
    · cases h
    · rw [List.mem_singleton.mp h, hstream]
      exact ⟨rfl, List.mem_cons_self⟩

end Streams

end RtMessage

namespace RtMessage.DataProvider
open Lib

/-! The system. -/

/-- The router and the process of a host. -/
structure Service (σ : Type) where
  router : RtRouted Os
  host : HostProcess σ

inductive ServiceEvent where
  /-- `recv` returns `n` bytes of a client of the router -/
  | read (client n : Nat)
  /-- a turn of the host's thread -/
  | turn

/-- What either end of the host's connection has sent has arrived at the other when the step is
    over. The router's end is `fd` and the host's `sock`. -/
inductive ServiceStep {σ : Type} (J : CJsonLib) (F : FloatText) (fd sock : Nat) (s : Service σ) :
    ServiceEvent → Service σ → Prop where
  | read {client n : Nat} {r : RtRouted Os} (h : RouterStep J s.router (client, n) r) :
      ServiceStep J F fd sock s (.read client n)
        ⟨r, { s.host with os := s.host.os.arrive sock (newBytes fd s.router.env r.env) }⟩
  | turn {fuel : Nat} {host : HostProcess σ}
      (h : dmProviderHostImplTurn J F fuel s.host = .ok host) :
      ServiceStep J F fd sock s .turn
        ⟨{ s.router with env := s.router.env.arrive fd (newBytes sock s.host.os host.os) }, host⟩

def ServiceEvent.readOf? (provider : Nat) : ServiceEvent → Option (Nat × Nat)
  | .read client n => if client = provider then none else some (client, n)
  | .turn => none

/-- The reads of clients other than the provider. -/
def clientReads (provider : Nat) (es : List ServiceEvent) : List (Nat × Nat) :=
  es.filterMap (·.readOf? provider)

/-- The requests that the router has completed, in order, each with its client. -/
def askedIn (streams : Nat → List Frame) (provider : Nat) (es : List ServiceEvent) :
    List (Nat × Frame) :=
  completions (unreadStreams streams) (clientReads provider es)

def turnsIn (es : List ServiceEvent) : Nat :=
  es.countP fun e => match e with
    | .turn => true
    | .read _ _ => false

/-- What the clients are sent for the answers: each goes to the client of its request. -/
def replies (table : List Subscription) (asked : List (Nat × Frame)) (gs : List Frame) :
    List (Nat × Frame) :=
  List.zipWith (fun q g => (q.1, routedCopy table g)) asked gs

/-- A request of a client for the host, whose answer comes back to this client. -/
structure Asked (J : CJsonLib) (table : List Subscription) (con : RtConnection)
    (provider client : Nat) (f : Frame) : Prop where
  admissible : f.Admissible J
  size_lt : f.size < 8192
  routed : f.Routed
  plain : f.topic.str ≠ subscribeTopic
  there : ∃ id, OnlyRoute table f.topic.str provider id
  taken : con.takesRequest (routedCopy table f) = true
  back : ∃ id, OnlyRoute table f.replyTopic.str client id
  back_plain : f.replyTopic.str ≠ subscribeTopic

/-- Whatever requests were carried out, the answers can be sent through the router. -/
def AnswersFit {σ : Type} (J : CJsonLib) (F : FloatText) (s : HostProcess σ)
    (asked : Frame → Prop) : Prop :=
  ∀ fs gs host' n', (∀ f ∈ fs, asked f) →
    AnsweredBy J F s.host s.con.sequenceNumber fs gs host' n' → ∀ g ∈ gs, g.Admissible J

/-- The clients' requests are there, and nothing was read of them. -/
structure ServiceReady {σ : Type} (J : CJsonLib) (F : FloatText) (streams : Nat → List Frame)
    (provider : RtConnectedClient) (sock : Nat) (s : Service σ) : Prop where
  serving : Serving J (ownExpressions s.router.routes) (unreadStreams streams) s.router
  provider_mem : provider ∈ s.router.clients
  provider_none : streams provider.ptr = []
  waiting : s.host.Waiting sock [] []
  asked : ∀ clnt ∈ s.router.clients, clnt.ptr ≠ provider.ptr → ∀ f ∈ streams clnt.ptr,
    Asked J (subscriptions s.router.routes) s.host.con provider.ptr clnt.ptr f
  fits : AnswersFit J F s.host fun f => ∃ clnt ∈ s.router.clients, ∃ f₀ ∈ streams clnt.ptr,
    f = routedCopy (subscriptions s.router.routes) f₀

/-! The events. -/

section Events
variable {streams : Nat → List Frame} {provider client n : Nat} {es : List ServiceEvent}

theorem clientReads_snoc (e : ServiceEvent) :
    clientReads provider (es ++ [e]) = clientReads provider es ++ (e.readOf? provider).toList := by
  rw [clientReads, List.filterMap_append, List.filterMap_cons, List.filterMap_nil]
  cases e.readOf? provider <;> rfl

theorem clientReads_client (h : client ≠ provider) :
    clientReads provider (es ++ [.read client n]) = clientReads provider es ++ [(client, n)] := by
  rw [clientReads_snoc, ServiceEvent.readOf?, if_neg h]
  rfl

theorem clientReads_provider :
    clientReads provider (es ++ [.read provider n]) = clientReads provider es := by
  rw [clientReads_snoc, ServiceEvent.readOf?, if_pos rfl]
  exact List.append_nil _

theorem clientReads_turn : clientReads provider (es ++ [.turn]) = clientReads provider es := by
  rw [clientReads_snoc]
  exact List.append_nil _

theorem askedIn_client (h : client ≠ provider) :
    askedIn streams provider (es ++ [.read client n]) = askedIn streams provider es ++
      completed (streamsAfter (unreadStreams streams) (clientReads provider es)) (client, n) := by
  rw [askedIn, clientReads_client h, completions_append, completions, completions, List.append_nil]
  rfl

theorem turnsIn_read : turnsIn (es ++ [.read client n]) = turnsIn es := by
  rw [turnsIn, List.countP_append]
  rfl

theorem turnsIn_turn : turnsIn (es ++ [.turn]) = turnsIn es + 1 := by
  rw [turnsIn, List.countP_append]
  rfl

end Events

/-! The answers. -/

section Answers
variable {σ : Type} {J : CJsonLib} {F : FloatText} {table : List Subscription}

theorem replies_append {asked : List (Nat × Frame)} {gs : List Frame}
    (h : gs.length ≤ asked.length) (more : List (Nat × Frame)) :
    replies table (asked ++ more) gs = replies table asked gs := by
  induction gs generalizing asked with
  | nil => rw [replies, replies, List.zipWith_nil_right, List.zipWith_nil_right]
  | cons g gs ih =>
    cases asked with
    | nil => cases h
    | cons q asked => exact congrArg (_ :: ·) (ih (Nat.le_of_succ_le_succ h))

theorem replies_snoc {asked : List (Nat × Frame)} {gs : List Frame} {q : Nat × Frame}
    (h : asked[gs.length]? = some q) (g : Frame) :
    replies table asked (gs ++ [g]) = replies table asked gs ++ [(q.1, routedCopy table g)] := by
  induction gs generalizing asked with
  | nil =>
    cases asked with
    | nil => cases h
    | cons q' asked =>
      cases h
      rw [List.nil_append, replies, List.zipWith_cons_cons, List.zipWith_nil_right, replies,
        List.zipWith_nil_right]
      rfl
  | cons g' gs ih =>
    cases asked with
    | nil => cases h
    | cons q' asked => exact congrArg (_ :: ·) (ih h)

theorem AnsweredBy.topics {host host' : DmProviderHost σ} {n n' : UInt32} {fs gs : List Frame}
    (h : AnsweredBy J F host n fs gs host' n') :
    List.Forall₂ (fun f g => g.topic = f.replyTopic) fs gs := by
  induction h with
  | nil => exact .nil
  | cons _ _ _ ih => exact .cons (cut_topic _) ih

end Answers

/-! The invariant. -/

section Consistency
variable {σ : Type}

/-- What the system has brought about by the events `es`: the host has answered the first requests
    by `gs`, of which the router has passed on the first `passed`. -/
structure Consistent (J : CJsonLib) (F : FloatText) (streams : Nat → List Frame)
    (provider : RtConnectedClient) (sock : Nat) (s₀ : Service σ) (es : List ServiceEvent)
    (gs : List Frame) (passed got : Nat) (s : Service σ) : Prop where
  clients : clientEnds s.router.clients = clientEnds s₀.router.clients
  table : subscriptions s.router.routes = subscriptions s₀.router.routes
  serving : Serving J (ownExpressions s₀.router.routes)
    (Function.update (streamsAfter (unreadStreams streams) (clientReads provider.ptr es))
      provider.ptr (gs.drop passed, got)) s.router
  passed_le : passed ≤ gs.length
  asked : ∀ q ∈ askedIn streams provider.ptr es, q.1 ≠ provider.ptr ∧ q.2 ∈ streams q.1 ∧
    ∃ clnt ∈ s₀.router.clients, clnt.ptr = q.1
  turns_le : turnsIn es ≤ (askedIn streams provider.ptr es).length
  listeners : s.host.con.listeners = s₀.host.con.listeners
  waiting : s.host.Waiting sock []
    (((askedIn streams provider.ptr es).drop (turnsIn es)).map fun q =>
      routedCopy (subscriptions s₀.router.routes) q.2)
  answered : AnsweredBy J F s₀.host.host s₀.host.con.sequenceNumber
    (((askedIn streams provider.ptr es).take (turnsIn es)).map fun q =>
      routedCopy (subscriptions s₀.router.routes) q.2) gs s.host.host s.host.con.sequenceNumber
  sent : ∀ k ∈ s.router.clients, k.ptr ≠ provider.ptr → wire k.fd s.router.env.sent =
    wire k.fd s₀.router.env.sent ++ (framesTo k.ptr (replies (subscriptions s₀.router.routes)
      (askedIn streams provider.ptr es) (gs.take passed))).flatMap Frame.bytes

variable {J : CJsonLib} {F : FloatText} {streams : Nat → List Frame}
  {provider : RtConnectedClient} {sock passed got : Nat} {s₀ s s' : Service σ}
  {es : List ServiceEvent} {gs : List Frame}

theorem ServiceReady.consistent (h : ServiceReady J F streams provider sock s₀) :
    Consistent J F streams provider sock s₀ [] [] 0 0 s₀ where
  clients := rfl
  table := rfl
  serving := by
    have hsame : Function.update (unreadStreams streams) provider.ptr ([], 0) =
        unreadStreams streams := by
      have hnone : unreadStreams streams provider.ptr = ([], 0) := by
        rw [unreadStreams, h.provider_none]
      rw [← hnone, Function.update_eq_self]
    change Serving J _ (Function.update (unreadStreams streams) provider.ptr ([], 0)) _
    rw [hsame]
    exact h.serving
  passed_le := Nat.le_refl 0
  asked := fun q hq => by cases hq
  turns_le := Nat.le_refl 0
  listeners := rfl
  waiting := h.waiting
  answered := .nil
  sent := fun k _ _ => (List.append_nil _).symm

theorem Consistent.provider_mem (h : Consistent J F streams provider sock s₀ es gs passed got s)
    (hready : ServiceReady J F streams provider sock s₀) :
    ∃ k ∈ s.router.clients, k.ptr = provider.ptr ∧ k.fd = provider.fd := by
  have hend : (provider.ptr, provider.fd) ∈ clientEnds s₀.router.clients :=
    List.mem_map_of_mem hready.provider_mem
  rw [← h.clients] at hend
  exact mem_clientEnds.mp hend

theorem Consistent.client (h : Consistent J F streams provider sock s₀ es gs passed got s)
    {k : RtConnectedClient} (hk : k ∈ s.router.clients) :
    ∃ clnt ∈ s₀.router.clients, clnt.ptr = k.ptr := by
  have hend : (k.ptr, k.fd) ∈ clientEnds s.router.clients := List.mem_map_of_mem hk
  rw [h.clients] at hend
  obtain ⟨clnt, hclnt, hptr, -⟩ := mem_clientEnds.mp hend
  exact ⟨clnt, hclnt, hptr⟩

theorem Consistent.asked_of (h : Consistent J F streams provider sock s₀ es gs passed got s)
    (hready : ServiceReady J F streams provider sock s₀) {q : Nat × Frame}
    (hq : q ∈ askedIn streams provider.ptr es) :
    Asked J (subscriptions s₀.router.routes) s₀.host.con provider.ptr q.1 q.2 := by
  obtain ⟨hne, hmem, clnt, hclnt, hptr⟩ := h.asked q hq
  rw [← hptr] at hne hmem ⊢
  exact hready.asked clnt hclnt hne q.2 hmem

theorem HostProcess.Waiting.arrive {s : HostProcess σ} {fs : List Frame}
    (h : s.Waiting sock [] fs) (gs : List Frame) :
    HostProcess.Waiting sock [] (fs ++ gs)
      { s with os := s.os.arrive sock (gs.flatMap Frame.bytes) } where
  fd := h.fd
  callable := h.callable
  takes := h.takes
  delivers := h.delivers
  input := by
    change Function.update s.os.input sock (s.os.input sock ++ gs.flatMap Frame.bytes) sock = _
    rw [Function.update_self, h.input, List.append_nil, List.append_nil, List.flatMap_append]

theorem Consistent.length_eq (h : Consistent J F streams provider sock s₀ es gs passed got s) :
    gs.length = turnsIn es := by
  have hlength := h.answered.topics.length_eq
  rw [List.length_map, List.length_take, Nat.min_eq_left h.turns_le] at hlength
  exact hlength.symm

/-- **The router reads a client.** The request that it completes, if any, comes to the host. -/
theorem Consistent.readClient (h : Consistent J F streams provider sock s₀ es gs passed got s)
    (hready : ServiceReady J F streams provider sock s₀) {client n : Nat} {r : RtRouted Os}
    (hne : client ≠ provider.ptr) (hstep : RouterStep J s.router (client, n) r) :
    Consistent J F streams provider sock s₀ (es ++ [.read client n]) gs passed got
      ⟨r, { s.host with os :=
        s.host.os.arrive sock (newBytes provider.fd s.router.env r.env) }⟩ := by
  obtain ⟨clnt, hmem, rfl, -, -, -, hread⟩ := h.serving.routerStep hstep
  have hserving := hread.serving
  have htable := hread.table
  have hsent := hread.sent
  rw [readStream_update hne] at hserving
  rw [completed_update hne, h.table] at htable hsent
  generalize hdone : completed (streamsAfter (unreadStreams streams)
    (clientReads provider.ptr es)) (clnt.ptr, n) = done at htable hsent
  have hasked : askedIn streams provider.ptr (es ++ [.read clnt.ptr n]) =
      askedIn streams provider.ptr es ++ done := by
    rw [askedIn_client hne, hdone]
  have hstreams : streamsAfter (unreadStreams streams)
      (clientReads provider.ptr (es ++ [.read clnt.ptr n])) =
      readStream (streamsAfter (unreadStreams streams) (clientReads provider.ptr es))
        (clnt.ptr, n) := by
    rw [clientReads_client hne, streamsAfter_append]
    rfl
  -- what the read completes is a request of the client that was read
  have hnew : ∀ q ∈ done, q.1 ≠ provider.ptr ∧ q.2 ∈ streams q.1 ∧
      ∃ k ∈ s₀.router.clients, k.ptr = q.1 := by
    intro q hq
    rw [← hdone] at hq
    obtain ⟨hq, hqmem⟩ := completed_mem hq
    rw [hq]
    exact ⟨hne, streamsAfter_mem hqmem, h.client hmem⟩
  have hall : ∀ q ∈ askedIn streams provider.ptr es ++ done, q.1 ≠ provider.ptr ∧
      q.2 ∈ streams q.1 ∧ ∃ k ∈ s₀.router.clients, k.ptr = q.1 := fun q hq =>
    (List.mem_append.mp hq).elim (h.asked q) (hnew q)
  have hof : ∀ q ∈ done,
      Asked J (subscriptions s₀.router.routes) s₀.host.con provider.ptr q.1 q.2 := by
    intro q hq
    obtain ⟨hqne, hqmem, k, hk, hptr⟩ := hnew q hq
    rw [← hptr] at hqne hqmem ⊢
    exact hready.asked k hk hqne q.2 hqmem
  -- each request goes to the provider alone, and changes no subscription
  obtain ⟨hdeliveries, hsame⟩ := @deliveries_routed J (ownExpressions s₀.router.routes) _ done
    (fun _ => provider.ptr) (fun q hq => (hof q hq).plain) fun q hq => (hof q hq).there
  rw [hdeliveries] at hsent
  rw [hsame] at htable
  have hto : framesTo provider.ptr (done.map fun q =>
      (provider.ptr, routedCopy (subscriptions s₀.router.routes) q.2)) =
      done.map fun q => routedCopy (subscriptions s₀.router.routes) q.2 := by
    have hsplit : done.map (fun q =>
        (provider.ptr, routedCopy (subscriptions s₀.router.routes) q.2)) =
        (done.map fun q => routedCopy (subscriptions s₀.router.routes) q.2).map
          fun f => (provider.ptr, f) := by
      rw [List.map_map]
      rfl
    rw [hsplit, framesTo_same]
  constructor
  case clients => exact hread.clients.trans h.clients
  case table => exact htable
  case serving =>
    rw [hstreams]
    exact hserving
  case passed_le => exact h.passed_le
  case asked =>
    rw [hasked]
    exact hall
  case turns_le =>
    rw [hasked, turnsIn_read, List.length_append]
    exact Nat.le_add_right_of_le h.turns_le
  case listeners => exact h.listeners
  case waiting =>
    obtain ⟨k, hk, hptr, hfd⟩ := h.provider_mem hready
    have hbytes := newBytes_eq (hsent k hk)
    rw [hptr, hfd, hto] at hbytes
    rw [hasked, turnsIn_read, List.drop_append_of_le_length h.turns_le, List.map_append, hbytes]
    exact h.waiting.arrive _
  case answered =>
    rw [hasked, turnsIn_read, List.take_append_of_le_length h.turns_le]
    exact h.answered
  case sent =>
    intro k hk hkne
    obtain ⟨k', hk', hptr, hfd⟩ := mem_of_same hread.clients.symm hk
    have hbefore := h.sent k' hk' (hptr ▸ hkne)
    have hkeep := hsent k' hk'
    rw [framesTo_eq_nil, List.flatMap_nil, List.append_nil] at hkeep
    · rw [hasked, replies_append, ← hptr, ← hfd, hkeep, hbefore]
      rw [List.length_take, h.length_eq]
      exact (Nat.min_le_right _ _).trans h.turns_le
    · intro q hq
      obtain ⟨x, -, rfl⟩ := List.mem_map.mp hq
      exact fun heq => hkne (hptr.symm.trans heq.symm)

theorem Consistent.request_of (h : Consistent J F streams provider sock s₀ es gs passed got s)
    {i : Nat} {g : Frame} (hg : gs[i]? = some g) :
    ∃ q, (askedIn streams provider.ptr es)[i]? = some q ∧ g.topic = q.2.replyTopic := by
  have hlt : i < gs.length := (List.getElem?_eq_some_iff.mp hg).1
  have hi : i < (askedIn streams provider.ptr es).length := by
    rw [h.length_eq] at hlt
    exact hlt.trans_le h.turns_le
  refine ⟨_, List.getElem?_eq_getElem hi, ?_⟩
  have htopic := (List.forall₂_iff_get.mp h.answered.topics).2 i
    (by rw [List.length_map, List.length_take]; exact lt_min (h.length_eq ▸ hlt) hi) hlt
  rw [List.getElem?_eq_getElem hlt, Option.some.injEq] at hg
  simpa [hg, routedCopy, Frame.withControlData] using htopic

theorem Consistent.providerRead (h : Consistent J F streams provider sock s₀ es gs passed got s)
    {n passed' got' : Nat} {r : RtRouted Os}
    (hclients : clientEnds r.clients = clientEnds s.router.clients)
    (htable : subscriptions r.routes = subscriptions s₀.router.routes)
    (hserving : Serving J (ownExpressions s₀.router.routes)
      (Function.update (streamsAfter (unreadStreams streams) (clientReads provider.ptr es))
        provider.ptr (gs.drop passed', got')) r)
    (hle : passed' ≤ gs.length) (hquiet : newBytes provider.fd s.router.env r.env = [])
    (hsent : ∀ k ∈ r.clients, k.ptr ≠ provider.ptr → wire k.fd r.env.sent =
      wire k.fd s₀.router.env.sent ++ (framesTo k.ptr (replies (subscriptions s₀.router.routes)
        (askedIn streams provider.ptr es) (gs.take passed'))).flatMap Frame.bytes) :
    Consistent J F streams provider sock s₀ (es ++ [.read provider.ptr n]) gs passed' got'
      ⟨r, { s.host with
        os := s.host.os.arrive sock (newBytes provider.fd s.router.env r.env) }⟩ := by
  have hasked : askedIn streams provider.ptr (es ++ [.read provider.ptr n]) =
      askedIn streams provider.ptr es := by
    rw [askedIn, clientReads_provider]
    rfl
  constructor
  case clients => exact hclients.trans h.clients
  case table => exact htable
  case serving =>
    rw [clientReads_provider]
    exact hserving
  case passed_le => exact hle
  case asked =>
    rw [hasked]
    exact h.asked
  case turns_le =>
    rw [hasked, turnsIn_read]
    exact h.turns_le
  case listeners => exact h.listeners
  case waiting =>
    rw [hasked, turnsIn_read, hquiet, Os.arrive_nil]
    exact h.waiting
  case answered =>
    rw [hasked, turnsIn_read]
    exact h.answered
  case sent =>
    rw [hasked]
    exact hsent

/-- **The router reads the provider.** The answer that it completes, if any, goes to the client
    whose request it answers. -/
theorem Consistent.readProvider (h : Consistent J F streams provider sock s₀ es gs passed got s)
    (hready : ServiceReady J F streams provider sock s₀) {n : Nat} {r : RtRouted Os}
    (hstep : RouterStep J s.router (provider.ptr, n) r) :
    ∃ passed' got', Consistent J F streams provider sock s₀ (es ++ [.read provider.ptr n]) gs
        passed' got'
        ⟨r, { s.host with
          os := s.host.os.arrive sock (newBytes provider.fd s.router.env r.env) }⟩ ∧
      (Progress.unread (gs.drop passed', got')).length <
        (Progress.unread (gs.drop passed, got)).length := by
  obtain ⟨clnt, hmem, hptr, hn, hin, -, hread⟩ := h.serving.routerStep hstep
  have hserving := hread.serving
  have htable := hread.table
  have hsent := hread.sent
  have hreading := h.serving.reading clnt hmem
  have hinput := h.serving.input clnt hmem
  rw [hptr] at hserving htable hsent hreading hinput
  rw [Function.update_self] at hreading hinput
  obtain ⟨kp, hkp, hkptr, hkfd⟩ := h.provider_mem hready
  -- there is an answer that the router is reading
  cases hleft : gs.drop passed with
  | nil =>
    rw [hleft] at hreading hinput
    cases hreading with
    | ended _ => exact absurd hinput hin
  | cons g rest =>
  have hself : Function.update (streamsAfter (unreadStreams streams)
      (clientReads provider.ptr es)) provider.ptr (gs.drop passed, got) provider.ptr =
      (g :: rest, got) := by
    rw [Function.update_self, hleft]
  have hshorter := readStream_shorter (n := n) hself
  rw [readStream_cons hself, Function.update_self, Function.update_self, hleft] at hshorter
  rw [readStream_cons hself, Function.update_idem] at hserving
  rw [completed_cons hself, h.table] at htable hsent
  rw [hleft] at hreading
  cases hreading with
  | frame hreader =>
  have hshorter := hshorter hreader.unfinished hn
  by_cases hpart : got + n < g.size
  · rw [if_pos hpart] at hserving htable hsent hshorter
    have hnone : ∀ k ∈ s.router.clients, wire k.fd r.env.sent = wire k.fd s.router.env.sent :=
      fun k hk => (hsent k hk).trans (List.append_nil _)
    refine ⟨passed, got + n, h.providerRead hread.clients ?_ ?_ h.passed_le ?_ ?_,
      by rwa [hleft]⟩
    · rw [htable]
      exact List.append_nil _
    · rw [hleft]
      exact hserving
    · rw [← hkfd]
      refine newBytes_eq ?_
      rw [hnone kp hkp, List.append_nil]
    · intro k hk hkne
      obtain ⟨k', hk', hptr', hfd'⟩ := mem_of_same hread.clients.symm hk
      rw [← hfd', hnone k' hk', ← hptr']
      exact h.sent k' hk' (hptr' ▸ hkne)
  · rw [if_neg hpart] at hserving htable hsent hshorter
    have hget : gs[passed]? = some g := by
      rw [← List.head?_drop, hleft]
      rfl
    have hrest : gs.drop (passed + 1) = rest := by
      rw [← List.drop_drop, hleft]
      rfl
    obtain ⟨q, hq, htopic⟩ := h.request_of hget
    have hqmem := List.mem_of_getElem? hq
    have hof := h.asked_of hready hqmem
    obtain ⟨hdeliveries, hsame⟩ := @deliveries_routed J (ownExpressions s₀.router.routes)
      (subscriptions s₀.router.routes) [(provider.ptr, g)] (fun _ => q.1)
      (fun x hx => by rw [List.mem_singleton.mp hx, htopic]; exact hof.back_plain)
      (fun x hx => by rw [List.mem_singleton.mp hx, htopic]; exact hof.back)
    rw [hdeliveries] at hsent
    rw [hsame] at htable
    refine ⟨passed + 1, 0, h.providerRead hread.clients htable ?_ ?_ ?_ ?_, by rwa [hrest]⟩
    · rw [hrest]
      exact hserving
    · exact (List.getElem?_eq_some_iff.mp hget).1
    · rw [← hkfd]
      refine newBytes_eq ?_
      rw [hsent kp hkp, framesTo_eq_nil]
      · rfl
      · intro x hx
        rw [List.mem_singleton.mp hx, hkptr]
        exact (h.asked q hqmem).1
    · intro k hk hkne
      obtain ⟨k', hk', hptr', hfd'⟩ := mem_of_same hread.clients.symm hk
      have hlength : (gs.take passed).length = passed := by
        rw [List.length_take, Nat.min_eq_left h.passed_le]
      have htake : gs.take (passed + 1) = gs.take passed ++ [g] := by
        rw [List.take_add_one, hget]
        rfl
      rw [htake, replies_snoc (by rw [hlength]; exact hq), framesTo_append, List.flatMap_append,
        ← List.append_assoc, ← hptr', ← hfd', hsent k' hk', h.sent k' hk' (hptr' ▸ hkne)]
      rfl

theorem turn_waits {s s' : HostProcess σ} (h : s.Waiting sock [] []) {fuel : Nat} :
    dmProviderHostImplTurn J F fuel s ≠ .ok s' := by
  intro hturn
  obtain ⟨d, hd, -⟩ := bind_eq_ok.mp hturn
  obtain ⟨r, hr, -⟩ := timedDispatch_cases hd
  exact receiveLoop_waits h.fd h.input h.delivers hr

/-- **The host answers** the next request that has come to it. -/
theorem Consistent.turn (h : Consistent J F streams provider sock s₀ es gs passed got s)
    (hready : ServiceReady J F streams provider sock s₀) {fuel : Nat} {host : HostProcess σ}
    (hturn : dmProviderHostImplTurn J F fuel s.host = .ok host) :
    ∃ g, g.size ≤ 8192 ∧ Consistent J F streams provider sock s₀ (es ++ [.turn]) (gs ++ [g])
      passed got ⟨{ s.router with
        env := s.router.env.arrive provider.fd (newBytes sock s.host.os host.os) }, host⟩ := by
  have hasked : askedIn streams provider.ptr (es ++ [.turn]) = askedIn streams provider.ptr es := by
    rw [askedIn, clientReads_turn]
    rfl
  have hwaiting := h.waiting
  -- a turn that returns has found a request: the thread waits where there is none
  cases hpending : (askedIn streams provider.ptr es).drop (turnsIn es) with
  | nil =>
    rw [hpending] at hwaiting
    exact absurd hturn (turn_waits hwaiting)
  | cons q rest =>
  rw [hpending, List.map_cons] at hwaiting
  have hq : (askedIn streams provider.ptr es)[turnsIn es]? = some q := by
    rw [← List.head?_drop, hpending]
    rfl
  have hof := h.asked_of hready (List.mem_of_getElem? hq)
  obtain ⟨hnext, -, gs', hserved⟩ := (hwaiting.turn J F
    (by rw [routedCopy, Frame.withControlData_size]; exact hof.size_lt) hof.routed).1 fuel host
    hturn
  -- this request is one for the host, so the turn has answered it, and it alone
  have htaken : [routedCopy (subscriptions s₀.router.routes) q.2].filter s.host.con.takesRequest =
      [routedCopy (subscriptions s₀.router.routes) q.2] := by
    rw [takesRequest_congr h.listeners, List.filter_cons, if_pos hof.taken]
    rfl
  have hanswered := hserved.answered
  rw [htaken] at hanswered
  obtain ⟨g, rfl⟩ : ∃ g, gs' = [g] := by
    have hlength := hanswered.topics.length_eq
    exact List.length_eq_one_iff.mp hlength.symm
  have hsent := hserved.sent sock
  rw [if_pos rfl, List.flatMap_singleton] at hsent
  have htake : (askedIn streams provider.ptr es).take (turnsIn es + 1) =
      (askedIn streams provider.ptr es).take (turnsIn es) ++ [q] := by
    rw [List.take_add_one, hq]
    rfl
  have hall : AnsweredBy J F s₀.host.host s₀.host.con.sequenceNumber
      (((askedIn streams provider.ptr es).take (turnsIn es + 1)).map fun q =>
        routedCopy (subscriptions s₀.router.routes) q.2) (gs ++ [g]) host.host
      host.con.sequenceNumber := by
    rw [htake, List.map_append]
    exact h.answered.append hanswered
  -- the answer is one of those that fit, as all the requests so far were asked
  have hadmissible : g.Admissible J := by
    refine hready.fits _ _ _ _ ?_ hall g (List.mem_append_right _ List.mem_cons_self)
    intro f hf
    obtain ⟨x, hx, rfl⟩ := List.mem_map.mp hf
    obtain ⟨-, hmem, clnt, hclnt, hclient⟩ := h.asked x (List.mem_of_mem_take hx)
    exact ⟨clnt, hclnt, x.2, hclient ▸ hmem, rfl⟩
  refine ⟨g, hadmissible.size_le, ?_⟩
  rw [newBytes_eq hsent]
  constructor
  case clients => exact h.clients
  case table => exact h.table
  case serving =>
    obtain ⟨k, hk, hptr, hfd⟩ := h.provider_mem hready
    have harrived := h.serving.arrive hk hadmissible
    rw [hptr, hfd, Function.update_self, Function.update_idem] at harrived
    rw [clientReads_turn, List.drop_append_of_le_length h.passed_le]
    exact harrived
  case passed_le =>
    rw [List.length_append]
    exact Nat.le_add_right_of_le h.passed_le
  case asked =>
    rw [hasked]
    exact h.asked
  case turns_le =>
    rw [hasked, turnsIn_turn]
    exact (List.getElem?_eq_some_iff.mp hq).1
  case listeners => exact hserved.listeners.trans h.listeners
  case waiting =>
    rw [hasked, turnsIn_turn, ← List.drop_drop, hpending]
    exact hnext
  case answered =>
    rw [hasked, turnsIn_turn]
    exact hall
  case sent =>
    rw [hasked, List.take_append_of_le_length h.passed_le]
    exact h.sent

/-! What is left to do. -/

/-- The bytes of a stream, and the turn and the answer that each of its requests takes. -/
def workOf (p : Progress) : Nat := p.unread.length + 8193 * p.1.length

/-- What is left to do after `es`: each step makes it less. -/
def workLeft (clients : List RtConnectedClient) (streams : Nat → List Frame) (provider : Nat)
    (es : List ServiceEvent) (gs : List Frame) (passed got : Nat) : Nat :=
  (clients.map fun clnt =>
    workOf (streamsAfter (unreadStreams streams) (clientReads provider es) clnt.ptr)).sum +
  8193 * ((askedIn streams provider es).length - turnsIn es) +
  (Progress.unread (gs.drop passed, got)).length

theorem sum_add_le {α : Type} {l : List α} {a : α} {u v : α → Nat} {d : Nat} (ha : a ∈ l)
    (hless : u a + d ≤ v a) (hle : ∀ x ∈ l, u x ≤ v x) : (l.map u).sum + d ≤ (l.map v).sum := by
  induction l with
  | nil => cases ha
  | cons x l ih =>
    rw [List.map_cons, List.map_cons, List.sum_cons, List.sum_cons]
    have hx := hle x List.mem_cons_self
    have hrest := fun y hy => hle y (List.mem_cons_of_mem x hy)
    rcases List.mem_cons.mp ha with rfl | ha
    · have hsum := List.sum_le_sum hrest
      omega
    · have hsum := ih ha hrest
      omega

theorem completed_length {streams : Nat → Progress} {ptr n got : Nat} {f : Frame}
    {fs : List Frame} (h : streams ptr = (f :: fs, got)) :
    (readStream streams (ptr, n) ptr).1.length + (completed streams (ptr, n)).length =
      (streams ptr).1.length := by
  rw [readStream_cons h, completed_cons h, Function.update_self, h]
  by_cases hpart : got + n < f.size
  · rw [if_pos hpart, if_pos hpart]
    rfl
  · rw [if_neg hpart, if_neg hpart]
    rfl

theorem Consistent.readClient_work
    (h : Consistent J F streams provider sock s₀ es gs passed got s) {client n : Nat}
    {r : RtRouted Os} (hne : client ≠ provider.ptr) (hstep : RouterStep J s.router (client, n) r) :
    workLeft s₀.router.clients streams provider.ptr (es ++ [.read client n]) gs passed got <
      workLeft s₀.router.clients streams provider.ptr es gs passed got := by
  obtain ⟨k, hmem, rfl, hn, hin, -, -⟩ := h.serving.routerStep hstep
  have hreading := h.serving.reading k hmem
  have hinput := h.serving.input k hmem
  rw [Function.update_of_ne hne] at hreading hinput
  obtain ⟨clnt, hclnt, hptr⟩ := h.client hmem
  have hturns := h.turns_le
  unfold workLeft
  rw [clientReads_client hne, streamsAfter_append, askedIn_client hne, turnsIn_read,
    List.length_append]
  generalize hs : streamsAfter (unreadStreams streams) (clientReads provider.ptr es) = t
    at hreading hinput ⊢
  change (s₀.router.clients.map fun clnt => workOf (readStream t (k.ptr, n) clnt.ptr)).sum +
    _ + _ < _
  cases hstream : t k.ptr with
  | mk fs i =>
    rw [hstream] at hreading hinput
    cases hreading with
    | ended _ => exact absurd hinput hin
    | @frame f fs i _ hreader =>
      have hless := readStream_shorter (n := n) hstream hreader.unfinished hn
      have hframes := completed_length (n := n) hstream
      have hsum := @sum_add_le _ s₀.router.clients clnt
        (fun clnt => workOf (readStream t (k.ptr, n) clnt.ptr)) (fun clnt => workOf (t clnt.ptr))
        (1 + 8193 * (completed t (k.ptr, n)).length) hclnt (by
          rw [hptr, workOf, workOf]
          omega) (by
          intro x _
          by_cases hx : x.ptr = k.ptr
          · rw [hx, workOf, workOf]
            omega
          · exact Nat.le_of_eq (congrArg workOf (readStream_other hx n)))
      omega

theorem Consistent.step (h : Consistent J F streams provider sock s₀ es gs passed got s)
    (hready : ServiceReady J F streams provider sock s₀) {e : ServiceEvent}
    (hstep : ServiceStep J F provider.fd sock s e s') :
    ∃ gs' passed' got', Consistent J F streams provider sock s₀ (es ++ [e]) gs' passed' got' s' ∧
      workLeft s₀.router.clients streams provider.ptr (es ++ [e]) gs' passed' got' <
        workLeft s₀.router.clients streams provider.ptr es gs passed got := by
  cases hstep with
  | @read client n r hread =>
    by_cases hne : client = provider.ptr
    · subst hne
      obtain ⟨passed', got', h', hless⟩ := h.readProvider hready hread
      refine ⟨gs, passed', got', h', ?_⟩
      rw [workLeft, workLeft, askedIn, clientReads_provider, turnsIn_read]
      exact Nat.add_lt_add_left hless _
    · exact ⟨gs, passed, got, h.readClient hready hne hread, h.readClient_work hne hread⟩
  | turn hturn =>
    obtain ⟨g, hsize, h'⟩ := h.turn hready hturn
    refine ⟨gs ++ [g], passed, got, h', ?_⟩
    have hturns := h'.turns_le
    rw [askedIn, clientReads_turn, turnsIn_turn] at hturns
    change _ ≤ (askedIn streams provider.ptr es).length at hturns
    have hanswer : (Progress.unread ((gs ++ [g]).drop passed, got)).length ≤
        (Progress.unread (gs.drop passed, got)).length + g.size := by
      rw [List.drop_append_of_le_length h.passed_le, Progress.unread, Progress.unread,
        List.length_drop, List.length_drop, List.flatMap_append, List.length_append,
        List.flatMap_singleton, g.bytes_length]
      dsimp only
      omega
    rw [workLeft, workLeft, askedIn, clientReads_turn, turnsIn_turn]
    change _ + 8193 * ((askedIn streams provider.ptr es).length - _) + _ < _
    omega

/-- What the clients' requests take in all. -/
def workOfRequests (streams : Nat → List Frame) (clients : List RtConnectedClient) : Nat :=
  (clients.map fun clnt => workOf (unreadStreams streams clnt.ptr)).sum

theorem ServiceReady.of_run (hready : ServiceReady J F streams provider sock s₀)
    (hrun : Run (ServiceStep J F provider.fd sock) s₀ es s) :
    ∃ gs passed got, Consistent J F streams provider sock s₀ es gs passed got s ∧
      es.length + workLeft s₀.router.clients streams provider.ptr es gs passed got ≤
        workOfRequests streams s₀.router.clients :=
  hrun.invariant (I := fun es s => ∃ gs passed got,
      Consistent J F streams provider sock s₀ es gs passed got s ∧
      es.length + workLeft s₀.router.clients streams provider.ptr es gs passed got ≤
        workOfRequests streams s₀.router.clients)
    ⟨[], 0, 0, hready.consistent, Nat.le_of_eq (Nat.zero_add _)⟩ fun es _ _ _ h hstep => by
      obtain ⟨gs, passed, got, h, hwork⟩ := h
      obtain ⟨gs', passed', got', h', hless⟩ := h.step hready hstep
      refine ⟨gs', passed', got', h', ?_⟩
      rw [List.length_append, List.length_singleton]
      omega

theorem ServiceReady.length_le (hready : ServiceReady J F streams provider sock s₀)
    (hrun : Run (ServiceStep J F provider.fd sock) s₀ es s) :
    es.length ≤ workOfRequests streams s₀.router.clients := by
  obtain ⟨_, _, _, -, hwork⟩ := hready.of_run hrun
  exact (Nat.le_add_right _ _).trans hwork

/-- Where no step can be taken the router has read all there is. -/
theorem Consistent.input_nil (h : Consistent J F streams provider sock s₀ es gs passed got s)
    (hover : ∀ e s', ¬ServiceStep J F provider.fd sock s e s') {k : RtConnectedClient}
    (hk : k ∈ s.router.clients) : s.router.env.input k.fd = [] := by
  by_contra hin
  obtain ⟨n, r, -, hread, -, hreturns⟩ := h.serving.serve hk hin
  exact hover _ _ (.read (.read hk (hreturns _ (Nat.lt_succ_self _)) hread.received))

theorem Consistent.passed_all (h : Consistent J F streams provider sock s₀ es gs passed got s)
    (hready : ServiceReady J F streams provider sock s₀)
    (hover : ∀ e s', ¬ServiceStep J F provider.fd sock s e s') : gs.take passed = gs := by
  obtain ⟨k, hk, hptr, -⟩ := h.provider_mem hready
  have hunread := (h.serving.input k hk).symm.trans (h.input_nil hover hk)
  have hended := ((h.serving.reading k hk).of_unread_nil hunread).1
  rw [hptr, Function.update_self] at hended
  exact List.take_of_length_le (List.drop_eq_nil_iff.mp hended)

theorem Consistent.asked_all (h : Consistent J F streams provider sock s₀ es gs passed got s)
    (hover : ∀ e s', ¬ServiceStep J F provider.fd sock s e s') {clnt : RtConnectedClient}
    (hmem : clnt ∈ s₀.router.clients) (hne : clnt.ptr ≠ provider.ptr) :
    framesTo clnt.ptr (askedIn streams provider.ptr es) = streams clnt.ptr := by
  obtain ⟨k, hk, hptr, -⟩ := mem_of_same h.clients hmem
  have hunread := (h.serving.input k hk).symm.trans (h.input_nil hover hk)
  have hended := ((h.serving.reading k hk).of_unread_nil hunread).1
  rw [hptr, Function.update_of_ne hne] at hended
  have hall := completions_streamsAfter (unreadStreams streams) (clientReads provider.ptr es)
    clnt.ptr
  rwa [hended, List.append_nil] at hall

theorem Consistent.turns_all (h : Consistent J F streams provider sock s₀ es gs passed got s)
    (hready : ServiceReady J F streams provider sock s₀)
    (hreadable : ∀ clnt ∈ s₀.router.clients, clnt.ptr ≠ provider.ptr → ∀ f ∈ streams clnt.ptr,
      Readable J f.payload)
    (hover : ∀ e s', ¬ServiceStep J F provider.fd sock s e s') :
    turnsIn es = (askedIn streams provider.ptr es).length := by
  refine h.turns_le.antisymm ?_
  by_contra hlt
  have hwaiting := h.waiting
  rw [List.drop_eq_getElem_cons (Nat.lt_of_not_le hlt), List.map_cons] at hwaiting
  have hq := List.getElem_mem (Nat.lt_of_not_le hlt)
  generalize (askedIn streams provider.ptr es)[turnsIn es] = q at hwaiting hq
  have hof := h.asked_of hready hq
  obtain ⟨hne, hmem, clnt, hclnt, hptr⟩ := h.asked q hq
  rw [← hptr] at hne hmem
  obtain ⟨host, fuel, hturn⟩ := (hwaiting.turn J F
    (by rw [routedCopy, Frame.withControlData_size]; exact hof.size_lt) hof.routed).2
    fun _ => hreadable clnt hclnt hne q.2 hmem
  exact hover _ _ (.turn (hturn fuel (Nat.le_refl fuel)))

/-- Texts that are short fit, whatever they say. -/
theorem answersFit_of_short {host : HostProcess σ} {asked : Frame → Prop}
    (htext : ∀ m, 0 < (rtMessageToByteArray J m).length ∧ (rtMessageToByteArray J m).length ≤ 7910)
    (htopic : ∀ f, asked f → f.replyTopic.str ≠ helloTopic ∧ f.replyTopic.str ≠ subscribeTopic) :
    AnswersFit J F host asked := by
  intro fs gs host' n' hasked hanswered
  generalize host.host = first, host.con.sequenceNumber = n at hanswered
  induction hanswered with
  | nil => exact fun g hg => by cases hg
  | @cons _ _ n _ f fs gs _ out _ _ _ ih =>
    intro g hg
    rcases List.mem_cons.mp hg with rfl | hg
    · have hlength := htext (encodeResult F rtMessageCreate out.result)
      have hpayload : (answerFrame J F n f out.result).payload =
          rtMessageToByteArray J (encodeResult F rtMessageCreate out.result) :=
        sentFrame_payload openConnection f.replyTopic.str (some f.topic.str)
          rtMessageFlagsResponse (by omega)
      have htopics := htopic f (hasked f List.mem_cons_self)
      have hsize := Frame.size_le (answerFrame J F n f out.result)
      rw [← cut_topic f.replyTopic] at htopics
      exact frame_admissible (by rw [hpayload]; exact hlength.1) (by rw [hpayload] at hsize; omega)
        htopics.1 htopics.2
    · exact ih (fun x hx => hasked x (List.mem_cons_of_mem f hx)) g hg

end Consistency

/-! Clients 1 and 3 that ask client 2. -/

/-- The requests of the clients are there, and the host waits for them. -/
def askedService {σ : Type} (streams : Nat → List Frame) (host : DmProviderHost σ) : Service σ where
  router :=
    { clients := [rtConnectedClientInit 1 5, rtConnectedClientInit 2 6, rtConnectedClientInit 3 7]
      routes := bothRoutes ++ [⟨3, .forwardMessage ⟨12, 1, 3⟩, .pad 128 (ascii "DMCLI.INBOX.8")⟩]
      nextPtr := 20
      env := { Os.idle (Stream'.const .complete) with
        input := fun fd => (streams (fd - 4)).flatMap Frame.bytes } }
  host := ⟨host, listeningConnection, Os.idle (Stream'.const .complete)⟩

def askedTable : List Subscription :=
  subscriptions (askedService (fun _ => []) relayHost).router.routes

theorem askedService_ready {σ : Type} {J : CJsonLib} (F : FloatText) {streams : Nat → List Frame}
    (host : DmProviderHost σ) (hnone : streams 2 = [])
    (hasked : ∀ ptr, ∀ f ∈ streams ptr, Asked J askedTable listeningConnection 2 ptr f ∧
      f.replyTopic.str ≠ helloTopic)
    (htext : ∀ m,
      0 < (rtMessageToByteArray J m).length ∧ (rtMessageToByteArray J m).length ≤ 7910) :
    ServiceReady J F streams (rtConnectedClientInit 2 6) 0 (askedService streams host) where
  serving :=
    { distinct := by
        have hdistinct : DistinctClients
            [rtConnectedClientInit 1 5, rtConnectedClientInit 2 6, rtConnectedClientInit 3 7] :=
          ⟨by decide, by decide⟩
        exact hdistinct
      routes := by
        refine ⟨⟨0, _, rfl, ?_⟩, ?_⟩
        · intro e he
          simp only [List.append_eq, List.mem_cons, List.cons_append, List.nil_append,
            List.not_mem_nil, or_false] at he
          obtain rfl | rfl | rfl := he <;> exact fun h => by cases h
        · intro e he ptr howner
          simp only [askedService, bothRoutes, List.mem_cons, List.cons_append, List.nil_append,
            List.not_mem_nil, or_false] at he
          obtain rfl | rfl | rfl | rfl := he <;> cases howner
          · exact ⟨_, List.mem_cons_of_mem _ List.mem_cons_self, rfl⟩
          · exact ⟨_, List.mem_cons_self, rfl⟩
          · exact ⟨_, List.mem_cons_of_mem _ (List.mem_cons_of_mem _ List.mem_cons_self), rfl⟩
      own_eq := rfl
      takes := fun _ => rfl
      delivers := fun _ => ⟨8191, rfl⟩
      input := by
        intro clnt hmem
        simp only [askedService, List.mem_cons, List.not_mem_nil, or_false] at hmem
        obtain rfl | rfl | rfl := hmem <;> rfl
      frames := fun clnt _ f hf => (hasked clnt.ptr f hf).1.admissible
      reading := by
        intro clnt hmem
        simp only [askedService, List.mem_cons, List.not_mem_nil, or_false] at hmem
        obtain rfl | rfl | rfl := hmem <;> exact (resting_init _ _).readingAt _ }
  provider_mem := List.mem_cons_of_mem _ List.mem_cons_self
  provider_none := hnone
  waiting := ⟨rfl, listeningConnection_callable, fun _ => rfl, fun _ => ⟨8191, rfl⟩, rfl⟩
  asked := fun clnt _ _ f hf => (hasked clnt.ptr f hf).1
  fits := by
    refine answersFit_of_short htext ?_
    rintro _ ⟨clnt, -, f, hf, rfl⟩
    exact ⟨(hasked clnt.ptr f hf).2, (hasked clnt.ptr f hf).1.back_plain⟩

theorem setFrame_asked {J : CJsonLib} {f : Frame} (htopic : f.topic = setFrame.topic)
    (hreply : f.replyTopic = setFrame.replyTopic) (hflags : f.flags = setFrame.flags)
    (hpayload : 0 < f.payload.length) (hlength : f.payload.length ≤ 200) :
    Asked J askedTable listeningConnection 2 1 f ∧ f.replyTopic.str ≠ helloTopic := by
  have hsize := f.size_le
  have hthere : OnlyRoute askedTable f.topic.str 2 1 :=
    ⟨ascii "RDK.MODEL.B", by rw [htopic]; decide⟩
  refine ⟨⟨frame_admissible hpayload (by omega) ?_ ?_, by omega, ?_, ?_, ⟨1, hthere⟩, ?_,
    ⟨1, ascii "DMCLI.INBOX.7", ?_⟩, ?_⟩, ?_⟩
  · rw [htopic]
    decide
  · rw [htopic]
    decide
  · rw [Frame.Routed, hreply]
    decide
  · rw [htopic]
    decide
  · rw [routedCopy, hthere.routeId_eq, RtConnection.takesRequest]
    have hrequest : rtMessageHeaderIsRequest (f.withControlData 1).header = true := by
      change rtMessageHeaderIsRequest { setFrame.header with flags := f.flags } = true
      rw [hflags]
      decide
    have hlistener :
        (listeningConnection.listenerFor (setFrame.withControlData 1)).any (·.isUser) = true := by
      decide
    rw [hrequest]
    exact hlistener
  · rw [hreply]
    decide
  · rw [hreply]
    decide
  · rw [hreply]
    decide

/-! Both set the same parameter. -/

/-- The request of the other client, with its own inbox. -/
def otherFrame : Frame := { setFrame with replyTopic := Topic.cut (ascii "DMCLI.INBOX.8") }

def setStreams : Nat → List Frame
  | 1 => [setFrame]
  | 3 => [otherFrame]
  | _ => []

def twoAskers : Service (Option DmValue) := askedService setStreams relayHost

theorem otherFrame_carries : CarriesMessage setLib otherFrame setQuery.request := by
  have h := setFrame_carries
  have hsize := otherFrame.size_le
  have hlength := setText_length.1
  have hpayload : otherFrame.payload = setText := h.payload.trans setLib_request
  rw [hpayload] at hsize
  exact ⟨h.payload, h.keeps, h.payload_pos, by omega, h.not_hello, h.not_subscribe,
    (by decide : strstr otherFrame.replyTopic.str noRouteTopic = false)⟩

theorem setQuery_decodable : Decodable setQuery.request := by
  refine ⟨ascii "set", _, rfl, rfl, ?_⟩
  rw [if_pos rfl]
  exact .inr rfl

theorem setQuery_portable : Portable setQuery.request :=
  setQuery_asks.portable (by decide) (by decide)

theorem setStreams_cases {ptr : Nat} {f : Frame} (h : f ∈ setStreams ptr) :
    ptr = 1 ∧ f = setFrame ∨ ptr = 3 ∧ f = otherFrame := by
  unfold setStreams at h
  split at h
  · exact .inl ⟨rfl, List.mem_singleton.mp h⟩
  · exact .inr ⟨rfl, List.mem_singleton.mp h⟩
  · cases h

theorem setStreams_carries {ptr : Nat} {f : Frame} (h : f ∈ setStreams ptr) :
    CarriesMessage setLib f setQuery.request := by
  rcases setStreams_cases h with ⟨-, rfl⟩ | ⟨-, rfl⟩
  · exact setFrame_carries
  · exact otherFrame_carries

theorem setStreams_asked (ptr : Nat) (f : Frame) (h : f ∈ setStreams ptr) :
    Asked setLib askedTable listeningConnection 2 ptr f ∧ f.replyTopic.str ≠ helloTopic := by
  have hcarries := setStreams_carries h
  rcases setStreams_cases h with ⟨rfl, rfl⟩ | ⟨rfl, rfl⟩
  · have hlength := setText_length.1
    rw [← setLib_request, ← setFrame_carries.payload] at hlength
    exact setFrame_asked rfl rfl rfl hlength.1 hlength.2
  · have hthere : OnlyRoute askedTable otherFrame.topic.str 2 1 := ⟨ascii "RDK.MODEL.B", by decide⟩
    refine ⟨⟨hcarries.admissible, hcarries.size_lt, hcarries.routed, hcarries.not_subscribe,
      ⟨1, hthere⟩, ?_, ⟨1, ascii "DMCLI.INBOX.8", by decide⟩, by decide⟩, by decide⟩
    rw [routedCopy, hthere.routeId_eq]
    decide

theorem setLib_texts (m : CJson) : 0 < (rtMessageToByteArray setLib m).length ∧
    (rtMessageToByteArray setLib m).length ≤ 7910 := by
  obtain ⟨hrequest, hanswer⟩ := setText_length
  rw [rtMessageToByteArray, setLib, exchangeLib]
  dsimp only
  split
  · rw [cstr_of_not_mem zero_not_mem_setText.1]
    omega
  · rw [cstr_of_not_mem zero_not_mem_setText.2]
    omega

theorem twoAskers_ready :
    ServiceReady setLib noFloats setStreams (rtConnectedClientInit 2 6) 0 twoAskers :=
  askedService_ready noFloats relayHost rfl setStreams_asked setLib_texts

/-! What the system does. -/

section Results
variable {σ : Type} {streams : Nat → List Frame} {provider : RtConnectedClient} {sock : Nat}
  {s₀ s : Service σ} {es : List ServiceEvent} {J : CJsonLib} {F : FloatText}

/-- Where no step can be taken, every request was carried out and its answer has been sent. -/
theorem ServiceReady.answered (hready : ServiceReady J F streams provider sock s₀)
    (hreadable : ∀ clnt ∈ s₀.router.clients, clnt.ptr ≠ provider.ptr → ∀ f ∈ streams clnt.ptr,
      Readable J f.payload)
    (hrun : Run (ServiceStep J F provider.fd sock) s₀ es s)
    (hover : ∀ e s', ¬ServiceStep J F provider.fd sock s e s') :
    (∀ clnt ∈ s₀.router.clients, clnt.ptr ≠ provider.ptr →
      framesTo clnt.ptr (askedIn streams provider.ptr es) = streams clnt.ptr) ∧
    ∃ gs, gs.length = (askedIn streams provider.ptr es).length ∧
      AnsweredBy J F s₀.host.host s₀.host.con.sequenceNumber
        ((askedIn streams provider.ptr es).map fun q =>
          routedCopy (subscriptions s₀.router.routes) q.2) gs
        s.host.host s.host.con.sequenceNumber ∧
      ∀ clnt ∈ s₀.router.clients, clnt.ptr ≠ provider.ptr → wire clnt.fd s.router.env.sent =
        wire clnt.fd s₀.router.env.sent ++
          (framesTo clnt.ptr (replies (subscriptions s₀.router.routes)
            (askedIn streams provider.ptr es) gs)).flatMap Frame.bytes := by
  obtain ⟨gs, passed, got, h, -⟩ := hready.of_run hrun
  have hturns := h.turns_all hready hreadable hover
  have hanswered := h.answered
  rw [hturns, List.take_length] at hanswered
  refine ⟨fun clnt => h.asked_all hover, gs, h.length_eq.trans hturns, hanswered,
    fun clnt hmem hne => ?_⟩
  obtain ⟨k, hk, hptr, hfd⟩ := mem_of_same h.clients hmem
  have hsent := h.sent k hk (hptr ▸ hne)
  rwa [h.passed_all hready hover, hptr, hfd] at hsent

/-- **One order for all**: at every point of every interleaving, the host is as if it had carried
    out the requests one after the other in the order in which the router completed them, up to
    the one of its last turn, and the clients were sent the answers to the first of these, each the
    answers to its own requests and nothing else. -/
theorem service_linearizes (J : CJsonLib) (F : FloatText)
    (hready : ServiceReady J F streams provider sock s₀)
    (hrun : Run (ServiceStep J F provider.fd sock) s₀ es s) :
    turnsIn es ≤ (askedIn streams provider.ptr es).length ∧
    (∀ clnt ∈ s₀.router.clients, clnt.ptr ≠ provider.ptr →
      framesTo clnt.ptr (askedIn streams provider.ptr es) <+: streams clnt.ptr) ∧
    ∃ gs passed, passed ≤ gs.length ∧
      AnsweredBy J F s₀.host.host s₀.host.con.sequenceNumber
        (((askedIn streams provider.ptr es).take (turnsIn es)).map fun q =>
          routedCopy (subscriptions s₀.router.routes) q.2) gs
        s.host.host s.host.con.sequenceNumber ∧
      ∀ clnt ∈ s₀.router.clients, clnt.ptr ≠ provider.ptr → wire clnt.fd s.router.env.sent =
        wire clnt.fd s₀.router.env.sent ++
          (framesTo clnt.ptr (replies (subscriptions s₀.router.routes)
            (askedIn streams provider.ptr es) (gs.take passed))).flatMap Frame.bytes := by
  obtain ⟨gs, passed, got, h, -⟩ := hready.of_run hrun
  refine ⟨h.turns_le, fun clnt _ _ => ?_, gs, passed, h.passed_le, h.answered,
    fun clnt hmem hne => ?_⟩
  · have hall := completions_streamsAfter (unreadStreams streams) (clientReads provider.ptr es)
      clnt.ptr
    exact ⟨_, hall⟩
  · obtain ⟨k, hk, hptr, hfd⟩ := mem_of_same h.clients hmem
    rw [← hptr, ← hfd]
    exact h.sent k hk (hptr ▸ hne)

theorem service_linearizes_example : ∃ es s gs passed,
    Run (ServiceStep setLib noFloats 6 0) twoAskers es s ∧
    (∀ e s', ¬ServiceStep setLib noFloats 6 0 s e s') ∧
    AnsweredBy setLib noFloats relayHost twoAskers.host.con.sequenceNumber
      (((askedIn setStreams 2 es).take (turnsIn es)).map fun q =>
        routedCopy (subscriptions twoAskers.router.routes) q.2)
      gs s.host.host s.host.con.sequenceNumber ∧
    wire 5 s.router.env.sent = (framesTo 1 (replies (subscriptions twoAskers.router.routes)
      (askedIn setStreams 2 es) (gs.take passed))).flatMap Frame.bytes := by
  obtain ⟨es, s, hrun, hrest⟩ := Run.nil.comes_to_rest fun _ _ => twoAskers_ready.length_le
  obtain ⟨-, -, gs, passed, -, hanswered, hsent⟩ :=
    service_linearizes setLib noFloats twoAskers_ready hrun
  exact ⟨es, s, gs, passed, hrun, hrest, hanswered,
    hsent (rtConnectedClientInit 1 5) List.mem_cons_self (by decide)⟩

/-- **Each gets its answer**: no run goes on for ever, each comes to a state in which no step can be
    taken, and there every request of every client was carried out, and every client was sent the
    answers to all its own, each once. -/
theorem service_answers (J : CJsonLib) (F : FloatText)
    (hready : ServiceReady J F streams provider sock s₀)
    (hreadable : ∀ clnt ∈ s₀.router.clients, clnt.ptr ≠ provider.ptr → ∀ f ∈ streams clnt.ptr,
      Readable J f.payload)
    (hrun : Run (ServiceStep J F provider.fd sock) s₀ es s) :
    es.length ≤ workOfRequests streams s₀.router.clients ∧
    (∃ es' s', Run (ServiceStep J F provider.fd sock) s es' s' ∧
      ∀ e s'', ¬ServiceStep J F provider.fd sock s' e s'') ∧
    ((∀ e s', ¬ServiceStep J F provider.fd sock s e s') →
      (∀ clnt ∈ s₀.router.clients, clnt.ptr ≠ provider.ptr →
        framesTo clnt.ptr (askedIn streams provider.ptr es) = streams clnt.ptr) ∧
      ∃ gs, gs.length = (askedIn streams provider.ptr es).length ∧
        AnsweredBy J F s₀.host.host s₀.host.con.sequenceNumber
          ((askedIn streams provider.ptr es).map fun q =>
            routedCopy (subscriptions s₀.router.routes) q.2) gs
          s.host.host s.host.con.sequenceNumber ∧
        ∀ clnt ∈ s₀.router.clients, clnt.ptr ≠ provider.ptr → wire clnt.fd s.router.env.sent =
          wire clnt.fd s₀.router.env.sent ++
            (framesTo clnt.ptr (replies (subscriptions s₀.router.routes)
              (askedIn streams provider.ptr es) gs)).flatMap Frame.bytes) := by
  exact ⟨hready.length_le hrun, hrun.comes_to_rest fun _ _ => hready.length_le,
    hready.answered hreadable hrun⟩

/-- Both set the parameter, in one order or the other, and both are answered. -/
theorem service_answers_example : ∃ es s gs,
    Run (ServiceStep setLib noFloats 6 0) twoAskers es s ∧
    framesTo 1 (askedIn setStreams 2 es) = [setFrame] ∧
    framesTo 3 (askedIn setStreams 2 es) = [otherFrame] ∧
    gs.length = (askedIn setStreams 2 es).length ∧
    wire 5 s.router.env.sent = (framesTo 1 (replies (subscriptions twoAskers.router.routes)
      (askedIn setStreams 2 es) gs)).flatMap Frame.bytes ∧
    wire 7 s.router.env.sent = (framesTo 3 (replies (subscriptions twoAskers.router.routes)
      (askedIn setStreams 2 es) gs)).flatMap Frame.bytes := by
  have hfirst : rtConnectedClientInit 1 5 ∈ twoAskers.router.clients := List.mem_cons_self
  have hsecond : rtConnectedClientInit 3 7 ∈ twoAskers.router.clients :=
    List.mem_cons_of_mem _ (List.mem_cons_of_mem _ List.mem_cons_self)
  obtain ⟨es, s, hrun, hrest⟩ := Run.nil.comes_to_rest fun _ _ => twoAskers_ready.length_le
  obtain ⟨-, -, hanswers⟩ := service_answers setLib noFloats twoAskers_ready
    (fun _ _ _ f hf => ⟨_, (setStreams_carries hf).parsed setQuery_portable, setQuery_decodable⟩)
    hrun
  obtain ⟨hasked, gs, hlength, -, hsent⟩ := hanswers hrest
  exact ⟨es, s, gs, hrun, hasked _ hfirst (by decide), hasked _ hsecond (by decide), hlength,
    hsent _ hfirst (by decide), hsent _ hsecond (by decide)⟩

end Results

end RtMessage.DataProvider
