import RtMessage.ConnectedTable
import RtMessage.DataProvider.Service

/- The service from the start of the router.

   `service_answers` is about a router whose clients have subscribed. It gets there from its start
   while clients come and go, subscribe and are read in any order. None of that matters to the
   service: when the clients that are connected have subscribed, each to its own, the routes are
   there, and every request that then comes is answered to the one that has sent it
   (`service_from_start`). -/
namespace RtMessage
open Lib

/-! Tables that differ in their order. -/

section Order
variable {table table' : List Subscription} {topic : Bytes} {client : Nat} {id : UInt32}

theorem OnlyRoute.perm (h : OnlyRoute table topic client id) (hperm : table.Perm table') :
    OnlyRoute table' topic client id := by
  obtain ⟨expression, hfilter⟩ := h
  have hsame := hperm.filter fun u => rtRoutedIsTopicMatch topic u.expression
  rw [hfilter] at hsame
  exact ⟨expression, (List.singleton_perm.mp hsame).symm⟩

theorem routedCopy_perm {f : Frame}
    (h : ∃ id, OnlyRoute table f.topic.str client id) (hperm : table.Perm table') :
    routedCopy table' f = routedCopy table f := by
  obtain ⟨id, honly⟩ := h
  rw [routedCopy, routedCopy, honly.routeId_eq,
    (honly.perm hperm).routeId_eq]

end Order

/-- Only the streams of the clients matter. -/
theorem Serving.congr {J : CJsonLib} {own : List Bytes} {s s' : Nat → Progress} {r : RtRouted Os}
    (h : Serving J own s r) (hsame : ∀ clnt ∈ r.clients, s' clnt.ptr = s clnt.ptr) :
    Serving J own s' r where
  distinct := h.distinct
  routes := h.routes
  own_eq := h.own_eq
  takes := h.takes
  delivers := h.delivers
  input := fun clnt hmem => by
    rw [hsame clnt hmem]
    exact h.input clnt hmem
  frames := fun clnt hmem => by
    rw [hsame clnt hmem]
    exact h.frames clnt hmem
  reading := fun clnt hmem => by
    rw [hsame clnt hmem]
    exact h.reading clnt hmem

end RtMessage

namespace RtMessage.DataProvider
open Lib

/-- What the clients send: what they subscribe with, and then their requests. -/
def allFrames (before requests : Nat → List Frame) (ptr : Nat) : List Frame :=
  before ptr ++ requests ptr

/-- The clients that are connected have had their subscriptions read, and nothing more. -/
def Subscribed (before requests : Nat → List Frame) (es : List MemberEvent)
    (clients : List RtConnectedClient) : Prop :=
  ∀ p ∈ clientEnds clients,
    streamsAmong (unreadStreams (allFrames before requests)) es p.1 = (requests p.1, 0)

section Start
variable {σ : Type} {J : CJsonLib} {F : FloatText} {own : List Bytes}
  {before requests : Nat → List Frame} {es : List MemberEvent} {r : RtRouted Os}
  {provider : RtConnectedClient} {sock : Nat} {host : HostProcess σ}

theorem Asked.perm {table table' : List Subscription} {con : RtConnection} {ptr client : Nat}
    {f : Frame} (h : Asked J table con ptr client f) (hperm : table.Perm table') :
    Asked J table' con ptr client f where
  admissible := h.admissible
  size_lt := h.size_lt
  routed := h.routed
  plain := h.plain
  there := h.there.imp fun _ honly => honly.perm hperm
  taken := by
    rw [routedCopy_perm h.there hperm]
    exact h.taken
  back := h.back.imp fun _ honly => honly.perm hperm
  back_plain := h.back_plain

theorem Subscribed.sentIn_eq (h : Subscribed before requests es r.clients)
    {clnt : RtConnectedClient} (hmem : clnt ∈ r.clients) :
    sentIn (allFrames before requests) es clnt.ptr = before clnt.ptr := by
  have hall := happenings_streams (unreadStreams (allFrames before requests)) es clnt.ptr
  have hleft : streamsAmong (unreadStreams (allFrames before requests)) es clnt.ptr =
      (requests clnt.ptr, 0) := h _ (List.mem_map_of_mem hmem)
  rw [hleft] at hall
  exact List.append_cancel_right hall

/-- The table is that of the subscriptions, up to the order. -/
theorem Subscribed.table (h : Subscribed before requests es r.clients)
    (hattends : Attends J own (allFrames before requests) es r) :
    (tableOf J before r.clients).Perm (subscriptions r.routes) := by
  have hsame : tableOf J (sentIn (allFrames before requests) es) r.clients =
      tableOf J before r.clients :=
    List.flatMap_congr fun clnt hmem => congrArg _ (h.sentIn_eq hmem)
  rw [← hsame]
  exact hattends.table_perm.symm

/-- **The routes are there**: the router that has read the subscriptions is ready for the
    requests. -/
theorem Subscribed.ready (h : Subscribed before requests es r.clients)
    (hattends : Attends J own (allFrames before requests) es r) (hprovider : provider ∈ r.clients)
    (hnone : requests provider.ptr = []) (hwaiting : host.Waiting sock [] [])
    (hasked : ∀ clnt ∈ r.clients, clnt.ptr ≠ provider.ptr → ∀ f ∈ requests clnt.ptr,
      Asked J (tableOf J before r.clients) host.con provider.ptr clnt.ptr f)
    (hfits : AnswersFit J F host fun f => ∃ clnt ∈ r.clients, ∃ f₀ ∈ requests clnt.ptr,
      f = routedCopy (tableOf J before r.clients) f₀) :
    ServiceReady J F requests provider sock ⟨r, host⟩ where
  serving := by
    rw [hattends.serving.own_eq]
    refine hattends.serving.congr fun clnt hmem => ?_
    exact (h (clnt.ptr, clnt.fd) (List.mem_map_of_mem hmem)).symm
  provider_mem := hprovider
  provider_none := hnone
  waiting := hwaiting
  asked := fun clnt hmem hne f hf => (hasked clnt hmem hne f hf).perm (h.table hattends)
  fits := by
    intro fs gs host' n' hfs
    refine hfits fs gs host' n' fun f hf => ?_
    obtain ⟨clnt, hmem, f₀, hf₀, rfl⟩ := hfs f hf
    refine ⟨clnt, hmem, f₀, hf₀, ?_⟩
    have hne : clnt.ptr ≠ provider.ptr := by
      intro heq
      rw [heq, hnone] at hf₀
      cases hf₀
    exact routedCopy_perm (hasked clnt hmem hne f₀ hf₀).there (h.table hattends)

/-- **From the start**: clients come and go in any order and are read in any pieces. When those
    that are connected have had their subscriptions read, then, if by these each request has one
    route to the provider and its answer one back, every run that follows ends, and in the end each
    client has been sent what was due to it before, and after that the answers to all its requests,
    each once. -/
theorem service_from_start (J : CJsonLib) (F : FloatText) {debugRoutes : Nat} {os : Os}
    {s : Service σ} {es' : List ServiceEvent}
    (htakes : Takes os.sends) (hdelivers : Delivers os.recvs) (hsent : os.sent = [])
    (hframes : ∀ ptr, ∀ f ∈ allFrames before requests ptr, f.Admissible J)
    (hrun : Run (MemberStep J (allFrames before requests)) (startRouter debugRoutes os) es r)
    (hsubscribed : Subscribed before requests es r.clients) (hprovider : provider ∈ r.clients)
    (hnone : requests provider.ptr = []) (hwaiting : host.Waiting sock [] [])
    (hasked : ∀ clnt ∈ r.clients, clnt.ptr ≠ provider.ptr → ∀ f ∈ requests clnt.ptr,
      Asked J (tableOf J before r.clients) host.con provider.ptr clnt.ptr f ∧
        Readable J f.payload)
    (hfits : AnswersFit J F host fun f => ∃ clnt ∈ r.clients, ∃ f₀ ∈ requests clnt.ptr,
      f = routedCopy (tableOf J before r.clients) f₀)
    (hserve : Run (ServiceStep J F provider.fd sock) ⟨r, host⟩ es' s) :
    es'.length ≤ workOfRequests requests r.clients ∧
    (∃ es'' s', Run (ServiceStep J F provider.fd sock) s es'' s' ∧
      ∀ e s'', ¬ServiceStep J F provider.fd sock s' e s'') ∧
    ((∀ e s', ¬ServiceStep J F provider.fd sock s e s') →
      (∀ clnt ∈ r.clients, clnt.ptr ≠ provider.ptr →
        framesTo clnt.ptr (askedIn requests provider.ptr es') = requests clnt.ptr) ∧
      ∃ gs, gs.length = (askedIn requests provider.ptr es').length ∧
        AnsweredBy J F host.host host.con.sequenceNumber
          ((askedIn requests provider.ptr es').map fun q =>
            routedCopy (subscriptions r.routes) q.2) gs s.host.host s.host.con.sequenceNumber ∧
        ∀ clnt ∈ r.clients, clnt.ptr ≠ provider.ptr → wire clnt.fd s.router.env.sent =
          (framesTo clnt.ptr (deliveriesAmong J (ownExpressions (startRoutes debugRoutes)) []
            (happenings (unreadStreams (allFrames before requests)) es)) ++
          framesTo clnt.ptr (replies (subscriptions r.routes)
            (askedIn requests provider.ptr es') gs)).flatMap Frame.bytes) := by
  have hattends := Attends.of_run htakes hdelivers hsent hframes hrun
  have hready : ServiceReady J F requests provider sock ⟨r, host⟩ :=
    hsubscribed.ready hattends hprovider hnone hwaiting
      (fun clnt hmem hne f hf => (hasked clnt hmem hne f hf).1) hfits
  refine ⟨hready.length_le hserve, hserve.comes_to_rest fun _ _ => hready.length_le,
    fun hover => ?_⟩
  obtain ⟨hall, gs, hlength, hanswered, hwire⟩ := hready.answered
    (fun clnt hmem hne f hf => (hasked clnt hmem hne f hf).2) hserve hover
  refine ⟨hall, gs, hlength, hanswered, fun clnt hmem hne => ?_⟩
  -- What the client was sent before the first request is what was due to it then.
  have hbefore := hattends.sent (clnt.ptr, clnt.fd) (hattends.client hmem).1
  rw [hwire clnt hmem hne, List.flatMap_append]
  exact congrArg (· ++ _) hbefore

end Start

/-! Client 1 asks client 2, from the start. -/

def askText : Bytes := ascii "\x7b\"topic\":\"DMCLI.INBOX.7\",\"route_id\":1\x7d"

def provideText : Bytes := ascii "\x7b\"topic\":\"RDK.MODEL.B\",\"route_id\":1\x7d"

/-- It reads the two subscriptions too. -/
def startLib : CJsonLib :=
  { setLib with
    parse := fun text =>
      if askText.isPrefixOf text then some (subscribeMessage (ascii "DMCLI.INBOX.7") 1)
      else if provideText.isPrefixOf text then some (subscribeMessage (ascii "RDK.MODEL.B") 1)
      else setLib.parse text }

/-- A SUBSCRIBE with this text. -/
def subscribeWith (text : Bytes) (h : text.length < 2^32) : Frame :=
  { subscribeFrame with payload := text, payload_lt := h }

def startBefore : Nat → List Frame
  | 1 => [subscribeWith askText (by decide)]
  | 2 => [subscribeWith provideText (by decide)]
  | _ => []

def startRequests : Nat → List Frame
  | 1 => [setFrame]
  | _ => []

/-- What the two subscribe to. -/
def startTable : List Subscription := [⟨1, 1, ascii "DMCLI.INBOX.7"⟩, ⟨2, 1, ascii "RDK.MODEL.B"⟩]

theorem subscribeWith_admissible {text expression : Bytes} {id : UInt32} {h : text.length < 2^32}
    (hpos : 0 < text.length) (hlength : text.length ≤ 7910) (h0 : 0 ∉ text)
    (hparse : ∀ rest, startLib.parse (text ++ rest) = some (subscribeMessage expression id))
    (hexpression : expression.length < 128) : (subscribeWith text h).Admissible startLib where
  payload_pos := hpos
  size_le := by
    have hsize := Frame.size_le (subscribeWith text h)
    change _ ≤ 282 + text.length at hsize
    omega
  not_hello := subscribeFrame_admissible.not_hello
  subscribe := by
    intro _
    refine ⟨subscribeMessage expression id, expression, toInt32 id, fun rest => ?_, rfl,
      hexpression, rfl⟩
    change startLib.parse (cstr (text ++ rest)) = _
    rw [cstr_append h0, hparse]

theorem startLib_ask (rest : Bytes) :
    startLib.parse (askText ++ rest) = some (subscribeMessage (ascii "DMCLI.INBOX.7") 1) := by
  have hfront : askText.isPrefixOf (askText ++ rest) = true :=
    List.isPrefixOf_iff_prefix.mpr (List.prefix_append _ _)
  unfold startLib
  dsimp only
  rw [if_pos hfront]

theorem startLib_provide (rest : Bytes) :
    startLib.parse (provideText ++ rest) = some (subscribeMessage (ascii "RDK.MODEL.B") 1) := by
  have hfront : provideText.isPrefixOf (provideText ++ rest) = true :=
    List.isPrefixOf_iff_prefix.mpr (List.prefix_append _ _)
  have hother : ¬ askText.isPrefixOf (provideText ++ rest) = true := by
    intro h
    obtain ⟨t, ht⟩ := List.isPrefixOf_iff_prefix.mp h
    -- The expressions begin with different letters.
    have hletter : (askText ++ t)[10]? = (provideText ++ rest)[10]? := by rw [ht]
    rw [List.getElem?_append_left (by decide +kernel),
      List.getElem?_append_left (by decide +kernel)] at hletter
    exact absurd hletter (by decide +kernel)
  unfold startLib
  dsimp only
  rw [if_neg hother, if_pos hfront]

theorem startLib_set : startLib.parse setText = some setQuery.request := by
  have hask : ¬ askText.isPrefixOf setText = true := by decide +kernel
  have hprovide : ¬ provideText.isPrefixOf setText = true := by decide +kernel
  unfold startLib
  dsimp only
  rw [if_neg hask, if_neg hprovide, setLib, exchangeLib]
  dsimp only
  rw [if_pos rfl]

theorem startFrames_admissible (ptr : Nat) :
    ∀ f ∈ allFrames startBefore startRequests ptr, f.Admissible startLib := by
  intro f hf
  rcases List.mem_append.mp hf with hf | hf
  · unfold startBefore at hf
    split at hf
    · rw [List.mem_singleton.mp hf]
      exact subscribeWith_admissible (by decide +kernel) (by decide +kernel) (by decide +kernel)
        startLib_ask (by decide)
    · rw [List.mem_singleton.mp hf]
      exact subscribeWith_admissible (by decide +kernel) (by decide +kernel) (by decide +kernel)
        startLib_provide (by decide)
    · cases hf
  · unfold startRequests at hf
    split at hf
    · rw [List.mem_singleton.mp hf]
      have h := setFrame_carries
      exact frame_admissible h.payload_pos (Nat.le_of_lt h.size_lt) h.not_hello h.not_subscribe
    · cases hf

theorem bothAccepted : ∃ r,
    Run (MemberStep startLib (allFrames startBefore startRequests)) (startRouter 0 quietOs)
      [.accepted 1 1, .accepted 2 2] r ∧ clientEnds r.clients = [(1, 1), (2, 2)] :=
  ⟨_, (Run.single .accept).snoc .accept, rfl⟩

theorem startTable_eq {clients : List RtConnectedClient}
    (hends : clientEnds clients = [(1, 1), (2, 2)]) :
    tableOf startLib startBefore clients = startTable := by
  rw [tableOf_ends, hends]
  decide +kernel

theorem startTable_routes : OnlyRoute startTable setFrame.topic.str 2 1 ∧
    OnlyRoute startTable setFrame.replyTopic.str 1 1 :=
  ⟨⟨ascii "RDK.MODEL.B", by decide⟩, ascii "DMCLI.INBOX.7", by decide⟩

theorem startRequests_asked {ptr : Nat} {f : Frame} (hf : f ∈ startRequests ptr) :
    f = setFrame ∧ Asked startLib startTable listeningConnection 2 ptr f ∧
      Readable startLib f.payload := by
  unfold startRequests at hf
  split at hf
  · obtain rfl := List.mem_singleton.mp hf
    have h := setFrame_carries
    refine ⟨rfl, ⟨?_, h.size_lt, h.routed, h.not_subscribe, ⟨1, startTable_routes.1⟩, ?_,
      ⟨1, startTable_routes.2⟩, by decide⟩, setQuery.request, ?_, setQuery_decodable⟩
    · exact frame_admissible h.payload_pos (Nat.le_of_lt h.size_lt) h.not_hello h.not_subscribe
    · rw [routedCopy, startTable_routes.1.routeId_eq]
      decide
    · rw [rtMessageFromBytes, h.payload, setLib_request, cstr_of_not_mem zero_not_mem_setText.1]
      exact startLib_set
  · cases hf

/-- The host of the relay, to which nothing has come. -/
def waitingHost : HostProcess (Option DmValue) :=
  ⟨relayHost, listeningConnection, Os.idle (Stream'.const .complete)⟩

theorem service_from_start_example : ∃ es r es' s gs,
    Run (MemberStep startLib (allFrames startBefore startRequests)) (startRouter 0 quietOs) es r ∧
    Run (ServiceStep startLib noFloats 2 0) ⟨r, waitingHost⟩ es' s ∧
    framesTo 1 (askedIn startRequests 2 es') = [setFrame] ∧
    gs.length = (askedIn startRequests 2 es').length ∧
    wire 1 s.router.env.sent =
      (framesTo 1 (deliveriesAmong startLib (ownExpressions (startRoutes 0)) []
        (happenings (unreadStreams (allFrames startBefore startRequests)) es)) ++
      framesTo 1 (replies (subscriptions r.routes) (askedIn startRequests 2 es') gs)).flatMap
        Frame.bytes := by
  have htakes : Takes quietOs.sends := fun _ => rfl
  have hdelivers : Delivers quietOs.recvs := fun _ => ⟨8191, rfl⟩
  obtain ⟨r₀, haccepted, hends₀⟩ := bothAccepted
  have hattends₀ := Attends.of_run htakes hdelivers rfl startFrames_admissible haccepted
  obtain ⟨es, r, hrun, hattends, hends, hpoints⟩ :=
    hattends₀.comes_to startRequests startFrames_admissible
      fun p _ => ⟨startBefore p.1, rfl, fun _ => rfl⟩
  have hrun := haccepted.trans hrun
  have hsubscribed : Subscribed startBefore startRequests ([.accepted 1 1, .accepted 2 2] ++ es)
      r.clients := fun p hp => hpoints p (hends ▸ hp)
  rw [hends₀] at hends
  obtain ⟨asker, hasker, hptr₁, hfd₁⟩ : ∃ k ∈ r.clients, k.ptr = 1 ∧ k.fd = 1 :=
    mem_clientEnds.mp (hends ▸ List.mem_cons_self)
  obtain ⟨provider, hprovider, hptr₂, hfd₂⟩ : ∃ k ∈ r.clients, k.ptr = 2 ∧ k.fd = 2 :=
    mem_clientEnds.mp (hends ▸ List.mem_cons_of_mem _ List.mem_cons_self)
  have htable := startTable_eq hends
  have hnone : startRequests provider.ptr = [] := by rw [hptr₂]; rfl
  have hwaiting : waitingHost.Waiting 0 [] [] :=
    ⟨rfl, listeningConnection_callable, fun _ => rfl, fun _ => ⟨8191, rfl⟩, rfl⟩
  have hasked : ∀ clnt ∈ r.clients, clnt.ptr ≠ provider.ptr → ∀ f ∈ startRequests clnt.ptr,
      Asked startLib (tableOf startLib startBefore r.clients) waitingHost.con provider.ptr
        clnt.ptr f ∧ Readable startLib f.payload := by
    intro clnt _ _ f hf
    rw [htable, hptr₂]
    exact (startRequests_asked hf).2
  have hfits : AnswersFit startLib noFloats waitingHost fun f => ∃ clnt ∈ r.clients,
      ∃ f₀ ∈ startRequests clnt.ptr,
        f = routedCopy (tableOf startLib startBefore r.clients) f₀ := by
    refine answersFit_of_short setLib_texts ?_
    rintro _ ⟨clnt, -, f, hf, rfl⟩
    rw [(startRequests_asked hf).1]
    show setFrame.replyTopic.str ≠ helloTopic ∧ setFrame.replyTopic.str ≠ subscribeTopic
    decide
  have hready := hsubscribed.ready hattends hprovider hnone hwaiting
    (fun clnt hmem hne f hf => (hasked clnt hmem hne f hf).1) hfits
  obtain ⟨es', s, hserve, hrest⟩ := Run.nil.comes_to_rest fun _ _ => hready.length_le
  obtain ⟨-, -, hanswers⟩ := service_from_start startLib noFloats htakes hdelivers rfl
    startFrames_admissible hrun hsubscribed hprovider hnone hwaiting hasked hfits hserve
  obtain ⟨hall, gs, hlength, -, hwire⟩ := hanswers hrest
  have hne : asker.ptr ≠ provider.ptr := by
    rw [hptr₁, hptr₂]
    decide
  have hfirst := hall asker hasker hne
  have hsent := hwire asker hasker hne
  rw [hptr₁, hptr₂] at hfirst hsent
  rw [hfd₁] at hsent
  rw [hptr₂] at hlength
  rw [hfd₂] at hserve
  exact ⟨_, r, es', s, gs, hrun, hserve, hfirst, hlength, hsent⟩

end RtMessage.DataProvider
