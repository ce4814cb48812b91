import RtMessage.DataProvider.Registrations
import RtMessage.DataProvider.Service

/- A property of a provider as a register.

   The getter and the setter of a property may keep a value between them. Then a get reports what
   the last set before it has put there, and what was there at first if there is none
   (`AnsweredBy.reads_last_set`). Before means: before in the order in which the host answers. Of
   clients that ask at once this is the order in which the router completes their requests, so they
   all see one history of the property (`service_reads_last_set`). -/
namespace RtMessage.DataProvider
open Lib

/-- The value of a register after it was written `values`, one after the other. -/
def written (initial : DmValue) (values : List DmValue) : DmValue := values.getLast?.getD initial

theorem written_append (initial : DmValue) (a b : List DmValue) :
    written initial (a ++ b) = written (written initial a) b := by
  rw [written, List.getLast?_append]
  cases h : b.getLast? with
  | none => simp [written, h]
  | some v => simp [written, h]

/-! The provider. -/

section Provider
variable {σ : Type}

/-- The getter of the property `n` reports `value`, its setter puts there what it is given, and
    nothing else of the provider changes it. -/
structure DmProvider.Keeps (p : DmProvider σ) (n : Bytes) (value : σ → DmValue) : Prop where
  reads : ∃ g, p.getter? n = some g ∧ ∀ tr s, (g tr s).1 = value s
  writes : ∃ f, p.setter? n = some f ∧ ∀ tr v s, value (f tr v s) = v
  getters : ∀ m g, p.getter? m = some g → ∀ tr s, value (g tr s).2 = value s
  setters : ∀ m f, m ≠ n → p.setter? m = some f → ∀ tr v s, value (f tr v s) = value s
  doGet : ∀ tr info s, value (p.doGetProperty tr info s).2 = value s
  doSet : ∀ tr info v s, value (p.doSetProperty tr info v s).2 = value s
  begins : ∀ tr s, value (p.beginTransaction tr s) = value s
  ends : ∀ tr s, value (p.endTransaction tr s) = value s

/-- The provider `p` in a state in which the value is `v`. -/
def DmProvider.At (p : DmProvider σ) (value : σ → DmValue) (v : DmValue) (q : DmProvider σ) :
    Prop :=
  ∃ isTransaction state, q = { p with isTransaction, state } ∧ value state = v

/-- The entry of a get for a parameter: the value of the register if it is its property. -/
def ShowsValue (n : Bytes) (v : DmValue) (info : DmPropertyInfo) (e : Param) : Prop :=
  e.info = info ∧ (info.name = n → e = { value := v, info })

/-- What a parameter of a set writes to the property `n`. -/
def DmNamedValue.assigns (n : Bytes) (x : DmNamedValue) : List DmValue :=
  if x.info.isWritable ∧ x.info.name = n then [x.value] else []

variable {p : DmProvider σ} {n : Bytes} {value : σ → DmValue} {v : DmValue} {s : Provided σ}

theorem DmProvider.Keeps.doGetTurn (h : p.Keeps n value) (hat : p.At value v s.provider)
    (info : DmPropertyInfo) : p.At value v (DmProvider.doGetTurn s info).provider ∧
      ∃ e, (DmProvider.doGetTurn s info).result = s.result.addValue e ∧ ShowsValue n v info e := by
  obtain ⟨tr, state, hq, hv⟩ := hat
  obtain ⟨g, hg, hreads⟩ := h.reads
  have hget : s.provider.getter? info.name = p.getter? info.name := by rw [hq]; rfl
  unfold DmProvider.doGetTurn
  rw [hget]
  cases hgetter : p.getter? info.name with
  | some g' =>
    dsimp only
    rw [hq]
    refine ⟨⟨tr, _, rfl, (h.getters _ _ hgetter tr state).trans hv⟩, _, rfl, rfl, ?_⟩
    intro hname
    rw [hname, hg] at hgetter
    cases hgetter
    rw [← hv, ← hreads tr state]
  | none =>
    dsimp only
    rw [hq]
    refine ⟨⟨tr, _, rfl, (h.doGet tr info state).trans hv⟩, _, rfl, ?_, ?_⟩
    · rcases reported_cases info (p.doGetProperty tr info state).1 with ⟨_, _, -, -, he⟩ | ⟨-, he⟩
      · rw [he]
      · rw [he]
        rfl
    · intro hname
      rw [hname, hg] at hgetter
      cases hgetter

theorem DmProvider.Keeps.doGetLoop (h : p.Keeps n value) (params : List DmPropertyInfo)
    (hat : p.At value v s.provider) :
    p.At value v (params.foldl DmProvider.doGetTurn s).provider ∧
      ∃ es, (params.foldl DmProvider.doGetTurn s).result.values = s.result.values ++ es ∧
        List.Forall₂ (ShowsValue n v) params es := by
  induction params generalizing s with
  | nil => exact ⟨hat, [], by simp, .nil⟩
  | cons info params ih =>
    obtain ⟨hturn, e, hresult, hreports⟩ := h.doGetTurn hat info
    obtain ⟨hloop, es, hvalues, hall⟩ := ih hturn
    refine ⟨hloop, e :: es, ?_, .cons hreports hall⟩
    rw [List.foldl_cons, hvalues, hresult]
    simp [DmQueryResult.addValue]

theorem DmProvider.Keeps.doSetTurn (h : p.Keeps n value) (hat : p.At value v s.provider)
    (x : DmNamedValue) :
    p.At value (written v (x.assigns n)) (DmProvider.doSetTurn s x).provider := by
  obtain ⟨tr, state, hq, hv⟩ := hat
  obtain ⟨f, hf, hwrites⟩ := h.writes
  have hset : s.provider.setter? x.info.name = p.setter? x.info.name := by rw [hq]; rfl
  unfold DmProvider.doSetTurn DmNamedValue.assigns
  rw [hset]
  cases hw : x.info.isWritable with
  | false =>
    refine ⟨tr, state, hq, ?_⟩
    simp [written, hv]
  | true =>
    by_cases hname : x.info.name = n
    · rw [hname, hf]
      refine ⟨tr, f tr x.value state, by simp [hq], ?_⟩
      simp [written, hwrites]
    · cases hsetter : p.setter? x.info.name with
      | some f' =>
        refine ⟨tr, f' tr x.value state, by simp [hq], ?_⟩
        rw [h.setters _ _ hname hsetter, hv]
        simp [written, hname]
      | none =>
        refine ⟨tr, (p.doSetProperty tr x.info x.value state).2, by simp [hq], ?_⟩
        rw [h.doSet, hv]
        simp [written, hname]

theorem DmProvider.Keeps.doSetLoop (h : p.Keeps n value) (params : List DmNamedValue)
    (hat : p.At value v s.provider) :
    p.At value (written v (params.flatMap (·.assigns n)))
      (params.foldl DmProvider.doSetTurn s).provider := by
  induction params generalizing s v with
  | nil => exact hat
  | cons x params ih =>
    rw [List.foldl_cons, List.flatMap_cons, written_append]
    apply ih
    exact h.doSetTurn hat x

/-- A set leaves in the register what it was last given, in a transaction or not. -/
theorem DmProvider.Keeps.doSet_at (h : p.Keeps n value) {q : DmProvider σ} (hat : p.At value v q)
    (params : List DmNamedValue) (result : DmQueryResult) :
    p.At value (written v (params.flatMap (·.assigns n))) (q.doSet params result).provider := by
  unfold DmProvider.doSet
  split
  · obtain ⟨tr, state, hq, hv⟩ := hat
    have hopen : p.At value v
        (DmProvider.openTransaction { provider := q, result }).provider := by
      refine ⟨true, p.beginTransaction true state, by simp [DmProvider.openTransaction, hq], ?_⟩
      rw [h.begins, hv]
    obtain ⟨tr', state', hq', hv'⟩ := h.doSetLoop params hopen
    refine ⟨false, p.endTransaction tr' state', ?_, ?_⟩
    · simp [DmProvider.closeTransaction, hq']
    · rw [h.ends, hv']
  · exact h.doSetLoop params hat

end Provider

/-! The host. -/

/-- What a request writes to the property `n` of the provider registered under `O`. -/
def HostRequest.assigns (O n : Bytes) : HostRequest → List DmValue
  | .get _ _ => []
  | .set providerName params =>
    if providerName = O then params.flatMap (·.assigns n) else []

/-- The request that a frame is decoded to. -/
def requestOf (J : CJsonLib) (db : ModelDb) (f : Frame) : Option HostRequest :=
  (rtMessageFromBytes J f.payload).bind fun req => (decodeRequest db req).toOption

/-- What the requests of the frames write, in their order. -/
def assignedBy (J : CJsonLib) (db : ModelDb) (O n : Bytes) (fs : List Frame) : List DmValue :=
  fs.flatMap fun f => ((requestOf J db f).map (·.assigns O n)).getD []

section Host
variable {σ : Type} {host : DmProviderHost σ} {p : DmProvider σ} {O n : Bytes}
  {value : σ → DmValue} {v : DmValue}

/-- The provider under `O` is `p` in a state in which the value is `v`. -/
def DmProviderHost.Holds (host : DmProviderHost σ) (O : Bytes) (p : DmProvider σ)
    (value : σ → DmValue) (v : DmValue) : Prop :=
  ∃ q, host.providers O = some q ∧ p.At value v q

theorem withProvider_db (host : DmProviderHost σ) (path : Bytes) (result : DmQueryResult)
    (f : DmProvider σ → DmQueryResult → Provided σ) :
    (host.withProvider path result f).host.db = host.db := by
  unfold DmProviderHost.withProvider
  split <;> rfl

theorem perform_db (host : DmProviderHost σ) (r : HostRequest) :
    (host.perform r).host.db = host.db := by
  cases r with
  | get O params => exact withProvider_db host O {} fun p => p.doGet params
  | set O params => exact withProvider_db host O {} fun p => p.doSet params

theorem withProvider_providers {path : Bytes} {result : DmQueryResult}
    {f : DmProvider σ → DmQueryResult → Provided σ} {q : DmProvider σ}
    (h : host.providers O = some q) :
    (host.withProvider path result f).host.providers O =
      some (if path = O then (f q result).provider else q) := by
  unfold DmProviderHost.withProvider
  split
  · next hnone =>
    have hne : path ≠ O := by
      intro heq
      rw [heq, h] at hnone
      cases hnone
    rw [if_neg hne, h]
  · next q' hq' =>
    by_cases hpath : path = O
    · subst hpath
      cases h.symm.trans hq'
      rw [if_pos rfl]
      exact Function.update_self ..
    · rw [if_neg hpath]
      exact (Function.update_of_ne (Ne.symm hpath) ..).trans h

/-- **A request** leaves in the register what it writes there last, and a get of the provider
    shows what is in it. -/
theorem DmProvider.Keeps.perform (h : p.Keeps n value) (hold : host.Holds O p value v)
    (r : HostRequest) :
    (host.perform r).host.Holds O p value (written v (r.assigns O n)) ∧
      ∀ params, r = .get O params →
        List.Forall₂ (ShowsValue n v) params (host.perform r).result.values := by
  obtain ⟨q, hq, hat⟩ := hold
  cases r with
  | get providerName params =>
    obtain ⟨hloop, es, hvalues, hall⟩ :=
      h.doGetLoop (s := { provider := q, result := {} }) params hat
    constructor
    · refine ⟨_, withProvider_providers hq, ?_⟩
      split
      · exact hloop
      · exact hat
    · intro params' hr
      cases hr
      have hresult : (host.perform (.get O params)).result = (q.doGet params {}).result :=
        (DmProviderHost.withProvider_some hq).1
      have hshown : (host.perform (.get O params)).result.values = es :=
        (congrArg DmQueryResult.values hresult).trans hvalues
      rwa [hshown]
  | set providerName params =>
    constructor
    · refine ⟨_, withProvider_providers hq, ?_⟩
      rw [HostRequest.assigns]
      by_cases hO : providerName = O
      · rw [if_pos hO, if_pos hO]
        exact h.doSet_at hat params {}
      · rw [if_neg hO, if_neg hO]
        exact hat
    · intro params' hr
      cases hr

variable {J : CJsonLib} {F : FloatText} {host' : DmProviderHost σ} {k k' : UInt32}
  {fs gs : List Frame}

/-- **The last set is read**: what the host answers to the requests, one after the other. -/
theorem AnsweredBy.reads_last_set (hkeeps : p.Keeps n value)
    (h : AnsweredBy J F host k fs gs host' k') (hold : host.Holds O p value v) :
    host'.Holds O p value (written v (assignedBy J host.db O n fs)) ∧
    ∀ i f, fs[i]? = some f → ∃ r result m, requestOf J host.db f = some r ∧
      gs[i]? = some (answerFrame J F m f result) ∧
      ∀ params, r = .get O params → List.Forall₂
        (ShowsValue n (written v (assignedBy J host.db O n (fs.take i)))) params result.values := by
  induction h generalizing v with
  | nil => exact ⟨hold, fun i f hf => by simp at hf⟩
  | @cons host _ m _ f fs gs req out hparse hout _ ih =>
    obtain ⟨r, hr, hdone⟩ : ∃ r, decodeRequest host.db req = .ok r ∧ out = host.perform r := by
      obtain ⟨r, hr, hdone⟩ := bind_eq_ok.mp hout
      exact ⟨r, hr, by cases hdone; rfl⟩
    have hrequest : requestOf J host.db f = some r := by
      simp [requestOf, hparse, hr, Except.toOption]
    obtain ⟨hheld, hshown⟩ := hkeeps.perform hold r
    obtain ⟨hlast, hrest⟩ := ih (by rw [hdone]; exact hheld)
    have hdb : out.host.db = host.db := by rw [hdone, perform_db]
    rw [hdb] at hlast hrest
    have hfirst : ∀ fs, written v (assignedBy J host.db O n (f :: fs)) =
        written (written v (r.assigns O n)) (assignedBy J host.db O n fs) := by
      intro fs
      rw [assignedBy, List.flatMap_cons, hrequest, written_append]
      rfl
    refine ⟨by rw [hfirst]; exact hlast, fun i g hg => ?_⟩
    cases i with
    | zero =>
      cases hg
      refine ⟨r, out.result, m, hrequest, rfl, ?_⟩
      rw [hdone]
      exact hshown
    | succ i =>
      obtain ⟨r', result, m', hrequest', hanswer, hshows⟩ := hrest i g hg
      refine ⟨r', result, m', hrequest', hanswer, ?_⟩
      rw [List.take_succ_cons, hfirst]
      exact hshows

end Host

/-! A client that sets the parameter and then gets it. -/

def getQuery : DmQueryImpl :=
  { query := ascii "B.X", operation := ascii "get", instanceName := ascii "B"
    providerInfo := some relayInfo }

def getText : Bytes := ascii ("\x7b\"method\":\"get\",\"provider\":\"B\"," ++
  "\"params\":\x7b\"name\":\"B.X\"\x7d\x7d")

/-- A library that knows the texts of both requests and of what each is answered with. -/
def storeLib : CJsonLib where
  parse t :=
    if t = setText then some setQuery.request
    else if t = getText then some getQuery.request
    else none
  print _ := setAnswerText

def getFrame : Frame :=
  { setFrame with payload := getText, payload_lt := by decide +kernel }

def storeStreams : Nat → List Frame
  | 1 => [setFrame, getFrame]
  | _ => []

/-- The lamp's provider, that also reports the value. -/
def storeProvider : DmProvider (Option DmValue) :=
  lampProvider.onGet (ascii "X") (some fun _ s => (s.getD (.string []), s))

def storeHost : DmProviderHost (Option DmValue) :=
  ((DmProviderHost.create lampDb).registerProvider (ascii "B") storeProvider true).2

theorem storeProvider_getter (m : Bytes) : storeProvider.getter? m =
    if ascii "X" = m then some fun _ s => (s.getD (.string []), s) else none := by
  rw [storeProvider, getter_onGet, lampProvider, getter_onSet]
  rfl

theorem storeProvider_setter (m : Bytes) : storeProvider.setter? m =
    if ascii "X" = m then some fun _ v _ => some v else none := by
  rw [storeProvider, setter_onGet, lampProvider, setter_onSet]
  rfl

theorem storeProvider_keeps : storeProvider.Keeps (ascii "X") fun s => s.getD (.string []) where
  reads := ⟨_, (storeProvider_getter _).trans (if_pos rfl), fun _ _ => rfl⟩
  writes := ⟨_, (storeProvider_setter _).trans (if_pos rfl), fun _ _ _ => rfl⟩
  getters := by
    intro m g hg tr s
    rw [storeProvider_getter] at hg
    split at hg
    · cases hg
      rfl
    · cases hg
  setters := by
    intro m f hm hf
    rw [storeProvider_setter, if_neg (Ne.symm hm)] at hf
    cases hf
  doGet := fun _ _ _ => rfl
  doSet := fun _ _ _ _ => rfl
  begins := fun _ _ => rfl
  ends := fun _ _ => rfl

theorem storeStreams_asked (ptr : Nat) (f : Frame) (h : f ∈ storeStreams ptr) :
    Asked storeLib askedTable listeningConnection 2 ptr f ∧ f.replyTopic.str ≠ helloTopic := by
  unfold storeStreams at h
  split at h
  · simp only [List.mem_cons, List.not_mem_nil, or_false] at h
    rcases h with rfl | rfl
    · have hlength := setText_length.1
      rw [← setLib_request, ← setFrame_carries.payload] at hlength
      exact setFrame_asked rfl rfl rfl hlength.1 hlength.2
    · exact setFrame_asked rfl rfl rfl (by decide +kernel) (by decide +kernel)
  · cases h

theorem storeLib_texts (m : CJson) : 0 < (rtMessageToByteArray storeLib m).length ∧
    (rtMessageToByteArray storeLib m).length ≤ 7910 := by
  have hlength := setText_length.2
  rw [rtMessageToByteArray, storeLib, cstr_of_not_mem zero_not_mem_setText.2]
  omega

theorem storeService_ready : ServiceReady storeLib noFloats storeStreams (rtConnectedClientInit 2 6)
    0 (askedService storeStreams storeHost) :=
  askedService_ready noFloats storeHost rfl storeStreams_asked storeLib_texts

theorem getText_ne : getText ≠ setText := by
  intro h
  have hmethod : getText[11]? = setText[11]? := by rw [h]
  exact absurd hmethod (by decide +kernel)

theorem framesTo_owner {client : Nat} {l : List (Nat × Frame)} (h : ∀ q ∈ l, q.1 = client) :
    (framesTo client l).map (fun f => (client, f)) = l := by
  induction l with
  | nil => rfl
  | cons q l ih =>
    have hq := h q List.mem_cons_self
    rw [framesTo, List.filterMap_cons, if_pos hq, List.map_cons]
    exact congrArg₂ List.cons (by rw [← hq]) (ih fun x hx => h x (List.mem_cons_of_mem q hx))

theorem storeFrames_parsed :
    rtMessageFromBytes storeLib setFrame.payload = some setQuery.request ∧
    rtMessageFromBytes storeLib getFrame.payload = some getQuery.request := by
  constructor
  · rw [setFrame_carries.payload, setLib_request, rtMessageFromBytes,
      cstr_of_not_mem zero_not_mem_setText.1]
    simp only [storeLib, if_true]
  · have hnul : 0 ∉ getText := by
      simp only [getText, ascii_append, List.mem_append, not_or]
      refine ⟨?_, ?_⟩ <;> decide +kernel
    show storeLib.parse (cstr getText) = _
    rw [cstr_of_not_mem hnul]
    simp only [storeLib, if_neg getText_ne, if_true]

theorem storeFrames_readable (ptr : Nat) (f : Frame) (h : f ∈ storeStreams ptr) :
    Readable storeLib f.payload := by
  unfold storeStreams at h
  split at h
  · simp only [List.mem_cons, List.not_mem_nil, or_false] at h
    rcases h with rfl | rfl
    · exact ⟨_, storeFrames_parsed.1, setQuery_decodable⟩
    · refine ⟨_, storeFrames_parsed.2, ascii "get", _, rfl, rfl, ?_⟩
      rw [if_neg (by decide)]
      exact ⟨ascii "B.X", rfl, by decide⟩
  · cases h

theorem storeFrames_requests :
    requestOf storeLib lampDb setFrame = some (.set (ascii "B") [relayValue]) ∧
    requestOf storeLib lampDb getFrame = some (.get (ascii "B") [relayValue.info]) := by
  rw [requestOf, requestOf, storeFrames_parsed.1, storeFrames_parsed.2]
  decide

/-! Through the router. -/

section Results
variable {σ : Type} {streams : Nat → List Frame} {provider : RtConnectedClient} {sock : Nat}
  {s₀ s : Service σ} {es : List ServiceEvent} {p : DmProvider σ} {O n : Bytes}
  {value : σ → DmValue}

/-- **One history of a property** for all clients: at every point of every interleaving, the
    answers sent are those of a register, written and read in the order in which the router
    completed the requests. -/
theorem service_reads_last_set (J : CJsonLib) (F : FloatText)
    (hready : ServiceReady J F streams provider sock s₀)
    (hrun : Run (ServiceStep J F provider.fd sock) s₀ es s)
    (hp : s₀.host.host.providers O = some p) (hkeeps : p.Keeps n value) :
    ∃ (gs : List Frame) (passed : Nat),
      (∀ clnt ∈ s₀.router.clients, clnt.ptr ≠ provider.ptr → wire clnt.fd s.router.env.sent =
        wire clnt.fd s₀.router.env.sent ++
          (framesTo clnt.ptr (replies (subscriptions s₀.router.routes)
            (askedIn streams provider.ptr es) (gs.take passed))).flatMap Frame.bytes) ∧
      ∀ i q, ((askedIn streams provider.ptr es).take (turnsIn es))[i]? = some q →
        ∃ r result m, requestOf J s₀.host.host.db q.2 = some r ∧
          gs[i]? = some (answerFrame J F m
            (routedCopy (subscriptions s₀.router.routes) q.2) result) ∧
          ∀ params, r = .get O params → List.Forall₂
            (ShowsValue n (written (value p.state) (assignedBy J s₀.host.host.db O n
              (((askedIn streams provider.ptr es).take i).map (·.2))))) params result.values := by
  obtain ⟨gs, passed, got, h, -⟩ := hready.of_run hrun
  refine ⟨gs, passed, fun clnt hmem hne => ?_, fun i q hq => ?_⟩
  · obtain ⟨k, hk, hptr, hfd⟩ := mem_of_same h.clients hmem
    rw [← hptr, ← hfd]
    exact h.sent k hk (hptr ▸ hne)
  · have hold : s₀.host.host.Holds O p value (value p.state) :=
      ⟨p, hp, p.isTransaction, p.state, rfl, rfl⟩
    have hi : i ≤ turnsIn es := by
      have hlt := (List.getElem?_eq_some_iff.mp hq).1
      rw [List.length_take] at hlt
      omega
    obtain ⟨r, result, m, hr, hanswer, hshows⟩ := (h.answered.reads_last_set hkeeps hold).2 i
      (routedCopy (subscriptions s₀.router.routes) q.2) (by rw [List.getElem?_map, hq]; rfl)
    refine ⟨r, result, m, hr, hanswer, ?_⟩
    rw [← List.map_take, List.take_take, Nat.min_eq_left hi] at hshows
    have hsame : assignedBy J s₀.host.host.db O n
        (((askedIn streams provider.ptr es).take i).map fun q =>
          routedCopy (subscriptions s₀.router.routes) q.2) =
        assignedBy J s₀.host.host.db O n
          (((askedIn streams provider.ptr es).take i).map (·.2)) := by
      rw [assignedBy, assignedBy, List.flatMap_map, List.flatMap_map]
      rfl
    rwa [hsame] at hshows

end Results

theorem service_reads_last_set_example :
    ∃ es s, ∃ (gs : List Frame) (passed : Nat) (result : DmQueryResult) (m : UInt32),
    Run (ServiceStep storeLib noFloats 6 0) (askedService storeStreams storeHost) es s ∧
    wire 5 s.router.env.sent = (framesTo 1 (replies askedTable
      (askedIn storeStreams 2 es) (gs.take passed))).flatMap Frame.bytes ∧
    gs[1]? = some (answerFrame storeLib noFloats m (routedCopy askedTable getFrame) result) ∧
    result.values = [{ value := .string (ascii "1"), info := relayValue.info }] := by
  have hready := storeService_ready
  obtain ⟨es, s, hrun, hrest⟩ := Run.nil.comes_to_rest fun _ _ => hready.length_le
  obtain ⟨_, _, _, h, -⟩ := hready.of_run hrun
  obtain ⟨hset, hget⟩ := storeFrames_requests
  -- the one client that asks has asked both
  have hasker : rtConnectedClientInit 1 5 ∈
      (askedService storeStreams storeHost).router.clients := List.mem_cons_self
  have hall : askedIn storeStreams 2 es = [(1, setFrame), (1, getFrame)] := by
    have howner : ∀ q ∈ askedIn storeStreams 2 es, q.1 = 1 := by
      intro q hq
      have hmem := (h.asked q hq).2.1
      unfold storeStreams at hmem
      split at hmem
      · next heq => exact heq
      · cases hmem
    have hframes : framesTo 1 (askedIn storeStreams 2 es) = [setFrame, getFrame] :=
      h.asked_all hrest hasker (by decide)
    rw [← framesTo_owner howner, hframes]
    rfl
  have hturns : turnsIn es = 2 := by
    have hasked := h.turns_all hready (fun clnt _ _ => storeFrames_readable clnt.ptr) hrest
    exact hasked.trans (congrArg List.length hall)
  obtain ⟨gs, passed, hsent, hreads⟩ := service_reads_last_set storeLib noFloats hready hrun
    (O := ascii "B") rfl storeProvider_keeps
  obtain ⟨r, result, m, hr, hanswer, hshows⟩ := hreads 1 (1, getFrame) (by
    change ((askedIn storeStreams 2 es).take (turnsIn es))[1]? = _
    rw [hall, hturns]
    rfl)
  refine ⟨es, s, gs, passed, result, m, hrun, hsent _ hasker (by decide), hanswer, ?_⟩
  have hbefore : ((askedIn storeStreams 2 es).take 1).map (·.2) = [setFrame] := by rw [hall]; rfl
  have hwritten : assignedBy storeLib lampDb (ascii "B") (ascii "X") [setFrame] =
      [.string (ascii "1")] := by
    rw [assignedBy, List.flatMap_singleton, hset]
    decide
  have hshown := hshows _ (Option.some.inj (hr.symm.trans hget))
  change List.Forall₂ (ShowsValue (ascii "X") (written _ (assignedBy storeLib lampDb (ascii "B")
    (ascii "X") (((askedIn storeStreams 2 es).take 1).map (·.2))))) _ _ at hshown
  rw [hbefore, hwritten] at hshown
  obtain ⟨e, rest, he, hrest', hvalues⟩ := List.forall₂_cons_left_iff.mp hshown
  rw [hvalues, List.forall₂_nil_left_iff.mp hrest', he.2 rfl]
  rfl

end RtMessage.DataProvider
