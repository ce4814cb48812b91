import RtMessage.Sending
import RtMessage.DataProvider.Host

/- `dmQueryImpl` and `dmProviderDatabase::createQuery`: what a client sends for a query
   string, and what the host makes of it.

   The object of a set query is what is left once the string has been trimmed at its last dot
   until it has no `=`. The host finds the object by the name in front of the first `=`. -/
namespace RtMessage.DataProvider

structure DmQueryImpl where
  query : Bytes := []
  value : Bytes := []
  operation : Bytes := []
  instanceName : Bytes := []
  providerInfo : Option DmProviderInfo := none

/-- `while (hasEq)`; `none` if the string was trimmed to nothing. -/
def trimLoop : Nat → Bytes → Except Fault (Option Bytes)
  | 0, _ => .error .outOfFuel
  | fuel+1, s =>
    match find s equals with
    | none => .ok (some s)
    | some _ =>
      let trimmed := trimSetProperty s
      if trimmed = [] then .ok none else trimLoop fuel trimmed

namespace DmQueryImpl

def setQueryString (fuel : Nat) (q : DmQueryImpl) :
    DmProviderOperation → Bytes → Except Fault (Bool × DmQueryImpl)
  | .get, s => do
    let instanceName := if ← isWildcard (some s) then trimWildcard s else trimProperty s
    .ok (true, { q with operation := ascii "get", query := s, instanceName })
  | .set, data => do
    let q := { q with operation := ascii "set" }
    match find data equals with
    | none => .ok (false, q)
    | some position =>
      let q := { q with query := data.take position, value := data.drop (position + 1) }
      match ← trimLoop fuel (trimSetProperty data) with
      | some instanceName => .ok (true, { q with instanceName })
      | none => .ok (false, { q with instanceName := [] })

/-- The item under `params`. -/
def paramsItem (q : DmQueryImpl) : CJson :=
  let item := rtMessageSetString rtMessageCreate (ascii "name") q.query
  if q.operation = ascii "set" then rtMessageSetString item (ascii "value") q.value else item

/-- The message that `makeRequest` sends. -/
def request (q : DmQueryImpl) : CJson :=
  let req := rtMessageSetString rtMessageCreate (ascii "method") q.operation
  let req := rtMessageSetString req (ascii "provider") q.instanceName
  rtMessageSetMessage req (ascii "params") q.paramsItem

/-- What is returned, the topic and the request that are given to `rtConnection_SendRequest`,
    and the query afterwards. -/
def exec (q : DmQueryImpl) : Bool × Option (Bytes × CJson) × DmQueryImpl :=
  match q.providerInfo with
  | none => (false, none, q)
  | some _ => (true, some (ascii "RDK.MODEL." ++ q.instanceName, q.request), {})

end DmQueryImpl

/-- The object `createQuery` finds for the query string. -/
def queryObject (db : ModelDb) (fuel : Nat) :
    DmProviderOperation → Bytes → Except Fault (Option DmProviderInfo)
  | .get, queryString => do
    let (providerInfo, _) ← getProviderByPropertyName db queryString false
    .ok providerInfo
  | .set, queryString =>
    let trimmed := trimSetProperty queryString
    if trimmed = [] then .ok none
    else do
      match ← trimLoop fuel trimmed with
      | none => .ok none
      | some trimmed => .ok (db.resolve trimmed)

/-- `none` is a null query. -/
def createQuery (db : ModelDb) (fuel : Nat) (op : DmProviderOperation) :
    Option Bytes → Except Fault (Option DmQueryImpl)
  | none => .ok none
  | some queryString => do
    match ← queryObject db fuel op queryString with
    | none => .ok none
    | some providerInfo =>
      let (status, query) ← DmQueryImpl.setQueryString fuel {} op queryString
      .ok (some (if status then { query with providerInfo := some providerInfo } else query))

/-! Trimming a set query. -/

section Trimming
variable {o n v w : Bytes}

/-- A value that is not in braces is trimmed at its last dot, and one without a dot together
    with the name in front of it. -/
theorem trimSetProperty_value (ho : equals ∉ o) (hdot : dot ∉ n) (heq : equals ∉ n)
    (hw : w.head? ≠ some openBrace) :
    trimSetProperty (o ++ dot :: n ++ equals :: w) = o ∨
    ∃ a, a.length < w.length ∧ a.head? ≠ some openBrace ∧
      trimSetProperty (o ++ dot :: n ++ equals :: w) = o ++ dot :: n ++ equals :: a := by
  have hfree : equals ∉ o ++ dot :: n := by
    simp only [List.mem_append, List.mem_cons, not_or]
    exact ⟨ho, by decide, heq⟩
  have hnext : (o ++ dot :: n ++ equals :: w)[(o ++ dot :: n).length + 1]? = w.head? := by
    rw [List.getElem?_append_right (Nat.le_succ _), Nat.succ_sub (Nat.le_refl _), Nat.sub_self]
    exact List.head?_eq_getElem?.symm
  have htrim : trimSetProperty (o ++ dot :: n ++ equals :: w) =
      trimProperty (o ++ dot :: n ++ equals :: w) := by
    rw [trimSetProperty, find_append hfree]
    refine if_neg fun hbrace => hw ?_
    exact hnext ▸ hbrace.2.1
  rw [htrim]
  by_cases hmem : dot ∈ w
  · right
    obtain ⟨a, b, rfl, hb⟩ := eq_append_last hmem
    refine ⟨a, by simp, ?_, ?_⟩
    · cases a with
      | nil => simp
      | cons c a => exact hw
    · have hsplit : o ++ dot :: n ++ equals :: (a ++ dot :: b) =
          (o ++ dot :: n ++ equals :: a) ++ dot :: b := by simp
      rw [hsplit, trimProperty_append _ hb]
  · left
    have hname : dot ∉ n ++ equals :: w := by
      simp only [List.mem_append, List.mem_cons, not_or]
      exact ⟨hdot, by decide, hmem⟩
    have hsplit : o ++ dot :: n ++ equals :: w = o ++ dot :: (n ++ equals :: w) := by simp
    rw [hsplit, trimProperty_append _ hname]

theorem trimLoop_done {s : Bytes} (h : equals ∉ s) (fuel : Nat) :
    trimLoop (fuel + 1) s = .ok (some s) := by
  rw [trimLoop, find_eq_none h]

/-- The loop leaves the object: each turn shortens what is behind the first `=`. -/
theorem trimLoop_value (ho : equals ∉ o) (hne : o ≠ []) (hdot : dot ∉ n) (heq : equals ∉ n) :
    ∀ (fuel : Nat) (w : Bytes), w.length + 2 ≤ fuel → w.head? ≠ some openBrace →
      trimLoop fuel (o ++ dot :: n ++ equals :: w) = .ok (some o) := by
  intro fuel
  induction fuel with
  | zero =>
    intro w hfuel
    omega
  | succ fuel ih =>
    intro w hfuel hw
    have hfree : equals ∉ o ++ dot :: n := by
      simp only [List.mem_append, List.mem_cons, not_or]
      exact ⟨ho, by decide, heq⟩
    rw [trimLoop, find_append hfree]
    dsimp only
    cases trimSetProperty_value ho hdot heq hw with
    | inl hobject =>
      obtain ⟨k, rfl⟩ : ∃ k, fuel = k + 1 := ⟨fuel - 1, by omega⟩
      rw [hobject, if_neg hne, trimLoop_done ho]
    | inr hshorter =>
      obtain ⟨a, hlen, ha, htrim⟩ := hshorter
      rw [htrim, if_neg (by simp), ih a (by omega) ha]

theorem trim_value (ho : equals ∉ o) (hne : o ≠ []) (hdot : dot ∉ n) (heq : equals ∉ n)
    {fuel : Nat} (hfuel : w.length + 2 ≤ fuel) (hw : w.head? ≠ some openBrace) :
    trimSetProperty (o ++ dot :: n ++ equals :: w) ≠ [] ∧
    trimLoop fuel (trimSetProperty (o ++ dot :: n ++ equals :: w)) = .ok (some o) := by
  cases trimSetProperty_value ho hdot heq hw with
  | inl hobject =>
    obtain ⟨k, rfl⟩ : ∃ k, fuel = k + 1 := ⟨fuel - 1, by omega⟩
    rw [hobject, trimLoop_done ho]
    exact ⟨hne, rfl⟩
  | inr hshorter =>
    obtain ⟨a, hlen, ha, htrim⟩ := hshorter
    rw [htrim, trimLoop_value ho hne hdot heq fuel a (by omega) ha]
    exact ⟨by simp, rfl⟩

end Trimming

/-! From the query string to the provider. -/

def HostRequest.providerName : HostRequest → Bytes
  | .get providerName _ => providerName
  | .set providerName _ => providerName

/-- What a provider does for the request. -/
def DmProvider.carriesOut {σ : Type} (p : DmProvider σ) : HostRequest → Provided σ
  | .get _ params => p.doGet params {}
  | .set _ params => p.doSet params {}

/-- What `rtConnection_SendRequest` sends for a request it is given with the topic `given`: on
    every connection whose socket takes it, one frame, and that is on `topic`. -/
def SentOn (req : CJson) (given topic : Bytes) : Prop :=
  ∀ (J : CJsonLib) (con : RtConnection) (os : Os) (sock fuel : Nat), con.fd = some sock →
    os.sends.head = .complete → os.sends.tail.head = .complete →
    ∃ f : Frame, f.topic.str = topic ∧ ∃ con' os',
      rtConnectionSendInternal J (fuel+1) con given (rtMessageToByteArray J req)
        (some con.inboxName) rtMessageFlagsRequest os = .ok (.ok, con', os') ∧
      wire sock os'.sent = wire sock os.sent ++ f.bytes

/-- The query is sent on the topic of the object path `O`, the host decodes it into `r`, and
    the provider registered under `O` carries that out. -/
def Reaches {σ : Type} (host : DmProviderHost σ) (op : DmProviderOperation) (s O : Bytes)
    (r : HostRequest) : Prop :=
  ∃ fuel query given req after p out, createQuery host.db fuel op (some s) = .ok (some query) ∧
    query.exec = (true, some (given, req), after) ∧
    SentOn req given (ascii "RDK.MODEL." ++ O) ∧
    decodeRequest host.db req = .ok r ∧ r.providerName = O ∧ host.providers O = some p ∧
    host.requestHandler req = .ok out ∧ out.result = (p.carriesOut r).result ∧
    out.calls = (p.carriesOut r).calls.map fun c => (O, c)

theorem sentOn_of_short (req : CJson) {topic : Bytes} (hlen : topic.length ≤ 127)
    (hnul : 0 ∉ topic) : SentOn req topic topic := by
  intro J con os sock fuel hfd hheader hpayload
  let f := sentFrame con topic (rtMessageToByteArray J req) (some con.inboxName)
    rtMessageFlagsRequest
  obtain ⟨sendBuffer, h⟩ := sendInternal_whole J con topic (rtMessageToByteArray J req)
    (some con.inboxName) rtMessageFlagsRequest os (f := f) rfl hfd (by rw [hheader]; rfl)
    (by rw [hpayload]; rfl)
  have htopic : f.topic.str = topic := by
    change cstr (topic.take 127) = topic
    rw [List.take_of_length_le hlen, cstr_of_not_mem hnul]
  refine ⟨f, htopic, _, _, h fuel, ?_⟩
  rw [wire_afterFrame hheader hpayload, if_pos rfl]

section Agreement
variable {σ : Type} {host : DmProviderHost σ} {O N v : Bytes} {o : DmProviderInfo}
  {info : DmPropertyInfo}

theorem resolve_ne_nil {db : ModelDb} (h : db.resolve O = some o) : O ≠ [] := by
  rintro rfl
  cases h

theorem createQuery_get {s : Bytes} {w : Bool} (fuel : Nat) (hs : isWildcard (some s) = .ok w)
    (hO : (if w then trimWildcard s else trimProperty s) = O) (ho : host.db.resolve O = some o) :
    createQuery host.db fuel .get (some s) =
      .ok (some { query := s, operation := ascii "get", instanceName := O
                  providerInfo := some o }) := by
  have hne : s ≠ [] := by
    rintro rfl
    cases hs
  have hobject : queryObject host.db fuel .get s = .ok (some o) := by
    rw [queryObject, getProviderByPropertyName, if_neg hne, hs, ← ho, ← hO]
    cases w <;> rfl
  have hquery : DmQueryImpl.setQueryString fuel {} .get s =
      .ok (true, { query := s, operation := ascii "get", instanceName := O }) := by
    rw [DmQueryImpl.setQueryString, hs, ← hO]
    cases w <;> rfl
  rw [createQuery, hobject, ok_bind]
  dsimp only
  rw [hquery]
  rfl

theorem createQuery_set (hO : equals ∉ O) (hdot : dot ∉ N) (heq : equals ∉ N)
    (hv : v.head? ≠ some openBrace) (ho : host.db.resolve O = some o) :
    createQuery host.db (v.length + 2) .set (some (O ++ dot :: N ++ equals :: v)) =
      .ok (some { query := O ++ dot :: N, value := v, operation := ascii "set", instanceName := O,
                  providerInfo := some o }) := by
  obtain ⟨hne, htrim⟩ := trim_value hO (resolve_ne_nil ho) hdot heq (Nat.le_refl _) hv
  have hfree : equals ∉ O ++ dot :: N := by
    simp only [List.mem_append, List.mem_cons, not_or]
    exact ⟨hO, by decide, heq⟩
  have hobject : queryObject host.db (v.length + 2) .set (O ++ dot :: N ++ equals :: v) =
      .ok (some o) := by
    rw [queryObject, if_neg hne, htrim, ← ho]
    rfl
  have hquery : DmQueryImpl.setQueryString (v.length + 2) {} .set (O ++ dot :: N ++ equals :: v) =
      .ok (true, { query := O ++ dot :: N, value := v, operation := ascii "set",
                   instanceName := O }) := by
    rw [DmQueryImpl.setQueryString]
    dsimp only
    rw [find_append hfree]
    dsimp only
    rw [htrim, ok_bind, List.take_left' rfl, drop_append_cons]
  rw [createQuery, hobject, ok_bind]
  dsimp only
  rw [hquery]
  rfl

/-! The request at the host. -/

theorem request_method (q : DmQueryImpl) :
    rtMessageGetString q.request (ascii "method") = some (some q.operation) := rfl

theorem request_provider (q : DmQueryImpl) : providerField q.request = q.instanceName := rfl

theorem request_params (q : DmQueryImpl) :
    rtMessageGetMessage q.request (ascii "params") = some q.paramsItem := rfl

theorem paramsItem_name (q : DmQueryImpl) :
    stringMember q.paramsItem (ascii "name") = some q.query := by
  unfold DmQueryImpl.paramsItem
  dsimp only
  split <;> rfl

theorem paramsItem_value (q : DmQueryImpl) (h : q.operation = ascii "set") :
    stringMember q.paramsItem (ascii "value") = some q.value := by
  rw [DmQueryImpl.paramsItem, if_pos h]
  rfl

theorem decode_get {s : Bytes} {w : Bool} (hs : isWildcard (some s) = .ok w)
    (hO : (if w then trimWildcard s else trimProperty s) = O) (ho : host.db.resolve O = some o)
    (q : DmQueryImpl) (hop : q.operation = ascii "get") (hq : q.query = s) (hi : q.instanceName = O) :
    decodeRequest host.db q.request =
      .ok (.get O (if w then o.properties else [requestedProperty o s])) := by
  have hmethod : decodeOperation q.request = .ok .get := by
    rw [decodeOperation, request_method, hop]
    rfl
  have hget : decodeGetRequest host.db q.request =
      .ok (O, if w then o.properties else [requestedProperty o s]) := by
    rw [decodeGetRequest, request_provider, hi, paramsItem, request_params, ok_bind,
      paramsItem_name, hq]
    dsimp only
    rw [hs, ok_bind, stdString, ok_bind, hO, ho]
    cases w <;> rfl
  rw [decodeRequest, hmethod, ok_bind]
  dsimp only
  rw [hget]
  rfl

theorem decode_set (hdot : dot ∉ N) (hinfo : o.property? N = some info)
    (hv : v.head? ≠ some openBrace) (hne : v ≠ []) (ho : host.db.resolve O = some o)
    (q : DmQueryImpl) (hop : q.operation = ascii "set") (hq : q.query = O ++ dot :: N)
    (hvalue : q.value = v) (hi : q.instanceName = O) :
    decodeRequest host.db q.request = .ok (.set O [{ info, value := .string v }]) := by
  have hmethod : decodeOperation q.request = .ok .set := by
    rw [decodeOperation, request_method, hop]
    rfl
  have hassign : decodeAssignments host.db (some (O ++ dot :: N)) v = .ok (some o, [(N, v)]) := by
    have hsingle : parseMultisetValue v = none := by
      rw [parseMultisetValue, if_pos (.inr (.inl hv))]
    have hobject : getProviderByPropertyName host.db (O ++ dot :: N) false =
        .ok (getProviderByObjectName host.db O false) := by
      rw [getProviderByPropertyName, if_neg (by simp)]
      by_cases hN : N = []
      · rw [hN, isWildcard_append, ok_bind, trimWildcard_append]
        rfl
      · rw [isWildcard_name hdot hN, ok_bind, trimProperty_append O hdot]
        rfl
    rw [decodeAssignments, stdString, ok_bind]
    dsimp only
    rw [hsingle]
    dsimp only
    rw [hobject, ok_bind, trimPropertyName_append O hdot]
    exact congrArg (fun x => Except.ok (x, [(N, v)])) ho
  have hset : decodeSetRequest host.db q.request = .ok (O, [{ info, value := .string v }]) := by
    rw [decodeSetRequest, request_provider, hi, paramsItem, request_params, ok_bind]
    dsimp only
    rw [paramsItem_name, paramsItem_value q hop, hq, hvalue]
    obtain ⟨c, cs, rfl⟩ := List.exists_cons_of_ne_nil hne
    dsimp only
    rw [hassign, ok_bind]
    dsimp only
    rw [List.map_singleton, namedValue, hinfo]
  rw [decodeRequest, hmethod, ok_bind]
  dsimp only
  rw [hset]
  rfl

/-- An object path whose topic fits the header. -/
structure ShortPath (O : Bytes) : Prop where
  length_le : O.length ≤ 117
  nul_free : 0 ∉ O

theorem ShortPath.sentOn (h : ShortPath O) (req : CJson) :
    SentOn req (ascii "RDK.MODEL." ++ O) (ascii "RDK.MODEL." ++ O) := by
  have hten : (ascii "RDK.MODEL.").length = 10 := by decide
  apply sentOn_of_short
  · rw [List.length_append, hten]
    exact Nat.add_le_add_left h.length_le 10
  · rw [List.mem_append, not_or]
    exact ⟨by decide, h.nul_free⟩

/-- No other topic is sent as it is given: a header has no room for it. -/
theorem Reaches.length_le {op : DmProviderOperation} {s : Bytes} {r : HostRequest}
    (h : Reaches host op s O r) : O.length ≤ 117 := by
  obtain ⟨-, -, given, req, -, -, -, -, -, hsent, -⟩ := h
  obtain ⟨f, htopic, -⟩ :=
    hsent .unused openConnection (.idle (Stream'.const .complete)) 0 0 rfl rfl rfl
  have hlen := f.topic.length_le
  rw [htopic, List.length_append] at hlen
  have hten : (ascii "RDK.MODEL.").length = 10 := by decide
  omega

theorem reaches_of_decoded {p : DmProvider σ} {op : DmProviderOperation} {s : Bytes} {fuel : Nat}
    {q : DmQueryImpl} {r : HostRequest} (hshort : ShortPath O) (hp : host.providers O = some p)
    (hcreate : createQuery host.db fuel op (some s) = .ok (some q)) (hinstance : q.instanceName = O)
    (hprovider : q.providerInfo = some o) (hdecode : decodeRequest host.db q.request = .ok r)
    (hname : r.providerName = O) : Reaches host op s O r := by
  have hexec : q.exec = (true, some (ascii "RDK.MODEL." ++ O, q.request), {}) := by
    rw [DmQueryImpl.exec, hprovider, hinstance]
  have hhandled : host.requestHandler q.request = .ok (host.perform r) := by
    rw [DmProviderHost.requestHandler, hdecode]
    rfl
  have hcarried : (host.perform r).result = (p.carriesOut r).result ∧
      (host.perform r).calls = (p.carriesOut r).calls.map fun c => (O, c) := by
    cases r with
    | get providerName params =>
      obtain rfl : providerName = O := hname
      exact DmProviderHost.withProvider_some hp
    | set providerName params =>
      obtain rfl : providerName = O := hname
      exact DmProviderHost.withProvider_some hp
  exact ⟨fuel, q, _, q.request, {}, p, host.perform r, hcreate, hexec, hshort.sentOn _, hdecode,
    hname, hp, hhandled, hcarried.1, hcarried.2⟩

theorem reaches_get {p : DmProvider σ} {s : Bytes} {w : Bool} (hshort : ShortPath O)
    (hp : host.providers O = some p) (hs : isWildcard (some s) = .ok w)
    (hO : (if w then trimWildcard s else trimProperty s) = O) (ho : host.db.resolve O = some o) :
    Reaches host .get s O (.get O (if w then o.properties else [requestedProperty o s])) := by
  have hcreate := createQuery_get 0 hs hO ho
  exact reaches_of_decoded hshort hp hcreate rfl rfl (decode_get hs hO ho _ rfl rfl rfl) rfl

theorem reaches_wildcard {p : DmProvider σ} (hshort : ShortPath O)
    (hp : host.providers O = some p) (ho : host.db.resolve O = some o) :
    Reaches host .get (O ++ [dot]) O (.get O o.properties) :=
  reaches_get hshort hp (isWildcard_append O) (trimWildcard_append O) ho

end Agreement

/-! An object that declares a property without a name. -/

def fanInfo : DmProviderInfo where
  objectName := ascii "F"
  providerName := ascii "fan"
  isList := false
  properties := [{ fullName := ascii "F." }, { name := ascii "X", fullName := ascii "F.X" }]
  fullNames := by decide

def fanDb : ModelDb := ⟨[fanInfo], by decide⟩

end RtMessage.DataProvider
