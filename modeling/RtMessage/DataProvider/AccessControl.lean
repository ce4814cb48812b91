import RtMessage.DataProvider.Host

/- Which callbacks a request can reach. The provider is the one under the path in `provider`;
   what is done with it is looked up in the object that the name in `params` leads to. -/
namespace RtMessage.DataProvider

def Declared (db : ModelDb) (P N : Bytes) : Prop :=
  ∃ o info, db.resolve P = some o ∧ o.property? N = some info

def DeclaredWritable (db : ModelDb) (P N : Bytes) : Prop :=
  ∃ o info, db.resolve P = some o ∧ o.property? N = some info ∧ info.isWritable = true

structure AccessControlled (db : ModelDb) (calls : List (Bytes × ProviderCall)) : Prop where
  getters : ∀ P N, (P, .getter N) ∈ calls → Declared db P N
  setters : ∀ P N v, (P, .setter N v) ∈ calls → DeclaredWritable db P N

/-! What a request addresses. -/

/-- The object in front of the last dot, or the wildcard's object. -/
def namedObject (db : ModelDb) (s : Bytes) : Option DmProviderInfo :=
  if s.getLast? = some dot then db.resolve (trimWildcard s) else db.resolve (trimProperty s)

/-- A get of `s` asks for `n` in the object `o`. -/
def GetAddresses (db : ModelDb) (s : Bytes) (o : DmProviderInfo) (n : Bytes) : Prop :=
  namedObject db s = some o ∧
  if s.getLast? = some dot then ∃ info ∈ o.properties, info.name = n else n = trimPropertyName s

/-- A set of `s` to the value `v` assigns to `n` in the object `o`. -/
def SetAddresses (db : ModelDb) (s v : Bytes) (o : DmProviderInfo) (n : Bytes) : Prop :=
  match parseMultisetValue v with
  | some nameVals => db.resolve s = some o ∧ ∃ nameVal ∈ nameVals, nameVal.1 = n
  | none => namedObject db s = some o ∧ n = trimPropertyName s

def AddressedByGet (db : ModelDb) (req : CJson) (o : DmProviderInfo) (n : Bytes) : Prop :=
  ∃ item s, rtMessageGetMessage req (ascii "params") = some item ∧
    stringMember item (ascii "name") = some s ∧ GetAddresses db s o n

/-- A set without a value assigns nothing. -/
def AddressedBySet (db : ModelDb) (req : CJson) (o : DmProviderInfo) (n : Bytes) : Prop :=
  ∃ item s v, rtMessageGetMessage req (ascii "params") = some item ∧
    stringMember item (ascii "name") = some s ∧ stringMember item (ascii "value") = some v ∧
    v ≠ [] ∧ SetAddresses db s v o n

/-- A name the object does not have is passed on as the empty one. -/
def passedOn (o : DmProviderInfo) (n : Bytes) : Bytes :=
  match o.property? n with
  | some _ => n
  | none => []

/-- A name the object does not have is passed on as writable. -/
def Assignable (o : DmProviderInfo) (n : Bytes) : Prop :=
  match o.property? n with
  | some info => info.isWritable = true
  | none => True

section Addressed
variable {db : ModelDb} {s v : Bytes}

theorem isWildcard_ok {w : Bool} (h : isWildcard (some s) = .ok w) :
    s ≠ [] ∧ (w = true ↔ s.getLast? = some dot) := by
  rw [isWildcard] at h
  cases hlast : s.getLast? with
  | none =>
    rw [hlast] at h
    cases h
  | some c =>
    rw [hlast] at h
    cases h
    refine ⟨fun hnil => ?_, by simp⟩
    rw [hnil] at hlast
    cases hlast

theorem namedObject_eq {w : Bool} (h : isWildcard (some s) = .ok w) :
    db.resolve (if w then trimWildcard s else trimProperty s) = namedObject db s := by
  rw [namedObject]
  simp only [← (isWildcard_ok h).2]
  cases w <;> rfl

theorem getProviderByPropertyName_eq {r : Option DmProviderInfo × Bool}
    (h : getProviderByPropertyName db s false = .ok r) : r.1 = namedObject db s := by
  unfold getProviderByPropertyName at h
  split at h
  · next hnil =>
    cases h
    rw [hnil]
    rfl
  · obtain ⟨w, hw, h⟩ := bind_eq_ok.mp h
    rw [← namedObject_eq hw]
    cases w <;> cases h <;> rfl

theorem requestedProperty_name (o : DmProviderInfo) (s : Bytes) :
    (requestedProperty o s).name = passedOn o (trimPropertyName s) := by
  have hname : (o.getPropertyInfo (some s)).name = passedOn o (trimPropertyName s) := by
    rw [DmProviderInfo.getPropertyInfo, passedOn]
    cases h : o.property? (trimPropertyName s) with
    | some info => exact o.property_name h
    | none => rfl
  rw [← hname]
  -- the full name may have been filled in, the name is as it was
  unfold requestedProperty
  dsimp only
  split <;> rfl

theorem passedOn_property {o : DmProviderInfo} {info : DmPropertyInfo} (h : info ∈ o.properties) :
    passedOn o info.name = info.name := by
  obtain ⟨q, hq⟩ := o.exists_property h
  rw [passedOn, hq]

end Addressed

/-! What is decoded from a request. -/

theorem paramsItem_ok {req item : CJson} (h : paramsItem req = .ok item) :
    rtMessageGetMessage req (ascii "params") = some item := by
  unfold paramsItem at h
  split at h
  · next hitem => exact hitem.trans (congrArg some (Except.ok.inj h))
  · cases h

theorem stdString_ok {s : Option Bytes} {t : Bytes} (h : stdString s = .ok t) : s = some t := by
  cases s with
  | none => cases h
  | some s => exact congrArg some (Except.ok.inj h)

/-- The names a get is made with are those it addresses, passed on. -/
theorem decodeGetRequest_names {db : ModelDb} {req : CJson} {P : Bytes}
    {params : List DmPropertyInfo} (h : decodeGetRequest db req = .ok (P, params)) :
    P = providerField req ∧ ∀ n,
      (∃ info ∈ params, info.name = n) ↔ ∃ o m, AddressedByGet db req o m ∧ passedOn o m = n := by
  rw [decodeGetRequest] at h
  obtain ⟨item, hitem, h⟩ := bind_eq_ok.mp h
  obtain ⟨w, hw, h⟩ := bind_eq_ok.mp h
  obtain ⟨s, hs, h⟩ := bind_eq_ok.mp h
  have hname : stringMember item (ascii "name") = some s := stdString_ok hs
  have hparams := paramsItem_ok hitem
  have haddressed : ∀ o m, AddressedByGet db req o m ↔ GetAddresses db s o m := by
    intro o m
    constructor
    · rintro ⟨item', s', hitem', hs', hget⟩
      cases hparams.symm.trans hitem'
      cases hname.symm.trans hs'
      exact hget
    · exact fun hget => ⟨item, s, hparams, hname, hget⟩
  simp only [haddressed]
  rw [hname] at hw
  simp only [namedObject_eq hw] at h
  -- the wildcard asks for all properties, any other name for one, declared or not
  have hwild := (isWildcard_ok hw).2
  cases ho : namedObject db s with
  | none =>
    rw [ho] at h
    cases h
    refine ⟨rfl, fun n => ⟨?_, ?_⟩⟩
    · rintro ⟨info, hmem, _⟩
      cases hmem
    · rintro ⟨o, m, ⟨hnamed, _⟩, _⟩
      cases ho.symm.trans hnamed
  | some o =>
    rw [ho] at h
    cases w with
    | true =>
      have hlast : s.getLast? = some dot := hwild.mp rfl
      cases h
      refine ⟨rfl, fun n => ⟨?_, ?_⟩⟩
      · rintro ⟨info, hmem, rfl⟩
        refine ⟨o, info.name, ⟨ho, ?_⟩, passedOn_property hmem⟩
        rw [if_pos hlast]
        exact ⟨info, hmem, rfl⟩
      · rintro ⟨o', m, ⟨hnamed, hm⟩, rfl⟩
        rw [if_pos hlast] at hm
        cases ho.symm.trans hnamed
        obtain ⟨info, hmem, rfl⟩ := hm
        exact ⟨info, hmem, (passedOn_property hmem).symm⟩
    | false =>
      have hnot : s.getLast? ≠ some dot := fun hlast => Bool.false_ne_true (hwild.mpr hlast)
      cases h
      refine ⟨rfl, fun n => ⟨?_, ?_⟩⟩
      · rintro ⟨info, hmem, rfl⟩
        rw [List.mem_singleton.mp hmem, requestedProperty_name]
        refine ⟨o, trimPropertyName s, ⟨ho, ?_⟩, rfl⟩
        rw [if_neg hnot]
      · rintro ⟨o', m, ⟨hnamed, hm⟩, rfl⟩
        rw [if_neg hnot] at hm
        cases ho.symm.trans hnamed
        refine ⟨_, List.mem_singleton_self _, ?_⟩
        rw [requestedProperty_name, hm]

theorem namedValue_info (o : DmProviderInfo) (target : Bytes) (nameVal : Bytes × Bytes) :
    ((namedValue o target nameVal).info.isWritable = true ↔ Assignable o nameVal.1) ∧
    (namedValue o target nameVal).info.name = passedOn o nameVal.1 := by
  unfold namedValue Assignable passedOn
  cases h : o.property? nameVal.1 with
  | some info => exact ⟨by simp, o.property_name h⟩
  | none => exact ⟨by simp, rfl⟩

theorem decodeAssignments_names {db : ModelDb} {s v : Bytes} {found : Option DmProviderInfo}
    {nameVals : List (Bytes × Bytes)} (h : decodeAssignments db (some s) v = .ok (found, nameVals))
    (o : DmProviderInfo) (n : Bytes) :
    SetAddresses db s v o n ↔ found = some o ∧ ∃ nameVal ∈ nameVals, nameVal.1 = n := by
  unfold decodeAssignments at h
  unfold SetAddresses
  rw [stdString, ok_bind] at h
  cases hv : parseMultisetValue v with
  | some pairs =>
    rw [hv] at h
    cases h
    rfl
  | none =>
    rw [hv] at h
    obtain ⟨r, hr, h⟩ := bind_eq_ok.mp h
    cases h
    rw [getProviderByPropertyName_eq hr]
    simp [eq_comm]

theorem decodeSetRequest_names {db : ModelDb} {req : CJson} {P : Bytes}
    {params : List DmNamedValue} (h : decodeSetRequest db req = .ok (P, params)) :
    P = providerField req ∧ ∀ n,
      (∃ x ∈ params, x.info.isWritable = true ∧ x.info.name = n) ↔
      ∃ o m, AddressedBySet db req o m ∧ Assignable o m ∧ passedOn o m = n := by
  rw [decodeSetRequest] at h
  obtain ⟨item, hitem, h⟩ := bind_eq_ok.mp h
  have hparams := paramsItem_ok hitem
  -- without a value nothing is addressed
  have hempty : ∀ v, stringMember item (ascii "value") = v → (v = none ∨ v = some []) →
      ∀ o m, ¬ AddressedBySet db req o m := by
    rintro v hv hnone o m ⟨item', s, v', hitem', _, hv', hne, _⟩
    cases hparams.symm.trans hitem'
    rw [hv'] at hv
    cases hnone with
    | inl hnone => cases hv.trans hnone
    | inr hnil => exact hne (Option.some.inj (hv.trans hnil))
  dsimp only at h
  split at h
  · next hv =>
    cases h
    refine ⟨rfl, fun n => ⟨?_, ?_⟩⟩
    · rintro ⟨x, hmem, _⟩
      cases hmem
    · rintro ⟨o, m, haddr, _⟩
      exact absurd haddr (hempty _ hv (.inl rfl) o m)
  · next hv =>
    cases h
    refine ⟨rfl, fun n => ⟨?_, ?_⟩⟩
    · rintro ⟨x, hmem, _⟩
      cases hmem
    · rintro ⟨o, m, haddr, _⟩
      exact absurd haddr (hempty _ hv (.inr rfl) o m)
  · next v hne hv =>
    obtain ⟨⟨found, nameVals⟩, hfound, h⟩ := bind_eq_ok.mp h
    obtain ⟨s, hname⟩ : ∃ s, stringMember item (ascii "name") = some s := by
      obtain ⟨s, hs, _⟩ := bind_eq_ok.mp hfound
      exact ⟨s, stdString_ok hs⟩
    rw [hname] at hfound h
    have haddressed : ∀ o m, AddressedBySet db req o m ↔
        found = some o ∧ ∃ nameVal ∈ nameVals, nameVal.1 = m := by
      intro o m
      rw [← decodeAssignments_names hfound]
      constructor
      · rintro ⟨item', s', v', hitem', hs', hv', _, hset⟩
        cases hparams.symm.trans hitem'
        cases hname.symm.trans hs'
        cases hv.symm.trans hv'
        exact hset
      · exact fun hset => ⟨item, s, v, hparams, hname, hv, hne, hset⟩
    simp only [haddressed]
    cases found with
    | none =>
      cases h
      exact ⟨rfl, fun n => by simp⟩
    | some o =>
      cases h
      refine ⟨rfl, fun n => ⟨?_, ?_⟩⟩
      · rintro ⟨x, hmem, hwritable, rfl⟩
        obtain ⟨nameVal, hnameVal, rfl⟩ := List.mem_map.mp hmem
        obtain ⟨hiff, hpassed⟩ := namedValue_info o s nameVal
        exact ⟨o, nameVal.1, ⟨rfl, nameVal, hnameVal, rfl⟩, hiff.mp hwritable, hpassed.symm⟩
      · rintro ⟨o', m, ⟨ho, nameVal, hnameVal, rfl⟩, hassign, rfl⟩
        cases ho
        obtain ⟨hiff, hpassed⟩ := namedValue_info o s nameVal
        exact ⟨_, List.mem_map_of_mem hnameVal, hiff.mpr hassign, hpassed⟩

/-! Access control. -/

/-- What the addressed properties are passed on as, the provider has no callback for unless
    its own object declares it; for a set it has to be declared writable. -/
structure RequestConfined {σ : Type} (host : DmProviderHost σ) (req : CJson) : Prop where
  gets : decodeOperation req = .ok .get →
    ∀ p, host.providers (providerField req) = some p → ∀ o n, AddressedByGet host.db req o n →
    (p.getter? (passedOn o n)).isSome → Declared host.db (providerField req) (passedOn o n)
  sets : decodeOperation req = .ok .set →
    ∀ p, host.providers (providerField req) = some p → ∀ o n, AddressedBySet host.db req o n →
    Assignable o n → (p.setter? (passedOn o n)).isSome →
    DeclaredWritable host.db (providerField req) (passedOn o n)

section Control
variable {σ : Type} {host : DmProviderHost σ} {req : CJson}

theorem getter_called {P : Bytes} {params : List DmPropertyInfo} {Q N : Bytes} :
    (Q, .getter N) ∈ (host.doGet P params {}).calls ↔
    Q = P ∧ ∃ p, host.providers P = some p ∧ (p.getter? N).isSome ∧
      ∃ info ∈ params, info.name = N := by
  rw [DmProviderHost.doGet, DmProviderHost.mem_withProvider_calls]
  simp only [getter_mem_doGet]

theorem setter_called {P : Bytes} {params : List DmNamedValue} {Q N : Bytes} {v : DmValue} :
    (Q, .setter N v) ∈ (host.doSet P params {}).calls ↔
    Q = P ∧ ∃ p, host.providers P = some p ∧ (p.setter? N).isSome ∧
      ∃ x ∈ params, x.info.isWritable = true ∧ x.info.name = N ∧ x.value = v := by
  rw [DmProviderHost.doSet, DmProviderHost.mem_withProvider_calls]
  simp only [setter_mem_doSet]

theorem get_controlled_iff {params : List DmPropertyInfo}
    (h : decodeGetRequest host.db req = .ok (providerField req, params)) :
    AccessControlled host.db (host.doGet (providerField req) params {}).calls ↔
    ∀ p, host.providers (providerField req) = some p → ∀ o n, AddressedByGet host.db req o n →
      (p.getter? (passedOn o n)).isSome → Declared host.db (providerField req) (passedOn o n) := by
  have hnames := (decodeGetRequest_names h).2
  constructor
  · intro hcontrol p hp o n haddr hsome
    refine hcontrol.getters _ _ (getter_called.mpr ⟨rfl, p, hp, hsome, ?_⟩)
    exact (hnames _).mpr ⟨o, n, haddr, rfl⟩
  · intro hconfined
    refine ⟨fun P N hcall => ?_, fun P N v hcall => ?_⟩
    · obtain ⟨rfl, p, hp, hsome, hinfo⟩ := getter_called.mp hcall
      obtain ⟨o, n, haddr, rfl⟩ := (hnames N).mp hinfo
      exact hconfined p hp o n haddr hsome
    · obtain ⟨_, p, _, hmem⟩ := DmProviderHost.mem_withProvider_calls.mp hcall
      exact absurd hmem setter_not_mem_doGet

theorem set_controlled_iff {params : List DmNamedValue}
    (h : decodeSetRequest host.db req = .ok (providerField req, params)) :
    AccessControlled host.db (host.doSet (providerField req) params {}).calls ↔
    ∀ p, host.providers (providerField req) = some p → ∀ o n, AddressedBySet host.db req o n →
      Assignable o n → (p.setter? (passedOn o n)).isSome →
      DeclaredWritable host.db (providerField req) (passedOn o n) := by
  have hnames := (decodeSetRequest_names h).2
  constructor
  · intro hcontrol p hp o n haddr hassign hsome
    obtain ⟨x, hmem, hwritable, hname⟩ := (hnames _).mpr ⟨o, n, haddr, hassign, rfl⟩
    have hcall := setter_called.mpr ⟨rfl, p, hp, hsome, x, hmem, hwritable, hname, rfl⟩
    exact hcontrol.setters _ _ _ hcall
  · intro hconfined
    refine ⟨fun P N hcall => ?_, fun P N v hcall => ?_⟩
    · obtain ⟨_, p, _, hmem⟩ := DmProviderHost.mem_withProvider_calls.mp hcall
      exact absurd hmem getter_not_mem_doSet
    · obtain ⟨rfl, p, hp, hsome, x, hmem, hwritable, hname, _⟩ := setter_called.mp hcall
      obtain ⟨o, n, haddr, hassign, rfl⟩ := (hnames N).mp ⟨x, hmem, hwritable, hname⟩
      exact hconfined p hp o n haddr hassign hsome

/-- For every request the host carries out, a callback is called only for what the provider's
    object declares, if and only if the request is confined to that. -/
theorem access_controlled_iff {out : Handled σ} (h : host.requestHandler req = .ok out) :
    AccessControlled host.db out.calls ↔ RequestConfined host req := by
  rw [DmProviderHost.requestHandler] at h
  obtain ⟨r, hr, h⟩ := bind_eq_ok.mp h
  cases h
  rw [decodeRequest] at hr
  obtain ⟨op, hop, hr⟩ := bind_eq_ok.mp hr
  cases op with
  | get =>
    obtain ⟨⟨P, params⟩, hget, hr⟩ := bind_eq_ok.mp hr
    cases hr
    obtain rfl : P = providerField req := (decodeGetRequest_names hget).1
    have hiff := get_controlled_iff hget
    constructor
    · exact fun hcontrol => ⟨fun _ => hiff.mp hcontrol, fun hset => nomatch hop.symm.trans hset⟩
    · exact fun hconfined => hiff.mpr (hconfined.gets hop)
  | set =>
    obtain ⟨⟨P, params⟩, hset, hr⟩ := bind_eq_ok.mp hr
    cases hr
    obtain rfl : P = providerField req := (decodeSetRequest_names hset).1
    have hiff := set_controlled_iff hset
    constructor
    · exact fun hcontrol => ⟨fun hget => (nomatch hop.symm.trans hget), fun _ => hiff.mp hcontrol⟩
    · exact fun hconfined => hiff.mpr (hconfined.sets hop)

/-- A request is confined if its name leads to the provider's own object and the provider has
    no callback under the empty name. -/
theorem confined_of_same_object
    (hget : ∀ o n, AddressedByGet host.db req o n → host.db.resolve (providerField req) = some o)
    (hset : ∀ o n, AddressedBySet host.db req o n → host.db.resolve (providerField req) = some o)
    (hempty : ∀ p, host.providers (providerField req) = some p →
      p.getter? [] = none ∧ p.setter? [] = none) : RequestConfined host req := by
  refine ⟨fun _ p hp o n haddr hsome => ?_, fun _ p hp o n haddr hassign hsome => ?_⟩
  · cases hinfo : o.property? n with
    | none =>
      rw [passedOn, hinfo, (hempty p hp).1] at hsome
      cases hsome
    | some info =>
      have hpassed : passedOn o n = n := by rw [passedOn, hinfo]
      exact ⟨o, info, hget o n haddr, hpassed.symm ▸ hinfo⟩
  · cases hinfo : o.property? n with
    | none =>
      rw [passedOn, hinfo, (hempty p hp).2] at hsome
      cases hsome
    | some info =>
      have hpassed : passedOn o n = n := by rw [passedOn, hinfo]
      rw [Assignable, hinfo] at hassign
      exact ⟨o, info, hset o n haddr, hpassed.symm ▸ hinfo, hassign⟩

end Control

/-! Two objects that declare `X`, only the second one writable. -/

def lampInfo : DmProviderInfo where
  objectName := ascii "A"
  providerName := ascii "lamp"
  isList := false
  properties := [{ name := ascii "X", fullName := ascii "A.X" }]
  fullNames := by decide

def relayInfo : DmProviderInfo where
  objectName := ascii "B"
  providerName := ascii "relay"
  isList := false
  properties := [{ name := ascii "X", isWritable := true, fullName := ascii "B.X" }]
  fullNames := by decide

def lampDb : ModelDb := ⟨[lampInfo, relayInfo], by decide⟩

/-- A provider whose setter of `X` keeps the value. -/
def lampProvider : DmProvider (Option DmValue) :=
  DmProvider.onSet { state := none } (ascii "X") (some fun _ v _ => some v)

/-- The provider is registered under `A`. -/
def lampHost : DmProviderHost (Option DmValue) :=
  ((DmProviderHost.create lampDb).registerProvider (ascii "A") lampProvider true).2

def setRequest (provider name value : Bytes) : CJson :=
  .object [(ascii "method", .string (ascii "set")), (ascii "provider", .string provider),
    (ascii "params", .object [(ascii "name", .string name), (ascii "value", .string value)])]

/-- The value a set of `X` in the object `name` passes on. -/
def relayValue : DmNamedValue :=
  { info := { name := ascii "X", isWritable := true, fullName := ascii "B.X" },
    value := .string (ascii "1") }

theorem setRequest_decoded : decodeRequest lampDb (setRequest (ascii "A") (ascii "B.X") (ascii "1")) =
    .ok (.set (ascii "A") [relayValue]) := by decide

theorem setRequest_handled :
    lampHost.requestHandler (setRequest (ascii "A") (ascii "B.X") (ascii "1")) =
    .ok (lampHost.doSet (ascii "A") [relayValue] {}) := by
  have hdb : lampHost.db = lampDb := rfl
  rw [DmProviderHost.requestHandler, hdb, setRequest_decoded, ok_bind, DmProviderHost.perform]

theorem access_controlled_iff_example :
    AccessControlled lampDb (lampHost.doSet (ascii "A") [relayValue] {}).calls ↔
    RequestConfined lampHost (setRequest (ascii "A") (ascii "B.X") (ascii "1")) :=
  access_controlled_iff setRequest_handled

/-- A request for the provider under `A` that names `B.X` has the setter of `X` called, which
    the object `A` declares read-only. -/
theorem access_not_controlled : ¬ ∀ (σ : Type) (host : DmProviderHost σ) (req : CJson)
    (out : Handled σ), host.requestHandler req = .ok out → AccessControlled host.db out.calls := by
  intro h
  have hcontrol := h _ lampHost _ _ setRequest_handled
  have hcall : (ascii "A", .setter (ascii "X") (.string (ascii "1"))) ∈
      (lampHost.doSet (ascii "A") [relayValue] {}).calls :=
    setter_called.mpr
      ⟨rfl, lampProvider, rfl, rfl, relayValue, List.mem_singleton_self _, rfl, rfl, rfl⟩
  obtain ⟨o, info, ho, hinfo, hwritable⟩ := hcontrol.setters _ _ _ hcall
  have hlamp : lampDb.resolve (ascii "A") = some lampInfo := rfl
  cases hlamp.symm.trans ho
  have hX : lampInfo.property? (ascii "X") = some { name := ascii "X", fullName := ascii "A.X" } := rfl
  cases hX.symm.trans hinfo
  cases hwritable

end RtMessage.DataProvider
