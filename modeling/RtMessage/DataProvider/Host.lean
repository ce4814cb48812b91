import RtMessage.DataProvider.Provider

/- `dmProviderHost`: the providers of a process, registered under object paths, and what it
   does for a request.

   A request is the JSON of a message. The result is what `encodeResult` is given. -/
namespace RtMessage.DataProvider

structure DmProviderHost (σ : Type) where
  db : ModelDb
  providers : Bytes → Option (DmProvider σ)
  /-- a provider is registered under a path that leads to an object -/
  resolves : ∀ path, (providers path).isSome → (db.resolve path).isSome

namespace DmProviderHost
variable {σ : Type}

def create (db : ModelDb) : DmProviderHost σ :=
  { db, providers := fun _ => none, resolves := fun _ h => absurd h (by simp) }

/-- `m_providers[path] = p`, at a path that leads to an object. -/
def setProvider (host : DmProviderHost σ) (path : Bytes) (p : DmProvider σ)
    (h : (host.db.resolve path).isSome) : DmProviderHost σ :=
  { db := host.db
    providers := Function.update host.providers path (some p)
    resolves := fun q hq => by
      by_cases heq : q = path
      · exact heq ▸ h
      · rw [Function.update_of_ne heq] at hq
        exact host.resolves q hq }

/-- `listening` is whether the connection takes the listener for the provider's topic. -/
def registerProvider (host : DmProviderHost σ) (object : Bytes) (provider : DmProvider σ)
    (listening : Bool) : Bool × DmProviderHost σ :=
  if h : (host.db.resolve object).isSome then
    if listening then
      -- a provider that is registered under the path already stays there
      match host.providers object with
      | some _ => (true, host)
      | none => (true, host.setProvider object provider h)
    else (false, host)
  else (false, host)

end DmProviderHost

/-! Requests. -/

inductive DmProviderOperation where
  | get
  | set
  deriving DecidableEq

/-- `strcmp` is given the string even if there is none. -/
def decodeOperation (req : CJson) : Except Fault DmProviderOperation :=
  match rtMessageGetString req (ascii "method") with
  | some (some operation) => .ok (if operation = ascii "set" then .set else .get)
  | _ => .error .undefinedBehaviour

/-- The string in a member; a null pointer if there is none. -/
def stringMember (m : CJson) (name : Bytes) : Option Bytes := (rtMessageGetString m name).join

def providerField (req : CJson) : Bytes := (stringMember req (ascii "provider")).getD []

/-- The item under `params`; without one the message got is not initialized. -/
def paramsItem (req : CJson) : Except Fault CJson :=
  match rtMessageGetMessage req (ascii "params") with
  | some item => .ok item
  | none => .error .undefinedBehaviour

/-- A `std::string` made from a pointer. -/
def stdString : Option Bytes → Except Fault Bytes
  | some s => .ok s
  | none => .error .undefinedBehaviour

/-- The object's property; one that is not found goes on under the name it was asked for by. -/
def requestedProperty (objectInfo : DmProviderInfo) (propertyName : Bytes) : DmPropertyInfo :=
  let info := objectInfo.getPropertyInfo (some propertyName)
  if info.fullName = [] then { info with fullName := propertyName } else info

/-- The provider's name and the properties to get. -/
def decodeGetRequest (db : ModelDb) (req : CJson) : Except Fault (Bytes × List DmPropertyInfo) := do
  let name := providerField req
  let item ← paramsItem req
  let propertyName := stringMember item (ascii "name")
  let wildcard ← isWildcard propertyName
  let property ← stdString propertyName
  let objectName := if wildcard then trimWildcard property else trimProperty property
  match db.resolve objectName with
  | none => .ok (name, [])
  | some objectInfo =>
    if wildcard then .ok (name, objectInfo.properties)
    else .ok (name, [requestedProperty objectInfo property])

/-- A turn of the loop over the assignments. -/
def namedValue (objectInfo : DmProviderInfo) (targetName : Bytes) (nameVal : Bytes × Bytes) :
    DmNamedValue :=
  match objectInfo.property? nameVal.1 with
  | some info => { info, value := .string nameVal.2 }
  | none => { info := { fullName := targetName, isWritable := true }, value := .string nameVal.2 }

/-- The object a set addresses and the assignments. -/
def decodeAssignments (db : ModelDb) (targetName : Option Bytes) (value : Bytes) :
    Except Fault (Option DmProviderInfo × List (Bytes × Bytes)) := do
  let target ← stdString targetName
  match parseMultisetValue value with
  | some nameVals => .ok (db.resolve target, nameVals)
  | none =>
    let (objectInfo, _) ← getProviderByPropertyName db target false
    .ok (objectInfo, [(trimPropertyName target, value)])

/-- The provider's name and the values to set. -/
def decodeSetRequest (db : ModelDb) (req : CJson) : Except Fault (Bytes × List DmNamedValue) := do
  let name := providerField req
  let item ← paramsItem req
  let targetName := stringMember item (ascii "name")
  match stringMember item (ascii "value") with
  | none => .ok (name, [])
  | some [] => .ok (name, [])
  | some value =>
    let (objectInfo, nameVals) ← decodeAssignments db targetName value
    match objectInfo with
    | none => .ok (name, [])
    | some objectInfo =>
      .ok (name, nameVals.map (namedValue objectInfo (targetName.getD [])))

/-- What a request asks for. -/
inductive HostRequest where
  | get (providerName : Bytes) (params : List DmPropertyInfo)
  | set (providerName : Bytes) (params : List DmNamedValue)
  deriving DecidableEq

def decodeRequest (db : ModelDb) (req : CJson) : Except Fault HostRequest := do
  match ← decodeOperation req with
  | .get =>
    let (providerName, params) ← decodeGetRequest db req
    .ok (.get providerName params)
  | .set =>
    let (providerName, params) ← decodeSetRequest db req
    .ok (.set providerName params)

/-! Carrying a request out. -/

/-- The host after a request, the result and the calls made to its providers. -/
structure Handled (σ : Type) where
  host : DmProviderHost σ
  result : DmQueryResult := {}
  calls : List (Bytes × ProviderCall) := []

namespace DmProviderHost
variable {σ : Type}

/-- What `f` makes of the provider under the path and of the result, if there is one. -/
def withProvider (host : DmProviderHost σ) (path : Bytes) (result : DmQueryResult)
    (f : DmProvider σ → DmQueryResult → Provided σ) : Handled σ :=
  match h : host.providers path with
  | none => { host, result }
  | some p =>
    let s := f p result
    { host := host.setProvider path s.provider (host.resolves path (Option.isSome_of_eq_some h))
      result := s.result
      calls := s.calls.map fun c => (path, c) }

def doGet (host : DmProviderHost σ) (providerName : Bytes) (params : List DmPropertyInfo)
    (result : DmQueryResult) : Handled σ :=
  host.withProvider providerName result fun p => p.doGet params

def doSet (host : DmProviderHost σ) (providerName : Bytes) (params : List DmNamedValue)
    (result : DmQueryResult) : Handled σ :=
  host.withProvider providerName result fun p => p.doSet params

def perform (host : DmProviderHost σ) : HostRequest → Handled σ
  | .get providerName params => host.doGet providerName params {}
  | .set providerName params => host.doSet providerName params {}

/-- `requestHandler`, from the parsed message to the result. -/
def requestHandler (host : DmProviderHost σ) (req : CJson) : Except Fault (Handled σ) := do
  .ok (host.perform (← decodeRequest host.db req))

theorem mem_withProvider_calls {host : DmProviderHost σ} {path P : Bytes}
    {result : DmQueryResult} {f : DmProvider σ → DmQueryResult → Provided σ} {c : ProviderCall} :
    (P, c) ∈ (host.withProvider path result f).calls ↔
    P = path ∧ ∃ p, host.providers path = some p ∧ c ∈ (f p result).calls := by
  unfold withProvider
  split
  · next hnone => simp [hnone]
  · next p hsome =>
    simp only [List.mem_map, Prod.mk.injEq, hsome, Option.some.injEq, exists_eq_left']
    constructor
    · rintro ⟨c', hmem, rfl, rfl⟩
      exact ⟨rfl, hmem⟩
    · rintro ⟨rfl, hmem⟩
      exact ⟨c, hmem, rfl, rfl⟩

theorem withProvider_some {host : DmProviderHost σ} {path : Bytes} {result : DmQueryResult}
    {f : DmProvider σ → DmQueryResult → Provided σ} {p : DmProvider σ}
    (h : host.providers path = some p) :
    (host.withProvider path result f).result = (f p result).result ∧
    (host.withProvider path result f).calls = (f p result).calls.map fun c => (path, c) := by
  unfold withProvider
  split
  · next hnone => cases hnone.symm.trans h
  · next q hsome =>
    cases hsome.symm.trans h
    exact ⟨rfl, rfl⟩

end DmProviderHost

end RtMessage.DataProvider
