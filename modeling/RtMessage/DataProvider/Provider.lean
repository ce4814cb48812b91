import Mathlib.Logic.Function.Basic
import RtMessage.DataProvider.Database

/- `dmProvider`: the callbacks a provider registers for its properties, and the loops that
   answer a get and a set with them.

   `σ` is what the callbacks and the overridden functions of a provider read and write; they
   may also ask whether a transaction is going on. Every call of one of them is recorded. A
   map is the function of its lookups. -/
namespace RtMessage.DataProvider

/-- A single or a double is its bits. -/
inductive DmValue where
  | boolean (b : Bool)
  | string (s : Bytes)
  | int8 (n : Int8)
  | int16 (n : Int16)
  | int32 (n : Int32)
  | int64 (n : Int64)
  | uint8 (n : UInt8)
  | uint16 (n : UInt16)
  | uint32 (n : UInt32)
  | uint64 (n : UInt64)
  | single (bits : UInt32)
  | double (bits : UInt64)
  deriving DecidableEq

structure DmNamedValue where
  info : DmPropertyInfo
  value : DmValue
  deriving DecidableEq

def rtOk : Int := 0
def rtError : Int := 1
def rtPropNotFound : Int := 4

/-- `dmQueryResult::Param`. -/
structure Param where
  statusCode : Int := rtOk
  statusMessage : Bytes := []
  value : DmValue
  info : DmPropertyInfo
  deriving DecidableEq

structure DmQueryResult where
  status : Int := rtOk
  values : List Param := []
  statusMsg : Bytes := []
  objectName : Bytes := []
  deriving DecidableEq

def DmQueryResult.addValue (r : DmQueryResult) (p : Param) : DmQueryResult :=
  { r with values := r.values ++ [p] }

/-! The provider. -/

abbrev Getter (σ : Type) := Bool → σ → DmValue × σ
abbrev Setter (σ : Type) := Bool → DmValue → σ → σ

/-- A null function is `none`. -/
structure ProviderFunctions (σ : Type) where
  getter : Option (Getter σ)
  setter : Option (Setter σ)

structure DmProvider (σ : Type) where
  providerFunctions : Bytes → Option (ProviderFunctions σ) := fun _ => none
  isTransaction : Bool := false
  state : σ
  /-- what the single-property `doGet` appends to the result it is given -/
  doGetProperty : Bool → DmPropertyInfo → σ → DmQueryResult × σ := fun _ _ s => ({}, s)
  doSetProperty : Bool → DmPropertyInfo → DmValue → σ → DmQueryResult × σ := fun _ _ _ s => ({}, s)
  beginTransaction : Bool → σ → σ := fun _ s => s
  endTransaction : Bool → σ → σ := fun _ s => s

inductive ProviderCall where
  | getter (name : Bytes)
  | setter (name : Bytes) (value : DmValue)
  | doGet (info : DmPropertyInfo)
  | doSet (info : DmPropertyInfo) (value : DmValue)
  | beginTransaction
  | endTransaction
  deriving DecidableEq

namespace DmProvider
variable {σ : Type}

def onGet (p : DmProvider σ) (propertyName : Bytes) (func : Option (Getter σ)) : DmProvider σ :=
  let funcs : ProviderFunctions σ := match p.providerFunctions propertyName with
    | some funcs => { funcs with getter := func }
    | none => { getter := func, setter := none }
  { p with providerFunctions := Function.update p.providerFunctions propertyName (some funcs) }

def onSet (p : DmProvider σ) (propertyName : Bytes) (func : Option (Setter σ)) : DmProvider σ :=
  let funcs : ProviderFunctions σ := match p.providerFunctions propertyName with
    | some funcs => { funcs with setter := func }
    | none => { getter := none, setter := func }
  { p with providerFunctions := Function.update p.providerFunctions propertyName (some funcs) }

def getter? (p : DmProvider σ) (name : Bytes) : Option (Getter σ) :=
  (p.providerFunctions name).bind (·.getter)

def setter? (p : DmProvider σ) (name : Bytes) : Option (Setter σ) :=
  (p.providerFunctions name).bind (·.setter)

end DmProvider

/-- What a loop over the parameters has done so far. -/
structure Provided (σ : Type) where
  provider : DmProvider σ
  result : DmQueryResult
  calls : List ProviderCall := []

def notFound (info : DmPropertyInfo) : Param :=
  { value := .string [], statusCode := rtPropNotFound
    statusMessage := ascii "Property not found", info }

def notWritable (info : DmPropertyInfo) : Param :=
  { value := .string [], statusCode := rtError, statusMessage := ascii "Property not writable", info }

/-- The entry for what an overridden function reported. -/
def reported (info : DmPropertyInfo) (temp : DmQueryResult) : Param :=
  match temp.values with
  | [] => notFound info
  | v :: _ => if temp.status = rtPropNotFound then notFound info else { value := v.value, info }

namespace DmProvider
variable {σ : Type}

/-- A turn of the loop in `doGet`. -/
def doGetTurn (s : Provided σ) (propInfo : DmPropertyInfo) : Provided σ :=
  match s.provider.getter? propInfo.name with
  | some getter =>
    let (val, state) := getter s.provider.isTransaction s.provider.state
    { provider := { s.provider with state }
      result := s.result.addValue { value := val, info := propInfo }
      calls := s.calls ++ [.getter propInfo.name] }
  | none =>
    let (temp, state) := s.provider.doGetProperty s.provider.isTransaction propInfo s.provider.state
    { provider := { s.provider with state }
      result := s.result.addValue (reported propInfo temp)
      calls := s.calls ++ [.doGet propInfo] }

def doGet (p : DmProvider σ) (params : List DmPropertyInfo) (result : DmQueryResult) : Provided σ :=
  params.foldl doGetTurn { provider := p, result }

/-- A turn of the loop in `doSet`. -/
def doSetTurn (s : Provided σ) (value : DmNamedValue) : Provided σ :=
  if !value.info.isWritable then
    { s with result := s.result.addValue (notWritable value.info) }
  else
    match s.provider.setter? value.info.name with
    | some setter =>
      { provider := { s.provider with
          state := setter s.provider.isTransaction value.value s.provider.state }
        result := s.result.addValue { value := value.value, info := value.info }
        calls := s.calls ++ [.setter value.info.name value.value] }
    | none =>
      let (temp, state) :=
        s.provider.doSetProperty s.provider.isTransaction value.info value.value s.provider.state
      { provider := { s.provider with state }
        result := s.result.addValue (reported value.info temp)
        calls := s.calls ++ [.doSet value.info value.value] }

/-- `m_isTransaction = true; beginTransaction()`. -/
def openTransaction (s : Provided σ) : Provided σ :=
  { s with
    provider := { s.provider with
      isTransaction := true, state := s.provider.beginTransaction true s.provider.state }
    calls := s.calls ++ [.beginTransaction] }

/-- `endTransaction(); m_isTransaction = false`. -/
def closeTransaction (s : Provided σ) : Provided σ :=
  { s with
    provider := { s.provider with
      isTransaction := false
      state := s.provider.endTransaction s.provider.isTransaction s.provider.state }
    calls := s.calls ++ [.endTransaction] }

def doSet (p : DmProvider σ) (params : List DmNamedValue) (result : DmQueryResult) : Provided σ :=
  let s : Provided σ := { provider := p, result }
  if params.length > 1 then closeTransaction (params.foldl doSetTurn (openTransaction s))
  else params.foldl doSetTurn s

end DmProvider

/-! What a run of the loops calls. -/

section Calls
variable {σ : Type} (p : DmProvider σ)

/-- What is called for a property that is read. -/
def DmProvider.getCall (info : DmPropertyInfo) : ProviderCall :=
  match p.getter? info.name with
  | some _ => .getter info.name
  | none => .doGet info

/-- What is called for a writable property that is written. -/
def DmProvider.setCall (x : DmNamedValue) : ProviderCall :=
  match p.setter? x.info.name with
  | some _ => .setter x.info.name x.value
  | none => .doSet x.info x.value

variable {p}

theorem doGetTurn_calls {s : Provided σ} (h : s.provider.providerFunctions = p.providerFunctions)
    (info : DmPropertyInfo) :
    (DmProvider.doGetTurn s info).provider.providerFunctions = p.providerFunctions ∧
    (DmProvider.doGetTurn s info).calls = s.calls ++ [p.getCall info] := by
  have hget : s.provider.getter? info.name = p.getter? info.name := by
    rw [DmProvider.getter?, h, DmProvider.getter?]
  unfold DmProvider.doGetTurn DmProvider.getCall
  rw [hget]
  cases p.getter? info.name with
  | some getter => exact ⟨h, rfl⟩
  | none => exact ⟨h, rfl⟩

/-- A get calls for each parameter what is registered for it. -/
theorem doGetLoop_calls (params : List DmPropertyInfo) {s : Provided σ}
    (h : s.provider.providerFunctions = p.providerFunctions) :
    (params.foldl DmProvider.doGetTurn s).provider.providerFunctions = p.providerFunctions ∧
    (params.foldl DmProvider.doGetTurn s).calls = s.calls ++ params.map p.getCall := by
  induction params generalizing s with
  | nil => exact ⟨h, (List.append_nil _).symm⟩
  | cons info params ih =>
    obtain ⟨hfuns, hcalls⟩ := doGetTurn_calls h info
    obtain ⟨hfuns', hcalls'⟩ := ih hfuns
    refine ⟨hfuns', ?_⟩
    rw [List.foldl_cons, hcalls', hcalls]
    simp

theorem doSetTurn_calls {s : Provided σ} (h : s.provider.providerFunctions = p.providerFunctions)
    (x : DmNamedValue) :
    (DmProvider.doSetTurn s x).provider.providerFunctions = p.providerFunctions ∧
    (DmProvider.doSetTurn s x).calls =
      s.calls ++ if x.info.isWritable then [p.setCall x] else [] := by
  have hset : s.provider.setter? x.info.name = p.setter? x.info.name := by
    rw [DmProvider.setter?, h, DmProvider.setter?]
  unfold DmProvider.doSetTurn DmProvider.setCall
  rw [hset]
  cases x.info.isWritable with
  | false => exact ⟨h, (List.append_nil _).symm⟩
  | true =>
    cases p.setter? x.info.name with
    | some setter => exact ⟨h, rfl⟩
    | none => exact ⟨h, rfl⟩

theorem doSetLoop_calls (params : List DmNamedValue) {s : Provided σ}
    (h : s.provider.providerFunctions = p.providerFunctions) :
    (params.foldl DmProvider.doSetTurn s).provider.providerFunctions = p.providerFunctions ∧
    (params.foldl DmProvider.doSetTurn s).calls =
      s.calls ++ (params.filter (·.info.isWritable)).map p.setCall := by
  induction params generalizing s with
  | nil => exact ⟨h, (List.append_nil _).symm⟩
  | cons x params ih =>
    obtain ⟨hfuns, hcalls⟩ := doSetTurn_calls h x
    obtain ⟨hfuns', hcalls'⟩ := ih hfuns
    refine ⟨hfuns', ?_⟩
    rw [List.foldl_cons, hcalls', hcalls, List.filter_cons]
    split <;> simp

theorem getter_mem_doGet {params : List DmPropertyInfo} {result : DmQueryResult} {n : Bytes} :
    .getter n ∈ (p.doGet params result).calls ↔
    (p.getter? n).isSome ∧ ∃ info ∈ params, info.name = n := by
  have hcalls : (p.doGet params result).calls = params.map p.getCall :=
    (doGetLoop_calls params rfl).2
  rw [hcalls, List.mem_map]
  constructor
  · rintro ⟨info, hmem, hcall⟩
    unfold DmProvider.getCall at hcall
    split at hcall
    · next hget =>
      cases hcall
      exact ⟨Option.isSome_of_eq_some hget, info, hmem, rfl⟩
    · cases hcall
  · rintro ⟨hsome, info, hmem, rfl⟩
    obtain ⟨getter, hget⟩ := Option.isSome_iff_exists.mp hsome
    exact ⟨info, hmem, by rw [DmProvider.getCall, hget]⟩

theorem setter_not_mem_doGet {params : List DmPropertyInfo} {result : DmQueryResult} {n : Bytes}
    {v : DmValue} : .setter n v ∉ (p.doGet params result).calls := by
  have hcalls : (p.doGet params result).calls = params.map p.getCall :=
    (doGetLoop_calls params rfl).2
  rw [hcalls, List.mem_map]
  rintro ⟨info, _, hcall⟩
  unfold DmProvider.getCall at hcall
  split at hcall <;> cases hcall

/-- Around the loop of a set there are only the calls that open and close the transaction. -/
theorem mem_doSet_calls {params : List DmNamedValue} {result : DmQueryResult} {c : ProviderCall}
    (hbegin : c ≠ .beginTransaction) (hend : c ≠ .endTransaction) :
    c ∈ (p.doSet params result).calls ↔
    ∃ x ∈ params, x.info.isWritable = true ∧ p.setCall x = c := by
  have hfilter : c ∈ (params.filter (·.info.isWritable)).map p.setCall ↔
      ∃ x ∈ params, x.info.isWritable = true ∧ p.setCall x = c := by
    simp only [List.mem_map, List.mem_filter, and_assoc]
  unfold DmProvider.doSet
  split
  · have hloop := (doSetLoop_calls (p := p) params
      (s := DmProvider.openTransaction { provider := p, result }) rfl).2
    simp only [DmProvider.closeTransaction, hloop]
    simp only [DmProvider.openTransaction, List.mem_append, List.mem_singleton, List.nil_append]
    rw [hfilter]
    simp [hbegin, hend]
  · rw [(doSetLoop_calls (p := p) params rfl).2, List.nil_append, hfilter]

theorem setter_mem_doSet {params : List DmNamedValue} {result : DmQueryResult} {n : Bytes}
    {v : DmValue} : .setter n v ∈ (p.doSet params result).calls ↔
    (p.setter? n).isSome ∧
      ∃ x ∈ params, x.info.isWritable = true ∧ x.info.name = n ∧ x.value = v := by
  rw [mem_doSet_calls (by simp) (by simp)]
  constructor
  · rintro ⟨x, hmem, hwritable, hcall⟩
    unfold DmProvider.setCall at hcall
    split at hcall
    · next hset =>
      cases hcall
      exact ⟨Option.isSome_of_eq_some hset, x, hmem, hwritable, rfl, rfl⟩
    · cases hcall
  · rintro ⟨hsome, x, hmem, hwritable, rfl, rfl⟩
    obtain ⟨setter, hset⟩ := Option.isSome_iff_exists.mp hsome
    exact ⟨x, hmem, hwritable, by rw [DmProvider.setCall, hset]⟩

theorem getter_not_mem_doSet {params : List DmNamedValue} {result : DmQueryResult} {n : Bytes} :
    .getter n ∉ (p.doSet params result).calls := by
  rw [mem_doSet_calls (by simp) (by simp)]
  rintro ⟨x, _, _, hcall⟩
  unfold DmProvider.setCall at hcall
  split at hcall <;> cases hcall

end Calls

end RtMessage.DataProvider
