import Mathlib.Data.List.Forall2
import Mathlib.Data.List.Induction
import RtMessage.Lib.Decimal
import RtMessage.DataProvider.Query
import RtMessage.DataProvider.AccessControl

/- A query result on its way to the client: `encodeResult` at the host, and what `makeRequest`
   makes of the response.

   How the C++ library prints a `float` or a `double` is a function of a `FloatText`. -/
namespace RtMessage.DataProvider

/-! The text of a value. -/

structure FloatText where
  single : UInt32 → Bytes
  double : UInt64 → Bytes

def decimal (n : Int) : Bytes := ascii (toString n)

theorem decimal_ofNat (n : Nat) : decimal n = Lib.digits n := by
  change ascii (toString n) = _
  rw [ascii, Nat.toString_eq_ofList_toDigits, String.toList_ofList]
  rfl

/-- An integer of 8 bits is a character to the stream. -/
def DmValue.toString (F : FloatText) : DmValue → Bytes
  | .boolean b => if b then ascii "true" else ascii "false"
  | .string s => s
  | .int8 n => [n.toUInt8]
  | .int16 n => decimal n.toInt
  | .int32 n => decimal n.toInt
  | .int64 n => decimal n.toInt
  | .uint8 n => [n]
  | .uint16 n => decimal n.toNat
  | .uint32 n => decimal n.toNat
  | .uint64 n => decimal n.toNat
  | .single bits => F.single bits
  | .double bits => F.double bits

/-! The host's side. -/

/-- The message for one entry. -/
def encodeParam (F : FloatText) (param : Param) : CJson :=
  let p := rtMessageSetString rtMessageCreate (ascii "name") (cstr param.info.fullName)
  let p := rtMessageSetString p (ascii "value") (cstr (param.value.toString F))
  let p := rtMessageSetInt32 p (ascii "status") param.statusCode
  rtMessageSetString p (ascii "status_msg") (cstr param.statusMessage)

def addParam (F : FloatText) (msg : CJson) (param : Param) : CJson :=
  rtMessageAddMessage msg (ascii "params") (encodeParam F param)

def encodeResult (F : FloatText) (res : CJson) (result : DmQueryResult) : CJson :=
  let msg := result.values.foldl (addParam F) rtMessageCreate
  let msg := rtMessageSetInt32 msg (ascii "status") result.status
  let msg := rtMessageSetString msg (ascii "status_msg") (cstr result.statusMsg)
  rtMessageAddMessage res (ascii "result") msg

/-! The client's side. -/

def rtMessageGetArrayLength (m : CJson) (name : Bytes) : Nat :=
  match cJSONGetObjectItem m name with
  | none => 0
  | some obj => (CJson.children obj).length

/-- No message is got if the result is not `RT_OK`. -/
def rtMessageGetMessageItem (m : CJson) (name : Bytes) (idx : Nat) : Option CJson :=
  match cJSONGetObjectItem m name with
  | none => none
  | some obj => (CJson.children obj)[idx]?

/-- A turn of a loop over the items of an array. -/
def overItems {α : Type} (m : CJson) (name : Bytes) (f : α → CJson → α) (a : α) : α :=
  (List.range (rtMessageGetArrayLength m name)).foldl
    (fun a idx => (rtMessageGetMessageItem m name idx).elim a (f a)) a

/-- The property a response names, as the object has it; one that the object does not have
    is known by what the response says. -/
def receivedInfo (providerInfo : DmProviderInfo) (param : Bytes) : DmPropertyInfo :=
  let info := providerInfo.getPropertyInfo (some param)
  if info.fullName = [] then { info with name := trimPropertyName param, fullName := param } else info

/-- An item of `params`; without a name or a value it adds nothing. -/
def receiveParam (providerInfo : DmProviderInfo) (results : DmQueryResult) (p : CJson) :
    DmQueryResult :=
  let status := (rtMessageGetInt32 p (ascii "status")).getD 0
  let statusMsg := (stringMember p (ascii "status_msg")).getD []
  match stringMember p (ascii "name"), stringMember p (ascii "value") with
  | some param, some value =>
    results.addValue
      { statusCode := status, statusMessage := statusMsg, value := .string value
        info := receivedInfo providerInfo param }
  | _, _ => results

/-- An item of `result`. -/
def receiveItem (providerInfo : DmProviderInfo) (results : DmQueryResult) (item : CJson) :
    DmQueryResult :=
  let status := (rtMessageGetInt32 item (ascii "status")).getD 0
  let results := if status ≠ 0 then { results with status } else results
  let results := match stringMember item (ascii "status_msg") with
    | some statusMsg => { results with statusMsg }
    | none => results
  overItems item (ascii "params") (receiveParam providerInfo) results

/-- What a query has after its response. -/
def receiveResponse (providerInfo : DmProviderInfo) (instanceName : Bytes) (res : CJson) :
    DmQueryResult :=
  { overItems res (ascii "result") (receiveItem providerInfo) {} with objectName := instanceName }

/-! Arrays in a message. -/

section Arrays
variable {α β : Type}

theorem foldl_range_getElem (f : α → β → α) (items : List β) (a : α) :
    (List.range items.length).foldl (fun a idx => items[idx]?.elim a (f a)) a =
      items.foldl f a := by
  induction items using List.reverseRecOn with
  | nil => rfl
  | append_singleton items item ih =>
    have hfront : ∀ b, ∀ idx ∈ List.range items.length,
        (items ++ [item])[idx]?.elim b (f b) = items[idx]?.elim b (f b) := by
      intro b idx hidx
      rw [List.getElem?_append_left (List.mem_range.mp hidx)]
    rw [List.length_append, List.length_singleton, List.range_succ, List.foldl_append,
      List.foldl_append, ← ih, List.foldl_ext _ _ a hfront]
    simp

theorem overItems_array {m : CJson} {name : Bytes} {items : List CJson}
    (h : cJSONGetObjectItem m name = some (.array items)) (f : α → CJson → α) (a : α) :
    overItems m name f a = items.foldl f a := by
  simp only [overItems, rtMessageGetArrayLength, rtMessageGetMessageItem, h, CJson.children]
  exact foldl_range_getElem f items a

theorem overItems_none {m : CJson} {name : Bytes} (h : cJSONGetObjectItem m name = none)
    (f : α → CJson → α) (a : α) : overItems m name f a = a := by
  simp only [overItems, rtMessageGetArrayLength, h]
  rfl

end Arrays

/-! The message of a result. -/

section Encoding
variable (F : FloatText)

/-- The member under which the entries are, if there are any. -/
def paramsMember : List CJson → List (Bytes × CJson)
  | [] => []
  | items => [(ascii "params", .array items)]

theorem addParam_members (items : List CJson) (param : Param) :
    addParam F (.object (paramsMember items)) param =
      .object (paramsMember (items ++ [encodeParam F param])) := by
  cases items with
  | nil => rfl
  | cons item items => rfl

theorem addParams_members (values : List Param) (items : List CJson) :
    values.foldl (addParam F) (.object (paramsMember items)) =
      .object (paramsMember (items ++ values.map (encodeParam F))) := by
  induction values generalizing items with
  | nil => simp
  | cons param values ih =>
    rw [List.foldl_cons, addParam_members, ih]
    simp

/-- The item of `result`. -/
def resultItem (result : DmQueryResult) : CJson :=
  .object (paramsMember (result.values.map (encodeParam F)) ++
    [(ascii "status", .number result.status), (ascii "status_msg", .string (cstr result.statusMsg))])

theorem encodeResult_eq (result : DmQueryResult) :
    encodeResult F rtMessageCreate result = .object [(ascii "result", .array [resultItem F result])] := by
  have hparams := addParams_members F result.values []
  simp only [paramsMember, List.nil_append] at hparams
  rw [encodeResult, rtMessageCreate, hparams, resultItem]
  simp only [rtMessageSetInt32, rtMessageSetString, cJSONAddItemToObject, List.append_assoc]
  rfl

end Encoding

/-! What comes back. -/

def IsInt32 (v : Int) : Prop := -2^31 ≤ v ∧ v < 2^31

instance (v : Int) : Decidable (IsInt32 v) := inferInstanceAs (Decidable (_ ∧ _))

/-- What cJSON keeps: strings without a NUL, numbers of 32 bits, arrays and objects. -/
inductive Portable : CJson → Prop where
  | number {v : Int} (h : IsInt32 v) : Portable (.number v)
  | string {s : Bytes} (h : 0 ∉ s) : Portable (.string s)
  | array {items : List CJson} (h : ∀ item ∈ items, Portable item) : Portable (.array items)
  | object {members : List (Bytes × CJson)} (hnames : ∀ m ∈ members, 0 ∉ m.1)
      (h : ∀ m ∈ members, Portable m.2) : Portable (.object members)

/-- The message is printed and parsed without loss. -/
def Keeps (J : CJsonLib) (m : CJson) : Prop :=
  Portable m → rtMessageFromBytes J (rtMessageToByteArray J m) = some m

structure Param.Portable (F : FloatText) (param : Param) : Prop where
  status : IsInt32 param.statusCode
  statusMessage : 0 ∉ param.statusMessage
  text : 0 ∉ param.value.toString F
  fullName : 0 ∉ param.info.fullName

structure DmQueryResult.Portable (F : FloatText) (result : DmQueryResult) : Prop where
  status : IsInt32 result.status
  statusMsg : 0 ∉ result.statusMsg
  values : ∀ param ∈ result.values, param.Portable F

/-- An entry of the object's properties that has a name in the model file. -/
def DmProviderInfo.Declares (o : DmProviderInfo) (info : DmPropertyInfo) : Prop :=
  info ∈ o.properties ∧ info.fullName = o.objectName ++ dot :: info.name

/-- The full names are as `makeProviderInfo` makes them. -/
def DmProviderInfo.Loaded (o : DmProviderInfo) : Prop :=
  ∀ p ∈ o.properties, p.fullName = o.objectName ++ dot :: p.name ∨ p.name = [] ∧ p.fullName = []

/-- The entry as the client has it. -/
structure SameEntry (F : FloatText) (o : DmProviderInfo) (sent received : Param) : Prop where
  text : received.value.toString F = sent.value.toString F
  status : received.statusCode = sent.statusCode
  statusMessage : received.statusMessage = sent.statusMessage
  fullName : o.Declares sent.info → received.info.fullName = sent.info.fullName
  name : o.Declares sent.info → received.info.name = sent.info.name

section Loaded
variable {α β : Type}

theorem mapM_mem {f : α → Except Fault β} {xs : List α} {ys : List β} (h : xs.mapM f = .ok ys)
    {y : β} (hy : y ∈ ys) : ∃ x ∈ xs, f x = .ok y := by
  induction xs generalizing ys with
  | nil =>
    cases h
    cases hy
  | cons x xs ih =>
    rw [List.mapM_cons] at h
    obtain ⟨z, hz, h⟩ := bind_eq_ok.mp h
    obtain ⟨zs, hzs, h⟩ := bind_eq_ok.mp h
    cases h
    cases List.mem_cons.mp hy with
    | inl heq => exact ⟨x, List.mem_cons_self, heq ▸ hz⟩
    | inr hmem =>
      obtain ⟨w, hw, hwy⟩ := ih hzs hmem
      exact ⟨w, List.mem_cons_of_mem x hw, hwy⟩

theorem makePropertyInfo_fullName {objectName : Bytes} {props : CJson}
    {p : {p : DmPropertyInfo // p.name ≠ [] → p.fullName = objectName ++ dot :: p.name}}
    (h : makePropertyInfo objectName props = .ok p) :
    p.1.fullName = objectName ++ dot :: p.1.name ∨ p.1.name = [] ∧ p.1.fullName = [] := by
  rw [makePropertyInfo] at h
  obtain ⟨name, _, h⟩ := bind_eq_ok.mp h
  obtain ⟨type, _, h⟩ := bind_eq_ok.mp h
  cases name with
  | none =>
    cases h
    exact .inr ⟨rfl, rfl⟩
  | some name =>
    cases h
    exact .inl rfl

theorem makeProviderInfo_loaded {J : CJsonLib} {s : Bytes} {o : DmProviderInfo}
    (h : makeProviderInfo J s = .ok (some o)) : o.Loaded := by
  rw [makeProviderInfo] at h
  split at h
  · cases h
  · obtain ⟨objectName, _, h⟩ := bind_eq_ok.mp h
    obtain ⟨providerName, _, h⟩ := bind_eq_ok.mp h
    obtain ⟨properties, hproperties, h⟩ := bind_eq_ok.mp h
    cases h
    intro p hp
    obtain ⟨q, hq, rfl⟩ := List.mem_map.mp hp
    obtain ⟨props, _, hprops⟩ := mapM_mem hproperties hq
    exact makePropertyInfo_fullName hprops

end Loaded

section Received
variable {F : FloatText} {o : DmProviderInfo}

theorem portable_object {members : List (Bytes × CJson)}
    (h : ∀ m ∈ members, 0 ∉ m.1 ∧ Portable m.2) : Portable (.object members) :=
  .object (fun m hm => (h m hm).1) (fun m hm => (h m hm).2)

theorem encodeParam_portable {param : Param} (h : param.Portable F) :
    Portable (encodeParam F param) := by
  apply portable_object
  intro m hm
  simp only [List.nil_append, List.cons_append, List.mem_cons, List.not_mem_nil, or_false] at hm
  obtain rfl | rfl | rfl | rfl := hm
  · exact ⟨(by decide : 0 ∉ ascii "name"), .string (zero_not_mem_cstr _)⟩
  · exact ⟨(by decide : 0 ∉ ascii "value"), .string (zero_not_mem_cstr _)⟩
  · exact ⟨(by decide : 0 ∉ ascii "status"), .number h.status⟩
  · exact ⟨(by decide : 0 ∉ ascii "status_msg"), .string (zero_not_mem_cstr _)⟩

theorem paramsMember_portable {items : List CJson} (h : ∀ item ∈ items, Portable item) :
    ∀ m ∈ paramsMember items, 0 ∉ m.1 ∧ Portable m.2 := by
  intro m hm
  cases items with
  | nil => cases hm
  | cons item items =>
    rw [List.mem_singleton.mp hm]
    exact ⟨(by decide : 0 ∉ ascii "params"), .array h⟩

theorem encodeResult_portable {result : DmQueryResult} (h : result.Portable F) :
    Portable (encodeResult F rtMessageCreate result) := by
  have hitem : Portable (resultItem F result) := by
    apply portable_object
    intro m hm
    cases List.mem_append.mp hm with
    | inl hparams =>
      refine paramsMember_portable ?_ m hparams
      intro item hitem
      obtain ⟨param, hparam, rfl⟩ := List.mem_map.mp hitem
      exact encodeParam_portable (h.values param hparam)
    | inr hstatus =>
      simp only [List.mem_cons, List.not_mem_nil, or_false] at hstatus
      obtain rfl | rfl := hstatus
      · exact ⟨(by decide : 0 ∉ ascii "status"), .number h.status⟩
      · exact ⟨(by decide : 0 ∉ ascii "status_msg"), .string (zero_not_mem_cstr _)⟩
  rw [encodeResult_eq]
  apply portable_object
  intro m hm
  rw [List.mem_singleton.mp hm]
  refine ⟨(by decide : 0 ∉ ascii "result"), .array ?_⟩
  intro item hmem
  rw [List.mem_singleton.mp hmem]
  exact hitem

/-- The object that sent the property has it under the name in its full name. -/
theorem receivedInfo_declared (hloaded : o.Loaded) {info : DmPropertyInfo}
    (h : o.Declares info) (hdot : dot ∉ info.name) :
    (receivedInfo o info.fullName).fullName = info.fullName ∧
    (receivedInfo o info.fullName).name = info.name := by
  obtain ⟨hmem, hfull⟩ := h
  have hlast : trimPropertyName info.fullName = info.name := by
    rw [hfull, trimPropertyName_append _ hdot]
  obtain ⟨q, hq⟩ := o.exists_property hmem
  have hname : q.name = info.name := o.property_name hq
  have hget : o.getPropertyInfo (some info.fullName) = q := by
    rw [DmProviderInfo.getPropertyInfo, hlast, hq, Option.getD_some]
  unfold receivedInfo
  simp only [hget, hlast]
  split
  · exact ⟨rfl, rfl⟩
  · next hne =>
    refine ⟨?_, hname⟩
    cases hloaded q (o.property_mem hq) with
    | inl hmade => rw [hmade, hfull, hname]
    | inr hempty => exact absurd hempty.2 hne

theorem receiveParam_encodeParam (hloaded : o.Loaded) (hdots : ∀ p ∈ o.properties, dot ∉ p.name)
    {param : Param} (h : param.Portable F) (results : DmQueryResult) :
    ∃ received, receiveParam o results (encodeParam F param) = results.addValue received ∧
      SameEntry F o param received := by
  have hname : cstr param.info.fullName = param.info.fullName := cstr_of_not_mem h.fullName
  refine ⟨_, rfl, cstr_of_not_mem h.text, rfl, cstr_of_not_mem h.statusMessage, ?_, ?_⟩
  · intro hdeclared
    rw [hname]
    exact (receivedInfo_declared hloaded hdeclared (hdots _ hdeclared.1)).1
  · intro hdeclared
    rw [hname]
    exact (receivedInfo_declared hloaded hdeclared (hdots _ hdeclared.1)).2

theorem receiveParams (hloaded : o.Loaded) (hdots : ∀ p ∈ o.properties, dot ∉ p.name)
    (values : List Param) (h : ∀ param ∈ values, param.Portable F) (results : DmQueryResult) :
    ∃ received, (values.map (encodeParam F)).foldl (receiveParam o) results =
        { results with values := results.values ++ received } ∧
      List.Forall₂ (SameEntry F o) values received := by
  induction values generalizing results with
  | nil => exact ⟨[], by simp, .nil⟩
  | cons param values ih =>
    obtain ⟨entry, hentry, hsame⟩ :=
      receiveParam_encodeParam hloaded hdots (h param List.mem_cons_self) results
    obtain ⟨received, hreceived, hrest⟩ :=
      ih (fun p hp => h p (List.mem_cons_of_mem param hp)) (results.addValue entry)
    refine ⟨entry :: received, ?_, .cons hsame hrest⟩
    rw [List.map_cons, List.foldl_cons, hentry, hreceived]
    simp [DmQueryResult.addValue]

/-- The item of `result` gives the status, the message and the entries. -/
theorem receiveItem_resultItem (hloaded : o.Loaded) (hdots : ∀ p ∈ o.properties, dot ∉ p.name)
    {result : DmQueryResult} (h : result.Portable F) :
    ∃ received, receiveItem o {} (resultItem F result) =
        { status := result.status, values := received, statusMsg := result.statusMsg } ∧
      List.Forall₂ (SameEntry F o) result.values received := by
  have hmembers : rtMessageGetInt32 (resultItem F result) (ascii "status") = some result.status ∧
      stringMember (resultItem F result) (ascii "status_msg") = some result.statusMsg := by
    unfold resultItem
    rw [cstr_of_not_mem h.statusMsg]
    cases result.values.map (encodeParam F) with
    | nil => exact ⟨rfl, rfl⟩
    | cons item items => exact ⟨rfl, rfl⟩
  have hstatus : (if result.status ≠ 0 then { status := result.status } else {} : DmQueryResult) =
      { status := result.status } := by
    split
    · rfl
    · next hzero =>
      rw [not_not.mp hzero]
      rfl
  unfold receiveItem
  simp only [hmembers.1, hmembers.2, Option.getD_some]
  rw [hstatus]
  obtain ⟨received, hreceived, hsame⟩ := receiveParams hloaded hdots result.values h.values
    { status := result.status, statusMsg := result.statusMsg }
  refine ⟨received, ?_, hsame⟩
  have hitems : overItems (resultItem F result) (ascii "params") (receiveParam o)
      { status := result.status, statusMsg := result.statusMsg } =
      (result.values.map (encodeParam F)).foldl (receiveParam o)
        { status := result.status, statusMsg := result.statusMsg } := by
    unfold resultItem
    cases result.values.map (encodeParam F) with
    | nil => exact overItems_none rfl _ _
    | cons item items => exact overItems_array rfl _ _
  rw [hitems, hreceived, List.nil_append]

/-- A result that is encoded, sent and decoded against the object it is about has the status,
    the message and the entries that it had. -/
theorem result_survives (J : CJsonLib) (hloaded : o.Loaded)
    (hdots : ∀ p ∈ o.properties, dot ∉ p.name) {result : DmQueryResult} (h : result.Portable F)
    (hkeeps : Keeps J (encodeResult F rtMessageCreate result)) (instanceName : Bytes) :
    ∃ m, rtMessageFromBytes J
        (rtMessageToByteArray J (encodeResult F rtMessageCreate result)) = some m ∧
      (receiveResponse o instanceName m).status = result.status ∧
      (receiveResponse o instanceName m).statusMsg = result.statusMsg ∧
      List.Forall₂ (SameEntry F o) result.values (receiveResponse o instanceName m).values := by
  obtain ⟨received, hreceived, hsame⟩ := receiveItem_resultItem hloaded hdots h
  have hitems : overItems (encodeResult F rtMessageCreate result) (ascii "result") (receiveItem o) {} =
      { status := result.status, values := received, statusMsg := result.statusMsg } := by
    rw [encodeResult_eq, overItems_array rfl, List.foldl_cons, List.foldl_nil, hreceived]
  refine ⟨_, hkeeps (encodeResult_portable h), ?_⟩
  rw [receiveResponse, hitems]
  exact ⟨rfl, rfl, hsame⟩

end Received

/-! A value and an error on their way. -/

def relayResult : DmQueryResult where
  values := [{ value := .int32 7, info := { name := ascii "X", isWritable := true,
                                            fullName := ascii "B.X" } },
    notFound { fullName := ascii "B.Y" }]

/-- The text of `relayResult` on the wire. -/
def relayText : Bytes := ascii ("\x7b\"result\":[\x7b\"params\":[" ++
  "\x7b\"name\":\"B.X\",\"value\":\"7\",\"status\":0,\"status_msg\":\"\"\x7d," ++
  "\x7b\"name\":\"B.Y\",\"value\":\"\",\"status\":4,\"status_msg\":\"Property not found\"\x7d]," ++
  "\"status\":0,\"status_msg\":\"\"\x7d]\x7d")

theorem ascii_append (s t : String) : ascii (s ++ t) = ascii s ++ ascii t := by simp [ascii]

-- Piece by piece, since the kernel takes a literal apart in quadratic time.
theorem zero_not_mem_relayText : 0 ∉ relayText := by
  simp only [relayText, ascii_append, List.mem_append, not_or]
  refine ⟨⟨⟨?_, ?_⟩, ?_⟩, ?_⟩ <;> decide +kernel

def noFloats : FloatText := ⟨fun _ => [], fun _ => []⟩

/-- A library that prints and parses that text. -/
def relayLib : CJsonLib where
  parse text := if text = relayText then some (encodeResult noFloats rtMessageCreate relayResult) else none
  print _ := relayText

theorem result_survives_example :
    ∃ m, rtMessageFromBytes relayLib
        (rtMessageToByteArray relayLib (encodeResult noFloats rtMessageCreate relayResult)) = some m ∧
      (receiveResponse relayInfo (ascii "B") m).status = relayResult.status ∧
      (receiveResponse relayInfo (ascii "B") m).statusMsg = relayResult.statusMsg ∧
      List.Forall₂ (SameEntry noFloats relayInfo) relayResult.values
        (receiveResponse relayInfo (ascii "B") m).values := by
  have hloaded : relayInfo.Loaded := by
    intro p hp
    rw [List.mem_singleton.mp hp]
    exact .inl rfl
  have hportable : relayResult.Portable noFloats := by
    refine ⟨by decide, by decide, ?_⟩
    intro param hparam
    simp only [relayResult, List.mem_cons, List.not_mem_nil, or_false] at hparam
    obtain rfl | rfl := hparam
    · exact ⟨by decide, by decide, by decide, by decide⟩
    · exact ⟨by decide, by decide, by decide, by decide⟩
  have hkeeps : Keeps relayLib (encodeResult noFloats rtMessageCreate relayResult) := by
    intro _
    have htext : cstr (cstr relayText) = relayText := by
      rw [cstr_of_not_mem (zero_not_mem_cstr _), cstr_of_not_mem zero_not_mem_relayText]
    rw [rtMessageFromBytes, rtMessageToByteArray]
    simp only [relayLib, htext, if_true]
  exact result_survives relayLib hloaded (by decide) hportable hkeeps (ascii "B")

end RtMessage.DataProvider
