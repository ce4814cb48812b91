import Mathlib.Data.List.Induction
import RtMessage.Json
import RtMessage.Lib.Run

/- The fields of a message as a store.

   A caller thinks of a message as a map from names to values: what was set last under
   a name is what a getter gives (`lastSet`). The message is a list of members to
   which every setter adds one at the end, and a getter takes the first member whose
   name matches without regard to case (`firstMatch`). The two agree on a name
   exactly when that first member reads like the last value set, and
   `rtMessage_SetSendTopic` is only safe on a message that has no topic yet.

   1. What a history of set calls leaves in the message (`setCalls_eq_ok`).
   2. What the getters read there (`getObjectItem_stored`).
   3. When the two notions agree (`storeLaw_iff`). -/
namespace RtMessage

inductive FieldValue where
  | string (value : Bytes)
  | int32 (value : Int)
  | message (item : CJson)

/-- The item a setter makes of the value. -/
def FieldValue.item : FieldValue → CJson
  | .string value => .string value
  | .int32 value => .number value
  | .message item => item

inductive SetCall where
  | setString (name value : Bytes)
  | setInt32 (name : Bytes) (value : Int)
  /-- The item is `none` for a message without JSON, which sets nothing. -/
  | setMessage (name : Bytes) (item : Option CJson)
  | setSendTopic (topic : Bytes)

/-- The name and the value a call sets. -/
def SetCall.field : SetCall → Option (Bytes × FieldValue)
  | .setString name value => some (name, .string value)
  | .setInt32 name value => some (name, .int32 value)
  | .setMessage name item => item.map fun j => (name, .message j)
  | .setSendTopic topic => some (sendTopicName, .string topic)

def setCall (m : CJson) : SetCall → Except Fault CJson
  | .setString name value => .ok (rtMessageSetString m name value)
  | .setInt32 name value => .ok (rtMessageSetInt32 m name value)
  | .setMessage _ none => .ok m
  | .setMessage name (some item) => .ok (rtMessageSetMessage m name item)
  | .setSendTopic topic => rtMessageSetSendTopic m topic

/-- The calls of a history, one after the other, on a new message. -/
def setCalls (h : List SetCall) : Except Fault CJson := h.foldlM setCall rtMessageCreate

/-- What a history sets, in order. -/
def fieldsSet (h : List SetCall) : List (Bytes × FieldValue) := h.filterMap SetCall.field

/-! What a message is for: a map from names to the values set last. -/

/-- The value set last under exactly this name. -/
def lastSet (h : List SetCall) (name : Bytes) : Option FieldValue :=
  ((fieldsSet h).reverse.find? fun f => f.1 == name).map (·.2)

/-- The getter of the value's type returns `RT_OK` with the value. -/
def Gives (m : CJson) (name : Bytes) : FieldValue → Prop
  | .string value => rtMessageGetString m name = some (some value)
  | .int32 value => rtMessageGetInt32 m name = some value
  | .message item => rtMessageGetMessage m name = some item

/-- Every getter returns `RT_FAIL`. -/
def GivesNothing (m : CJson) (name : Bytes) : Prop :=
  rtMessageGetString m name = none ∧ rtMessageGetInt32 m name = none ∧
    rtMessageGetMessage m name = none

/-- The calls of the history return, and the name reads as it was last set. -/
def StoreLaw (h : List SetCall) (name : Bytes) : Prop :=
  ∃ m, setCalls h = .ok m ∧
    match lastSet h name with
    | some value => Gives m name value
    | none => GivesNothing m name

/-! When the message is that map. -/

/-- The value set first under a name that is this one but for the case of its letters. -/
def firstMatch (h : List SetCall) (name : Bytes) : Option FieldValue :=
  ((fieldsSet h).find? fun f => strcaseEq f.1 name).map (·.2)

/-- The getter of the second value's type cannot tell the first from it. -/
def FieldValue.ReadsAs (w : FieldValue) : FieldValue → Prop
  | .string value => w.item.valuestring = some value
  | .int32 value => w.item.valueint = value
  | .message item => w.item = item

/-- The call is no `rtMessage_SetSendTopic` where a topic is set already. -/
def TopicFree (h : List SetCall) : SetCall → Prop
  | .setSendTopic _ => firstMatch h sendTopicName = none
  | _ => True

def TopicsFree (h : List SetCall) : Prop := Lib.AllowedAfter TopicFree h

/-- The first value that was set under the name, but for case, reads like the last one. -/
def FirstReadsAsLast (h : List SetCall) (name : Bytes) : Prop :=
  match lastSet h name with
  | some value => ∃ w, firstMatch h name = some w ∧ w.ReadsAs value
  | none => firstMatch h name = none

/-! What a history leaves in the message. -/

/-- The message with these fields as its members. -/
def stored (h : List SetCall) : CJson :=
  .object ((fieldsSet h).map fun f => (f.1, f.2.item))

@[simp] theorem fieldsSet_append (h h' : List SetCall) :
    fieldsSet (h ++ h') = fieldsSet h ++ fieldsSet h' :=
  List.filterMap_append

theorem fieldsSet_singleton (c : SetCall) : fieldsSet [c] = c.field.toList := by
  cases hc : c.field <;> simp [fieldsSet, hc]

theorem getObjectItem_stored (h : List SetCall) (name : Bytes) :
    cJSONGetObjectItem (stored h) name = (firstMatch h name).map FieldValue.item := by
  simp only [stored, cJSONGetObjectItem, firstMatch, List.find?_map, Option.map_map]
  rfl

theorem addItemToObject_stored (h : List SetCall) {c : SetCall} {name : Bytes} {v : FieldValue}
    (hc : c.field = some (name, v)) :
    cJSONAddItemToObject (stored h) name v.item = stored (h ++ [c]) := by
  have hone : fieldsSet [c] = [(name, v)] := by rw [fieldsSet_singleton, hc]; rfl
  simp only [stored, cJSONAddItemToObject, fieldsSet_append, hone, List.map_append,
    List.map_cons, List.map_nil]

/-- One call: it returns unless it sets a topic again, and adds what it sets. -/
theorem setCall_eq_ok {h : List SetCall} {c : SetCall} {m : CJson} :
    setCall (stored h) c = .ok m ↔ TopicFree h c ∧ m = stored (h ++ [c]) := by
  have hadd : ∀ name v, c.field = some (name, v) →
      ((.ok (cJSONAddItemToObject (stored h) name v.item) : Except Fault CJson) = .ok m ↔
        True ∧ m = stored (h ++ [c])) := by
    intro name v hc
    rw [addItemToObject_stored h hc]
    exact ⟨fun e => ⟨trivial, (Except.ok.inj e).symm⟩, fun e => congrArg _ e.2.symm⟩
  cases c with
  | setString name value => exact hadd name (.string value) rfl
  | setInt32 name value => exact hadd name (.int32 value) rfl
  | setMessage name item =>
    cases item with
    | some j => exact hadd name (.message j) rfl
    | none =>
      have hsame : stored (h ++ [.setMessage name none]) = stored h := by
        simp [stored, fieldsSet_singleton, SetCall.field]
      rw [hsame]
      exact ⟨fun e => ⟨trivial, (Except.ok.inj e).symm⟩, fun e => congrArg _ e.2.symm⟩
  | setSendTopic topic =>
    have hitem := getObjectItem_stored h sendTopicName
    show rtMessageSetSendTopic (stored h) topic = .ok m ↔ firstMatch h sendTopicName = none ∧ _
    unfold rtMessageSetSendTopic
    rw [hitem]
    cases firstMatch h sendTopicName with
    | some w => exact ⟨fun e => (by cases e), fun e => (by cases e.1)⟩
    | none => exact (hadd sendTopicName (.string topic) rfl).trans (by simp)

/-- A history returns exactly when no topic is set twice, and leaves what it sets. -/
theorem setCalls_eq_ok {h : List SetCall} {m : CJson} :
    setCalls h = .ok m ↔ TopicsFree h ∧ m = stored h := by
  induction h using List.reverseRecOn generalizing m with
  | nil =>
    show Except.ok rtMessageCreate = .ok m ↔ _
    exact ⟨fun e => ⟨Lib.allowedAfter_nil, (Except.ok.inj e).symm⟩, fun e => congrArg _ e.2.symm⟩
  | append_singleton h c ih =>
    have hlast : setCalls (h ++ [c]) = setCalls h >>= fun m => setCall m c := by
      simp only [setCalls, List.foldlM_append, List.foldlM_cons, List.foldlM_nil]
      exact bind_congr fun m => bind_pure _
    rw [hlast, bind_eq_ok, TopicsFree, Lib.allowedAfter_append, ← TopicsFree]
    constructor
    · rintro ⟨m', hm', hc⟩
      obtain ⟨hfree, rfl⟩ := ih.mp hm'
      obtain ⟨hfreec, hm⟩ := setCall_eq_ok.mp hc
      exact ⟨⟨hfree, hfreec⟩, hm⟩
    · rintro ⟨⟨hfree, hfreec⟩, hm⟩
      exact ⟨stored h, ih.mpr ⟨hfree, rfl⟩, setCall_eq_ok.mpr ⟨hfreec, hm⟩⟩

/-! What the getters read. -/

theorem gives_stored_iff {h : List SetCall} {name : Bytes} {v : FieldValue} :
    Gives (stored h) name v ↔ ∃ w, firstMatch h name = some w ∧ w.ReadsAs v := by
  cases v with
  | _ =>
    simp only [Gives, rtMessageGetString, rtMessageGetInt32, rtMessageGetMessage,
      getObjectItem_stored, Option.map_map, Option.map_eq_some_iff, Function.comp_apply,
      FieldValue.ReadsAs]

theorem givesNothing_stored_iff {h : List SetCall} {name : Bytes} :
    GivesNothing (stored h) name ↔ firstMatch h name = none := by
  simp [GivesNothing, rtMessageGetString, rtMessageGetInt32, rtMessageGetMessage,
    getObjectItem_stored]

/-- A message is the map of the values set last, at a name, exactly when no topic is set where
    there is one and the first value set under the name, but for case, reads like the last. -/
theorem storeLaw_iff (h : List SetCall) (name : Bytes) :
    StoreLaw h name ↔ TopicsFree h ∧ FirstReadsAsLast h name := by
  have hread : (match lastSet h name with
      | some value => Gives (stored h) name value
      | none => GivesNothing (stored h) name) ↔ FirstReadsAsLast h name := by
    unfold FirstReadsAsLast
    cases lastSet h name with
    | some value => exact gives_stored_iff
    | none => exact givesNothing_stored_iff
  constructor
  · rintro ⟨m, hm, hlaw⟩
    obtain ⟨hfree, rfl⟩ := setCalls_eq_ok.mp hm
    exact ⟨hfree, hread.mp hlaw⟩
  · rintro ⟨hfree, hfirst⟩
    exact ⟨stored h, setCalls_eq_ok.mpr ⟨hfree, rfl⟩, hread.mpr hfirst⟩

/-- A number set a second time under its name: the getter still gives the first. -/
theorem second_set_hidden :
    ¬ StoreLaw [.setInt32 (ascii "id") 1, .setInt32 (ascii "id") 2] (ascii "id") := by
  rintro ⟨m, hm, hlaw⟩
  obtain rfl := Except.ok.inj hm
  have hgiven : rtMessageGetInt32 (.object [(ascii "id", .number 1), (ascii "id", .number 2)])
      (ascii "id") = some 2 := hlaw
  exact absurd hgiven (by decide)

end RtMessage
