import RtMessage.Base

/- `rtMessage` over cJSON. The parser and the printer of cJSON are not part of
   the repository: they are the functions of a `CJsonLib`, and a theorem that
   relies on what they do says so in a hypothesis. Numbers are kept as their
   `valueint`; an `rtMessage` is its JSON tree (its reference count is left to
   the model of ownership). -/
namespace RtMessage

inductive CJson where
  | null
  | bool (b : Bool)
  | number (valueint : Int)
  | string (valuestring : Bytes)
  | array (items : List CJson)
  | object (members : List (Bytes × CJson))
  deriving Repr

structure CJsonLib where
  /-- `cJSON_Parse`, given the NUL-terminated text at its pointer -/
  parse : Bytes → Option CJson
  /-- `cJSON_PrintUnformatted` -/
  print : CJson → Bytes

/-- A library for runs that parse and print nothing. -/
def CJsonLib.unused : CJsonLib := ⟨fun _ => none, fun _ => []⟩

def asciiToLower (b : UInt8) : UInt8 := if 65 ≤ b ∧ b ≤ 90 then b + 32 else b

/-- `cJSON_strcasecmp(a, b) == 0`. -/
def strcaseEq (a b : Bytes) : Bool := a.map asciiToLower == b.map asciiToLower

/-- The first member whose name matches, ignoring case. -/
def cJSONGetObjectItem : CJson → Bytes → Option CJson
  | .object members, name => (members.find? fun m => strcaseEq m.1 name).map (·.2)
  | _, _ => none

def cJSONAddItemToObject : CJson → Bytes → CJson → CJson
  | .object members, name, item => .object (members ++ [(name, item)])
  | j, _, _ => j

def cJSONAddItemToArray : CJson → CJson → CJson
  | .array items, item => .array (items ++ [item])
  | j, _ => j

/-- `item->valuestring`; the pointer is null unless the item is a string. -/
def CJson.valuestring : CJson → Option Bytes
  | .string s => some s
  | _ => none

def CJson.valueint : CJson → Int
  | .number v => v
  | .bool true => 1
  | _ => 0

/-- A `uint32_t` converted to `int32_t`. -/
def toInt32 (n : UInt32) : Int := if n.toNat < 2^31 then n.toNat else (n.toNat : Int) - 2^32

/-- An `int` converted to `uint32_t`. -/
def toUInt32 (v : Int) : UInt32 := UInt32.ofNat (v % 2^32).toNat

theorem toUInt32_toInt32 (n : UInt32) : toUInt32 (toInt32 n) = n := by
  have hn : n.toNat < 2^32 := n.toNat_lt
  have hv : (toInt32 n % 2^32).toNat = n.toNat := by
    unfold toInt32
    split <;> omega
  rw [toUInt32, hv, UInt32.ofNat_toNat]

def rtMessageCreate : CJson := .object []

def rtMessageSetString (m : CJson) (name value : Bytes) : CJson :=
  cJSONAddItemToObject m name (.string value)

def rtMessageSetInt32 (m : CJson) (name : Bytes) (value : Int) : CJson :=
  cJSONAddItemToObject m name (.number value)

/-- The members with `item` added to the array that is the first one named `name`. -/
def addToMember (name : Bytes) (item : CJson) : List (Bytes × CJson) → List (Bytes × CJson)
  | [] => []
  | m :: ms => if strcaseEq m.1 name then (m.1, cJSONAddItemToArray m.2 item) :: ms
    else m :: addToMember name item ms

def rtMessageAddMessage (m : CJson) (name : Bytes) (item : CJson) : CJson :=
  match cJSONGetObjectItem m name, m with
  | none, m => cJSONAddItemToObject m name (.array [item])
  | some _, .object members => .object (addToMember name item members)
  | some _, m => m

/-- `RT_FAIL` is `none`; the value stored on `RT_OK` may be a null pointer. -/
def rtMessageGetString (m : CJson) (name : Bytes) : Option (Option Bytes) :=
  (cJSONGetObjectItem m name).map CJson.valuestring

def rtMessageGetInt32 (m : CJson) (name : Bytes) : Option Int :=
  (cJSONGetObjectItem m name).map CJson.valueint

def rtMessageSetMessage (m : CJson) (name : Bytes) (item : CJson) : CJson :=
  cJSONAddItemToObject m name item

/-- The message the caller gets has no JSON unless the result is `RT_OK`. -/
def rtMessageGetMessage (m : CJson) (name : Bytes) : Option CJson := cJSONGetObjectItem m name

def sendTopicName : Bytes := ascii "_topic"

def rtMessageSetSendTopic (m : CJson) (topic : Bytes) : Except Fault CJson :=
  match cJSONGetObjectItem m sendTopicName with
  -- `cJSON_ReplaceItemInObject` deletes the item it replaces, and `cJSON_Delete(obj)`
  -- is then called on that same item.
  | some _ => .error .undefinedBehaviour
  | none => .ok (cJSONAddItemToObject m sendTopicName (.string topic))

/-- The length given with the bytes is not looked at. -/
def rtMessageFromBytes (J : CJsonLib) (bytes : Bytes) : Option CJson := J.parse (cstr bytes)

/-- The text and its `strlen`. -/
def rtMessageToByteArray (J : CJsonLib) (m : CJson) : Bytes := cstr (J.print m)

end RtMessage
