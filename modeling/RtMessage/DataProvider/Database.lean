import RtMessage.Json
import RtMessage.DataProvider.Utility

/- `dmPropertyInfo`, `dmProviderInfo` and `dmProviderDatabase`: the objects of the data
   model, as they are read from the model files, and the paths that lead to them.

   The map `model_db` is the list of its objects in the order of their names. The tree of
   parents and children that the constructor builds besides is not read by a lookup. -/
namespace RtMessage.DataProvider

inductive DmValueType where
  | boolean
  | string
  | int8
  | int16
  | int32
  | int64
  | uint8
  | uint16
  | uint32
  | uint64
  | single
  | double
  | unknown
  deriving DecidableEq, Repr

def dmValueNames : List (Bytes × DmValueType) :=
  [(ascii "int8", .int8), (ascii "int16", .int16), (ascii "int32", .int32),
   (ascii "int64", .int64), (ascii "uint8", .uint8), (ascii "uint16", .uint16),
   (ascii "uint32", .uint32), (ascii "uint64", .uint64), (ascii "single", .single),
   (ascii "string", .string), (ascii "double", .double), (ascii "bool", .boolean)]

def dmValueTypeFromString (s : Bytes) : DmValueType :=
  match dmValueNames.find? (·.1 == s) with
  | some entry => entry.2
  | none => .unknown

/-- `dmPropertyInfo()` has the default values. -/
structure DmPropertyInfo where
  name : Bytes := []
  type : DmValueType := .unknown
  isOptional : Bool := false
  isWritable : Bool := false
  fullName : Bytes := []
  deriving DecidableEq, Repr

structure DmProviderInfo where
  objectName : Bytes
  providerName : Bytes
  isList : Bool
  properties : List DmPropertyInfo
  /-- a property that has a name has it behind the name of its object -/
  fullNames : ∀ p ∈ properties, p.name ≠ [] → p.fullName = objectName ++ dot :: p.name

/-- The first property of the name. -/
def DmProviderInfo.property? (o : DmProviderInfo) (n : Bytes) : Option DmPropertyInfo :=
  o.properties.find? (·.name == n)

def DmProviderInfo.getPropertyInfo (o : DmProviderInfo) : Option Bytes → DmPropertyInfo
  | none => {}
  | some s => (o.property? (trimPropertyName s)).getD {}

section Property
variable {o : DmProviderInfo} {p : DmPropertyInfo} {n : Bytes}

theorem DmProviderInfo.property_name (h : o.property? n = some p) : p.name = n := by
  rw [property?] at h
  have hname := List.find?_some h
  exact beq_iff_eq.mp hname

theorem DmProviderInfo.property_mem (h : o.property? n = some p) : p ∈ o.properties :=
  List.mem_of_find?_eq_some h

/-- A property of the object is found by its name, or one in front of it that has the name. -/
theorem DmProviderInfo.exists_property (h : p ∈ o.properties) :
    ∃ q, o.property? p.name = some q := by
  refine Option.isSome_iff_exists.mp (List.find?_isSome.mpr ⟨p, h, ?_⟩)
  exact beq_self_eq_true p.name

end Property

/-- `model_db`. -/
structure ModelDb where
  objects : List DmProviderInfo
  sorted : objects.Pairwise fun a b => a.objectName < b.objectName

namespace ModelDb

theorem sorted_nil :
    ([] : List DmProviderInfo).Pairwise fun a b => a.objectName < b.objectName :=
  List.Pairwise.nil

def find (db : ModelDb) (name : Bytes) : Option DmProviderInfo :=
  db.objects.find? (·.objectName == name)

/-- `std::map::insert` leaves an object that is there already. -/
def insertInfo (info : DmProviderInfo) : List DmProviderInfo → List DmProviderInfo
  | [] => [info]
  | o :: os =>
    if info.objectName < o.objectName then info :: o :: os
    else if info.objectName = o.objectName then o :: os
    else o :: insertInfo info os

theorem mem_insertInfo {info x : DmProviderInfo} {os : List DmProviderInfo}
    (h : x ∈ insertInfo info os) : x = info ∨ x ∈ os := by
  induction os with
  | nil => exact .inl (List.mem_singleton.mp h)
  | cons o os ih =>
    unfold insertInfo at h
    split at h
    · exact List.mem_cons.mp h
    · split at h
      · exact .inr h
      · cases List.mem_cons.mp h with
        | inl heq => exact .inr (heq ▸ List.mem_cons_self)
        | inr htail => exact (ih htail).imp_right (List.mem_cons_of_mem o)

theorem insertInfo_sorted (info : DmProviderInfo) {os : List DmProviderInfo}
    (h : os.Pairwise fun a b => a.objectName < b.objectName) :
    (insertInfo info os).Pairwise fun a b => a.objectName < b.objectName := by
  induction os with
  | nil => exact List.pairwise_singleton _ _
  | cons o os ih =>
    obtain ⟨hhead, htail⟩ := List.pairwise_cons.mp h
    unfold insertInfo
    split
    · next hlt =>
      refine List.pairwise_cons.mpr ⟨fun x hx => ?_, h⟩
      cases List.mem_cons.mp hx with
      | inl heq => exact heq ▸ hlt
      | inr hmem => exact List.lt_trans hlt (hhead x hmem)
    · next hnot =>
      split
      · exact h
      · next hne =>
        have hlt : o.objectName < info.objectName :=
          Std.lt_of_le_of_ne (List.not_lt.mp hnot) (Ne.symm hne)
        refine List.pairwise_cons.mpr ⟨fun x hx => ?_, ih htail⟩
        cases mem_insertInfo hx with
        | inl heq => exact heq ▸ hlt
        | inr hmem => exact hhead x hmem

def insert (db : ModelDb) (info : DmProviderInfo) : ModelDb :=
  ⟨insertInfo info db.objects, insertInfo_sorted info db.sorted⟩

end ModelDb

/-! The model files. -/

/-- `p->valuestring` of the member, if there is one, given to a `std::string`. -/
def memberString (json : CJson) (name : Bytes) : Except Fault (Option Bytes) :=
  match cJSONGetObjectItem json name with
  | none => .ok none
  | some item =>
    match item.valuestring with
    | some s => .ok (some s)
    | none => .error .undefinedBehaviour

/-- Whether the member is there and `true`. -/
def memberTrue (json : CJson) (name : Bytes) : Bool :=
  match cJSONGetObjectItem json name with
  | some (.bool true) => true
  | _ => false

/-- The items `cJSON_GetArrayItem` goes through. -/
def CJson.children : CJson → List CJson
  | .array items => items
  | .object members => members.map (·.2)
  | _ => []

/-- A turn of the loop over the properties. -/
def makePropertyInfo (objectName : Bytes) (props : CJson) :
    Except Fault {p : DmPropertyInfo // p.name ≠ [] → p.fullName = objectName ++ dot :: p.name} := do
  let name ← memberString props (ascii "name")
  let type ← memberString props (ascii "type")
  let type := type.elim .unknown dmValueTypeFromString
  let isOptional := memberTrue props (ascii "optional")
  let isWritable := memberTrue props (ascii "writable")
  match name with
  | none => .ok ⟨{ type, isOptional, isWritable }, fun h => absurd rfl h⟩
  | some name =>
    .ok ⟨{ name, type, isOptional, isWritable, fullName := objectName ++ dot :: name }, fun _ => rfl⟩

def makeProviderInfo (J : CJsonLib) (s : Bytes) : Except Fault (Option DmProviderInfo) :=
  match J.parse s with
  | none => .ok none
  | some json => do
    let objectName := (← memberString json (ascii "name")).getD []
    let providerName := (← memberString json (ascii "provider")).getD []
    let isList := memberTrue json (ascii "is_list")
    let props := match cJSONGetObjectItem json (ascii "properties") with
      | some p => CJson.children p
      | none => []
    let properties ← props.mapM (makePropertyInfo objectName)
    .ok (some
      { objectName, providerName, isList,
        properties := properties.map (·.1),
        fullNames := fun p hp => by
          obtain ⟨q, _, hq⟩ := List.mem_map.mp hp
          exact hq ▸ q.2 })

/-- The file's bytes, behind which there is a NUL. -/
def loadFile (J : CJsonLib) (db : ModelDb) (buff : Bytes) : Except Fault ModelDb := do
  match ← makeProviderInfo J (cstr buff) with
  | some providerInfo => .ok (db.insert providerInfo)
  | none => .ok db

/-- The files in the order in which `readdir` gives them. `model_db` is shared by the
    databases of a process. -/
def loadFromDir (J : CJsonLib) (db : ModelDb) (files : List Bytes) : Except Fault ModelDb :=
  files.foldlM (loadFile J) db

/-! Lookups. -/

structure Resolving where
  isList : Bool := false
  isListItem : Bool
  fullName : Bytes := []
  provider : Option DmProviderInfo := none

/-- A turn of the loop in `getProviderByObjectName`; `none` is `return nullptr`. -/
def resolveToken (db : ModelDb) (r : Resolving) (token : Bytes) : Option Resolving :=
  if r.isList then
    -- the token stands for an instance of the list
    some { r with isList := false, isListItem := true }
  else
    let fullName := (if r.fullName = [] then [] else r.fullName ++ [dot]) ++ token
    match db.find fullName, r.provider with
    | some o, _ => some { isList := o.isList, isListItem := false, fullName, provider := some o }
    | none, some _ => none
    | none, none => some { r with isListItem := false, fullName }

/-- The object and what is in `*isListItem` afterwards. -/
def getProviderByObjectName (db : ModelDb) (p : Bytes) (isListItem : Bool) :
    Option DmProviderInfo × Bool :=
  if p = [] then (none, isListItem)
  else
    match (splitString p dot).foldlM (resolveToken db) { isListItem } with
    | some r => (r.provider, r.isListItem)
    | none => (none, false)

def getProviderByPropertyName (db : ModelDb) (s : Bytes) (isListItem : Bool) :
    Except Fault (Option DmProviderInfo × Bool) := do
  if s = [] then .ok (none, isListItem)
  else if ← isWildcard (some s) then .ok (getProviderByObjectName db (trimWildcard s) isListItem)
  else .ok (getProviderByObjectName db (trimProperty s) isListItem)

/-- The object a path leads to, if any. -/
def ModelDb.resolve (db : ModelDb) (p : Bytes) : Option DmProviderInfo :=
  (getProviderByObjectName db p false).1

end RtMessage.DataProvider
