import RtMessage.Json
import RtMessage.Lib.NodeStore

/- Messages over an explicit store of JSON nodes.

   Here an `rtMessage` is what the C code makes it, a pointer to a `struct _rtMessage`
   with a pointer to a JSON node and a reference count. The nodes are a
   `Lib.NodeStore`; a node or a message is known by its allocation, and one that is
   freed is never allocated again under the same name. Reading or freeing what has been
   freed is `undefinedBehaviour`, so that a call which returns has freed
   nothing twice. Allocation does not fail, and a null pointer to a JSON node is taken by
   cJSON as by its documentation: nothing is found there and nothing added.

   1. The functions of cJSON (`cJSONDelete`, `cJSONDuplicate`, ...).
   2. The functions of `rtMessage.c`, and `call`.
   3. What a call that neither retains nor releases can do (`call_outcome`). -/
namespace RtMessage.Ownership
open Lib (NodeStore)
open Lib.NodeStore (Closed Grown Extends)

inductive ItemValue where
  | null
  | bool (b : Bool)
  | number (valueint : Int)
  | string (valuestring : Bytes)
  | array
  | object
  deriving DecidableEq, Repr

/-- A `cJSON` node without its links. The items of an array have no name of their own. -/
structure Item where
  name : Option Bytes
  value : ItemValue
  deriving DecidableEq, Repr

abbrev Nodes := NodeStore Item

def access {β : Type} : Except Lib.AccessError β → Except Fault β
  | .ok b => .ok b
  | .error .freed => .error .undefinedBehaviour
  | .error .outOfFuel => .error .outOfFuel

/-! cJSON. A new node is at the length of the store that it is added to. -/

def cJSONDelete (s : Nodes) (item : Nat) : Except Fault Nodes :=
  access (NodeStore.delete s.length s [item])

/-- The store with the copy, and the copy; the copy of a null pointer is null. -/
def cJSONDuplicate (s : Nodes) : Option Nat → Except Fault (Nodes × Option Nat)
  | none => .ok (s, none)
  | some item => do
    let t ← access (NodeStore.copy s.length s item)
    return (t, some s.length)

mutual

/-- The nodes that `cJSON_Parse` makes for a value. -/
def parsed (s : Nodes) (name : Option Bytes) : CJson → Nodes
  | .null => s.alloc ⟨name, .null⟩
  | .bool b => s.alloc ⟨name, .bool b⟩
  | .number v => s.alloc ⟨name, .number v⟩
  | .string v => s.alloc ⟨name, .string v⟩
  | .array items => parsedItems (s.alloc ⟨name, .array⟩) s.length items
  | .object members => parsedMembers (s.alloc ⟨name, .object⟩) s.length members

def parsedItems (s : Nodes) (parent : Nat) : List CJson → Nodes
  | [] => s
  | j :: js => parsedItems ((parsed s none j).link parent s.length) parent js

def parsedMembers (s : Nodes) (parent : Nat) : List (Bytes × CJson) → Nodes
  | [] => s
  | (name, j) :: ms => parsedMembers ((parsed s (some name) j).link parent s.length) parent ms

end

def Item.named (item : Item) (name : Bytes) : Bool :=
  match item.name with
  | some n => strcaseEq n name
  | none => false

/-- The first of these nodes that has the name. -/
def firstNamed (s : Nodes) (name : Bytes) : List Nat → Except Fault (Option Nat)
  | [] => .ok none
  | c :: cs => do
    let cell ← access (s.read c)
    if cell.label.named name then return some c
    firstNamed s name cs

def cJSONGetObjectItem (s : Nodes) (object : Option Nat) (name : Bytes) :
    Except Fault (Option Nat) :=
  match object with
  | none => .ok none
  | some o => do
    let cell ← access (s.read o)
    firstNamed s name cell.children

def cJSONAddItemToArray (s : Nodes) (array : Option Nat) (item : Nat) : Except Fault Nodes :=
  match array with
  | none => .ok s
  | some a => do
    let _ ← access (s.read a)
    return s.link a item

def cJSONAddItemToObject (s : Nodes) (object : Option Nat) (name : Bytes) (item : Nat) :
    Except Fault Nodes :=
  cJSONAddItemToArray (s.relabel item fun i => { i with name := some name }) object item

/-- The item with the name is deleted, and the new one stands in its place. -/
def cJSONReplaceItemInObject (s : Nodes) (object : Option Nat) (name : Bytes) (item : Nat) :
    Except Fault Nodes := do
  match object, ← cJSONGetObjectItem s object name with
  | some o, some old =>
    let s := s.relabel item fun i => { i with name := some name }
    -- The new item is in the list of the object before the old one is deleted.
    cJSONDelete (s.modify o (Option.map fun cell =>
      { cell with children := cell.children.map fun c => if c = old then item else c })) old
  | _, _ => .ok s

/-- The item at the index of an array that has one there. -/
def cJSONGetArrayItem (children : List Nat) (idx : Int) : Option Nat :=
  if idx < 0 then none else children[idx.toNat]?

/-! `struct _rtMessage` and what there is of them. -/

structure Message where
  json : Option Nat
  /-- an `atomic_int`, which wraps around -/
  count : UInt32
  deriving DecidableEq, Repr

structure State where
  nodes : Nodes
  /-- empty where the message has been freed -/
  messages : List (Option Message)
  deriving DecidableEq, Repr

/-- The message is allocated. -/
def State.Live (s : State) (h : Nat) (m : Message) : Prop := s.messages[h]? = some (some m)

def State.read (s : State) (h : Nat) : Except Fault Message :=
  match s.messages[h]? with
  | some (some m) => .ok m
  | _ => .error .undefinedBehaviour

/-- What a call returns: its `rtError`, and the message it gives the caller. -/
structure Answer where
  error : RtError
  handle : Option Nat
  deriving DecidableEq, Repr

/-- A new message, whose count is one. -/
def State.acquire (s : State) (nodes : Nodes) (json : Option Nat) : State × Answer :=
  (⟨nodes, s.messages ++ [some ⟨json, 1⟩]⟩, ⟨.ok, some s.messages.length⟩)

/-! `rtMessage.c`. -/

def rtMessageCreate (s : State) : Except Fault (State × Answer) :=
  .ok (s.acquire (s.nodes.alloc ⟨none, .object⟩) (some s.nodes.length))

def rtMessageClone (s : State) (message : Nat) : Except Fault (State × Answer) := do
  let m ← s.read message
  let (nodes, json) ← cJSONDuplicate s.nodes m.json
  return s.acquire nodes json

def rtMessageFromBytes (J : CJsonLib) (s : State) (bytes : Bytes) :
    Except Fault (State × Answer) :=
  match J.parse (cstr bytes) with
  | some j => .ok (s.acquire (parsed s.nodes none j) (some s.nodes.length))
  | none => .ok (s, ⟨.fail, none⟩)

def rtMessageSetMessage (s : State) (message : Nat) (name : Bytes) (item : Nat) :
    Except Fault (State × Answer) := do
  let m ← s.read message
  let i ← s.read item
  match ← cJSONDuplicate s.nodes i.json with
  | (nodes, some obj) =>
    let nodes ← cJSONAddItemToObject nodes m.json name obj
    return (⟨nodes, s.messages⟩, ⟨.ok, none⟩)
  | (_, none) => return (s, ⟨.ok, none⟩)

/-- The array with the name, which is added where there is none. -/
def arrayNamed (s : Nodes) (object : Option Nat) (name : Bytes) : Except Fault (Nodes × Nat) := do
  match ← cJSONGetObjectItem s object name with
  | some obj => return (s, obj)
  | none =>
    let t ← cJSONAddItemToObject (s.alloc ⟨none, .array⟩) object name s.length
    return (t, s.length)

def rtMessageAddMessage (s : State) (message : Nat) (name : Bytes) (item : Nat) :
    Except Fault (State × Answer) := do
  let m ← s.read message
  let i ← s.read item
  let (nodes, obj) ← arrayNamed s.nodes m.json name
  -- A message that is added to itself is copied with the array in it.
  match ← cJSONDuplicate nodes i.json with
  | (nodes, some itemObj) =>
    let nodes ← cJSONAddItemToArray nodes (some obj) itemObj
    return (⟨nodes, s.messages⟩, ⟨.ok, none⟩)
  | (nodes, none) => return (⟨nodes, s.messages⟩, ⟨.ok, none⟩)

/-- On `RT_FAIL` the caller gets a `struct _rtMessage` that nothing has been written to; it is
    no message. -/
def rtMessageGetMessage (s : State) (message : Nat) (name : Bytes) :
    Except Fault (State × Answer) := do
  let m ← s.read message
  match ← cJSONGetObjectItem s.nodes m.json name with
  | some p =>
    let (nodes, json) ← cJSONDuplicate s.nodes (some p)
    return s.acquire nodes json
  | none => return (s, ⟨.fail, none⟩)

/-- The new message points to the item in the tree of the one that it is taken from. -/
def rtMessageGetMessageItem (s : State) (message : Nat) (name : Bytes) (idx : Int) :
    Except Fault (State × Answer) := do
  let m ← s.read message
  match ← cJSONGetObjectItem s.nodes m.json name with
  | none => return (s, ⟨.propertyNotFound, none⟩)
  | some obj =>
    let cell ← access (s.nodes.read obj)
    if idx ≥ cell.children.length then return (s, ⟨.fail, none⟩)
    return s.acquire s.nodes (cJSONGetArrayItem cell.children idx)

def rtMessageSetSendTopic (s : State) (message : Nat) (topic : Bytes) :
    Except Fault (State × Answer) := do
  let m ← s.read message
  let item := s.nodes.length
  match ← cJSONGetObjectItem s.nodes m.json sendTopicName with
  | some obj =>
    let nodes ← cJSONReplaceItemInObject (s.nodes.alloc ⟨none, .string topic⟩) m.json
      sendTopicName item
    -- The replacement has deleted `obj`.
    let nodes ← cJSONDelete nodes obj
    return (⟨nodes, s.messages⟩, ⟨.ok, none⟩)
  | none =>
    let nodes ← cJSONAddItemToObject (s.nodes.alloc ⟨none, .string topic⟩) m.json
      sendTopicName item
    return (⟨nodes, s.messages⟩, ⟨.ok, none⟩)

def rtMessageRetain (s : State) (message : Nat) : Except Fault (State × Answer) := do
  let m ← s.read message
  return (⟨s.nodes, s.messages.set message (some { m with count := m.count + 1 })⟩, ⟨.ok, none⟩)

def rtMessageDestroy (s : State) (message : Nat) : Except Fault State := do
  let m ← s.read message
  if m.count = 0 then
    let nodes ← match m.json with
      | some json => cJSONDelete s.nodes json
      | none => pure s.nodes
    return ⟨nodes, s.messages.set message none⟩
  else return s

def rtMessageRelease (s : State) (message : Nat) : Except Fault (State × Answer) := do
  let m ← s.read message
  -- A count of zero, after a wrap, is not lowered: the message is destroyed all the same.
  let count := if m.count ≠ 0 then m.count - 1 else m.count
  let s := ⟨s.nodes, s.messages.set message (some { m with count := count })⟩
  let s ← if count = 0 then rtMessageDestroy s message else pure s
  return (s, ⟨.ok, none⟩)

inductive Call where
  | create
  | clone (message : Nat)
  | fromBytes (bytes : Bytes)
  | setMessage (message : Nat) (name : Bytes) (item : Nat)
  | addMessage (message : Nat) (name : Bytes) (item : Nat)
  | getMessage (message : Nat) (name : Bytes)
  | getMessageItem (message : Nat) (name : Bytes) (idx : Int)
  | setSendTopic (message : Nat) (topic : Bytes)
  | retain (message : Nat)
  | release (message : Nat)
  deriving DecidableEq, Repr

/-- The messages that a call is given. -/
def Call.handles : Call → List Nat
  | .create | .fromBytes _ => []
  | .clone m | .getMessage m _ | .getMessageItem m _ _ | .setSendTopic m _ | .retain m
  | .release m => [m]
  | .setMessage m _ item | .addMessage m _ item => [m, item]

def call (J : CJsonLib) (s : State) : Call → Except Fault (State × Answer)
  | .create => rtMessageCreate s
  | .clone m => rtMessageClone s m
  | .fromBytes bytes => rtMessageFromBytes J s bytes
  | .setMessage m name item => rtMessageSetMessage s m name item
  | .addMessage m name item => rtMessageAddMessage s m name item
  | .getMessage m name => rtMessageGetMessage s m name
  | .getMessageItem m name idx => rtMessageGetMessageItem s m name idx
  | .setSendTopic m topic => rtMessageSetSendTopic s m topic
  | .retain m => rtMessageRetain s m
  | .release m => rtMessageRelease s m

/-! What the functions of cJSON do to nodes that form trees. -/

section
variable {s t : Nodes} {object : Option Nat}

theorem access_eq_ok {β : Type} {x : Except Lib.AccessError β} {b : β} (h : x = .ok b) :
    access x = .ok b := by rw [h, access]

theorem read_eq_ok {n : Nat} (h : s.Allocated n) :
    ∃ cell, s.cell n = some cell ∧ access (s.read n) = .ok cell := by
  obtain ⟨cell, hcell, hread⟩ := h.read
  exact ⟨cell, hcell, access_eq_ok hread⟩

mutual

theorem parsed_grown (s : Nodes) (h : s.Closed) (name : Option Bytes) (j : CJson) :
    Grown s (parsed s name j) := by
  cases j with
  | null => exact h.alloc _
  | bool b => exact h.alloc _
  | number v => exact h.alloc _
  | string v => exact h.alloc _
  | array items => exact parsedItems_grown s _ (h.alloc _) items
  | object members => exact parsedMembers_grown s _ (h.alloc _) members

theorem parsedItems_grown (s t : Nodes) (h : Grown s t) (js : List CJson) :
    Grown s (parsedItems t s.length js) := by
  cases js with
  | nil => exact h
  | cons j js => exact parsedItems_grown s _ (h.link (parsed_grown t h.closed none j)) js

theorem parsedMembers_grown (s t : Nodes) (h : Grown s t) (ms : List (Bytes × CJson)) :
    Grown s (parsedMembers t s.length ms) := by
  cases ms with
  | nil => exact h
  | cons m ms =>
    obtain ⟨name, j⟩ := m
    exact parsedMembers_grown s _ (h.link (parsed_grown t h.closed (some name) j)) ms

end

theorem cJSONDuplicate_grown (h : s.Closed) {item : Nat} (hitem : s.Allocated item) :
    ∃ t, cJSONDuplicate s (some item) = .ok (t, some s.length) ∧ Grown s t := by
  obtain ⟨t, ht, hgrown⟩ := NodeStore.copy_grown s.length h hitem hitem.lt (Nat.le_refl _)
    h.closedBelow (Nat.le_add_left _ _)
  exact ⟨t, by rw [cJSONDuplicate, access_eq_ok ht]; rfl, hgrown⟩

theorem firstNamed_eq_ok (name : Bytes) (cs : List Nat) (hcs : ∀ c ∈ cs, s.Allocated c) :
    ∃ r, firstNamed s name cs = .ok r ∧ ∀ c, r = some c → c ∈ cs := by
  induction cs with
  | nil => exact ⟨none, rfl, fun c hc => by cases hc⟩
  | cons c cs ih =>
    obtain ⟨cell, _, hread⟩ := read_eq_ok (hcs c List.mem_cons_self)
    obtain ⟨r, hr, hmem⟩ := ih fun c' hc' => hcs c' (List.mem_cons_of_mem c hc')
    by_cases hname : cell.label.named name
    · refine ⟨some c, ?_, fun c' hc' => by simp [← Option.some.inj hc']⟩
      rw [firstNamed, hread, ok_bind, if_pos hname, pure_eq_ok]
    · refine ⟨r, ?_, fun c' hc' => List.mem_cons_of_mem c (hmem c' hc')⟩
      rw [firstNamed, hread, ok_bind, if_neg hname, hr]

theorem cJSONGetObjectItem_eq_ok (name : Bytes) (h : s.Closed)
    (hobject : ∀ o, object = some o → s.Allocated o) :
    ∃ r, cJSONGetObjectItem s object name = .ok r ∧
      ∀ c, r = some c → ∃ o, object = some o ∧ s.Child o c := by
  cases object with
  | none => exact ⟨none, rfl, fun c hc => by cases hc⟩
  | some o =>
    obtain ⟨cell, hcell, hread⟩ := read_eq_ok (hobject o rfl)
    obtain ⟨r, hr, hmem⟩ := firstNamed_eq_ok name cell.children fun c hc =>
      h.child_allocated o c ⟨cell, hcell, hc⟩
    refine ⟨r, ?_, fun c hc => ⟨o, rfl, cell, hcell, hmem c hc⟩⟩
    rw [cJSONGetObjectItem, hread, ok_bind, hr]

theorem cJSONAddItemToArray_extends (object : Option Nat) (h : Grown s t)
    (hobject : ∀ o, object = some o → s.Allocated o) :
    ∃ u, cJSONAddItemToArray t object s.length = .ok u ∧ Extends s u ∧ u.Allocated s.length := by
  cases object with
  | none => exact ⟨t, rfl, h.extends_self, h.root⟩
  | some o =>
    have ho := hobject o rfl
    obtain ⟨cell, _, hread⟩ := read_eq_ok (h.extends_self.allocated o ho)
    refine ⟨t.link o s.length, ?_, h.attach ho, NodeStore.allocated_link.mpr h.root⟩
    rw [cJSONAddItemToArray, hread, ok_bind, pure_eq_ok]

theorem cJSONAddItemToObject_extends (name : Bytes) (h : Grown s t)
    (hobject : ∀ o, object = some o → s.Allocated o) :
    ∃ u, cJSONAddItemToObject t object name s.length = .ok u ∧ Extends s u ∧
      u.Allocated s.length :=
  cJSONAddItemToArray_extends object (h.relabel _) hobject

theorem arrayNamed_extends (name : Bytes) (h : s.Closed)
    (hobject : ∀ o, object = some o → s.Allocated o) :
    ∃ u obj, arrayNamed s object name = .ok (u, obj) ∧ Extends s u ∧ u.Allocated obj := by
  obtain ⟨r, hr, hmem⟩ := cJSONGetObjectItem_eq_ok name h hobject
  unfold arrayNamed
  rw [hr, ok_bind]
  cases r with
  | some obj =>
    obtain ⟨o, _, hchild⟩ := hmem obj rfl
    exact ⟨s, obj, rfl, h.extends_refl, h.child_allocated o obj hchild⟩
  | none =>
    obtain ⟨u, hu, hextends, hroot⟩ := cJSONAddItemToObject_extends name
      (h.alloc (⟨none, .array⟩ : Item)) hobject
    refine ⟨u, s.length, ?_, hextends, hroot⟩
    show (cJSONAddItemToObject _ _ _ _ >>= _) = _
    rw [hu]
    rfl

theorem cJSONDelete_pruned (h : s.Closed) {item : Nat} (hitem : s.Allocated item)
    (horphan : s.Orphan item) :
    ∃ t, cJSONDelete s item = .ok t ∧ NodeStore.Pruned s item t := by
  obtain ⟨t, ht, hpruned⟩ := NodeStore.delete_pruned h hitem horphan
  exact ⟨t, access_eq_ok ht, hpruned⟩

end

/-! What the functions of `rtMessage.c` do where the nodes of the messages are there. -/

/-- The nodes form trees, and those that messages point to are there. -/
structure State.Sound (s : State) : Prop where
  closed : s.nodes.Closed
  allocated : ∀ h m n, s.Live h m → m.json = some n → s.nodes.Allocated n

/-- A call adds to the nodes, and may hand out a message of its own tree, or one that points
    into the tree of a message there is. -/
inductive Outcome (s : State) : State × Answer → Prop where
  | kept (t : Nodes) (error : RtError) (hextends : Extends s.nodes t) :
      Outcome s (⟨t, s.messages⟩, ⟨error, none⟩)
  | acquired {t : Nodes} {json : Option Nat} (hextends : Extends s.nodes t)
      (hallocated : ∀ n, json = some n → t.Allocated n)
      (howner : ∀ n, json = some n → t.Orphan n ∨
        ∃ h m r, s.Live h m ∧ m.json = some r ∧ t.Reaches r n) :
      Outcome s (s.acquire t json)

section
variable {J : CJsonLib} {s : State} {h h' : Nat} {m i : Message}

theorem State.Live.read (hm : s.Live h m) : s.read h = .ok m := by
  unfold State.Live at hm
  unfold State.read
  rw [hm]

theorem State.Sound.refl (hs : s.Sound) : Extends s.nodes s.nodes := hs.closed.extends_refl

theorem Outcome.same (hs : s.Sound) (error : RtError) : Outcome s (s, ⟨error, none⟩) :=
  .kept s.nodes error hs.refl

theorem Outcome.acquired_tree {t : Nodes} (hgrown : Grown s.nodes t) :
    Outcome s (s.acquire t (some s.nodes.length)) := by
  apply Outcome.acquired hgrown.extends_self
  · intro n hn
    rw [← Option.some.inj hn]
    exact hgrown.root
  · intro n hn
    rw [← Option.some.inj hn]
    exact .inl hgrown.orphan

theorem Outcome.acquired_null (hs : s.Sound) : Outcome s (s.acquire s.nodes none) :=
  .acquired hs.refl (fun n hn => by cases hn) (fun n hn => by cases hn)

theorem create_outcome (hs : s.Sound) : ∃ r, rtMessageCreate s = .ok r ∧ Outcome s r :=
  ⟨_, rfl, .acquired_tree (hs.closed.alloc _)⟩

theorem fromBytes_outcome (hs : s.Sound) (bytes : Bytes) :
    ∃ r, rtMessageFromBytes J s bytes = .ok r ∧ Outcome s r := by
  unfold rtMessageFromBytes
  cases J.parse (cstr bytes) with
  | none => exact ⟨_, rfl, .same hs .fail⟩
  | some j => exact ⟨_, rfl, .acquired_tree (parsed_grown _ hs.closed none j)⟩

theorem duplicate_outcome (hs : s.Sound) (json : Option Nat)
    (hjson : ∀ n, json = some n → s.nodes.Allocated n) :
    ∃ t copy, cJSONDuplicate s.nodes json = .ok (t, copy) ∧ Outcome s (s.acquire t copy) := by
  cases json with
  | none => exact ⟨_, _, rfl, .acquired_null hs⟩
  | some n =>
    obtain ⟨t, ht, hgrown⟩ := cJSONDuplicate_grown hs.closed (hjson n rfl)
    exact ⟨t, _, ht, .acquired_tree hgrown⟩

theorem clone_outcome (hs : s.Sound) (hm : s.Live h m) :
    ∃ r, rtMessageClone s h = .ok r ∧ Outcome s r := by
  obtain ⟨t, copy, ht, hout⟩ := duplicate_outcome hs m.json fun n => hs.allocated h m n hm
  refine ⟨_, ?_, hout⟩
  rw [rtMessageClone, hm.read, ok_bind, ht]
  rfl

theorem getMessage_outcome (hs : s.Sound) (hm : s.Live h m) (name : Bytes) :
    ∃ r, rtMessageGetMessage s h name = .ok r ∧ Outcome s r := by
  obtain ⟨p, hp, hmem⟩ := cJSONGetObjectItem_eq_ok name hs.closed
    fun o => hs.allocated h m o hm
  unfold rtMessageGetMessage
  rw [hm.read, ok_bind, hp, ok_bind]
  cases p with
  | none => exact ⟨_, rfl, .same hs .fail⟩
  | some p =>
    obtain ⟨o, _, hchild⟩ := hmem p rfl
    obtain ⟨t, copy, ht, hout⟩ := duplicate_outcome hs (some p) fun n hn =>
      Option.some.inj hn ▸ hs.closed.child_allocated o p hchild
    refine ⟨_, ?_, hout⟩
    show (cJSONDuplicate _ _ >>= _) = _
    rw [ht]
    rfl

/-- The item is a child of a child of the node of the message that it is taken from. -/
theorem getMessageItem_outcome (hs : s.Sound) (hm : s.Live h m) (name : Bytes) (idx : Int) :
    ∃ r, rtMessageGetMessageItem s h name idx = .ok r ∧ Outcome s r := by
  obtain ⟨obj, hobj, hmem⟩ := cJSONGetObjectItem_eq_ok name hs.closed
    fun o => hs.allocated h m o hm
  unfold rtMessageGetMessageItem
  rw [hm.read, ok_bind, hobj, ok_bind]
  cases obj with
  | none => exact ⟨_, rfl, .same hs .propertyNotFound⟩
  | some obj =>
    obtain ⟨o, ho, hchild⟩ := hmem obj rfl
    obtain ⟨cell, hcell, hread⟩ := read_eq_ok (hs.closed.child_allocated o obj hchild)
    show ∃ r, (access (s.nodes.read obj) >>= _) = _ ∧ _
    rw [hread, ok_bind]
    by_cases hidx : idx ≥ cell.children.length
    · rw [if_pos hidx]
      exact ⟨_, rfl, .same hs .fail⟩
    · rw [if_neg hidx]
      have hitem : ∀ n, cJSONGetArrayItem cell.children idx = some n → s.nodes.Child obj n := by
        intro n hn
        unfold cJSONGetArrayItem at hn
        split at hn
        · cases hn
        · exact ⟨cell, hcell, List.mem_of_getElem? hn⟩
      refine ⟨_, rfl, .acquired hs.refl (fun n hn => ?_) fun n hn => .inr ⟨h, m, o, hm, ho, ?_⟩⟩
      · exact hs.closed.child_allocated obj n (hitem n hn)
      · exact (Relation.ReflTransGen.single hchild).tail (hitem n hn)

theorem setMessage_outcome (hs : s.Sound) (hm : s.Live h m) (hi : s.Live h' i) (name : Bytes) :
    ∃ r, rtMessageSetMessage s h name h' = .ok r ∧ Outcome s r := by
  unfold rtMessageSetMessage
  rw [hm.read, ok_bind, hi.read, ok_bind]
  cases hjson : i.json with
  | none => exact ⟨_, rfl, .same hs .ok⟩
  | some n =>
    obtain ⟨t, ht, hgrown⟩ := cJSONDuplicate_grown hs.closed (hs.allocated h' i n hi hjson)
    obtain ⟨u, hu, hextends, _⟩ := cJSONAddItemToObject_extends name hgrown
      fun o => hs.allocated h m o hm
    refine ⟨_, ?_, .kept u .ok hextends⟩
    rw [ht, ok_bind]
    show (cJSONAddItemToObject _ _ _ _ >>= _) = _
    rw [hu]
    rfl

theorem addMessage_outcome (hs : s.Sound) (hm : s.Live h m) (hi : s.Live h' i) (name : Bytes) :
    ∃ r, rtMessageAddMessage s h name h' = .ok r ∧ Outcome s r := by
  obtain ⟨t, obj, ht, hextends, hobj⟩ := arrayNamed_extends name hs.closed
    fun o => hs.allocated h m o hm
  unfold rtMessageAddMessage
  rw [hm.read, ok_bind, hi.read, ok_bind, ht]
  cases hjson : i.json with
  | none => exact ⟨_, rfl, .kept t .ok hextends⟩
  | some n =>
    obtain ⟨u, hu, hgrown⟩ := cJSONDuplicate_grown hextends.closed
      (hextends.allocated n (hs.allocated h' i n hi hjson))
    obtain ⟨v, hv, hextendsv, _⟩ := cJSONAddItemToArray_extends (some obj) hgrown
      fun o ho => Option.some.inj ho ▸ hobj
    refine ⟨_, ?_, .kept v .ok (hextends.trans hextendsv)⟩
    show (cJSONDuplicate t (some n) >>= _) = _
    rw [hu, ok_bind]
    show (cJSONAddItemToArray _ _ _ >>= _) = _
    rw [hv]
    rfl

theorem setSendTopic_outcome (hs : s.Sound) (hm : s.Live h m) (topic : Bytes)
    (hfree : cJSONGetObjectItem s.nodes m.json sendTopicName = .ok none) :
    ∃ r, rtMessageSetSendTopic s h topic = .ok r ∧ Outcome s r := by
  obtain ⟨u, hu, hextends, _⟩ := cJSONAddItemToObject_extends sendTopicName
    (hs.closed.alloc (⟨none, .string topic⟩ : Item)) fun o => hs.allocated h m o hm
  refine ⟨_, ?_, .kept u .ok hextends⟩
  rw [rtMessageSetSendTopic, hm.read, ok_bind, hfree]
  show (cJSONAddItemToObject _ _ _ _ >>= _) = _
  rw [hu]
  rfl

end

end RtMessage.Ownership
