import RtMessage.Lib.Calls
import RtMessage.DataProvider.Tree
import RtMessage.DataProvider.Results

/- `dmClientImpl`: a get, of an object alone or of all that is below it too.

   `answers` gives the result a query has after its response. A query is known by the place in
   the run at which it is made: `runGet` is given the place of its call, and each query and each
   further call has its number in front of that. So no two queries of a run have one place, and
   all of them may be answered independently. -/
namespace RtMessage.DataProvider

def rtFail : Int := 1

/-- What has become of a query that `runOneQuery` was to make. -/
inductive QueryOutcome where
  | notCreated
  | notExecuted
  | results (r : DmQueryResult)

def QueryOutcome.succeeded : QueryOutcome → Bool
  | .results r => r.status == rtOk
  | _ => false

/-- What a query is for: the size of a list, the ids of its items, or an object. -/
inductive QueryKind where
  | numberOfEntries
  | idsOfEntries
  | object
  deriving DecidableEq

inductive Event where
  | query (kind : QueryKind) (parameter : Bytes) (outcome : QueryOutcome)
  /-- a get is refused: there is no object -/
  | noProvider (parameter : Bytes)
  /-- a get is refused: the answers about the list do not agree -/
  | sizeMismatch (list : Bytes)

def Event.succeeded : Event → Bool
  | .query _ _ outcome => outcome.succeeded
  | _ => false

inductive Notification where
  | onResult (result : DmQueryResult)
  | onError (status : Int) (message : Bytes)

/-- What the notifier is told. It is not given to the queries about a list, but told when one
    of them fails. -/
def Event.notification : Event → Option Notification
  | .query .numberOfEntries _ outcome =>
    if outcome.succeeded then none
    else some (.onError rtFail (ascii "dmcli_get list number query failed"))
  | .query .idsOfEntries _ outcome =>
    if outcome.succeeded then none
    else some (.onError rtFail (ascii "dmcli_get list entry query failed"))
  | .query .object _ .notCreated => some (.onError rtFail (ascii "failed to create query"))
  | .query .object _ .notExecuted => some (.onError rtFail (ascii "failed to exec query"))
  | .query .object _ (.results r) =>
    if r.status = rtOk then some (.onResult r) else some (.onError r.status r.statusMsg)
  | .noProvider _ => none
  | .sizeMismatch _ => some (.onError rtFail (ascii "dmcli_get list failed: size mismatch"))

def digits (s : Bytes) : Nat :=
  (s.takeWhile fun c => 48 ≤ c && c ≤ 57).foldl (fun n c => 10 * n + (c.toNat - 48)) 0

/-- A number outside the range of an `int` has no meaning in C; it is taken as it is. -/
def atoi (s : Bytes) : Int :=
  match s.dropWhile Lib.isSpace with
  | 45 :: s => -(digits s : Int)
  | 43 :: s => digits s
  | s => digits s

example : atoi (ascii " -12a") = -12 := by decide

/-- The last result for a property of the name. -/
def getResultValue (results : List Param) (name : Bytes) (value : DmValue) : DmValue :=
  results.foldl
    (fun value param => if trimPropertyName param.info.fullName = name then param.value else value)
    value

/-- The text of `*value` after a query that succeeded. -/
def QueryOutcome.text (F : FloatText) (parameter : Bytes) : QueryOutcome → Bytes
  | .results r =>
    cstr ((getResultValue r.values (trimPropertyName parameter) (.int32 0)).toString F)
  | _ => []

def runOneQuery (db : ModelDb) (parameter : Bytes) (answer : DmQueryResult) :
    Except Fault QueryOutcome := do
  match ← createQuery db 0 .get (some parameter) with
  | none => .ok .notCreated
  | some query =>
    match query.exec with
    | (false, _, _) => .ok .notExecuted
    | (true, _, _) => .ok (.results answer)

/-- The parameter, the model and the answers of a run. -/
structure GetEnv where
  db : ModelDb
  tree : ProviderTree
  text : FloatText
  answers : List Nat → Bytes → DmQueryResult
  recursive : Bool

namespace GetEnv

/-- The place of a call and its parameter. -/
abbrev Call := List Nat × Bytes

/-- `success` and what happened. -/
abbrev GetRun := Bool × List Event

section Source
variable (env : GetEnv) (runQuery : Call → Except Fault GetRun)

/-- The loop over the children of an object. -/
def runChildren (place : List Nat) (childParameters : List Bytes) (s : GetRun) : Except Fault GetRun :=
  childParameters.zipIdx.foldlM (fun s (childParameter, i) => do
    let r ← runQuery (i :: place, childParameter)
    .ok (r.1, s.2 ++ r.2)) s

/-- A turn of the loop over the items of a list. -/
def runListItem (place : List Nat) (listName : Bytes) (s : GetRun) (item : Bytes × Nat) :
    Except Fault GetRun := do
  let listItemParam := listName ++ dot :: item.1 ++ [dot]
  let outcome ← runOneQuery env.db listItemParam (env.answers ((item.2 + 2) :: place) listItemParam)
  let s := (if outcome.succeeded then s.1 else false, s.2 ++ [.query .object listItemParam outcome])
  if env.recursive then
    match ← getProviderByPropertyName env.db listItemParam false with
    | (none, _) => .error .undefinedBehaviour
    | (some objectInfo, _) =>
      runChildren runQuery (item.2 :: place)
        ((env.tree.children objectInfo.objectName).map fun child =>
          listItemParam ++ trimPropertyName child.objectName ++ [dot]) s
  else .ok s

def runList (place : List Nat) (parameter : Bytes) : Except Fault GetRun := do
  let listName := trimWildcard parameter
  let numParam := listName ++ ascii "NumberOfEntries"
  let number ← runOneQuery env.db numParam (env.answers (0 :: place) numParam)
  let events := [.query .numberOfEntries numParam number]
  if !number.succeeded then .ok (false, events)
  else do
    let numEntries := atoi (number.text env.text numParam)
    let aliasParam := listName ++ ascii "IdsOfEntries"
    let ids ← runOneQuery env.db aliasParam (env.answers (1 :: place) aliasParam)
    let events := events ++ [.query .idsOfEntries aliasParam ids]
    if !ids.succeeded then .ok (false, events)
    else
      let out := splitString (ids.text env.text aliasParam) comma
      if (out.length : Int) ≠ numEntries then .ok (false, events ++ [.sizeMismatch listName])
      else out.zipIdx.foldlM (env.runListItem runQuery place listName) (true, events)

def runObject (place : List Nat) (parameter : Bytes) : Except Fault GetRun := do
  let outcome ← runOneQuery env.db parameter (env.answers (0 :: place) parameter)
  let s := (outcome.succeeded, [.query .object parameter outcome])
  if env.recursive then
    match ← getProviderByPropertyName env.db parameter false with
    | (none, _) => .error .undefinedBehaviour
    | (some objectInfo, _) =>
      runChildren runQuery place
        ((env.tree.children objectInfo.objectName).map fun child =>
          trimProperty parameter ++ dot :: trimPropertyName child.objectName ++ [dot]) s
  else .ok s

end Source

/-- `isListItem` is not set before the lookup, and not read if the lookup finds nothing. -/
def runGet (env : GetEnv) : Nat → Call → Except Fault GetRun
  | 0, _ => .error .outOfFuel
  | fuel+1, (place, parameter) => do
    if ← isWildcard (some parameter) then
      match ← getProviderByPropertyName env.db parameter false with
      | (none, _) => .ok (false, [.noProvider parameter])
      | (some providerInfo, isListItem) =>
        if !isListItem && providerInfo.isList then
          env.runList (env.runGet fuel) place parameter
        else env.runObject (env.runGet fuel) place parameter
    else env.runObject (env.runGet fuel) place parameter

end GetEnv

/-! The object a parameter is about. -/

/-- What is looked up for a get of `s`. -/
def objectPath (s : Bytes) : Bytes := if s.getLast? = some dot then trimWildcard s else trimProperty s

/-- The object and whether the path ends with one of its items. -/
def objectOf (db : ModelDb) (parameter : Bytes) : Option DmProviderInfo × Bool :=
  getProviderByObjectName db (objectPath parameter) false

section ObjectOf
variable {db : ModelDb} {s : Bytes}

theorem isWildcard_eq (hs : s ≠ []) :
    isWildcard (some s) = .ok (decide (s.getLast? = some dot)) := by
  rw [isWildcard, List.getLast?_eq_some_getLast hs]
  simp only [Option.some.injEq]
  rfl

/-- The last dot of a wildcard is the one at its end. -/
theorem objectPath_eq (s : Bytes) : objectPath s = trimProperty s := by
  unfold objectPath
  split
  · next hdot =>
    obtain ⟨q, rfl⟩ := List.getLast?_eq_some_iff.mp hdot
    rw [trimWildcard_append]
    exact (trimProperty_append q List.not_mem_nil).symm
  · rfl

theorem lookup_objectOf (db : ModelDb) (s : Bytes) :
    getProviderByPropertyName db s false = .ok (objectOf db s) := by
  by_cases hs : s = []
  · rw [hs]
    rfl
  · rw [getProviderByPropertyName, if_neg hs, isWildcard_eq hs, ok_bind, objectOf, objectPath]
    by_cases hdot : s.getLast? = some dot
    · rw [if_pos hdot, if_pos (decide_eq_true hdot)]
    · rw [if_neg hdot, if_neg (by simpa using hdot)]

/-- A query is made if there is an object for it. -/
def outcomeOf (db : ModelDb) (parameter : Bytes) (answer : DmQueryResult) : QueryOutcome :=
  if (objectOf db parameter).1.isSome then .results answer else .notCreated

theorem runOneQuery_eq (db : ModelDb) (s : Bytes) (answer : DmQueryResult) :
    runOneQuery db s answer = .ok (outcomeOf db s answer) := by
  have hobject : queryObject db 0 .get s = .ok (objectOf db s).1 := by
    rw [queryObject, lookup_objectOf, ok_bind]
  rw [runOneQuery, createQuery, hobject, ok_bind, outcomeOf]
  cases ho : (objectOf db s).1 with
  | none => rfl
  | some o =>
    have hs : s ≠ [] := by
      intro heq
      rw [heq] at ho
      cases ho
    rw [DmQueryImpl.setQueryString, isWildcard_eq hs]
    rfl

end ObjectOf

/-! What a call does, act by act. -/

namespace GetEnv
variable (env : GetEnv)

def query (kind : QueryKind) (place : List Nat) (parameter : Bytes) : Event :=
  .query kind parameter (outcomeOf env.db parameter (env.answers place parameter))

/-- The parameters for the children of `o`, which the path leads to. -/
def childrenBelow (path : Bytes) (o : DmProviderInfo) : List Bytes :=
  (env.tree.children o.objectName).map fun child =>
    path ++ dot :: trimPropertyName child.objectName ++ [dot]

abbrev GetAct := Lib.Act Event Call Fault

def childActs (place : List Nat) (childParameters : List Bytes) : List GetAct :=
  childParameters.zipIdx.map fun c => .call (c.2 :: place, c.1)

/-- A query for an object, and the calls for what is below it. -/
def nodeActs (queryPlace place : List Nat) (path parameter : Bytes) : List GetAct :=
  .emit (env.query .object queryPlace parameter) ::
    if env.recursive then
      match (objectOf env.db parameter).1 with
      | none => [.fail .undefinedBehaviour]
      | some o => childActs place (env.childrenBelow path o)
    else []

def itemActs (place : List Nat) (listName : Bytes) (item : Bytes × Nat) : List GetAct :=
  env.nodeActs ((item.2 + 2) :: place) (item.2 :: place) (listName ++ dot :: item.1)
    (listName ++ dot :: item.1 ++ [dot])

def number (place : List Nat) (listName : Bytes) : QueryOutcome :=
  outcomeOf env.db (listName ++ ascii "NumberOfEntries")
    (env.answers (0 :: place) (listName ++ ascii "NumberOfEntries"))

def ids (place : List Nat) (listName : Bytes) : QueryOutcome :=
  outcomeOf env.db (listName ++ ascii "IdsOfEntries")
    (env.answers (1 :: place) (listName ++ ascii "IdsOfEntries"))

/-- The items that the answers about a list name. -/
def items (place : List Nat) (listName : Bytes) : List Bytes :=
  splitString ((env.ids place listName).text env.text (listName ++ ascii "IdsOfEntries")) comma

/-- Both answers are there, and there are as many items as they say. -/
def Listed (place : List Nat) (listName : Bytes) : Prop :=
  (env.number place listName).succeeded = true ∧ (env.ids place listName).succeeded = true ∧
  ((env.items place listName).length : Int) =
    atoi ((env.number place listName).text env.text (listName ++ ascii "NumberOfEntries"))

instance (place : List Nat) (listName : Bytes) : Decidable (env.Listed place listName) :=
  inferInstanceAs (Decidable (_ ∧ _ ∧ _))

/-- The events of a list that is not gone through. -/
def refusal (place : List Nat) (listName : Bytes) : List Event :=
  if !(env.number place listName).succeeded then []
  else if !(env.ids place listName).succeeded then
    [.query .idsOfEntries (listName ++ ascii "IdsOfEntries") (env.ids place listName)]
  else [.query .idsOfEntries (listName ++ ascii "IdsOfEntries") (env.ids place listName),
        .sizeMismatch listName]

def listActs (place : List Nat) (listName : Bytes) : List GetAct :=
  .emit (.query .numberOfEntries (listName ++ ascii "NumberOfEntries") (env.number place listName)) ::
    if env.Listed place listName then
      .emit (.query .idsOfEntries (listName ++ ascii "IdsOfEntries") (env.ids place listName)) ::
        (env.items place listName).zipIdx.flatMap (env.itemActs place listName)
    else (env.refusal place listName).map .emit

def objectActs (place : List Nat) (parameter : Bytes) : List GetAct :=
  env.nodeActs (0 :: place) place (trimProperty parameter) parameter

def acts (c : Call) : List GetAct :=
  if c.2 = [] then [.fail .undefinedBehaviour]
  else if c.2.getLast? = some dot then
    match objectOf env.db c.2 with
    | (none, _) => [.emit (.noProvider c.2)]
    | (some o, isListItem) =>
      if !isListItem && o.isList then env.listActs c.1 (trimWildcard c.2)
      else env.objectActs c.1 c.2
  else env.objectActs c.1 c.2

/-- A query that fails leaves `success` false, a further call puts its own result there. -/
def procedure : Lib.Procedure Call Event Bool Fault where
  acts := env.acts
  start := true
  emitted success e := success && e.succeeded
  returned _ success := success

section NormalForm
variable {env} {runQuery : Call → Except Fault GetRun}

theorem runChildren_eq (place : List Nat) (childParameters : List Bytes) (s : GetRun) :
    runChildren runQuery place childParameters s =
      env.procedure.perform runQuery (childActs place childParameters) s := by
  rw [runChildren, childActs]
  induction childParameters.zipIdx generalizing s with
  | nil => rfl
  | cons c rest ih =>
    obtain ⟨childParameter, i⟩ := c
    rw [List.foldlM_cons, List.map_cons, Lib.Procedure.perform]
    dsimp only
    cases runQuery (i :: place, childParameter) with
    | error f => rfl
    | ok r => exact ih _

theorem runObject_eq (place : List Nat) (parameter : Bytes) :
    env.runObject runQuery place parameter =
      env.procedure.perform runQuery (env.objectActs place parameter) (true, []) := by
  rw [runObject, runOneQuery_eq, ok_bind, lookup_objectOf, objectActs, nodeActs,
    Lib.Procedure.perform]
  by_cases hrec : env.recursive = true
  · rw [if_pos hrec, if_pos hrec, ok_bind]
    cases ho : objectOf env.db parameter with
    | mk o b =>
      cases o with
      | none => rfl
      | some o => exact runChildren_eq place _ _
  · rw [if_neg hrec, if_neg hrec]
    rfl

theorem runListItem_eq (place : List Nat) (listName : Bytes) (s : GetRun) (item : Bytes × Nat) :
    env.runListItem runQuery place listName s item =
      env.procedure.perform runQuery (env.itemActs place listName item) s := by
  have hflag : ∀ b : Bool, (if b then s.1 else false) = (s.1 && b) := by
    intro b
    cases b <;> simp
  rw [runListItem, runOneQuery_eq, ok_bind, lookup_objectOf, itemActs, nodeActs,
    Lib.Procedure.perform]
  dsimp only
  rw [hflag]
  by_cases hrec : env.recursive = true
  · rw [if_pos hrec, if_pos hrec, ok_bind]
    cases ho : objectOf env.db (listName ++ dot :: item.1 ++ [dot]) with
    | mk o b =>
      cases o with
      | none => rfl
      | some o =>
        have hbelow : env.childrenBelow (listName ++ dot :: item.1) o =
            (env.tree.children o.objectName).map fun child =>
              listName ++ dot :: item.1 ++ [dot] ++ trimPropertyName child.objectName ++ [dot] := by
          simp [childrenBelow]
        dsimp only
        rw [← hbelow]
        exact runChildren_eq (item.2 :: place) _ _
  · rw [if_neg hrec, if_neg hrec]
    rfl

theorem runItems_eq (place : List Nat) (listName : Bytes) (items : List (Bytes × Nat)) (s : GetRun) :
    items.foldlM (env.runListItem runQuery place listName) s =
      env.procedure.perform runQuery (items.flatMap (env.itemActs place listName)) s := by
  induction items generalizing s with
  | nil => rfl
  | cons item items ih =>
    rw [List.foldlM_cons, List.flatMap_cons, Lib.Procedure.perform_append, runListItem_eq]
    refine congrArg (Except.bind _) (funext fun t => ?_)
    exact ih t

theorem runList_eq (place : List Nat) (parameter : Bytes) :
    env.runList runQuery place parameter =
      env.procedure.perform runQuery (env.listActs place (trimWildcard parameter)) (true, []) := by
  rw [runList, listActs]
  generalize trimWildcard parameter = listName
  have hnumber : runOneQuery env.db (listName ++ ascii "NumberOfEntries")
      (env.answers (0 :: place) (listName ++ ascii "NumberOfEntries")) =
        .ok (env.number place listName) := runOneQuery_eq _ _ _
  have hids : runOneQuery env.db (listName ++ ascii "IdsOfEntries")
      (env.answers (1 :: place) (listName ++ ascii "IdsOfEntries")) =
        .ok (env.ids place listName) := runOneQuery_eq _ _ _
  dsimp only
  rw [hnumber, ok_bind]
  cases hn : (env.number place listName).succeeded with
  | false =>
    have hlisted : ¬ env.Listed place listName := fun h => by simp [Listed, hn] at h
    simp [hlisted, refusal, hn, Lib.Procedure.perform, procedure, Event.succeeded]
  | true =>
    rw [if_neg (by simp), hids, ok_bind]
    cases hi : (env.ids place listName).succeeded with
    | false =>
      have hlisted : ¬ env.Listed place listName := fun h => by simp [Listed, hi] at h
      simp [hlisted, refusal, hn, hi, Lib.Procedure.perform, procedure, Event.succeeded]
    | true =>
      rw [if_neg (by simp)]
      change (if ((env.items place listName).length : Int) ≠ _ then _ else
        (env.items place listName).zipIdx.foldlM _ _) = _
      by_cases hlength : ((env.items place listName).length : Int) =
          atoi ((env.number place listName).text env.text (listName ++ ascii "NumberOfEntries"))
      · rw [if_neg (not_not_intro hlength), if_pos ⟨hn, hi, hlength⟩, runItems_eq]
        simp [Lib.Procedure.perform, procedure, Event.succeeded, hn, hi]
      · have hlisted : ¬ env.Listed place listName := fun h => hlength h.2.2
        simp [hlength, hlisted, refusal, hn, hi, Lib.Procedure.perform, procedure, Event.succeeded]

theorem runGet_eq (fuel : Nat) (c : Call) :
    env.runGet fuel c = env.procedure.run .outOfFuel fuel c := by
  induction fuel generalizing c with
  | zero => rfl
  | succ fuel ih =>
    obtain ⟨place, parameter⟩ := c
    have hcalls : env.runGet fuel = env.procedure.run .outOfFuel fuel := funext ih
    rw [runGet, hcalls, Lib.Procedure.run]
    change _ = env.procedure.perform _ (env.acts (place, parameter)) (true, [])
    rw [acts]
    by_cases hne : parameter = []
    · rw [if_pos hne, hne]
      rfl
    · rw [if_neg hne, isWildcard_eq hne, ok_bind]
      by_cases hdot : parameter.getLast? = some dot
      · rw [if_pos hdot, if_pos (decide_eq_true hdot), lookup_objectOf, ok_bind]
        dsimp only
        cases objectOf env.db parameter with
        | mk o isListItem =>
          cases o with
          | none => rfl
          | some o =>
            dsimp only
            split
            · exact runList_eq place parameter
            · exact runObject_eq place parameter
      · rw [if_neg hdot, if_neg (by simpa using hdot)]
        exact runObject_eq place parameter

end NormalForm

end GetEnv

end RtMessage.DataProvider
