import RtMessage.Lib.Preorder
import RtMessage.DataProvider.Forest

/- Which objects a recursive get asks for.

   The object instances of a model are its objects that are no lists, and the items that its
   lists report. They form a forest: below an instance are the instances of the children of its
   object. A recursive get asks for the instances of the object it is given and for all that is
   below them, in pre-order, each once; besides, it asks each list for its size. -/
namespace RtMessage.DataProvider

/-! Instances. -/

/-- The instances of the object at a path: the items of a list, each other object itself. -/
def instancesAt (db : ModelDb) (ids : Bytes → List Bytes) (path : Bytes) : List Bytes :=
  match getProviderByObjectName db path false with
  | (some o, false) => if o.isList then (ids path).map fun id => path ++ dot :: id else [path]
  | _ => [path]

/-- The instances directly below one. -/
def instancesBelow (db : ModelDb) (ids : Bytes → List Bytes) (q : Bytes) : List Bytes :=
  match db.resolve q with
  | some o =>
    (childrenOf db db.objects o.objectName).flatMap fun c =>
      instancesAt db ids (q ++ dot :: trimPropertyName c.objectName)
  | none => []

def Event.object? : Event → Option Bytes
  | .query .object parameter _ => some parameter
  | _ => none

/-- The queries of a run that are not about the size of a list. -/
def objectQueries (events : List Event) : List Bytes := events.filterMap Event.object?

namespace GetEnv

/-- The model is constructed once, its names have two tokens or more, none of them empty, and
    the parent of each list is there; every query succeeds, and each list reports `ids`. -/
structure Regular (env : GetEnv) (ids : Bytes → List Bytes) : Prop where
  tree : env.tree = firstTree env.db
  names : ∀ o ∈ env.db.objects, 2 ≤ (tokens o.objectName).length ∧ ∀ t ∈ tokens o.objectName, t ≠ []
  parents : ∀ o ∈ env.db.objects, o.isList = true → (env.db.find (trimProperty o.objectName)).isSome
  succeeds : ∀ place parameter, (env.answers place parameter).status = rtOk
  listed : ∀ path o, getProviderByObjectName env.db path false = (some o, false) →
    o.isList = true → ids path ≠ [] ∧ (ids path).Nodup ∧
      ∀ id ∈ ids path, id ≠ [] ∧ dot ∉ id ∧ comma ∉ id
  idsOfEntries : ∀ path o place, getProviderByObjectName env.db path false = (some o, false) →
    o.isList = true →
      (QueryOutcome.results (env.answers place (path ++ ascii "IdsOfEntries"))).text env.text
        (path ++ ascii "IdsOfEntries") = [comma].intercalate (ids path)
  numberOfEntries : ∀ path o place, getProviderByObjectName env.db path false = (some o, false) →
    o.isList = true →
      atoi ((QueryOutcome.results (env.answers place (path ++ ascii "NumberOfEntries"))).text env.text
        (path ++ ascii "NumberOfEntries")) = (ids path).length

section Lookup
variable {env : GetEnv} {ids : Bytes → List Bytes} {path q t s : Bytes} {o c : DmProviderInfo}
  {b : Bool}

theorem Regular.dotted (h : env.Regular ids) (ho : o ∈ env.db.objects) : dot ∈ o.objectName := by
  by_contra hdot
  have htokens := (h.names o ho).1
  rw [tokens_of_not_mem hdot] at htokens
  simp at htokens

theorem Regular.named (h : env.Regular ids) (ho : o ∈ env.db.objects) : o.objectName ≠ [] :=
  List.ne_nil_of_mem (h.dotted ho)

theorem lookup_walk (hpath : getProviderByObjectName env.db path false = (some o, b)) :
    outcome (walk env.db path) = (some o, b) := by
  have hne : path ≠ [] := by
    intro heq
    rw [heq] at hpath
    cases hpath
  rwa [← getProviderByObjectName_walk hne]

theorem last_token {x : Option Resolving} {r : Resolving}
    (h : (x.bind fun r₀ => [t].foldlM (resolveToken env.db) r₀) = some r) :
    ∃ r₀, x = some r₀ ∧ resolveToken env.db r₀ t = some r := by
  obtain ⟨r₀, hr₀, hfold⟩ := Option.bind_eq_some_iff.mp h
  rw [List.foldlM_cons] at hfold
  obtain ⟨y, hy, hend⟩ := Option.bind_eq_some_iff.mp hfold
  cases hend
  exact ⟨r₀, hr₀, hy⟩

/-- The name of an object is found with the last token of its path, behind that of its parent. -/
theorem path_parent (hpath : getProviderByObjectName env.db path false = (some o, false))
    (hname : dot ∈ o.objectName) (hparent : (env.db.find (trimProperty o.objectName)).isSome) :
    ∃ q t, path = q ++ dot :: t ∧ dot ∉ t ∧ (getProviderByObjectName env.db q false).1.isSome := by
  obtain ⟨r, hr, _, hitem, hfull, _⟩ := outcome_some (lookup_walk hpath)
  -- the state in front of the last token
  have hlast : ∀ r₀ t, dot ∉ t → resolveToken env.db r₀ t = some r →
      r₀.fullName ≠ [] ∧ o.objectName = r₀.fullName ++ dot :: t := by
    intro r₀ t ht htoken
    have hplain : r₀.isList = false := by
      cases hlist : r₀.isList with
      | false => rfl
      | true =>
        rw [resolveToken_instance hlist] at htoken
        cases htoken
        cases hitem
    have hlast := (resolveToken_plain hplain htoken).2
    rw [hfull] at hlast
    by_cases hne : r₀.fullName = []
    · rw [if_pos hne, List.nil_append] at hlast
      exact absurd (hlast ▸ hname) ht
    · rw [if_neg hne, List.append_assoc] at hlast
      exact ⟨hne, hlast⟩
  by_cases hdot : dot ∈ path
  · obtain ⟨q, t, rfl, ht⟩ := eq_append_last hdot
    rw [walk_append, tokens_of_not_mem ht] at hr
    obtain ⟨r₀, hr₀, htoken⟩ := last_token hr
    obtain ⟨hne, hobject⟩ := hlast r₀ t ht htoken
    rw [hobject, trimProperty_append _ ht, ← walk_current hr₀ hne] at hparent
    refine ⟨q, t, rfl, ht, ?_⟩
    have hq : q ≠ [] := by
      intro heq
      rw [heq] at hr₀
      have hempty : resolveToken env.db { isListItem := false } [] = some r₀ := by
        obtain ⟨_, hinit, hempty⟩ := last_token (x := some { isListItem := false }) hr₀
        cases hinit
        exact hempty
      exact hne (resolveToken_plain rfl hempty).2
    rw [getProviderByObjectName_walk hq, hr₀]
    exact hparent
  · rw [walk, tokens_of_not_mem hdot] at hr
    obtain ⟨r₀, hr₀, htoken⟩ := last_token (x := some { isListItem := false }) hr
    cases hr₀
    exact absurd rfl (hlast _ path hdot htoken).1

/-- The queries for the size of a list are about properties of its parent. -/
theorem size_query_created (hpath : getProviderByObjectName env.db path false = (some o, false))
    (hobject : dot ∈ o.objectName) (hin : (env.db.find (trimProperty o.objectName)).isSome)
    (hdot : dot ∉ s) : (objectOf env.db (path ++ s)).1.isSome := by
  obtain ⟨q, t, rfl, ht, hparent⟩ := path_parent hpath hobject hin
  have hname : dot ∉ t ++ s := by
    rw [List.mem_append]
    exact not_or_intro ht hdot
  have hparam : q ++ dot :: t ++ s = q ++ dot :: (t ++ s) := by simp
  rw [objectOf, objectPath_eq, hparam, trimProperty_append q hname]
  exact hparent

end Lookup

/-! What the acts of a call ask for. -/

/-- The acts return, and ask for the roots and for all that is below them, in pre-order. -/
def Visits (env : GetEnv) (ids : Bytes → List Bytes) (acts : List GetAct) (roots : List Bytes) :
    Prop :=
  ∀ s, ∃ r qs, env.procedure.Performs acts s r ∧
    Lib.Preorder (instancesBelow env.db ids) roots qs ∧
    objectQueries r.2 = objectQueries s.2 ++ qs.map (· ++ [dot])

section Visiting
variable {env : GetEnv} {ids : Bytes → List Bytes} {path q : Bytes} {o : DmProviderInfo} {b : Bool}
  {acts acts' : List GetAct} {roots roots' : List Bytes} {place queryPlace : List Nat} {c : Call}

theorem Visits.nil : env.Visits ids [] [] :=
  fun s => ⟨s, [], .nil, .nil, by simp⟩

theorem Visits.append (h : env.Visits ids acts roots) (h' : env.Visits ids acts' roots') :
    env.Visits ids (acts ++ acts') (roots ++ roots') := by
  intro s
  obtain ⟨t, qs, ht, hqs, hevents⟩ := h s
  obtain ⟨r, qs', hr, hqs', hevents'⟩ := h' t
  refine ⟨r, qs ++ qs', ht.append hr, hqs.append hqs', ?_⟩
  rw [hevents', hevents, List.map_append, List.append_assoc]

theorem Visits.call (h : env.Visits ids (env.acts c) roots) : env.Visits ids [.call c] roots := by
  intro s
  obtain ⟨t, qs, ht, hqs, hevents⟩ := h (true, [])
  refine ⟨_, qs, .call ht .nil, hqs, ?_⟩
  dsimp only
  rw [objectQueries, List.filterMap_append, ← objectQueries, ← objectQueries, hevents]
  rfl

theorem Visits.size {e : Event} (he : e.object? = none) (h : env.Visits ids acts roots) :
    env.Visits ids (.emit e :: acts) roots := by
  intro s
  obtain ⟨r, qs, hr, hqs, hevents⟩ := h (env.procedure.emitted s.1 e, s.2 ++ [e])
  refine ⟨r, qs, .emit hr, hqs, ?_⟩
  rw [hevents]
  simp [objectQueries, he]

theorem Visits.instance (h : env.Visits ids acts (instancesBelow env.db ids q)) :
    env.Visits ids (.emit (env.query .object queryPlace (q ++ [dot])) :: acts) [q] := by
  intro s
  obtain ⟨r, qs, hr, hqs, hevents⟩ := h (env.procedure.emitted s.1
    (env.query .object queryPlace (q ++ [dot])), s.2 ++ [env.query .object queryPlace (q ++ [dot])])
  refine ⟨r, q :: qs, .emit hr, ?_, ?_⟩
  · have hpre := Lib.Preorder.cons hqs (Lib.Preorder.nil)
    rwa [List.append_nil] at hpre
  · rw [hevents]
    simp [objectQueries, query, Event.object?]

theorem Visits.children {α : Type} {f : α → Bytes} {g : α → List Bytes} (children : List α)
    (h : ∀ c ∈ children, ∀ i, env.Visits ids (env.acts (i :: place, f c)) (g c)) (k : Nat) :
    env.Visits ids (((children.map f).zipIdx k).map fun c => .call (c.2 :: place, c.1))
      (children.flatMap g) := by
  induction children generalizing k with
  | nil => exact .nil
  | cons c children ih =>
    have hfirst := (h c List.mem_cons_self k).call
    have hrest := ih (fun d hd => h d (List.mem_cons_of_mem c hd)) (k + 1)
    exact hfirst.append hrest

theorem Visits.items {f : Bytes → Bytes} (items : List Bytes)
    (h : ∀ id ∈ items, ∀ i, env.Visits ids (env.itemActs place path (id, i)) [f id]) (k : Nat) :
    env.Visits ids ((items.zipIdx k).flatMap (env.itemActs place path)) (items.map f) := by
  induction items generalizing k with
  | nil => exact .nil
  | cons id items ih =>
    have hfirst := h id List.mem_cons_self k
    have hrest := ih (fun x hx => h x (List.mem_cons_of_mem id hx)) (k + 1)
    exact hfirst.append hrest

theorem objectOf_wildcard (db : ModelDb) (path : Bytes) :
    objectOf db (path ++ [dot]) = getProviderByObjectName db path false := by
  rw [objectOf, objectPath_wildcard]

theorem acts_list (hpath : getProviderByObjectName env.db path false = (some o, false))
    (hl : o.isList = true) : env.acts (place, path ++ [dot]) = env.listActs place path := by
  have hobject := (objectOf_wildcard env.db path).trans hpath
  rw [acts, if_neg (by simp), if_pos List.getLast?_concat, hobject]
  dsimp only
  rw [hl, trimWildcard_append]
  rfl

end Visiting

/-! Where the instances are. -/

section Positions
variable {env : GetEnv} {ids : Bytes → List Bytes} {path q x : Bytes} {o : DmProviderInfo} {b : Bool}

end Positions

def deviceInfo : DmProviderInfo where
  objectName := ascii "Device.WiFi"
  providerName := ascii "wifi"
  isList := false
  properties := []
  fullNames := by decide

def radioInfo : DmProviderInfo :=
  { deviceInfo with objectName := ascii "Device.WiFi.Radio", isList := true, fullNames := by decide }

def deviceDb : ModelDb := ⟨[deviceInfo, radioInfo], by decide⟩

/-- The answer to each query is a `1`: there is one item, and its id. -/
def deviceEnv : GetEnv where
  db := deviceDb
  tree := firstTree deviceDb
  text := noFloats
  answers _ parameter :=
    { values := [{ value := .string (ascii "1"), info := { fullName := parameter } }] }
  recursive := true

theorem deviceEnv_text (place : List Nat) (parameter : Bytes) :
    (QueryOutcome.results (deviceEnv.answers place parameter)).text deviceEnv.text parameter =
      ascii "1" := by
  simp only [QueryOutcome.text, deviceEnv, getResultValue, List.foldl_cons, List.foldl_nil, if_true,
    DmValue.toString]
  decide

end GetEnv

end RtMessage.DataProvider
