import RtMessage.DataProvider.Client

/- Which gets come to an end.

   A further call is for a path that goes on from the one of its caller, and the longer path
   leads to an object whose name is longer, or from a list to its item (`Resolving.rank`). So
   the recursion ends, but below an object whose name is empty. It is not safe: a recursive get
   reads from the object of its parameter, and from the object of each item of a list, whether
   there is one or not. -/
namespace RtMessage.DataProvider

/-! The rank of a path. -/

def Resolving.rank (r : Resolving) : Nat := 2 * r.fullName.length + if r.isListItem then 1 else 0

section Rank
variable {db : ModelDb} {t : Bytes} {ts : List Bytes} {o : DmProviderInfo} {r r' : Resolving}

/-- A token leads from an object that has a name to one of a higher rank. -/
theorem resolveToken_rank (hvalid : r.Valid db) (ho : r.provider = some o) (hname : o.objectName ≠ [])
    (hr : resolveToken db r t = some r') :
    (∃ o', r'.provider = some o' ∧ o'.objectName ≠ []) ∧ r.rank < r'.rank := by
  obtain ⟨hfind, hflag⟩ := hvalid o ho
  have hfull : r.fullName = o.objectName := (ModelDb.find_name hfind).symm
  rcases resolveToken_cases hr with ⟨hl, rfl⟩ | ⟨-, -, hfull', hnext, hsome, -⟩
  · refine ⟨⟨o, ho, hname⟩, ?_⟩
    rw [hl] at hflag
    have hitem : r.isListItem = false := by simpa using (Bool.and_eq_true_iff.mp hflag.symm).2
    simp [Resolving.rank, hitem]
  · rw [hfull, if_neg hname] at hfull'
    cases hp : r'.provider with
    | none =>
      rw [hsome hp] at ho
      cases ho
    | some o' =>
      have hlonger : o'.objectName = o.objectName ++ [dot] ++ t :=
        (ModelDb.find_name (hnext.symm.trans hp)).trans hfull'
      refine ⟨⟨o', rfl, ?_⟩, ?_⟩
      · rw [hlonger]
        simp
      · simp only [Resolving.rank, hfull, hfull', List.length_append, List.length_singleton]
        split <;> split <;> omega

theorem tokens_rank (hvalid : r.Valid db) (ho : r.provider = some o) (hname : o.objectName ≠ [])
    (hr : ts.foldlM (resolveToken db) r = some r') :
    (∃ o', r'.provider = some o' ∧ o'.objectName ≠ []) ∧ r.rank + ts.length ≤ r'.rank := by
  induction ts generalizing r o with
  | nil =>
    cases hr
    exact ⟨⟨o, ho, hname⟩, Nat.le_refl _⟩
  | cons t ts ih =>
    rw [List.foldlM_cons] at hr
    obtain ⟨x, hx, hrest⟩ := Option.bind_eq_some_iff.mp hr
    obtain ⟨⟨o', ho', hname'⟩, hlt⟩ := resolveToken_rank hvalid ho hname hx
    obtain ⟨hend, hle⟩ := ih (resolveToken_valid hvalid hx) ho' hname' hrest
    refine ⟨hend, ?_⟩
    rw [List.length_cons]
    omega

end Rank

/-- The rank of the path of a parameter. -/
def pathRank (db : ModelDb) (parameter : Bytes) : Nat :=
  (walk db (objectPath parameter)).elim 0 Resolving.rank

section PathRank
variable {db : ModelDb} {p q : Bytes} {o o' : DmProviderInfo} {b b' : Bool}

theorem objectOf_walk (h : objectOf db p = (some o, b)) :
    outcome (walk db (objectPath p)) = (some o, b) := by
  have hne : objectPath p ≠ [] := by
    intro heq
    rw [objectOf, heq] at h
    cases h
  rwa [← getProviderByObjectName_walk hne]

theorem objectPath_wildcard (q : Bytes) : objectPath (q ++ [dot]) = q := by
  rw [objectPath, if_pos List.getLast?_concat, trimWildcard_append]

theorem exists_rank_bound (db : ModelDb) :
    ∃ bound, ∀ p o b, objectOf db p = (some o, b) → pathRank db p ≤ bound := by
  have hnames : ∃ n, ∀ o ∈ db.objects, o.objectName.length ≤ n := by
    induction db.objects with
    | nil => exact ⟨0, fun o ho => by cases ho⟩
    | cons x os ih =>
      obtain ⟨n, hn⟩ := ih
      refine ⟨max x.objectName.length n, fun o ho => ?_⟩
      cases List.mem_cons.mp ho with
      | inl heq => exact heq ▸ Nat.le_max_left _ _
      | inr hmem => exact Nat.le_trans (hn o hmem) (Nat.le_max_right _ _)
  obtain ⟨n, hn⟩ := hnames
  refine ⟨2 * n + 1, fun p o b h => ?_⟩
  obtain ⟨r, hr, _, _, hfull, hmem, _⟩ := outcome_some (objectOf_walk h)
  have hlen := hn o hmem
  rw [pathRank, hr, Option.elim_some, Resolving.rank, hfull]
  split <;> omega

/-- A path that goes on leads to a higher rank, if it leads to an object. -/
theorem pathRank_lt (h : objectOf db p = (some o, b)) (hname : o.objectName ≠ [])
    (h' : objectOf db (objectPath p ++ dot :: q ++ [dot]) = (some o', b')) :
    o'.objectName ≠ [] ∧ pathRank db p < pathRank db (objectPath p ++ dot :: q ++ [dot]) := by
  obtain ⟨r, hr, ho, _⟩ := outcome_some (objectOf_walk h)
  obtain ⟨r', hr', ho', _⟩ := outcome_some (objectOf_walk h')
  rw [objectPath_wildcard, walk_append, hr] at hr'
  obtain ⟨⟨x, hx, hxname⟩, hle⟩ := tokens_rank (walk_valid hr) ho hname hr'
  have hsame : x = o' := Option.some.inj (hx.symm.trans ho')
  have hlen : 0 < (tokens q).length := List.length_pos_of_ne_nil (tokens_ne_nil q)
  refine ⟨hsame ▸ hxname, ?_⟩
  rw [pathRank, pathRank, objectPath_wildcard, walk_append, hr]
  simp only [hr', Option.elim_some]
  omega

end PathRank

namespace GetEnv
variable (env : GetEnv)

/-- The parameter is a wildcard for a list. -/
def ListCall (c : Call) : Prop :=
  c.2.getLast? = some dot ∧ ∃ o, objectOf env.db c.2 = (some o, false) ∧ o.isList = true

/-- The ids that the lists of the run report lead to objects. -/
def IdsResolve (c : Call) : Prop :=
  ∀ d, env.procedure.Reaches c d → env.ListCall d → env.Listed d.1 (trimWildcard d.2) →
    ∀ id ∈ env.items d.1 (trimWildcard d.2),
      (objectOf env.db (trimWildcard d.2 ++ dot :: id ++ [dot])).1.isSome

/-- There are calls that go on without an end. -/
def Endless (c : Call) : Prop :=
  ∃ f : Nat → Call, f 0 = c ∧ ∀ n, env.procedure.Calls (f n) (f (n + 1))

/-- What a get relies on. -/
def GetSafe (parameter : Bytes) : Prop :=
  env.recursive = false ∨
  (parameter.getLast? = some dot ∧ (objectOf env.db parameter).1 = none) ∨
  ∃ o, (objectOf env.db parameter).1 = some o ∧
    (o.objectName ≠ [] ∨ ¬ env.Endless ([], parameter)) ∧ env.IdsResolve ([], parameter)

section Acts
variable {env} {c d : Call} {f : Fault} {place queryPlace : List Nat} {path parameter : Bytes}

theorem fail_mem_nodeActs : .fail f ∈ env.nodeActs queryPlace place path parameter ↔
    env.recursive = true ∧ (objectOf env.db parameter).1 = none ∧ f = .undefinedBehaviour := by
  unfold nodeActs
  by_cases hrec : env.recursive = true
  · cases ho : (objectOf env.db parameter).1 with
    | none => simp [hrec]
    | some o => simp [hrec, childActs]
  · simp [hrec]

theorem call_mem_nodeActs (h : .call d ∈ env.nodeActs queryPlace place path parameter) :
    env.recursive = true ∧ ∃ y, d.2 = path ++ dot :: y ++ [dot] := by
  unfold nodeActs at h
  by_cases hrec : env.recursive = true
  · refine ⟨hrec, ?_⟩
    cases ho : (objectOf env.db parameter).1 with
    | none => simp [hrec, ho] at h
    | some o =>
      simp only [hrec, if_true, ho, List.mem_cons, reduceCtorEq, false_or, childActs, List.mem_map,
        Lib.Act.call.injEq] at h
      obtain ⟨x, hx, rfl⟩ := h
      obtain ⟨child, _, hchild⟩ := List.mem_map.mp (List.fst_mem_of_mem_zipIdx hx)
      exact ⟨_, hchild.symm⟩
  · simp [hrec] at h

theorem acts_cases (hne : c.2 ≠ []) :
    (c.2.getLast? = some dot ∧ (objectOf env.db c.2).1 = none ∧
      env.acts c = [.emit (.noProvider c.2)]) ∨
    (env.ListCall c ∧ env.acts c = env.listActs c.1 (trimWildcard c.2)) ∨
    ((c.2.getLast? = some dot → (objectOf env.db c.2).1.isSome) ∧ ¬ env.ListCall c ∧
      env.acts c = env.objectActs c.1 c.2) := by
  unfold acts
  rw [if_neg hne]
  by_cases hdot : c.2.getLast? = some dot
  · rw [if_pos hdot]
    cases ho : objectOf env.db c.2 with
    | mk o isListItem =>
      cases o with
      | none => exact .inl ⟨hdot, rfl, rfl⟩
      | some o =>
        dsimp only
        split
        · next hlist =>
          simp only [Bool.and_eq_true, Bool.not_eq_true'] at hlist
          exact .inr (.inl ⟨⟨hdot, o, by rw [ho, hlist.1], hlist.2⟩, rfl⟩)
        · next hlist =>
          refine .inr (.inr ⟨fun _ => rfl, fun hcall => ?_, rfl⟩)
          obtain ⟨_, x, hx, hl⟩ := hcall
          obtain ⟨hxo, hflag⟩ := Prod.mk.inj (ho.symm.trans hx)
          apply hlist
          rw [hflag, Option.some.inj hxo, hl]
          rfl
  · rw [if_neg hdot]
    exact .inr (.inr ⟨fun h => absurd h hdot, fun hcall => hdot hcall.1, rfl⟩)

theorem mem_listActs_item {act : GetAct} (hact : ∀ e, act ≠ .emit e) :
    act ∈ env.listActs place path ↔
      env.Listed place path ∧ ∃ item ∈ (env.items place path).zipIdx, act ∈ env.itemActs place path item := by
  unfold listActs
  by_cases hlisted : env.Listed place path
  · rw [if_pos hlisted]
    simp only [List.mem_cons, List.mem_flatMap, hlisted, true_and, hact, false_or]
  · rw [if_neg hlisted]
    simp only [List.mem_cons, List.mem_map, hlisted, false_and, iff_false, not_or]
    refine ⟨hact _, fun h => ?_⟩
    obtain ⟨e, _, he⟩ := h
    exact hact e he.symm

/-- Where the code reads from an object that is not there. -/
theorem fails_iff (hne : c.2 ≠ []) : env.procedure.Fails c ↔ env.recursive = true ∧
    ((c.2.getLast? ≠ some dot ∧ (objectOf env.db c.2).1 = none) ∨
     (env.ListCall c ∧ env.Listed c.1 (trimWildcard c.2) ∧
      ∃ id ∈ env.items c.1 (trimWildcard c.2),
        (objectOf env.db (trimWildcard c.2 ++ dot :: id ++ [dot])).1 = none)) := by
  change (∃ f, .fail f ∈ env.acts c) ↔ _
  rcases acts_cases hne with ⟨hdot, hnone, hacts⟩ | ⟨hlist, hacts⟩ | ⟨hobject, hlist, hacts⟩
  · rw [hacts]
    constructor
    · intro h
      obtain ⟨f, hf⟩ := h
      simp at hf
    · intro h
      rcases h.2 with ⟨hdot', _⟩ | ⟨⟨_, o, ho, _⟩, _⟩
      · exact absurd hdot hdot'
      · rw [ho] at hnone
        cases hnone
  · rw [hacts]
    constructor
    · intro h
      obtain ⟨f, hf⟩ := h
      obtain ⟨hlisted, item, hitem, hfail⟩ := (mem_listActs_item (by simp)).mp hf
      obtain ⟨hrec, hnone, _⟩ := fail_mem_nodeActs.mp hfail
      have hid : item.1 ∈ env.items c.1 (trimWildcard c.2) := List.fst_mem_of_mem_zipIdx hitem
      exact ⟨hrec, .inr ⟨hlist, hlisted, item.1, hid, hnone⟩⟩
    · intro h
      obtain ⟨hrec, hcases⟩ := h
      rcases hcases with ⟨hdot', _⟩ | ⟨_, hlisted, id, hid, hnone⟩
      · exact absurd hlist.1 hdot'
      · obtain ⟨i, hi, hget⟩ := List.getElem_of_mem hid
        refine ⟨.undefinedBehaviour, (mem_listActs_item (by simp)).mpr ⟨hlisted, (id, i), ?_, ?_⟩⟩
        · exact List.mk_mem_zipIdx_iff_getElem?.mpr (List.getElem?_eq_some_iff.mpr ⟨hi, hget⟩)
        · exact fail_mem_nodeActs.mpr ⟨hrec, hnone, rfl⟩
  · rw [hacts]
    constructor
    · intro h
      obtain ⟨f, hf⟩ := h
      obtain ⟨hrec, hnone, _⟩ := fail_mem_nodeActs.mp hf
      refine ⟨hrec, .inl ⟨fun hdot => ?_, hnone⟩⟩
      have hsome := hobject hdot
      rw [hnone] at hsome
      cases hsome
    · intro h
      obtain ⟨hrec, hcases⟩ := h
      rcases hcases with ⟨_, hnone⟩ | ⟨hlist', _⟩
      · exact ⟨.undefinedBehaviour, fail_mem_nodeActs.mpr ⟨hrec, hnone, rfl⟩⟩
      · exact absurd hlist' hlist

/-- A further call is for a wildcard, and its path goes on from the one of its caller. -/
theorem calls_path (h : env.procedure.Calls c d) :
    env.recursive = true ∧ (c.2.getLast? = some dot → (objectOf env.db c.2).1.isSome) ∧
      ∃ y, d.2 = objectPath c.2 ++ dot :: y ++ [dot] := by
  have hmem : .call d ∈ env.acts c := h
  have hne : c.2 ≠ [] := by
    intro heq
    rw [acts, if_pos heq] at hmem
    simp at hmem
  rcases acts_cases hne with ⟨_, _, hacts⟩ | ⟨⟨hdot, o, ho, _⟩, hacts⟩ | ⟨hobject, _, hacts⟩
  · rw [hacts] at hmem
    simp at hmem
  · rw [hacts] at hmem
    obtain ⟨_, item, _, hcall⟩ := (mem_listActs_item (by simp)).mp hmem
    obtain ⟨hrec, y, hy⟩ := call_mem_nodeActs hcall
    refine ⟨hrec, fun _ => by rw [ho]; rfl, item.1 ++ dot :: y, ?_⟩
    rw [hy, objectPath, if_pos hdot]
    simp
  · rw [hacts] at hmem
    obtain ⟨hrec, y, hy⟩ := call_mem_nodeActs hmem
    exact ⟨hrec, hobject, y, by rw [hy, objectPath_eq]⟩

theorem fail_mem_acts (h : .fail f ∈ env.acts c) : f = .undefinedBehaviour := by
  by_cases hne : c.2 = []
  · rw [acts, if_pos hne] at h
    simpa using h
  · rcases acts_cases hne with ⟨_, _, hacts⟩ | ⟨_, hacts⟩ | ⟨_, _, hacts⟩
    · rw [hacts] at h
      simp at h
    · rw [hacts] at h
      obtain ⟨_, item, _, hfail⟩ := (mem_listActs_item (by simp)).mp h
      exact (fail_mem_nodeActs.mp hfail).2.2
    · rw [hacts] at h
      exact (fail_mem_nodeActs.mp h).2.2

theorem reaches_wildcard (h : env.procedure.Reaches c d) : d = c ∨ d.2.getLast? = some dot := by
  cases h.cases_tail with
  | inl heq => exact .inl heq
  | inr htail =>
    obtain ⟨b, _, hcalls⟩ := htail
    obtain ⟨_, _, y, hy⟩ := calls_path hcalls
    exact .inr (hy ▸ List.getLast?_concat)

theorem reaches_ne_nil (h : env.procedure.Reaches c d) (hne : c.2 ≠ []) : d.2 ≠ [] := by
  cases reaches_wildcard h with
  | inl heq => exact heq ▸ hne
  | inr hdot =>
    intro heq
    rw [heq] at hdot
    cases hdot

/-! The recursion. -/

theorem acc_of_refused (hdot : c.2.getLast? = some dot) (hnone : (objectOf env.db c.2).1 = none) :
    Acc (fun x y => env.procedure.Calls y x) c := by
  refine .intro c fun d hd => ?_
  obtain ⟨_, hsome, _⟩ := calls_path hd
  have hobject := hsome hdot
  rw [hnone] at hobject
  cases hobject

/-- Each further call has a higher rank, and there is a highest one. -/
theorem acc_of_named {o : DmProviderInfo} {b : Bool} (h : objectOf env.db c.2 = (some o, b))
    (hname : o.objectName ≠ []) : Acc (fun x y => env.procedure.Calls y x) c := by
  obtain ⟨bound, hbound⟩ := exists_rank_bound env.db
  induction hleft : bound - pathRank env.db c.2 using Nat.strong_induction_on
    generalizing c o b with
  | _ left ih =>
    refine .intro c fun d hd => ?_
    obtain ⟨_, _, y, hy⟩ := calls_path hd
    cases ho' : objectOf env.db d.2 with
    | mk o' b' =>
      cases o' with
      | none =>
        apply acc_of_refused
        · exact hy ▸ List.getLast?_concat
        · rw [ho']
      | some o' =>
        have hnext : objectOf env.db (objectPath c.2 ++ dot :: y ++ [dot]) = (some o', b') := hy ▸ ho'
        obtain ⟨hname', hlt⟩ := pathRank_lt h hname hnext
        rw [← hy] at hlt
        have hle := hbound d.2 o' b' ho'
        exact ih (bound - pathRank env.db d.2) (by omega) ho' hname' rfl

theorem get_ends (hnames : ∀ o ∈ env.db.objects, o.objectName ≠ []) (c : Call) :
    ∃ fuel, env.runGet fuel c ≠ .error .outOfFuel := by
  have hacc : Acc (fun x y => env.procedure.Calls y x) c := by
    cases ho : objectOf env.db c.2 with
    | mk o b =>
      cases o with
      | some o =>
        obtain ⟨_, _, _, _, _, hmem, _⟩ := outcome_some (objectOf_walk ho)
        exact acc_of_named ho (hnames o hmem)
      | none =>
        refine .intro c fun d hd => ?_
        obtain ⟨_, _, y, hy⟩ := calls_path hd
        cases ho' : objectOf env.db d.2 with
        | mk o' b' =>
          cases o' with
          | some o' =>
            obtain ⟨_, _, _, _, _, hmem, _⟩ := outcome_some (objectOf_walk ho')
            exact acc_of_named ho' (hnames o' hmem)
          | none =>
            apply acc_of_refused
            · exact hy ▸ List.getLast?_concat
            · rw [ho']
  have hstop : ∀ b, .fail Fault.outOfFuel ∉ env.procedure.acts b :=
    fun b hb => absurd (fail_mem_acts hb) (by decide)
  obtain ⟨fuel, hfuel⟩ := Lib.Procedure.run_ends hacc hstop
  exact ⟨fuel, by rwa [runGet_eq]⟩

theorem finishes_iff : (∃ fuel r, env.runGet fuel c = .ok r) ↔ env.procedure.Grounded c := by
  rw [← Lib.Procedure.returns_iff]
  constructor
  · intro h
    obtain ⟨fuel, r, hrun⟩ := h
    exact ⟨r, Lib.Procedure.run_ok_iff.mp ⟨fuel, (env.runGet_eq fuel c).symm.trans hrun⟩⟩
  · intro h
    obtain ⟨r, hr⟩ := h
    have hbound : ∃ fuel, env.procedure.run .outOfFuel fuel c = .ok r :=
      Lib.Procedure.run_ok_iff.mpr hr
    obtain ⟨fuel, hrun⟩ := hbound
    exact ⟨fuel, r, (env.runGet_eq fuel c).trans hrun⟩

theorem grounded_of_safe (hne : parameter ≠ []) (h : env.GetSafe parameter) :
    env.procedure.Grounded ([], parameter) := by
  rcases h with hrec | ⟨hdot, hnone⟩ | ⟨o, ho, hend, hids⟩
  · have hrec' : ¬ env.recursive = true := by simp [hrec]
    refine ⟨.intro _ fun d hd => absurd (calls_path hd).1 hrec', fun d hd hfails => ?_⟩
    exact hrec' ((fails_iff (reaches_ne_nil hd hne)).mp hfails).1
  · refine ⟨acc_of_refused hdot hnone, fun d hd hfails => ?_⟩
    cases hd.cases_head with
    | inr hhead =>
      obtain ⟨b, hb, _⟩ := hhead
      have hobject := (calls_path hb).2.1 hdot
      rw [hnone] at hobject
      cases hobject
    | inl heq =>
      subst heq
      rcases ((fails_iff hne).mp hfails).2 with ⟨hdot', _⟩ | ⟨⟨_, o, ho, _⟩, _⟩
      · exact hdot' hdot
      · rw [ho] at hnone
        cases hnone
  · have hacc : Acc (fun x y => env.procedure.Calls y x) ([], parameter) := by
      cases hend with
      | inl hname => exact acc_of_named (c := ([], parameter)) (Prod.ext ho rfl) hname
      | inr hfinite =>
        by_contra hacc
        exact hfinite (not_acc_iff_exists_descending_chain.mp hacc)
    refine ⟨hacc, fun d hd hfails => ?_⟩
    rcases ((fails_iff (reaches_ne_nil hd hne)).mp hfails).2 with
      ⟨hdot, hnone⟩ | ⟨hlist, hlisted, id, hid, hnone⟩
    · cases reaches_wildcard hd with
      | inl heq =>
        rw [heq, ho] at hnone
        cases hnone
      | inr hwild => exact hdot hwild
    · have hsome := hids d hd hlist hlisted id hid
      rw [hnone] at hsome
      cases hsome

theorem safe_of_grounded (hne : parameter ≠ []) (h : env.procedure.Grounded ([], parameter)) :
    env.GetSafe parameter := by
  cases hrec : env.recursive with
  | false => exact .inl hrec
  | true =>
    right
    cases ho : (objectOf env.db parameter).1 with
    | none =>
      by_cases hdot : parameter.getLast? = some dot
      · exact .inl ⟨hdot, rfl⟩
      · exact absurd ((fails_iff hne).mpr ⟨hrec, .inl ⟨hdot, ho⟩⟩) (h.2 _ .refl)
    | some o =>
      refine .inr ⟨o, rfl, .inr fun hendless => ?_, fun d hd hlist hlisted id hid => ?_⟩
      · have hacc : ¬ Acc (fun x y => env.procedure.Calls y x) ([], parameter) :=
          not_acc_iff_exists_descending_chain.mpr hendless
        exact hacc h.1
      · cases hid' : (objectOf env.db (trimWildcard d.2 ++ dot :: id ++ [dot])).1 with
        | some o => rfl
        | none =>
          have hfails : env.procedure.Fails d := (fails_iff (reaches_ne_nil hd hne)).mpr
            ⟨hrec, .inr ⟨hlist, hlisted, id, hid, hid'⟩⟩
          exact absurd hfails (h.2 d hd)

theorem item_resolves {o : DmProviderInfo} {id : Bytes} (hdot : c.2.getLast? = some dot)
    (ho : objectOf env.db c.2 = (some o, false)) (hl : o.isList = true) (hid : dot ∉ id) :
    objectOf env.db (trimWildcard c.2 ++ dot :: id ++ [dot]) = (some o, true) := by
  have hpath : objectPath c.2 = trimWildcard c.2 := if_pos hdot
  have hwalk := objectOf_walk ho
  rw [hpath] at hwalk
  rw [objectOf, objectPath_wildcard, getProviderByObjectName_walk (by simp)]
  exact walk_instance hwalk hl hid

end Acts

/-- A get returns, and reads from no object that is not there, exactly under this condition. -/
theorem get_safe_iff (env : GetEnv) (parameter : Bytes) (hne : parameter ≠ []) :
    (∃ fuel r, env.runGet fuel ([], parameter) = .ok r) ↔ env.GetSafe parameter := by
  rw [finishes_iff]
  exact ⟨safe_of_grounded hne, grounded_of_safe hne⟩

/-! A parameter that no object is found for. -/

def wifiEnv : GetEnv where
  db := wifiDb
  tree := firstTree wifiDb
  text := noFloats
  answers _ _ := {}
  recursive := true

theorem get_safe_iff_example :
    (∃ fuel r, wifiEnv.runGet fuel ([], ascii "WiFi.EndPoint.") = .ok r) ↔
      wifiEnv.GetSafe (ascii "WiFi.EndPoint.") :=
  get_safe_iff wifiEnv (ascii "WiFi.EndPoint.") (by decide)

/-- The get of an unknown property with all that is below it does not return. -/
theorem unknown_object_read : ¬ ∀ (db : ModelDb) (text : FloatText)
    (answers : List Nat → Bytes → DmQueryResult) (recursive : Bool) (parameter : Bytes),
    parameter ≠ [] → ∃ fuel r,
      runGet { db, tree := firstTree db, text, answers, recursive } fuel ([], parameter) = .ok r := by
  intro h
  have hrun := h wifiDb noFloats wifiEnv.answers true (ascii "LAN.Name") (by decide)
  have hgrounded : wifiEnv.procedure.Grounded ([], ascii "LAN.Name") := finishes_iff.mp hrun
  have hnone : (objectOf wifiDb (ascii "LAN.Name")).1 = none := rfl
  have hfails : wifiEnv.procedure.Fails ([], ascii "LAN.Name") :=
    (fails_iff (by decide)).mpr ⟨rfl, .inl ⟨by decide, hnone⟩⟩
  exact hgrounded.2 _ .refl hfails

end GetEnv

end RtMessage.DataProvider
