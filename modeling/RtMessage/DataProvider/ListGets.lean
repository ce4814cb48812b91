import RtMessage.DataProvider.Traversal

/- A list that its parent describes: the number of its items and their ids.

   The ids come in one string, joined by commas. A string that is split has one token or more,
   so a list without items is taken for one with an item that has an empty id, and is refused
   because the number does not agree. -/
namespace RtMessage.DataProvider

/-! A number and its text. -/

theorem digits_numeral {s : Bytes} (h : Lib.Numeral s) : digits s = Lib.digitsValue s := by
  have hall : s.takeWhile (fun c => 48 ≤ c && c ≤ 57) = s := by
    refine List.takeWhile_eq_self_iff.mpr fun b hb => ?_
    simp only [Bool.and_eq_true, decide_eq_true_eq, UInt8.le_iff_toNat_le]
    exact Lib.toNat_of_isDigit (h.2 b hb)
  rw [digits, hall]
  rfl

theorem atoi_numeral {s : Bytes} (h : Lib.Numeral s) : atoi s = Lib.digitsValue s := by
  obtain ⟨d, ds, rfl, hspace, hminus, hplus⟩ := h.exists_cons
  rw [atoi, List.dropWhile_cons_of_neg (by rw [hspace]; decide)]
  split
  · next heq => exact absurd (List.cons.inj heq).1 hminus
  · next heq => exact absurd (List.cons.inj heq).1 hplus
  · rw [digits_numeral h]

theorem atoi_decimal (n : Nat) : atoi (decimal n) = n := by
  rw [decimal_ofNat, atoi_numeral (Lib.numeral_digits n), Lib.digitsValue_digits]

/-! Queries about the items of a list. -/

/-- The queries for an item of the list, not for what is below it. -/
def itemQueries (path : Bytes) (events : List Event) : List Bytes :=
  (objectQueries events).filter fun q => trimProperty (objectPath q) = path

/-- The path goes on below an item of the list. -/
def BelowItem (path q : Bytes) : Prop := ∃ id y, q = path ++ dot :: id ++ dot :: y

section Below
variable {path q : Bytes}

theorem length_le_trimProperty (a b : Bytes) : a.length ≤ (trimProperty (a ++ dot :: b)).length := by
  by_cases hdot : dot ∈ b
  · obtain ⟨u, v, rfl, hv⟩ := eq_append_last hdot
    have hsplit : a ++ dot :: (u ++ dot :: v) = (a ++ dot :: u) ++ dot :: v := by simp
    rw [hsplit, trimProperty_append _ hv]
    simp
  · rw [trimProperty_append a hdot]

theorem BelowItem.ne_item (h : BelowItem path q) : trimProperty q ≠ path := by
  obtain ⟨id, y, rfl⟩ := h
  intro heq
  have hlen := length_le_trimProperty (path ++ dot :: id) y
  rw [heq, List.length_append, List.length_cons] at hlen
  omega

theorem BelowItem.ne (h : BelowItem path q) : q ≠ path := by
  obtain ⟨id, y, rfl⟩ := h
  intro heq
  have hlen := congrArg List.length heq
  simp at hlen

theorem BelowItem.append (h : BelowItem path q) (z : Bytes) : BelowItem path (q ++ dot :: z) := by
  obtain ⟨id, y, rfl⟩ := h
  exact ⟨id, y ++ dot :: z, by simp⟩

end Below

namespace GetEnv

/-- Both queries about the list are answered: the number of the ids, and the ids. -/
structure Reports (env : GetEnv) (place : List Nat) (path : Bytes) (ids : List Bytes) : Prop where
  numberStatus : (env.answers (0 :: place) (path ++ ascii "NumberOfEntries")).status = rtOk
  numberOfEntries :
    (QueryOutcome.results (env.answers (0 :: place) (path ++ ascii "NumberOfEntries"))).text env.text
      (path ++ ascii "NumberOfEntries") = decimal ids.length
  idsStatus : (env.answers (1 :: place) (path ++ ascii "IdsOfEntries")).status = rtOk
  idsOfEntries :
    (QueryOutcome.results (env.answers (1 :: place) (path ++ ascii "IdsOfEntries"))).text env.text
      (path ++ ascii "IdsOfEntries") = [comma].intercalate ids

/-- A wildcard get of the list asks for the items of these ids, in order, and for no other
    items, and does not refuse the list. Without recursion it asks for nothing else; it
    returns if the gets of what is below the items do. -/
structure Accepts (env : GetEnv) (place : List Nat) (path : Bytes) (ids : List Bytes) : Prop where
  returns : (∀ d, env.procedure.Calls (place, path ++ [dot]) d → ∃ fuel r, env.runGet fuel d = .ok r) →
    ∃ fuel r, env.runGet fuel (place, path ++ [dot]) = .ok r
  items : ∀ fuel r, env.runGet fuel (place, path ++ [dot]) = .ok r →
    itemQueries path r.2 = ids.map fun id => path ++ dot :: id ++ [dot]
  nothingElse : env.recursive = false → ∀ fuel r, env.runGet fuel (place, path ++ [dot]) = .ok r →
    objectQueries r.2 = ids.map fun id => path ++ dot :: id ++ [dot]
  notRefused : ∀ fuel r, env.runGet fuel (place, path ++ [dot]) = .ok r → .sizeMismatch path ∉ r.2

section Emitted
variable {env : GetEnv} {c d : Call} {e : Event} {q path l : Bytes} {place queryPlace : List Nat}
  {ids : List Bytes} {o : DmProviderInfo}

theorem emit_mem_nodeActs (h : .emit e ∈ env.nodeActs queryPlace place path q) :
    e = env.query .object queryPlace q := by
  unfold nodeActs at h
  cases List.mem_cons.mp h with
  | inl heq => exact Lib.Act.emit.inj heq
  | inr hmem =>
    exfalso
    by_cases hrec : env.recursive = true
    · rw [if_pos hrec] at hmem
      split at hmem
      · simp at hmem
      · simp [childActs] at hmem
    · rw [if_neg hrec] at hmem
      cases hmem

/-- What a call for a list tells of the list itself, and its queries for items. -/
theorem emit_mem_listActs (h : .emit e ∈ env.listActs place path) :
    (e.object? = none ∧ ∀ l, e = .sizeMismatch l → l = path) ∨
      ∃ queryPlace id, e = env.query .object queryPlace (path ++ dot :: id ++ [dot]) := by
  unfold listActs at h
  rcases List.mem_cons.mp h with heq | hmem
  · cases heq
    exact .inl ⟨rfl, fun l hl => by cases hl⟩
  · by_cases hlisted : env.Listed place path
    · rw [if_pos hlisted] at hmem
      rcases List.mem_cons.mp hmem with heq | hitems
      · cases heq
        exact .inl ⟨rfl, fun l hl => by cases hl⟩
      · obtain ⟨item, _, hact⟩ := List.mem_flatMap.mp hitems
        exact .inr ⟨_, item.1, emit_mem_nodeActs hact⟩
    · rw [if_neg hlisted] at hmem
      obtain ⟨x, hx, heq⟩ := List.mem_map.mp hmem
      cases heq
      unfold refusal at hx
      left
      split at hx
      · cases hx
      · split at hx
        · obtain rfl := List.mem_singleton.mp hx
          exact ⟨rfl, fun l hl => by cases hl⟩
        · simp only [List.mem_cons, List.not_mem_nil, or_false] at hx
          rcases hx with rfl | rfl
          · exact ⟨rfl, fun l hl => by cases hl⟩
          · exact ⟨rfl, fun l hl => (Event.sizeMismatch.inj hl).symm⟩

theorem emit_mem_acts (hne : c.2 ≠ []) (h : .emit e ∈ env.acts c) :
    (∀ q, e.object? = some q → objectPath q = objectPath c.2 ∨
      ∃ id, objectPath q = objectPath c.2 ++ dot :: id) ∧
    ∀ l, e = .sizeMismatch l → l = objectPath c.2 := by
  rcases acts_cases hne with ⟨_, _, hacts⟩ | ⟨⟨hdot, _⟩, hacts⟩ | ⟨_, _, hacts⟩
  · rw [hacts] at h
    obtain rfl := Lib.Act.emit.inj (List.mem_singleton.mp h)
    exact ⟨fun q hq => (by cases hq), fun l hl => (by cases hl)⟩
  · have hpath : objectPath c.2 = trimWildcard c.2 := if_pos hdot
    rw [hacts] at h
    rw [hpath]
    rcases emit_mem_listActs h with ⟨hnone, hmismatch⟩ | ⟨queryPlace, id, rfl⟩
    · refine ⟨fun q hq => ?_, hmismatch⟩
      rw [hnone] at hq
      cases hq
    · refine ⟨fun q hq => .inr ⟨id, ?_⟩, fun l hl => by cases hl⟩
      obtain rfl := Option.some.inj hq
      rw [objectPath_wildcard]
  · rw [hacts] at h
    obtain rfl := emit_mem_nodeActs h
    refine ⟨fun q hq => .inl ?_, fun l hl => by cases hl⟩
    rw [← Option.some.inj hq]

theorem reaches_below (h : BelowItem path (objectPath c.2)) (hd : env.procedure.Reaches c d) :
    BelowItem path (objectPath d.2) := by
  induction hd with
  | refl => exact h
  | tail _ hstep ih =>
    obtain ⟨_, _, y, hy⟩ := calls_path hstep
    rw [hy, objectPath_wildcard]
    exact ih.append y

theorem below_events (hne : c.2 ≠ []) (h : BelowItem path (objectPath c.2))
    (hd : env.procedure.Reaches c d) (he : .emit e ∈ env.procedure.acts d) :
    (∀ q, e.object? = some q → trimProperty (objectPath q) ≠ path) ∧ e ≠ .sizeMismatch path := by
  have hbelow := reaches_below h hd
  obtain ⟨hobject, hmismatch⟩ := emit_mem_acts (reaches_ne_nil hd hne) he
  refine ⟨fun q hq => ?_, fun heq => ?_⟩
  · rcases hobject q hq with hsame | ⟨id, hnext⟩
    · exact hsame ▸ hbelow.ne_item
    · exact hnext ▸ (hbelow.append id).ne_item
  · exact hbelow.ne (hmismatch path heq).symm

theorem call_mem_listActs (h : .call d ∈ env.listActs place path) :
    env.recursive = true ∧ d.2 ≠ [] ∧ BelowItem path (objectPath d.2) := by
  obtain ⟨_, item, _, hcall⟩ := (mem_listActs_item (by simp)).mp h
  obtain ⟨hrec, y, hy⟩ := call_mem_nodeActs hcall
  refine ⟨hrec, by simp [hy], item.1, y, ?_⟩
  rw [hy, objectPath_wildcard]

end Emitted

/-! A list whose parent is in the model. -/

section Accepting
variable {env : GetEnv} {place : List Nat} {path t : Bytes} {ids : List Bytes}
  {o p : DmProviderInfo} {r : GetRun} {fuel : Nat}

/-- Both queries about the list are made and answered. -/
theorem Reports.answered (h : env.Reports place path ids)
    (hpath : getProviderByObjectName env.db path false = (some o, false))
    (hp : p ∈ env.db.objects) (hname : o.objectName = p.objectName ++ dot :: t) (ht : dot ∉ t) :
    (env.number place path).succeeded = true ∧ (env.ids place path).succeeded = true ∧
    atoi ((env.number place path).text env.text (path ++ ascii "NumberOfEntries")) = ids.length ∧
    env.items place path = splitString ([comma].intercalate ids) comma := by
  have hdotted : dot ∈ o.objectName := hname ▸ by simp
  have hparent : (env.db.find (trimProperty o.objectName)).isSome := by
    rw [hname, trimProperty_append _ ht, ModelDb.find_of_mem hp]
    rfl
  have hnumber : env.number place path =
      .results (env.answers (0 :: place) (path ++ ascii "NumberOfEntries")) :=
    if_pos (size_query_created hpath hdotted hparent (by decide))
  have hids : env.ids place path =
      .results (env.answers (1 :: place) (path ++ ascii "IdsOfEntries")) :=
    if_pos (size_query_created hpath hdotted hparent (by decide))
  rw [items, hnumber, hids, h.numberOfEntries, h.idsOfEntries, atoi_decimal]
  exact ⟨beq_iff_eq.mpr h.numberStatus, beq_iff_eq.mpr h.idsStatus, rfl, rfl⟩

theorem own_queries (hlisted : env.Listed place path) :
    (env.listActs place path).filterMap Lib.Act.event? =
      .query .numberOfEntries (path ++ ascii "NumberOfEntries") (env.number place path) ::
      .query .idsOfEntries (path ++ ascii "IdsOfEntries") (env.ids place path) ::
      (env.items place path).zipIdx.map fun item =>
        env.query .object ((item.2 + 2) :: place) (path ++ dot :: item.1 ++ [dot]) := by
  have hitem : ∀ item, (env.itemActs place path item).filterMap Lib.Act.event? =
      [env.query .object ((item.2 + 2) :: place) (path ++ dot :: item.1 ++ [dot])] := by
    intro item
    have hcalls : ∀ acts : List GetAct, (∀ e, .emit e ∉ acts) → acts.filterMap Lib.Act.event? = [] := by
      intro acts hacts
      apply List.filterMap_eq_nil_iff.mpr
      intro act hact
      cases act with
      | emit e => exact absurd hact (hacts e)
      | call c => rfl
      | fail f => rfl
    rw [itemActs, nodeActs, List.filterMap_cons]
    dsimp only [Lib.Act.event?]
    rw [hcalls]
    intro e he
    by_cases hrec : env.recursive = true
    · rw [if_pos hrec] at he
      split at he
      · simp at he
      · simp [childActs] at he
    · rw [if_neg hrec] at he
      cases he
  rw [listActs, if_pos hlisted, List.filterMap_cons, List.filterMap_cons, List.filterMap_flatMap]
  dsimp only [Lib.Act.event?]
  simp only [hitem]
  rw [← List.map_eq_flatMap]

theorem runGet_listActs (hpath : getProviderByObjectName env.db path false = (some o, false))
    (hl : o.isList = true) (hr : env.runGet fuel (place, path ++ [dot]) = .ok r) :
    env.procedure.Performs (env.listActs place path) (true, []) r := by
  have hreturns : env.procedure.Returns (place, path ++ [dot]) r :=
    Lib.Procedure.returns_of_run ((env.runGet_eq fuel _).symm.trans hr)
  have hacts : env.procedure.acts (place, path ++ [dot]) = env.listActs place path :=
    acts_list hpath hl
  rwa [Lib.Procedure.Returns, hacts] at hreturns

theorem own_objects (hlisted : env.Listed place path) :
    objectQueries ((env.listActs place path).filterMap Lib.Act.event?) =
      (env.items place path).map fun id => path ++ dot :: id ++ [dot] := by
  have hitems : ∀ (ids : List Bytes) (k : Nat), objectQueries ((ids.zipIdx k).map fun item =>
      env.query .object ((item.2 + 2) :: place) (path ++ dot :: item.1 ++ [dot])) =
        ids.map fun id => path ++ dot :: id ++ [dot] := by
    intro ids
    induction ids with
    | nil => exact fun k => rfl
    | cons id ids ih => exact fun k => congrArg (List.cons _) (ih (k + 1))
  rw [own_queries hlisted]
  exact hitems _ 0

theorem list_queries (hlisted : env.Listed place path)
    (h : env.procedure.Performs (env.listActs place path) (true, []) r)
    (hfree : ∀ id ∈ env.items place path, dot ∉ id) :
    itemQueries path r.2 = (env.items place path).map (fun id => path ++ dot :: id ++ [dot]) ∧
    (env.recursive = false →
      objectQueries r.2 = (env.items place path).map fun id => path ++ dot :: id ++ [dot]) := by
  constructor
  · have hquery : ∀ events, itemQueries path events = events.filterMap fun e =>
        e.object?.filter fun q => trimProperty (objectPath q) = path := by
      intro events
      rw [itemQueries, objectQueries, List.filter_filterMap]
    -- a query below an item is none for an item
    have hbelow : ∀ b, .call b ∈ env.listActs place path → ∀ c, env.procedure.Reaches b c →
        ∀ e, .emit e ∈ env.procedure.acts c →
          (e.object?.filter fun q => trimProperty (objectPath q) = path) = none := by
      intro b hb c hc e he
      obtain ⟨_, hne, hb⟩ := call_mem_listActs hb
      rw [Option.filter_eq_none_iff]
      intro q hq
      simpa using (below_events hne hb hc he).1 q hq
    have hown := h.filterMap_events hbelow
    rw [← hquery, ← hquery, ← hquery, itemQueries, itemQueries, itemQueries, own_objects hlisted] at hown
    rw [itemQueries, hown]
    apply List.filter_eq_self.mpr
    intro q hq
    obtain ⟨id, hid, rfl⟩ := List.mem_map.mp hq
    rw [objectPath_wildcard, trimProperty_append path (hfree id hid)]
    exact decide_eq_true rfl
  · intro hrec
    have hnone : ∀ b, .call b ∈ env.listActs place path → ∀ c, env.procedure.Reaches b c →
        ∀ e, .emit e ∈ env.procedure.acts c → e.object? = none := by
      intro b hb
      have hcall := (call_mem_listActs hb).1
      rw [hrec] at hcall
      cases hcall
    have hown := h.filterMap_events hnone
    rw [objectQueries, hown, ← own_objects hlisted]
    rfl

theorem refused_iff (hnumber : (env.number place path).succeeded = true)
    (hids : (env.ids place path).succeeded = true)
    (h : env.procedure.Performs (env.listActs place path) (true, []) r) :
    .sizeMismatch path ∈ r.2 ↔ ¬ env.Listed place path := by
  constructor
  · intro hmem hlisted
    rcases (h.mem_events _).mp hmem with hnil | hown | ⟨b, c, hb, hc, he⟩
    · cases hnil
    · rw [listActs, if_pos hlisted] at hown
      simp only [List.mem_cons, Lib.Act.emit.injEq, reduceCtorEq, false_or] at hown
      obtain ⟨item, _, hact⟩ := List.mem_flatMap.mp hown
      cases emit_mem_nodeActs hact
    · obtain ⟨_, hne, hbelow⟩ := call_mem_listActs hb
      exact (below_events hne hbelow hc he).2 rfl
  · intro hlisted
    apply (h.mem_events _).mpr
    right
    left
    rw [listActs, if_neg hlisted, refusal, hnumber, hids]
    simp

theorem list_returns (hpath : getProviderByObjectName env.db path false = (some o, false))
    (hl : o.isList = true) (hfree : ∀ id ∈ env.items place path, dot ∉ id)
    (hcalls : ∀ d, env.procedure.Calls (place, path ++ [dot]) d → ∃ fuel r, env.runGet fuel d = .ok r) :
    ∃ fuel r, env.runGet fuel (place, path ++ [dot]) = .ok r := by
  have hobject := (objectOf_wildcard env.db path).trans hpath
  apply finishes_iff.mpr
  apply Lib.Procedure.grounded_of_calls
  · exact fun d hd => finishes_iff.mp (hcalls d hd)
  · intro hfails
    rcases ((fails_iff (by simp)).mp hfails).2 with ⟨hdot, _⟩ | ⟨_, _, id, hid, hnone⟩
    · exact hdot List.getLast?_concat
    · rw [trimWildcard_append] at hid
      have hitem := item_resolves (c := (place, path ++ [dot])) List.getLast?_concat hobject hl
        (hfree id hid)
      rw [hitem] at hnone
      cases hnone

end Accepting

/-- A list that its parent describes is accepted exactly if it has an item. -/
theorem list_accepted_iff (env : GetEnv) (place : List Nat) (path t : Bytes) (ids : List Bytes)
    (o p : DmProviderInfo) (hpath : getProviderByObjectName env.db path false = (some o, false))
    (hl : o.isList = true) (hp : p ∈ env.db.objects) (hname : o.objectName = p.objectName ++ dot :: t)
    (ht : dot ∉ t) (hfree : ∀ id ∈ ids, id ≠ [] ∧ dot ∉ id ∧ comma ∉ id)
    (h : env.Reports place path ids) : env.Accepts place path ids ↔ ids ≠ [] := by
  obtain ⟨hnumber, hids, hcount, hitems⟩ := h.answered hpath hp hname ht
  constructor
  · intro haccepts heq
    subst heq
    -- the empty string is split into one empty token
    have hempty : env.items place path = [[]] := by
      rw [hitems, splitString_eq_splitOn]
      rfl
    have hlisted : ¬ env.Listed place path := by
      intro hlisted
      have hlen := hlisted.2.2
      rw [hempty, hcount] at hlen
      cases hlen
    obtain ⟨fuel, r, hr⟩ := haccepts.returns fun d hd => by
      have hcall : .call d ∈ env.listActs place path := acts_list hpath hl ▸ hd
      obtain ⟨hgone, _⟩ := (mem_listActs_item (by simp)).mp hcall
      exact absurd hgone hlisted
    have hrefused := (refused_iff hnumber hids (runGet_listActs hpath hl hr)).mpr hlisted
    exact haccepts.notRefused fuel r hr hrefused
  · intro hne
    have hsplit : env.items place path = ids := by
      rw [hitems, splitString_join hne fun id hid => (hfree id hid).2.2]
    have hlisted : env.Listed place path := by
      refine ⟨hnumber, hids, ?_⟩
      rw [hsplit, hcount]
    have hdots : ∀ id ∈ env.items place path, dot ∉ id := fun id hid => (hfree id (hsplit ▸ hid)).2.1
    have hqueries := fun fuel r (hr : env.runGet fuel (place, path ++ [dot]) = .ok r) =>
      list_queries hlisted (runGet_listActs hpath hl hr) hdots
    rw [hsplit] at hqueries
    exact {
      returns := list_returns hpath hl hdots
      items := fun fuel r hr => (hqueries fuel r hr).1
      nothingElse := fun hrec fuel r hr => (hqueries fuel r hr).2 hrec
      notRefused := fun fuel r hr hmem =>
        (refused_iff hnumber hids (runGet_listActs hpath hl hr)).mp hmem hlisted }

/-- A list with the item `1`: both answers are a `1`. -/
theorem list_accepted_iff_example :
    deviceEnv.Accepts [] (ascii "Device.WiFi.Radio") [ascii "1"] ↔ [ascii "1"] ≠ [] :=
  list_accepted_iff deviceEnv [] (ascii "Device.WiFi.Radio") (ascii "Radio") [ascii "1"] radioInfo
    deviceInfo rfl rfl List.mem_cons_self rfl (by decide) (by decide)
    { numberStatus := rfl
      numberOfEntries := deviceEnv_text [0] _
      idsStatus := rfl
      idsOfEntries := deviceEnv_text [1] _ }

/-- The list has no items: the first answer is a `0`, the second one is the empty string. -/
def noItemsEnv : GetEnv :=
  { deviceEnv with
    answers := fun place parameter =>
      { values := [{ value := .string (if place = [0] then ascii "0" else [])
                     info := { fullName := parameter } }] } }

theorem noItemsEnv_reports : noItemsEnv.Reports [] (ascii "Device.WiFi.Radio") [] where
  numberStatus := rfl
  numberOfEntries := by
    simp only [QueryOutcome.text, noItemsEnv, getResultValue, List.foldl_cons, List.foldl_nil, if_true,
      DmValue.toString]
    decide
  idsStatus := rfl
  idsOfEntries := by
    simp only [QueryOutcome.text, noItemsEnv, getResultValue, List.foldl_cons, List.foldl_nil, if_true,
      DmValue.toString]
    decide

/-- A list without items is refused. -/
theorem empty_list_refused : ¬ ∀ (env : GetEnv) (place : List Nat) (path t : Bytes)
    (ids : List Bytes) (o p : DmProviderInfo),
    getProviderByObjectName env.db path false = (some o, false) → o.isList = true →
    p ∈ env.db.objects → o.objectName = p.objectName ++ dot :: t → dot ∉ t →
    (∀ id ∈ ids, id ≠ [] ∧ dot ∉ id ∧ comma ∉ id) → env.Reports place path ids →
    env.Accepts place path ids := by
  intro h
  have haccepts := h noItemsEnv [] (ascii "Device.WiFi.Radio") (ascii "Radio") [] radioInfo deviceInfo
    rfl rfl List.mem_cons_self rfl (by decide) (by decide) noItemsEnv_reports
  have hrun : noItemsEnv.runGet 1 ([], ascii "Device.WiFi.Radio" ++ [dot]) = .ok (false,
      [.query .numberOfEntries (ascii "Device.WiFi.RadioNumberOfEntries")
        (.results (noItemsEnv.answers [0] (ascii "Device.WiFi.RadioNumberOfEntries"))),
       .query .idsOfEntries (ascii "Device.WiFi.RadioIdsOfEntries")
        (.results (noItemsEnv.answers [1] (ascii "Device.WiFi.RadioIdsOfEntries"))),
       .sizeMismatch (ascii "Device.WiFi.Radio")]) := rfl
  exact haccepts.notRefused 1 _ hrun (by simp)

end GetEnv

end RtMessage.DataProvider
