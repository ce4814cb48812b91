import Mathlib.Data.List.Induction
import RtMessage.DataProvider.Provider

/- What a provider answers with, in terms of the callbacks registered with it.

   The last getter and the last setter registered for a name count (`lastGetter`, `lastSetter`),
   whatever was registered in between. `GetEntry` and `SetEntry` say for one parameter what its entry
   is and what becomes of the provider's own state; a get and a set go through their parameters
   with them one by one (`Threads`). -/
namespace RtMessage.DataProvider

/-- A call of `onGet` or of `onSet`, with a function that is not null. -/
inductive Registration (σ : Type) where
  | onGet (propertyName : Bytes) (func : Getter σ)
  | onSet (propertyName : Bytes) (func : Setter σ)

namespace Registration
variable {σ : Type}

def getterFor (n : Bytes) : Registration σ → Option (Getter σ)
  | .onGet propertyName func => if propertyName = n then some func else none
  | .onSet _ _ => none

def setterFor (n : Bytes) : Registration σ → Option (Setter σ)
  | .onGet _ _ => none
  | .onSet propertyName func => if propertyName = n then some func else none

end Registration

section Registered
variable {σ : Type}

def lastGetter (regs : List (Registration σ)) (n : Bytes) : Option (Getter σ) :=
  (regs.filterMap (·.getterFor n)).getLast?

def lastSetter (regs : List (Registration σ)) (n : Bytes) : Option (Setter σ) :=
  (regs.filterMap (·.setterFor n)).getLast?

namespace DmProvider

/-- A provider as it is constructed. What it overrides, and its own state, are those of `p`. -/
def constructed (p : DmProvider σ) : DmProvider σ :=
  { p with providerFunctions := fun _ => none, isTransaction := false }

def register (p : DmProvider σ) : Registration σ → DmProvider σ
  | .onGet propertyName func => p.onGet propertyName (some func)
  | .onSet propertyName func => p.onSet propertyName (some func)

/-- A constructed provider with these registrations. -/
def registered (p : DmProvider σ) (regs : List (Registration σ)) : DmProvider σ :=
  regs.foldl register p.constructed

end DmProvider

variable {p : DmProvider σ} {n m : Bytes} {regs : List (Registration σ)}

theorem getter_onGet (p : DmProvider σ) (m n : Bytes) (func : Getter σ) :
    (p.onGet m (some func)).getter? n = if m = n then some func else p.getter? n := by
  simp only [DmProvider.getter?, DmProvider.onGet, Function.update_apply]
  by_cases hm : m = n
  · subst hm
    rw [if_pos rfl, if_pos rfl]
    cases p.providerFunctions m with
    | none => rfl
    | some funcs => rfl
  · rw [if_neg (Ne.symm hm), if_neg hm]

theorem setter_onSet (p : DmProvider σ) (m n : Bytes) (func : Setter σ) :
    (p.onSet m (some func)).setter? n = if m = n then some func else p.setter? n := by
  simp only [DmProvider.setter?, DmProvider.onSet, Function.update_apply]
  by_cases hm : m = n
  · subst hm
    rw [if_pos rfl, if_pos rfl]
    cases p.providerFunctions m with
    | none => rfl
    | some funcs => rfl
  · rw [if_neg (Ne.symm hm), if_neg hm]

theorem getter_onSet (p : DmProvider σ) (m n : Bytes) (func : Setter σ) :
    (p.onSet m (some func)).getter? n = p.getter? n := by
  simp only [DmProvider.getter?, DmProvider.onSet, Function.update_apply]
  by_cases hm : n = m
  · subst hm
    rw [if_pos rfl]
    cases p.providerFunctions n with
    | none => rfl
    | some funcs => rfl
  · rw [if_neg hm]

theorem setter_onGet (p : DmProvider σ) (m n : Bytes) (func : Getter σ) :
    (p.onGet m (some func)).setter? n = p.setter? n := by
  simp only [DmProvider.setter?, DmProvider.onGet, Function.update_apply]
  by_cases hm : n = m
  · subst hm
    rw [if_pos rfl]
    cases p.providerFunctions n with
    | none => rfl
    | some funcs => rfl
  · rw [if_neg hm]

theorem registered_concat (p : DmProvider σ) (regs : List (Registration σ)) (r : Registration σ) :
    p.registered (regs ++ [r]) = (p.registered regs).register r := by
  rw [DmProvider.registered, List.foldl_append]
  rfl

theorem registered_getter (p : DmProvider σ) (regs : List (Registration σ)) (n : Bytes) :
    (p.registered regs).getter? n = lastGetter regs n := by
  induction regs using List.reverseRecOn with
  | nil => rfl
  | append_singleton regs r ih =>
    rw [registered_concat, lastGetter, List.filterMap_append]
    cases r with
    | onGet m func =>
      rw [DmProvider.register, getter_onGet, ih]
      by_cases hm : m = n
      · simp [Registration.getterFor, hm]
      · simp [Registration.getterFor, hm, lastGetter]
    | onSet m func =>
      rw [DmProvider.register, getter_onSet, ih]
      simp [Registration.getterFor, lastGetter]

theorem registered_setter (p : DmProvider σ) (regs : List (Registration σ)) (n : Bytes) :
    (p.registered regs).setter? n = lastSetter regs n := by
  induction regs using List.reverseRecOn with
  | nil => rfl
  | append_singleton regs r ih =>
    rw [registered_concat, lastSetter, List.filterMap_append]
    cases r with
    | onGet m func =>
      rw [DmProvider.register, setter_onGet, ih]
      simp [Registration.setterFor, lastSetter]
    | onSet m func =>
      rw [DmProvider.register, setter_onSet, ih]
      by_cases hm : m = n
      · simp [Registration.setterFor, hm]
      · simp [Registration.setterFor, hm, lastSetter]

theorem registered_rest (p : DmProvider σ) (regs : List (Registration σ)) :
    p.registered regs =
      { p.constructed with providerFunctions := (p.registered regs).providerFunctions } := by
  induction regs using List.reverseRecOn with
  | nil => rfl
  | append_singleton regs r ih =>
    rw [registered_concat]
    cases r with
    | onGet m func =>
      rw [DmProvider.register, DmProvider.onGet, ih]
    | onSet m func =>
      rw [DmProvider.register, DmProvider.onSet, ih]

end Registered

/-! What one parameter is answered with. -/

section Answering
variable {σ : Type} (p : DmProvider σ) (regs : List (Registration σ))

/-- The entry for a parameter of a get, and the states before and after. -/
inductive GetEntry (info : DmPropertyInfo) : σ → Param → σ → Prop where
  | getter {g : Getter σ} {s s' : σ} {value : DmValue} (hg : lastGetter regs info.name = some g)
      (hvalue : g false s = (value, s')) : GetEntry info s { value, info } s'
  | overridden {s s' : σ} {temp : DmQueryResult} {v : Param} {vs : List Param}
      (hg : lastGetter regs info.name = none) (htemp : p.doGetProperty false info s = (temp, s'))
      (hstatus : temp.status ≠ rtPropNotFound) (hvalues : temp.values = v :: vs) :
      GetEntry info s { value := v.value, info } s'
  | notFound {s s' : σ} {temp : DmQueryResult} {e : Param} (hg : lastGetter regs info.name = none)
      (htemp : p.doGetProperty false info s = (temp, s'))
      (hnone : temp.status = rtPropNotFound ∨ temp.values = [])
      (hstatus : e.statusCode = rtPropNotFound) (hinfo : e.info = info) : GetEntry info s e s'

/-- The same for a set. A value that is not to be written is not given to the provider. -/
inductive SetEntry (isTransaction : Bool) (x : DmNamedValue) : σ → Param → σ → Prop where
  | notWritable {s : σ} {e : Param} (hw : x.info.isWritable = false) (hstatus : e.statusCode ≠ rtOk)
      (hinfo : e.info = x.info) : SetEntry isTransaction x s e s
  | setter {f : Setter σ} {s : σ} (hw : x.info.isWritable = true)
      (hf : lastSetter regs x.info.name = some f) :
      SetEntry isTransaction x s { value := x.value, info := x.info } (f isTransaction x.value s)
  | overridden {s s' : σ} {temp : DmQueryResult} {v : Param} {vs : List Param}
      (hw : x.info.isWritable = true) (hf : lastSetter regs x.info.name = none)
      (htemp : p.doSetProperty isTransaction x.info x.value s = (temp, s'))
      (hstatus : temp.status ≠ rtPropNotFound) (hvalues : temp.values = v :: vs) :
      SetEntry isTransaction x s { value := v.value, info := x.info } s'
  | notFound {s s' : σ} {temp : DmQueryResult} {e : Param} (hw : x.info.isWritable = true)
      (hf : lastSetter regs x.info.name = none)
      (htemp : p.doSetProperty isTransaction x.info x.value s = (temp, s'))
      (hnone : temp.status = rtPropNotFound ∨ temp.values = [])
      (hstatus : e.statusCode = rtPropNotFound) (hinfo : e.info = x.info) :
      SetEntry isTransaction x s e s'

/-- The parameters one by one, each with an entry, from a state to the next. -/
inductive Threads {α : Type} (R : α → σ → Param → σ → Prop) : List α → σ → List Param → σ → Prop where
  | nil {s : σ} : Threads R [] s [] s
  | cons {x : α} {xs : List α} {e : Param} {es : List Param} {s t u : σ} (h : R x s e t)
      (hrest : Threads R xs t es u) : Threads R (x :: xs) s (e :: es) u

def getterCall (info : DmPropertyInfo) : ProviderCall :=
  if (lastGetter regs info.name).isSome then .getter info.name else .doGet info

def setterCall (x : DmNamedValue) : ProviderCall :=
  if (lastSetter regs x.info.name).isSome then .setter x.info.name x.value else .doSet x.info x.value

variable {p regs}

theorem GetEntry.info_eq {info : DmPropertyInfo} {s s' : σ} {e : Param}
    (h : GetEntry p regs info s e s') : e.info = info := by
  cases h with
  | getter => rfl
  | overridden => rfl
  | notFound _ _ _ _ hinfo => exact hinfo

theorem SetEntry.info_eq {tr : Bool} {x : DmNamedValue} {s s' : σ} {e : Param}
    (h : SetEntry p regs tr x s e s') : e.info = x.info := by
  cases h with
  | notWritable _ _ hinfo => exact hinfo
  | setter => rfl
  | overridden => rfl
  | notFound _ _ _ _ _ hinfo => exact hinfo

theorem Threads.infos {α : Type} {R : α → σ → Param → σ → Prop} {f : α → DmPropertyInfo}
    {xs : List α} {es : List Param} {s t : σ} (hR : ∀ x s e t, R x s e t → e.info = f x)
    (h : Threads R xs s es t) : es.map (·.info) = xs.map f := by
  induction h with
  | nil => rfl
  | cons h _ ih => rw [List.map_cons, List.map_cons, ih, hR _ _ _ _ h]

/-- What an overridden function reports is its first value, or that there is no such property. -/
theorem reported_cases (info : DmPropertyInfo) (temp : DmQueryResult) :
    (∃ v vs, temp.status ≠ rtPropNotFound ∧ temp.values = v :: vs ∧
      reported info temp = { value := v.value, info }) ∨
    ((temp.status = rtPropNotFound ∨ temp.values = []) ∧ reported info temp = notFound info) := by
  unfold reported
  cases hvalues : temp.values with
  | nil => exact .inr ⟨.inr rfl, rfl⟩
  | cons v vs =>
    by_cases hstatus : temp.status = rtPropNotFound
    · exact .inr ⟨.inl hstatus, if_pos hstatus⟩
    · exact .inl ⟨v, vs, hstatus, rfl, if_neg hstatus⟩

/-! The loops. -/

/-- The registered provider in the course of a run. -/
def during (p : DmProvider σ) (regs : List (Registration σ)) (isTransaction : Bool) (state : σ) :
    DmProvider σ :=
  { p.registered regs with isTransaction, state }

variable (p regs)

theorem during_doGetProperty (tr : Bool) (state : σ) :
    (during p regs tr state).doGetProperty = p.doGetProperty := by
  rw [during, registered_rest]
  rfl

theorem during_doSetProperty (tr : Bool) (state : σ) :
    (during p regs tr state).doSetProperty = p.doSetProperty := by
  rw [during, registered_rest]
  rfl

theorem during_beginTransaction (tr : Bool) (state : σ) :
    (during p regs tr state).beginTransaction = p.beginTransaction := by
  rw [during, registered_rest]
  rfl

theorem during_endTransaction (tr : Bool) (state : σ) :
    (during p regs tr state).endTransaction = p.endTransaction := by
  rw [during, registered_rest]
  rfl

theorem doGetTurn_getEntry (info : DmPropertyInfo) (state : σ) (result : DmQueryResult)
    (calls : List ProviderCall) : ∃ e state', GetEntry p regs info state e state' ∧
      DmProvider.doGetTurn { provider := during p regs false state, result, calls } info =
        { provider := during p regs false state', result := result.addValue e
          calls := calls ++ [getterCall regs info] } := by
  have hget : (during p regs false state).getter? info.name = lastGetter regs info.name :=
    registered_getter p regs info.name
  unfold DmProvider.doGetTurn getterCall
  dsimp only
  rw [hget]
  cases hg : lastGetter regs info.name with
  | some g => exact ⟨_, _, .getter hg rfl, rfl⟩
  | none =>
    let temp := (during p regs false state).doGetProperty false info state
    have hbase : p.doGetProperty false info state = (temp.1, temp.2) :=
      congrFun (congrFun (congrFun (during_doGetProperty p regs false state).symm false) info) state
    refine ⟨reported info temp.1, temp.2, ?_, rfl⟩
    rcases reported_cases info temp.1 with ⟨v, vs, hstatus, hvalues, hentry⟩ | ⟨hnone, hentry⟩
    · rw [hentry]
      exact .overridden hg hbase hstatus hvalues
    · rw [hentry]
      exact .notFound hg hbase hnone rfl rfl

theorem doSetTurn_setEntry (tr : Bool) (x : DmNamedValue) (state : σ) (result : DmQueryResult)
    (calls : List ProviderCall) : ∃ e state', SetEntry p regs tr x state e state' ∧
      DmProvider.doSetTurn { provider := during p regs tr state, result, calls } x =
        { provider := during p regs tr state', result := result.addValue e
          calls := calls ++ if x.info.isWritable then [setterCall regs x] else [] } := by
  have hset : (during p regs tr state).setter? x.info.name = lastSetter regs x.info.name :=
    registered_setter p regs x.info.name
  unfold DmProvider.doSetTurn setterCall
  dsimp only
  rw [hset]
  cases hw : x.info.isWritable with
  | false =>
    refine ⟨notWritable x.info, state, .notWritable hw (by simp [notWritable, rtError, rtOk]) rfl, ?_⟩
    simp
  | true =>
    rw [if_neg (by simp), if_pos rfl]
    cases hf : lastSetter regs x.info.name with
    | some f => exact ⟨_, _, .setter hw hf, rfl⟩
    | none =>
      let temp := (during p regs tr state).doSetProperty tr x.info x.value state
      have hbase : p.doSetProperty tr x.info x.value state = (temp.1, temp.2) :=
        congrFun (congrFun (congrFun (congrFun (during_doSetProperty p regs tr state).symm tr) x.info) x.value)
          state
      refine ⟨reported x.info temp.1, temp.2, ?_, rfl⟩
      rcases reported_cases x.info temp.1 with ⟨v, vs, hstatus, hvalues, hentry⟩ | ⟨hnone, hentry⟩
      · rw [hentry]
        exact .overridden hw hf hbase hstatus hvalues
      · rw [hentry]
        exact .notFound hw hf hbase hnone rfl rfl

theorem doGetLoop_entries (params : List DmPropertyInfo) (state : σ) (result : DmQueryResult)
    (calls : List ProviderCall) : ∃ entries state', Threads (GetEntry p regs) params state entries state' ∧
      params.foldl DmProvider.doGetTurn { provider := during p regs false state, result, calls } =
        { provider := during p regs false state'
          result := { result with values := result.values ++ entries }
          calls := calls ++ params.map (getterCall regs) } := by
  induction params generalizing state result calls with
  | nil => exact ⟨[], state, .nil, by simp⟩
  | cons info params ih =>
    obtain ⟨e, t, hentry, hturn⟩ := doGetTurn_getEntry p regs info state result calls
    obtain ⟨es, u, hthreads, hloop⟩ := ih t (result.addValue e) (calls ++ [getterCall regs info])
    refine ⟨e :: es, u, .cons hentry hthreads, ?_⟩
    rw [List.foldl_cons, hturn, hloop]
    simp [DmQueryResult.addValue]

theorem doSetLoop_entries (tr : Bool) (params : List DmNamedValue) (state : σ) (result : DmQueryResult)
    (calls : List ProviderCall) :
    ∃ entries state', Threads (SetEntry p regs tr) params state entries state' ∧
      params.foldl DmProvider.doSetTurn { provider := during p regs tr state, result, calls } =
        { provider := during p regs tr state'
          result := { result with values := result.values ++ entries }
          calls := calls ++ (params.filter (·.info.isWritable)).map (setterCall regs) } := by
  induction params generalizing state result calls with
  | nil => exact ⟨[], state, .nil, by simp⟩
  | cons x params ih =>
    obtain ⟨e, t, hentry, hturn⟩ := doSetTurn_setEntry p regs tr x state result calls
    obtain ⟨es, u, hthreads, hloop⟩ := ih t (result.addValue e)
      (calls ++ if x.info.isWritable then [setterCall regs x] else [])
    refine ⟨e :: es, u, .cons hentry hthreads, ?_⟩
    rw [List.foldl_cons, hturn, hloop, List.filter_cons]
    cases x.info.isWritable with
    | false => simp [DmQueryResult.addValue]
    | true => simp [DmQueryResult.addValue]

theorem registered_eq_during (p : DmProvider σ) (regs : List (Registration σ)) :
    p.registered regs = during p regs false p.state := by
  have hflag : (p.registered regs).isTransaction = false := by
    rw [registered_rest]
    rfl
  have hstate : (p.registered regs).state = p.state := by
    rw [registered_rest]
    rfl
  unfold during
  rw [← hstate]
  generalize p.registered regs = r at hflag
  cases r
  cases hflag
  rfl

end Answering

/-- The calls of a set of several parameters are made in a transaction. -/
def bracketed (params : List DmNamedValue) (calls : List ProviderCall) : List ProviderCall :=
  if 1 < params.length then .beginTransaction :: calls ++ [.endTransaction] else calls

/-- For all registrations, a get and a set append an entry for each parameter, in order, and
    call the last callback registered for it, or the overridden function; a set calls nothing
    for what is not writable, and opens and closes a transaction around two parameters or more. -/
theorem dispatch_positional {σ : Type} (p : DmProvider σ) (regs : List (Registration σ)) :
    (∀ params result, ∃ entries state, Threads (GetEntry p regs) params p.state entries state ∧
      entries.map (·.info) = params ∧
      (p.registered regs).doGet params result =
        { provider := during p regs false state
          result := { result with values := result.values ++ entries }
          calls := params.map (getterCall regs) }) ∧
    ∀ params result, ∃ entries state,
      Threads (SetEntry p regs (decide (1 < params.length))) params
        (if 1 < params.length then p.beginTransaction true p.state else p.state) entries state ∧
      entries.map (·.info) = params.map (·.info) ∧
      (p.registered regs).doSet params result =
        { provider := during p regs false
            (if 1 < params.length then p.endTransaction true state else state)
          result := { result with values := result.values ++ entries }
          calls := bracketed params ((params.filter (·.info.isWritable)).map (setterCall regs)) } := by
  constructor
  · intro params result
    obtain ⟨entries, state, hthreads, hloop⟩ :=
      doGetLoop_entries p regs params p.state result []
    refine ⟨entries, state, hthreads, ?_, ?_⟩
    · rw [hthreads.infos (f := id) fun _ _ _ _ h => h.info_eq, List.map_id]
    · rw [DmProvider.doGet, registered_eq_during, hloop, List.nil_append]
  · intro params result
    by_cases hseveral : 1 < params.length
    · obtain ⟨entries, state, hthreads, hloop⟩ := doSetLoop_entries p regs true params
        (p.beginTransaction true p.state) result [.beginTransaction]
      refine ⟨entries, state, ?_, hthreads.infos fun _ _ _ _ h => h.info_eq, ?_⟩
      · rw [if_pos hseveral, decide_eq_true hseveral]
        exact hthreads
      · have hopen : DmProvider.openTransaction { provider := during p regs false p.state, result } =
            { provider := during p regs true (p.beginTransaction true p.state), result
              calls := [.beginTransaction] } := by
          rw [← during_beginTransaction p regs false p.state]
          rfl
        rw [DmProvider.doSet, registered_eq_during, if_pos hseveral, hopen, hloop, bracketed,
          if_pos hseveral, if_pos hseveral,
          ← during_endTransaction p regs true state]
        rfl
    · obtain ⟨entries, state, hthreads, hloop⟩ := doSetLoop_entries p regs false params
        p.state result []
      refine ⟨entries, state, ?_, hthreads.infos fun _ _ _ _ h => h.info_eq, ?_⟩
      · rw [if_neg hseveral, decide_eq_false hseveral]
        exact hthreads
      · rw [DmProvider.doSet, registered_eq_during, if_neg hseveral, hloop, bracketed,
          if_neg hseveral, if_neg hseveral, List.nil_append]

end RtMessage.DataProvider
