import RtMessage.DataProvider.Client

/- What the result of a get says about its queries.

   `success` is put to false by a query that fails, but a further call puts its own result
   there, whatever was there before. So the result is that of the queries behind the last
   further call of a call, together with what decides that call (`Decides`). A get that is
   refused counts as a query that fails. -/
namespace RtMessage.DataProvider.GetEnv

variable (env : GetEnv)

/-- The event decides what the acts return: no further call comes behind it. -/
inductive Decides : List GetAct → Event → Prop where
  | own {e : Event} {acts : List GetAct} (hlast : ∀ c, .call c ∉ acts) : Decides (.emit e :: acts) e
  | call {c : Call} {e : Event} {acts : List GetAct} (hlast : ∀ d, .call d ∉ acts)
      (h : Decides (env.acts c) e) : Decides (.call c :: acts) e
  | later {act : GetAct} {e : Event} {acts : List GetAct} (h : Decides acts e) :
      Decides (act :: acts) e

/-- The event is one of the run of the call. -/
def Issues (c : Call) (e : Event) : Prop := ∃ d, env.procedure.Reaches c d ∧ .emit e ∈ env.acts d

/-- If a query of the run fails, so does one that decides its result. -/
def NoFailureHidden (c : Call) : Prop :=
  (∀ e, env.Decides (env.acts c) e → e.succeeded = true) →
    ∀ e, env.Issues c e → e.succeeded = true

theorem failed_notified (kind : QueryKind) (parameter : Bytes) (outcome : QueryOutcome)
    (h : (Event.query kind parameter outcome).succeeded = false) :
    ∃ status message,
      (Event.query kind parameter outcome).notification = some (.onError status message) := by
  have houtcome : outcome.succeeded = false := h
  cases kind with
  | numberOfEntries => exact ⟨_, _, by rw [Event.notification, houtcome]; rfl⟩
  | idsOfEntries => exact ⟨_, _, by rw [Event.notification, houtcome]; rfl⟩
  | object =>
    cases outcome with
    | notCreated => exact ⟨_, _, rfl⟩
    | notExecuted => exact ⟨_, _, rfl⟩
    | results r =>
      have hstatus : ¬ r.status = rtOk := by simpa [QueryOutcome.succeeded] using houtcome
      exact ⟨_, _, by rw [Event.notification, if_neg hstatus]⟩

section Deciding
variable {env} {acts : List GetAct} {s r : GetRun} {c : Call}

theorem performs_success (h : env.procedure.Performs acts s r) :
    r.1 = true ↔ ((∀ c, .call c ∉ acts) → s.1 = true) ∧
      ∀ e, env.Decides acts e → e.succeeded = true := by
  induction h with
  | nil =>
    constructor
    · intro hs
      exact ⟨fun _ => hs, fun e he => by cases he⟩
    · intro hall
      exact hall.1 fun c hc => by cases hc
  -- An event after the last call decides with the flag so far.
  | @emit e acts s r _ ih =>
    have hflag : env.procedure.emitted s.1 e = true ↔ s.1 = true ∧ e.succeeded = true := by
      simp [procedure]
    rw [ih]
    dsimp only
    rw [hflag]
    constructor
    · intro hall
      refine ⟨fun hlast => ?_, fun e' he' => ?_⟩
      · exact (hall.1 fun c hc => hlast c (List.mem_cons_of_mem _ hc)).1
      · cases he' with
        | own hlast => exact (hall.1 hlast).2
        | later h => exact hall.2 e' h
    · intro hall
      refine ⟨fun hlast => ⟨hall.1 fun c hc => ?_, ?_⟩, fun e' he' => hall.2 e' (.later he')⟩
      · cases hc with
        | tail _ hc => exact hlast c hc
      · exact hall.2 e (.own hlast)
  -- A call overwrites the flag, so what came before it does not count.
  | @call c acts s t r _ _ ihcall ih =>
    have hcall : t.1 = true ↔ ∀ e, env.Decides (env.acts c) e → e.succeeded = true := by
      refine ihcall.trans ⟨And.right, fun hall => ⟨fun _ => rfl, hall⟩⟩
    rw [ih]
    change ((∀ d, .call d ∉ acts) → t.1 = true) ∧ _ ↔ _
    rw [hcall]
    constructor
    · intro hall
      refine ⟨fun hlast => absurd List.mem_cons_self (hlast c), fun e he => ?_⟩
      cases he with
      | call hlast h => exact hall.1 hlast e h
      | later h => exact hall.2 e h
    · intro hall
      exact ⟨fun hlast e he => hall.2 e (.call hlast he), fun e he => hall.2 e (.later he)⟩

theorem returns_success (h : env.procedure.Returns c r) :
    r.1 = true ↔ ∀ e, env.Decides (env.acts c) e → e.succeeded = true :=
  (performs_success h).trans ⟨And.right, fun hall => ⟨fun _ => rfl, hall⟩⟩

theorem Decides.issues {acts : List GetAct} {e : Event} (h : env.Decides acts e) :
    .emit e ∈ acts ∨ ∃ c, .call c ∈ acts ∧ env.Issues c e := by
  induction h with
  | own _ => exact .inl List.mem_cons_self
  | @call c e acts _ _ ih =>
    refine .inr ⟨c, List.mem_cons_self, ?_⟩
    cases ih with
    | inl hown => exact ⟨c, .refl, hown⟩
    | inr hcalls =>
      obtain ⟨b, hb, d, hbd, hd⟩ := hcalls
      exact ⟨d, hbd.head hb, hd⟩
  | later _ ih =>
    cases ih with
    | inl hown => exact .inl (List.mem_cons_of_mem _ hown)
    | inr hcalls =>
      obtain ⟨b, hb, hissues⟩ := hcalls
      exact .inr ⟨b, List.mem_cons_of_mem _ hb, hissues⟩

end Deciding

/-- The result of a get that finishes is whether all its queries succeeded, unless the failures
    are all hidden by later calls. -/
theorem get_success_iff (env : GetEnv) (fuel : Nat) (c : Call) (r : GetRun)
    (h : env.runGet fuel c = .ok r) :
    (r.1 = true ↔ ∀ e ∈ r.2, e.succeeded = true) ↔ env.NoFailureHidden c := by
  rw [runGet_eq] at h
  have hreturns : env.procedure.Returns c r := Lib.Procedure.returns_of_run h
  have hevents : (∀ e ∈ r.2, e.succeeded = true) ↔ ∀ e, env.Issues c e → e.succeeded = true :=
    forall_congr' fun e => by rw [hreturns.mem_events]; rfl
  rw [returns_success hreturns, hevents, NoFailureHidden]
  constructor
  · intro hiff hdecisive
    exact hiff.mp hdecisive
  · intro hhidden
    refine ⟨hhidden, fun hall e he => hall e ?_⟩
    cases Decides.issues he with
    | inl hown => exact ⟨c, .refl, hown⟩
    | inr hcalls =>
      obtain ⟨b, hb, d, hbd, hd⟩ := hcalls
      exact ⟨d, hbd.head hb, hd⟩

/-! An object that cannot be got, and one below it that can. -/

def streamInfo : DmProviderInfo where
  objectName := ascii "Camera.Stream"
  providerName := ascii "camera"
  isList := false
  properties := []
  fullNames := by decide

def zoomInfo : DmProviderInfo :=
  { streamInfo with objectName := ascii "Camera.Stream.Zoom", fullNames := by decide }

def cameraDb : ModelDb := ⟨[streamInfo, zoomInfo], by decide⟩

/-- The first query fails. -/
def cameraEnv : GetEnv where
  db := cameraDb
  tree := firstTree cameraDb
  text := noFloats
  answers place _ := if place = [0] then { status := rtError } else {}
  recursive := true

def cameraRun : GetRun :=
  (true, [.query .object (ascii "Camera.Stream.") (.results { status := rtError }),
          .query .object (ascii "Camera.Stream.Zoom.") (.results {})])

theorem get_success_iff_example :
    (cameraRun.1 = true ↔ ∀ e ∈ cameraRun.2, e.succeeded = true) ↔
      cameraEnv.NoFailureHidden ([], ascii "Camera.Stream.") :=
  get_success_iff cameraEnv 2 ([], ascii "Camera.Stream.") cameraRun rfl

/-- The later query hides that the first one failed. -/
theorem failure_hidden : ¬ ∀ (db : ModelDb) (text : FloatText)
    (answers : List Nat → Bytes → DmQueryResult) (recursive : Bool) (parameter : Bytes)
    (fuel : Nat) (r : GetRun),
    runGet { db, tree := firstTree db, text, answers, recursive } fuel ([], parameter) = .ok r →
    (r.1 = true ↔ ∀ e ∈ r.2, e.succeeded = true) := by
  intro h
  have hiff := h cameraDb cameraEnv.text cameraEnv.answers true (ascii "Camera.Stream.") 2
    cameraRun rfl
  have hfirst := hiff.mp rfl _ List.mem_cons_self
  cases hfirst

end RtMessage.DataProvider.GetEnv
