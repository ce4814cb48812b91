import RtMessage.Lib.Run
import RtMessage.Refinement

/- The loop of `main`: connections are accepted, and the clients whose descriptors are
   readable are read one after the other; a client whose read fails is taken out of the
   vector and destroyed while the loop walks it.

   `NoDangling` ties the clients to the route table. It is kept by a turn of a dispatch
   (`NoDangling.turn`), by a client's turn in the loop (`NoDangling.serveTurn`) and by a new
   connection, and so by every run of the router (`no_dangling_routes`). A new object gets
   an address that no earlier one had, so a route that outlived its client would not be
   hidden by a later client at the same address. -/
namespace RtMessage
open Lib

/-! The main loop. -/

/-- `rtRouted_RegisterNewClient`. The client's `ident`, a text for the log, is left out, and
    so are the peers whose path is too long for the buffer it is made in. -/
def rtRoutedRegisterNewClient (fd : Nat) (r : RtRouted Os) : RtRouted Os :=
  { r with clients := r.clients ++ [rtConnectedClientInit r.nextPtr fd], nextPtr := r.nextPtr + 1 }

/-- `rtRouted_AcceptClientConnection`, with what `accept` returned. -/
def rtRoutedAcceptClientConnection (accepted : Except Errno Nat) (r : RtRouted Os) : RtRouted Os :=
  match accepted with
  | .error _ => r
  | .ok fd => rtRoutedRegisterNewClient fd r

structure ServeState where
  i : Nat
  n : Nat
  routed : RtRouted Os

def ServeState.goesOn (s : ServeState) : Bool := decide (s.i < s.n)

/-- A client's turn in the loop over the clients; `readFds` are the readable descriptors. -/
def serveTurn (J : CJsonLib) (fuel : Nat) (readFds : List Nat) (s : ServeState) :
    Except Fault ServeState :=
  match s.routed.clients[s.i]? with
  | none => .error .undefinedBehaviour
  | some clnt =>
    if clnt.fd ∈ readFds then do
      let (err, clnt', r) ← rtConnectedClientRead J fuel clnt s.routed
      if err ≠ .ok then do
        let r ← rtConnectedClientDestroy clnt'
          { r with clients := r.clients.eraseP (fun k => k.ptr == clnt.ptr) }
        return { s with n := s.n - 1, routed := r }
      else return { s with i := s.i + 1, routed :=
        { r with clients := r.clients.map fun k => if k.ptr = clnt.ptr then clnt' else k } }
    else return { s with i := s.i + 1 }

/-- The loop over the clients. Every turn passes a client or removes one. -/
def serveClients (J : CJsonLib) (fuel : Nat) (readFds : List Nat) (r : RtRouted Os) :
    Except Fault (RtRouted Os) := do
  let s ← loop .outOfFuel ServeState.goesOn (serveTurn J fuel readFds) r.clients.length
    ⟨0, r.clients.length, r⟩
  return s.routed

/-- The routes `main` starts with: the internal one, and one that prints every message for
    each `-r` on the command line. -/
def startRoutes (debugRoutes : Nat) : List RtRouteEntry :=
  internalRoute 0 ::
    (List.range debugRoutes).map fun k => ⟨k + 1, .printMessage, .pad 128 (ascii ">")⟩

def startRouter (debugRoutes : Nat) (os : Os) : RtRouted Os :=
  ⟨[], startRoutes debugRoutes, debugRoutes + 1, os⟩

inductive MainEvent where
  | accept (accepted : Except Errno Nat)
  /-- The system's answers and what has arrived may have changed since the last event. -/
  | serve (readFds : List Nat) (os : Os)

inductive MainStep (J : CJsonLib) : RtRouted Os → MainEvent → RtRouted Os → Prop where
  | accept (accepted : Except Errno Nat) (r : RtRouted Os) :
      MainStep J r (.accept accepted) (rtRoutedAcceptClientConnection accepted r)
  | serve {fuel : Nat} {readFds : List Nat} {os : Os} {r r' : RtRouted Os}
      (h : serveClients J fuel readFds { r with env := os } = .ok r') :
      MainStep J r (.serve readFds os) r'

/-! The invariant. -/

/-- Every route of a client belongs to a client of the vector. -/
structure NoDangling {ε : Type} (r : RtRouted ε) : Prop where
  table : RouteTable r.routes r.nextPtr
  served : ∀ e ∈ r.routes, ∀ ptr, e.owner = some ptr → ∃ clnt ∈ r.clients, clnt.ptr = ptr
  distinct : (r.clients.map (·.ptr)).Nodup
  allocated : ∀ clnt ∈ r.clients, clnt.ptr < r.nextPtr
  internal : ∃ ptr, internalRoute ptr ∈ r.routes

section Start
variable {ε : Type} {r : RtRouted ε}

theorem NoDangling.env {ε' : Type} (h : NoDangling r) (env : ε') :
    NoDangling (⟨r.clients, r.routes, r.nextPtr, env⟩ : RtRouted ε') :=
  ⟨h.table, h.served, h.distinct, h.allocated, h.internal⟩

theorem startRoutes_ptrs (debugRoutes : Nat) :
    (startRoutes debugRoutes).map (·.ptr) = List.range (debugRoutes + 1) := by
  rw [startRoutes, List.map_cons, List.map_map, List.range_succ_eq_map]
  rfl

theorem startRoutes_owner {debugRoutes : Nat} {e : RtRouteEntry}
    (he : e ∈ startRoutes debugRoutes) : e.owner = none ∧ e.subscriptionPtr = none := by
  rcases List.mem_cons.mp he with rfl | he
  · exact ⟨rfl, rfl⟩
  · obtain ⟨k, -, rfl⟩ := List.mem_map.mp he
    exact ⟨rfl, rfl⟩

theorem NoDangling.start (debugRoutes : Nat) (os : Os) :
    NoDangling (startRouter debugRoutes os) := by
  have hsubs : (startRoutes debugRoutes).filterMap (·.subscriptionPtr) = [] :=
    List.filterMap_eq_nil_iff.mpr fun e he => (startRoutes_owner he).2
  refine ⟨⟨?_, ?_, ?_, ?_⟩, ?_, List.nodup_nil, ?_, ⟨0, List.mem_cons_self⟩⟩
  · change ((startRoutes debugRoutes).map (·.ptr)).Nodup
    rw [startRoutes_ptrs]
    exact List.nodup_range
  · intro e he
    have hmem : e.ptr ∈ (startRoutes debugRoutes).map (·.ptr) := List.mem_map_of_mem he
    rw [startRoutes_ptrs] at hmem
    exact List.mem_range.mp hmem
  · change ((startRoutes debugRoutes).filterMap (·.subscriptionPtr)).Nodup
    rw [hsubs]
    exact List.nodup_nil
  · intro p hp
    change p ∈ (startRoutes debugRoutes).filterMap (·.subscriptionPtr) at hp
    rw [hsubs] at hp
    cases hp
  · intro e he ptr howner
    cases (startRoutes_owner he).1.symm.trans howner
  · intro clnt hclnt
    cases hclnt

/-- Where what `f` finds is not found twice, it is found in one place. -/
theorem eq_of_nodup_filterMap {α β : Type} {f : α → Option β} {l : List α}
    (h : (l.filterMap f).Nodup) {a a' : α} {b : β} (ha : a ∈ l) (ha' : a' ∈ l) (hb : f a = some b)
    (hb' : f a' = some b) : a = a' := by
  induction l with
  | nil => cases ha
  | cons k l ih =>
    have hfresh : f k = some b → ∀ j ∈ l, f j ≠ some b := by
      intro hk j hj hjb
      rw [List.filterMap_cons_some hk] at h
      exact (List.nodup_cons.mp h).1 (List.mem_filterMap.mpr ⟨j, hj, hjb⟩)
    rcases List.mem_cons.mp ha with rfl | hal
    · rcases List.mem_cons.mp ha' with rfl | hal'
      · rfl
      · exact absurd hb' (hfresh hb a' hal')
    · rcases List.mem_cons.mp ha' with rfl | hal'
      · exact absurd hb (hfresh hb' a hal)
      · exact ih (h.sublist ((List.sublist_cons_self k l).filterMap f)) hal hal'

theorem NoDangling.subscription_unique (h : NoDangling r) {e e' : RtRouteEntry} {p : Nat}
    (he : e ∈ r.routes) (he' : e' ∈ r.routes) (hp : e.subscriptionPtr = some p)
    (hp' : e'.subscriptionPtr = some p) : e = e' :=
  eq_of_nodup_filterMap h.table.subscriptions he he' hp hp'

theorem NoDangling.finds (h : NoDangling r) {e : RtRouteEntry} {sub : RtSubscription}
    (he : e ∈ r.routes) (hsub : e.target = .forwardMessage sub) :
    ∃ clnt ∈ r.clients, r.clients.find? (fun k => k.ptr == sub.client) = some clnt := by
  have howner : e.owner = some sub.client := by rw [RtRouteEntry.owner, hsub]
  obtain ⟨clnt, hclnt, hptr⟩ := h.served e he sub.client howner
  have hsome : (r.clients.find? fun k => k.ptr == sub.client).isSome := by
    rw [List.find?_isSome]
    exact ⟨clnt, hclnt, beq_iff_eq.mpr hptr⟩
  obtain ⟨k, hk⟩ := Option.isSome_iff_exists.mp hsome
  exact ⟨k, List.mem_of_find?_eq_some hk, hk⟩

end Start

/-! A dispatch. -/

section Dispatch
variable {ε : Type} {J : CJsonLib} {forward : Forward ε} {msg : Message}
  {s s' : DispatchState ε}

theorem turn_clients (h : dispatchTurn J forward msg s = .ok s') :
    s'.routed.clients = s.routed.clients := by
  obtain ⟨route, -, ⟨-, rfl⟩ | ⟨-, err, r', hh, hs'⟩⟩ := dispatchTurn_cases h
  · rfl
  · have hclients : s'.routed.clients = r'.clients := by
      rcases hs' with ⟨-, rfl⟩ | ⟨-, routes, -, rfl⟩ | ⟨-, -, rfl⟩ <;> rfl
    rw [hclients]
    rcases messageHandler_cases hh with ⟨-, a, rfl⟩ | ⟨sub, env, -, -, rfl⟩
    · exact s.routed.subscribe_clients msg.sender a
    · rfl

/-- A route of the table behind a turn was in it, or it is the sender's. -/
theorem turn_routes (hw : RouteTable s.routed.routes s.routed.nextPtr)
    (h : dispatchTurn J forward msg s = .ok s') {e : RtRouteEntry} (he : e ∈ s'.routed.routes) :
    e ∈ s.routed.routes ∨ e.owner = some msg.sender := by
  rcases turn_table hw h with ⟨a, hroutes, -⟩ | ⟨hroutes, -⟩
  · rw [hroutes] at he
    cases a with
    | none => exact .inl he
    | some a =>
      rcases List.mem_append.mp he with he | he
      · exact .inl he
      · rw [List.mem_singleton.mp he]
        exact .inr rfl
  · rw [hroutes] at he
    exact .inl (List.mem_filter.mp he).1

/-- **A turn of a dispatch** keeps it, if the sender is in the vector. -/
theorem NoDangling.turn (h : NoDangling s.routed)
    (hsender : ∃ clnt ∈ s.routed.clients, clnt.ptr = msg.sender)
    (hturn : dispatchTurn J forward msg s = .ok s') : NoDangling s'.routed where
  table := turn_routeTable h.table hturn
  served := by
    intro e he ptr howner
    rw [turn_clients hturn]
    rcases turn_routes h.table hturn he with he | hown
    · exact h.served e he ptr howner
    · cases hown.symm.trans howner
      exact hsender
  distinct := by
    rw [turn_clients hturn]
    exact h.distinct
  allocated := by
    rw [turn_clients hturn]
    exact fun clnt hclnt => Nat.lt_of_lt_of_le (h.allocated clnt hclnt) (turn_nextPtr h.table hturn)
  internal := by
    obtain ⟨ptr, hptr⟩ := h.internal
    exact ⟨ptr, turn_keeps h.table hturn hptr (fun howner => by cases howner)⟩

theorem NoDangling.steps (h : NoDangling s.routed)
    (hsender : ∃ clnt ∈ s.routed.clients, clnt.ptr = msg.sender)
    (hs : Steps DispatchState.goesOn (dispatchTurn J forward msg) s s') :
    NoDangling s'.routed ∧ s'.routed.clients = s.routed.clients := by
  refine hs.invariant (fun u => NoDangling u.routed ∧ u.routed.clients = s.routed.clients) ?_
    ⟨h, rfl⟩
  intro u v ⟨hu, hclients⟩ _ hturn
  rw [← hclients] at hsender
  exact ⟨hu.turn hsender hturn, (turn_clients hturn).trans hclients⟩

end Dispatch

/-! A client's turn. -/

theorem readerTurn_ptr {clnt full : RtConnectedClient} {complete : Bool}
    (h : readerTurn clnt = .ok (full, complete)) : full.ptr = clnt.ptr := by
  unfold readerTurn at h
  split at h
  · cases h
    rfl
  · split at h
    · obtain ⟨_, -, h⟩ := bind_eq_ok.mp h
      cases h
      rfl
    · obtain ⟨_, -, h⟩ := bind_eq_ok.mp h
      cases h
      rfl
    · cases h
      rfl

theorem storeBytes_ptr {clnt full : RtConnectedClient} {bs : Bytes} {complete : Bool}
    (h : storeBytes clnt bs = .ok (full, complete)) : full.ptr = clnt.ptr := by
  obtain ⟨_, -, h⟩ := bind_eq_ok.mp h
  have hptr := readerTurn_ptr h
  exact hptr

/-- A completed message is dispatched by the loop over the routes; the reply to a request that
    matched none changes the environment only. -/
theorem dispatchMessage_steps {J : CJsonLib} {fuel : Nat} {clnt : RtConnectedClient}
    {r r' : RtRouted Os} (h : rtRouterDispatchMessageFromClient J fuel clnt r = .ok r') :
    ∃ (s : DispatchState Os) (env : Os),
      Steps DispatchState.goesOn (dispatchTurn J forwardMessage clnt.message)
        ⟨0, r.routes.length, false, r⟩ s ∧ r' = { s.routed with env } := by
  obtain ⟨⟨matchFound, q⟩, hloop, h⟩ := bind_eq_ok.mp h
  obtain ⟨s, hs, hq⟩ := bind_eq_ok.mp hloop
  cases hq
  dsimp only at h
  split at h
  · obtain ⟨⟨err, env⟩, -, h⟩ := bind_eq_ok.mp h
    cases h
    exact ⟨s, env, (steps_of_loop_ok hs).1, rfl⟩
  · cases h
    exact ⟨s, s.routed.env, (steps_of_loop_ok hs).1, rfl⟩

section Turn
variable {J : CJsonLib} {fuel : Nat} {r r' : RtRouted Os} {clnt clnt' : RtConnectedClient}
  {err : RtError}

/-- A read keeps it, the clients of the vector, and the address of the client it reads. -/
theorem NoDangling.read (h : NoDangling r) (hmem : clnt ∈ r.clients)
    (hread : rtConnectedClientRead J fuel clnt r = .ok (err, clnt', r')) :
    NoDangling r' ∧ r'.clients = r.clients ∧ clnt'.ptr = clnt.ptr := by
  obtain ⟨⟨reply, env⟩, -, hread⟩ := bind_eq_ok.mp hread
  dsimp only at hread
  split at hread
  · cases hread
    exact ⟨h.env _, rfl, rfl⟩
  · cases hread
    exact ⟨h.env _, rfl, rfl⟩
  · obtain ⟨⟨full, complete⟩, hstore, hread⟩ := bind_eq_ok.mp hread
    have hptr := storeBytes_ptr hstore
    cases complete with
    | false =>
      cases hread
      exact ⟨h.env _, rfl, hptr⟩
    | true =>
      obtain ⟨q, hdispatch, hread⟩ := bind_eq_ok.mp hread
      cases hread
      obtain ⟨s, env', hs, rfl⟩ := dispatchMessage_steps hdispatch
      have hsender : ∃ k ∈ r.clients, k.ptr = full.message.sender := ⟨clnt, hmem, hptr.symm⟩
      obtain ⟨hs, hclients⟩ := (h.env _).steps hsender hs
      exact ⟨hs.env _, hclients, hptr⟩

/-- Destroying a client that is taken out of the vector takes its routes with it. -/
theorem NoDangling.destroy (h : NoDangling r) (hptr : clnt'.ptr = clnt.ptr)
    (hdestroy : rtConnectedClientDestroy clnt'
      { r with clients := r.clients.eraseP (fun k => k.ptr == clnt.ptr) } = .ok r') :
    NoDangling r' ∧ r'.clients = r.clients.eraseP (fun k => k.ptr == clnt.ptr) := by
  obtain ⟨routes, hclear, hr'⟩ := bind_eq_ok.mp hdestroy
  rw [clearClientRoutes_eq _ h.table, hptr] at hclear
  cases hclear
  cases hr'
  have hsub : (r.clients.eraseP fun k => k.ptr == clnt.ptr).Sublist r.clients := List.eraseP_sublist
  refine ⟨⟨h.table.sublist List.filter_sublist, ?_, h.distinct.sublist (hsub.map _),
    fun k hk => h.allocated k (hsub.subset hk), ?_⟩, rfl⟩
  · intro e he ptr howner
    obtain ⟨he, hother⟩ := List.mem_filter.mp he
    obtain ⟨k, hk, rfl⟩ := h.served e he ptr howner
    refine ⟨k, (List.mem_eraseP_of_neg ?_).mpr hk, rfl⟩
    intro heq
    rw [beq_iff_eq.mp heq] at howner
    exact of_decide_eq_true hother howner
  · obtain ⟨ptr, hinternal⟩ := h.internal
    exact ⟨ptr, List.mem_filter.mpr ⟨hinternal, rfl⟩⟩

theorem NoDangling.put (h : NoDangling r) (hptr : clnt'.ptr = clnt.ptr) :
    NoDangling { r with clients := r.clients.map fun k => if k.ptr = clnt.ptr then clnt' else k } := by
  have hptrs : (r.clients.map fun k => if k.ptr = clnt.ptr then clnt' else k).map (·.ptr) =
      r.clients.map (·.ptr) := by
    rw [List.map_map]
    refine List.map_congr_left fun k _ => ?_
    rw [Function.comp_apply]
    split
    · next heq => rw [hptr, heq]
    · rfl
  have hmem : ∀ ptr, (∃ k ∈ r.clients.map fun k => if k.ptr = clnt.ptr then clnt' else k, k.ptr = ptr) ↔
      ∃ k ∈ r.clients, k.ptr = ptr := by
    intro ptr
    rw [← List.mem_map, hptrs, List.mem_map]
  refine ⟨h.table, ?_, ?_, ?_, h.internal⟩
  · exact fun e he ptr howner => (hmem ptr).mpr (h.served e he ptr howner)
  · change ((r.clients.map fun k => if k.ptr = clnt.ptr then clnt' else k).map (·.ptr)).Nodup
    rw [hptrs]
    exact h.distinct
  · intro k hk
    obtain ⟨j, hj, hjk⟩ := (hmem k.ptr).mp ⟨k, hk, rfl⟩
    rw [← hjk]
    exact h.allocated j hj

end Turn

/-- The loop over the clients on its way: `n` is the size of the vector. -/
structure Walking (s : ServeState) : Prop where
  noDangling : NoDangling s.routed
  size : s.n = s.routed.clients.length

section Serve
variable {J : CJsonLib} {fuel : Nat} {readFds : List Nat} {s s' : ServeState}

/-- **A client's turn** keeps it: the client is passed, read, or read and destroyed. -/
theorem Walking.turn (h : Walking s) (hturn : serveTurn J fuel readFds s = .ok s') :
    Walking s' := by
  unfold serveTurn at hturn
  split at hturn
  · cases hturn
  · next clnt hget =>
    have hmem : clnt ∈ s.routed.clients := List.mem_of_getElem? hget
    split at hturn
    · obtain ⟨⟨err, clnt', r⟩, hread, hturn⟩ := bind_eq_ok.mp hturn
      obtain ⟨hr, hclients, hptr⟩ := h.noDangling.read hmem hread
      dsimp only at hturn
      split at hturn
      · obtain ⟨q, hdestroy, hturn⟩ := bind_eq_ok.mp hturn
        cases hturn
        obtain ⟨hq, hqclients⟩ := hr.destroy hptr hdestroy
        have herase : (s.routed.clients.eraseP fun k => k.ptr == clnt.ptr).length =
            s.routed.clients.length - 1 :=
          List.length_eraseP_of_mem hmem (beq_self_eq_true clnt.ptr)
        refine ⟨hq, ?_⟩
        rw [hqclients, hclients, herase, h.size]
      · cases hturn
        refine ⟨hr.put hptr, ?_⟩
        rw [List.length_map, hclients, h.size]
    · cases hturn
      exact ⟨h.noDangling, h.size⟩

theorem Walking.steps (h : Walking s)
    (hs : Steps ServeState.goesOn (serveTurn J fuel readFds) s s') : Walking s' :=
  hs.invariant Walking (fun _ _ hu _ hturn => hu.turn hturn) h

theorem NoDangling.walking {r : RtRouted Os} (h : NoDangling r) (os : Os) :
    Walking ⟨0, r.clients.length, { r with env := os }⟩ :=
  ⟨h.env os, rfl⟩

theorem serveTurn_routed (h : Walking s) {clnt : RtConnectedClient}
    (hget : s.routed.clients[s.i]? = some clnt) (hready : clnt.fd ∈ readFds) :
    (serveTurn J fuel readFds s).map (·.routed) = serveClient J fuel clnt.ptr s.routed := by
  have hfind : s.routed.clients.find? (fun k => k.ptr == clnt.ptr) = some clnt :=
    find?_ptr h.noDangling.distinct (List.mem_of_getElem? hget)
  simp only [serveTurn, hget, if_pos hready, serveClient, hfind]
  cases rtConnectedClientRead J fuel clnt s.routed with
  | error e => rfl
  | ok a =>
    obtain ⟨err, clnt', r⟩ := a
    simp only [ok_bind]
    split
    · cases rtConnectedClientDestroy clnt'
        { r with clients := r.clients.eraseP (fun k => k.ptr == clnt.ptr) } with
      | error e => rfl
      | ok q => rfl
    · rfl

end Serve

/-! Runs. -/

theorem NoDangling.accept {r : RtRouted Os} (h : NoDangling r) (accepted : Except Errno Nat) :
    NoDangling (rtRoutedAcceptClientConnection accepted r) := by
  cases accepted with
  | error e => exact h
  | ok fd =>
    refine ⟨h.table.allocate (Nat.le_succ _), ?_, ?_, ?_, h.internal⟩
    · intro e he ptr howner
      obtain ⟨clnt, hclnt, hptr⟩ := h.served e he ptr howner
      exact ⟨clnt, List.mem_append_left _ hclnt, hptr⟩
    · change ((r.clients ++ [rtConnectedClientInit r.nextPtr fd]).map (·.ptr)).Nodup
      rw [List.map_append]
      refine nodup_append_fresh h.distinct ?_ (Nat.le_refl r.nextPtr)
      intro q hq
      obtain ⟨clnt, hclnt, rfl⟩ := List.mem_map.mp hq
      exact h.allocated clnt hclnt
    · intro clnt hclnt
      rcases List.mem_append.mp hclnt with hclnt | hclnt
      · exact Nat.lt_succ_of_lt (h.allocated clnt hclnt)
      · rw [List.mem_singleton.mp hclnt]
        exact Nat.lt_succ_self r.nextPtr

theorem NoDangling.mainStep {J : CJsonLib} {r r' : RtRouted Os} {e : MainEvent}
    (h : NoDangling r) (hstep : MainStep J r e r') : NoDangling r' := by
  cases hstep with
  | accept accepted => exact h.accept accepted
  | serve hserve =>
    obtain ⟨s, hs, hr'⟩ := bind_eq_ok.mp hserve
    cases hr'
    exact ((h.walking _).steps (steps_of_loop_ok hs).1).noDangling

theorem NoDangling.run {J : CJsonLib} {r r' : RtRouted Os} {es : List MainEvent}
    (h : NoDangling r) (hrun : Run (MainStep J) r es r') : NoDangling r' := by
  induction hrun with
  | nil => exact h
  | snoc _ hstep ih => exact ih.mainStep hstep

/-- Every forward of the table's routes has its client. -/
def ForwardsServed {ε : Type} (r : RtRouted ε) : Prop :=
  ∀ e ∈ r.routes, ∀ sub, e.target = .forwardMessage sub →
    ∃ clnt ∈ r.clients, r.clients.find? (fun k => k.ptr == sub.client) = some clnt

/-- **No dangling routes**, in every state the router reaches, in every state of the loop over
    its clients, and in every state of a dispatch of a client of the vector: no turn of a
    dispatch finds a route whose client is gone. -/
theorem no_dangling_routes (J : CJsonLib) (debugRoutes : Nat) (start : Os) {es : List MainEvent}
    {r : RtRouted Os} (hrun : Run (MainStep J) (startRouter debugRoutes start) es r) :
    NoDangling r ∧
    (∀ e ∈ r.routes, ∀ e' ∈ r.routes, ∀ p,
      e.subscriptionPtr = some p → e'.subscriptionPtr = some p → e = e') ∧
    ∀ fuel readFds os s, Steps ServeState.goesOn (serveTurn J fuel readFds)
        ⟨0, r.clients.length, { r with env := os }⟩ s →
      NoDangling s.routed ∧
      ∀ msg : Message, (∃ clnt ∈ s.routed.clients, clnt.ptr = msg.sender) →
        ∀ (env : Os) (d : DispatchState Os),
          Steps DispatchState.goesOn (dispatchTurn J forwardMessage msg)
            ⟨0, s.routed.routes.length, false, { s.routed with env }⟩ d →
          NoDangling d.routed ∧ ForwardsServed d.routed := by
  have hr := (NoDangling.start debugRoutes start).run hrun
  refine ⟨hr, fun e he e' he' p => hr.subscription_unique he he', ?_⟩
  intro fuel readFds os s hs
  have hwalk := (hr.walking os).steps hs
  refine ⟨hwalk.noDangling, fun msg hsender env d hd => ?_⟩
  have hdispatch := ((hwalk.noDangling.env env).steps hsender hd).1
  exact ⟨hdispatch, fun e he sub => hdispatch.finds he⟩

/-! A client that connects, subscribes and closes its end. -/

def closingOs : Os := { Os.idle (Stream'.const .complete) with recvs := Stream'.const .eof }

def subscribingOs : Os :=
  { Os.idle (Stream'.const .complete) with input := fun _ => subscribeFrame.bytes }

/-- Three turns read its SUBSCRIBE, and one the end. -/
def subscribeAndLeave : Except Fault (RtRouted Os × RtRouted Os) := do
  let r ← serveClients subscribeLib 3 [7]
    (rtRoutedRegisterNewClient 7 (startRouter 0 subscribingOs))
  let r ← serveClients subscribeLib 3 [7] r
  let r ← serveClients subscribeLib 3 [7] r
  let r' ← serveClients subscribeLib 3 [7] { r with env := closingOs }
  return (r, r')

theorem subscribeAndLeave_ends :
    subscribeAndLeave.toOption.map (fun p =>
      (subscriptions p.1.routes, subscriptions p.2.routes, p.2.clients.length)) =
    some ([⟨1, 5, ascii "A.B"⟩], [], 0) := by decide +kernel

theorem no_dangling_routes_example : ∃ es r es' r',
    Run (MainStep subscribeLib) (startRouter 0 subscribingOs) es r ∧ NoDangling r ∧
    subscriptions r.routes = [⟨1, 5, ascii "A.B"⟩] ∧
    Run (MainStep subscribeLib) (startRouter 0 subscribingOs) (es ++ es') r' ∧ NoDangling r' ∧
    subscriptions r'.routes = [] ∧ r'.clients = [] := by
  obtain ⟨p, hserved, hends⟩ := ok_of_toOption_map subscribeAndLeave_ends
  simp only [Prod.mk.injEq] at hends
  obtain ⟨hsubscribed, hnone, hclients⟩ := hends
  obtain ⟨r₁, h₁, hserved⟩ := bind_eq_ok.mp hserved
  obtain ⟨r₂, h₂, hserved⟩ := bind_eq_ok.mp hserved
  obtain ⟨r₃, h₃, hserved⟩ := bind_eq_ok.mp hserved
  obtain ⟨r₄, h₄, hserved⟩ := bind_eq_ok.mp hserved
  cases hserved
  have hread : Run (MainStep subscribeLib) (startRouter 0 subscribingOs)
      [.accept (.ok 7), .serve [7] subscribingOs, .serve [7] r₁.env, .serve [7] r₂.env] r₃ :=
    (((Run.single (MainStep.accept (.ok 7) _)).snoc (.serve h₁)).snoc (.serve h₂)).snoc (.serve h₃)
  have hleft := hread.snoc (.serve h₄)
  exact ⟨_, r₃, _, r₄, hread, (no_dangling_routes subscribeLib 0 subscribingOs hread).1,
    hsubscribed, hleft, (no_dangling_routes subscribeLib 0 subscribingOs hleft).1, hnone,
    List.length_eq_zero_iff.mp hclients⟩

end RtMessage
