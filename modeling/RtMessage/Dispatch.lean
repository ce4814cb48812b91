import RtMessage.Router

/- The route table and one turn of the dispatch loop, for any way of forwarding.

   `clearClientRoutes_eq` says what clearing a client's routes leaves of a table in
   which no two routes have one address, and `onMessage_eq` what the router's own
   handler adds to it. `turn_skip`, `turn_handled`, `turn_failed` and `turn_badFd`
   are the turns of the loop; `dispatchTurn_cases` says that there are no others. -/
namespace RtMessage
open Lib

/-! The table. -/

/-- The address of a route's subscription; the router's own routes have none. -/
def RtRouteEntry.subscriptionPtr (e : RtRouteEntry) : Option Nat :=
  match e.target with
  | .forwardMessage sub => some sub.ptr
  | _ => none

/-- The routes and their subscriptions are objects of their own, allocated before
    `nextPtr`. -/
structure RouteTable (routes : List RtRouteEntry) (nextPtr : Nat) : Prop where
  distinct : (routes.map (·.ptr)).Nodup
  allocated : ∀ e ∈ routes, e.ptr < nextPtr
  subscriptions : (routes.filterMap (·.subscriptionPtr)).Nodup
  subscriptions_allocated : ∀ p ∈ routes.filterMap (·.subscriptionPtr), p < nextPtr

theorem RouteTable.sublist {routes routes' : List RtRouteEntry} {nextPtr : Nat}
    (h : RouteTable routes nextPtr) (hs : routes'.Sublist routes) : RouteTable routes' nextPtr where
  distinct := h.distinct.sublist (hs.map _)
  allocated := fun e he => h.allocated e (hs.subset he)
  subscriptions := h.subscriptions.sublist (hs.filterMap _)
  subscriptions_allocated := fun p hp => h.subscriptions_allocated p ((hs.filterMap _).subset hp)

theorem RouteTable.allocate {routes : List RtRouteEntry} {nextPtr nextPtr' : Nat}
    (h : RouteTable routes nextPtr) (hle : nextPtr ≤ nextPtr') : RouteTable routes nextPtr' where
  distinct := h.distinct
  allocated := fun e he => Nat.lt_of_lt_of_le (h.allocated e he) hle
  subscriptions := h.subscriptions
  subscriptions_allocated := fun p hp => Nat.lt_of_lt_of_le (h.subscriptions_allocated p hp) hle

theorem nodup_append_fresh {ps : List Nat} {p n : Nat} (h : ps.Nodup) (hlt : ∀ q ∈ ps, q < n)
    (hp : n ≤ p) : (ps ++ [p]).Nodup := by
  rw [List.nodup_append]
  refine ⟨h, by simp, ?_⟩
  intro a ha b hb hab
  have := hlt a ha
  have := List.mem_singleton.mp hb
  omega

/-- The routes that are not the client's. -/
def withoutClient (clnt : Nat) (routes : List RtRouteEntry) : List RtRouteEntry :=
  routes.filter fun e => decide (e.owner ≠ some clnt)

theorem withoutClient_append (clnt : Nat) (a b : List RtRouteEntry) :
    withoutClient clnt (a ++ b) = withoutClient clnt a ++ withoutClient clnt b :=
  List.filter_append a b

theorem withoutClient_idem (clnt : Nat) (routes : List RtRouteEntry) :
    withoutClient clnt (withoutClient clnt routes) = withoutClient clnt routes := by
  simp only [withoutClient, List.filter_filter, Bool.and_self]

theorem withoutClient_of_none {clnt : Nat} {routes : List RtRouteEntry}
    (h : ∀ e ∈ routes, e.owner ≠ some clnt) : withoutClient clnt routes = routes :=
  List.filter_eq_self.mpr fun e he => decide_eq_true (h e he)

theorem withoutClient_of_all {clnt : Nat} {routes : List RtRouteEntry}
    (h : ∀ e ∈ routes, e.owner = some clnt) : withoutClient clnt routes = [] :=
  List.filter_eq_nil_iff.mpr fun e he => by simp [h e he]

theorem removeItem_append {pre post : List RtRouteEntry} {e : RtRouteEntry}
    (h : ∀ k ∈ pre, k.ptr ≠ e.ptr) : removeItem (pre ++ e :: post) e = pre ++ post := by
  rw [removeItem, List.eraseP_append_right _ (fun k hk => by simp [h k hk]),
    List.eraseP_cons_of_pos (by simp)]

theorem clearLoop_eq (clnt : Nat) {nextPtr fuel : Nat} (pre post : List RtRouteEntry)
    (h : RouteTable (pre ++ post) nextPtr) (hfuel : post.length ≤ fuel) :
    ∃ i, loop .outOfFuel ClearState.goesOn (clearTurn clnt) fuel
      ⟨pre.length, pre ++ post⟩ = .ok ⟨i, pre ++ withoutClient clnt post⟩ := by
  induction post generalizing pre fuel with
  | nil =>
    have hc : ClearState.goesOn ⟨pre.length, pre ++ []⟩ = false := by simp [ClearState.goesOn]
    exact ⟨pre.length, by rw [loop_done hc]; rfl⟩
  | cons e post ih =>
    cases fuel with
    | zero => simp at hfuel
    | succ fuel =>
      have hc : ClearState.goesOn ⟨pre.length, pre ++ e :: post⟩ = true := by
        simp [ClearState.goesOn]
      have hget : (pre ++ e :: post)[pre.length]? = some e := by simp
      by_cases howner : e.owner = some clnt
      · have hne : ∀ k ∈ pre, k.ptr ≠ e.ptr := by
          have hd := h.distinct
          rw [List.map_append, List.nodup_append] at hd
          exact fun k hk => hd.2.2 _ (List.mem_map_of_mem hk) _ (by simp)
        have hturn : clearTurn clnt ⟨pre.length, pre ++ e :: post⟩ =
            .ok ⟨pre.length, pre ++ post⟩ := by
          simp only [clearTurn, hget, if_pos howner, removeItem_append hne]
        rw [loop_step hc hturn]
        have hsub : (pre ++ post).Sublist (pre ++ e :: post) := by simp
        obtain ⟨i, hi⟩ := ih pre (h.sublist hsub) (by simpa using hfuel)
        exact ⟨i, by rw [hi]; simp [withoutClient, howner]⟩
      · have hturn : clearTurn clnt ⟨pre.length, pre ++ e :: post⟩ =
            .ok ⟨(pre ++ [e]).length, pre ++ [e] ++ post⟩ := by
          simp only [clearTurn, hget, if_neg howner]
          simp
        rw [loop_step hc hturn]
        obtain ⟨i, hi⟩ := ih (pre ++ [e]) (by simpa using h) (by simpa using hfuel)
        exact ⟨i, by rw [hi]; simp [withoutClient, howner]⟩

/-- **Clearing a client's routes** leaves the other routes, in their order. -/
theorem clearClientRoutes_eq (clnt : Nat) {routes : List RtRouteEntry} {nextPtr : Nat}
    (h : RouteTable routes nextPtr) :
    rtRoutedClearClientRoutes clnt routes = .ok (withoutClient clnt routes) := by
  obtain ⟨i, hi⟩ := clearLoop_eq clnt [] routes h (Nat.le_refl _)
  rw [rtRoutedClearClientRoutes]
  simp only [List.nil_append, List.length_nil] at hi
  rw [hi]
  rfl

/-! The handlers. -/

/-- The route a message asks for: its expression and its id, if the topic is one of the
    router's inbox. -/
def controlRoute (J : CJsonLib) (hdr : RtMessageHeader) (buff : Bytes) :
    Except Fault (Option (Bytes × UInt32)) :=
  if hdr.topic.str = subscribeTopic then do
    let (m, expression) ← controlMessage J (ascii "topic") buff
    match expression with
    | none => .error .undefinedBehaviour
    | some exp => return some (exp, toUInt32 ((rtMessageGetInt32 m (ascii "route_id")).getD 0))
  else if hdr.topic.str = helloTopic then do
    let (_, inbox) ← controlMessage J (ascii "inbox") buff
    match inbox with
    | none => .error .undefinedBehaviour
    | some exp => return some (exp, 0)
  else return none

/-- The route entry of a client's subscription, allocated at `ptr`. -/
def clientRoute (ptr clnt : Nat) (exp : Bytes) (id : UInt32) : RtRouteEntry where
  ptr := ptr + 1
  target := .forwardMessage ⟨ptr, id, clnt⟩
  expression := .pad 128 (exp.take 128)

/-- What is left of the string in the entry, up to its first NUL. -/
theorem clientRoute_str (ptr clnt : Nat) (exp : Bytes) (id : UInt32) :
    (clientRoute ptr clnt exp id).expression.str = (cstr exp).take 128 := by
  have hdata : (clientRoute ptr clnt exp id).expression.data =
      exp.take 128 ++ List.replicate (128 - (exp.take 128).length) 0 :=
    CArray.pad_data (List.length_take_le 128 exp)
  rw [CArray.str, hdata, cstr_append_zeros, cstr, cstr, List.take_takeWhile]

theorem RouteTable.clientRoute {routes : List RtRouteEntry} {nextPtr : Nat}
    (h : RouteTable routes nextPtr) (clnt : Nat) (exp : Bytes) (id : UInt32) :
    RouteTable (routes ++ [clientRoute nextPtr clnt exp id]) (nextPtr + 2) where
  distinct := by
    rw [List.map_append]
    refine nodup_append_fresh h.distinct ?_ (Nat.le_add_right nextPtr 1)
    intro q hq
    obtain ⟨k, hk, rfl⟩ := List.mem_map.mp hq
    exact h.allocated k hk
  allocated := by
    intro k hk
    rcases List.mem_append.mp hk with hk | hk
    · exact Nat.lt_add_right 2 (h.allocated k hk)
    · rw [List.mem_singleton.mp hk]
      exact Nat.lt_succ_self (nextPtr + 1)
  subscriptions := by
    rw [List.filterMap_append]
    exact nodup_append_fresh h.subscriptions h.subscriptions_allocated (Nat.le_refl nextPtr)
  subscriptions_allocated := by
    intro p hp
    rw [List.filterMap_append] at hp
    rcases List.mem_append.mp hp with hp | hp
    · exact Nat.lt_add_right 2 (h.subscriptions_allocated p hp)
    · rw [List.mem_singleton.mp hp]
      exact Nat.lt_add_of_pos_right (Nat.succ_pos 1)

/-- The router with the route a message asked for. -/
def RtRouted.subscribe {ε : Type} (r : RtRouted ε) (clnt : Nat) :
    Option (Bytes × UInt32) → RtRouted ε
  | none => r
  | some (exp, id) =>
    { r with routes := r.routes ++ [clientRoute r.nextPtr clnt exp id], nextPtr := r.nextPtr + 2 }

theorem onMessage_eq {ε : Type} (J : CJsonLib) (sender : Nat) (hdr : RtMessageHeader)
    (buff : Bytes) (r : RtRouted ε) :
    rtRoutedOnMessage J sender hdr buff r = do
      let route ← controlRoute J hdr buff
      return (.ok, r.subscribe sender route) := by
  unfold rtRoutedOnMessage controlRoute
  split
  · cases controlMessage J (ascii "topic") buff with
    | error e => simp only [error_bind]
    | ok m =>
      obtain ⟨m, expression⟩ := m
      cases expression with
      | none => simp only [ok_bind, rtRoutedAddRoute, error_bind]
      | some exp => simp only [ok_bind, rtRoutedAddRoute, pure_eq_ok]; rfl
  · split
    · cases controlMessage J (ascii "inbox") buff with
      | error e => simp only [error_bind]
      | ok m =>
        obtain ⟨m, inbox⟩ := m
        cases inbox with
        | none => simp only [ok_bind, rtRoutedAddRoute, error_bind]
        | some exp => simp only [ok_bind, rtRoutedAddRoute, pure_eq_ok]; rfl
    · simp only [pure_eq_ok, ok_bind, RtRouted.subscribe]

theorem RouteTable.subscribe {ε : Type} {r : RtRouted ε} (h : RouteTable r.routes r.nextPtr)
    (clnt : Nat) (route : Option (Bytes × UInt32)) :
    RouteTable (r.subscribe clnt route).routes (r.subscribe clnt route).nextPtr := by
  cases route with
  | none => exact h
  | some a => exact h.clientRoute clnt a.1 a.2

theorem RtRouted.subscribe_env {ε : Type} (r : RtRouted ε) (clnt : Nat)
    (route : Option (Bytes × UInt32)) : (r.subscribe clnt route).env = r.env := by
  cases route <;> rfl

theorem RtRouted.subscribe_clients {ε : Type} (r : RtRouted ε) (clnt : Nat)
    (route : Option (Bytes × UInt32)) : (r.subscribe clnt route).clients = r.clients := by
  cases route <;> rfl

/-- A handler leaves the clients as they are; the router's own leaves the environment. -/
theorem messageHandler_cases {ε : Type} {J : CJsonLib} {forward : Forward ε} {msg : Message}
    {route : RtRouteEntry} {r r' : RtRouted ε} {err : RtError}
    (h : messageHandler J forward msg route r = .ok (err, r')) :
    (err = .ok ∧ ∃ a, r' = r.subscribe msg.sender a) ∨
      ∃ sub env, route.target = .forwardMessage sub ∧ forward msg sub r = .ok (err, env) ∧
        r' = { r with env } := by
  unfold messageHandler at h
  split at h
  · rw [onMessage_eq] at h
    obtain ⟨a, -, h⟩ := bind_eq_ok.mp h
    cases h
    exact .inl ⟨rfl, a, rfl⟩
  · cases h
    exact .inl ⟨rfl, none, rfl⟩
  · next sub hsub =>
    obtain ⟨⟨e, env⟩, hf, h⟩ := bind_eq_ok.mp h
    cases h
    exact .inr ⟨sub, env, hsub, hf, rfl⟩

/-! The turns of the loop. -/

section Turn
variable {ε : Type} {J : CJsonLib} {forward : Forward ε} {msg : Message} {s s' : DispatchState ε}
  {route : RtRouteEntry} {r' : RtRouted ε}

/-- The route's expression matches the topic of the message. -/
abbrev Message.Matches (msg : Message) (route : RtRouteEntry) : Prop :=
  rtRoutedIsTopicMatch msg.hdr.topic.str route.expression.str = true

theorem turn_skip (hget : s.routed.routes[s.i]? = some route) (hm : ¬ msg.Matches route) :
    dispatchTurn J forward msg s = .ok { s with i := s.i + 1 } := by
  simp only [dispatchTurn, hget]
  rw [if_neg hm]
  rfl

theorem turn_handled (hget : s.routed.routes[s.i]? = some route) (hm : msg.Matches route)
    (h : messageHandler J forward msg route s.routed = .ok (.ok, r')) :
    dispatchTurn J forward msg s =
      .ok { s with i := s.i + 1, matchFound := true, routed := r' } := by
  simp only [dispatchTurn, hget, if_pos hm, h]
  simp only [ok_bind, if_true, pure_eq_ok]

theorem turn_failed {err : RtError} (hget : s.routed.routes[s.i]? = some route)
    (hm : msg.Matches route) (h : messageHandler J forward msg route s.routed = .ok (err, r'))
    (hok : err ≠ .ok) (hbad : err ≠ .errno .EBADF) :
    dispatchTurn J forward msg s = .ok { s with matchFound := true, routed := r' } := by
  simp only [dispatchTurn, hget, if_pos hm, h]
  simp only [ok_bind, if_neg hok, rtErrorFromErrno, if_neg hbad, pure_eq_ok]

theorem turn_badFd {routes : List RtRouteEntry} (hget : s.routed.routes[s.i]? = some route)
    (hm : msg.Matches route)
    (h : messageHandler J forward msg route s.routed = .ok (.errno .EBADF, r'))
    (hclear : rtRoutedClearClientRoutes msg.sender r'.routes = .ok routes) :
    dispatchTurn J forward msg s =
      .ok { s with n := routes.length, matchFound := true, routed := { r' with routes } } := by
  have hne : RtError.errno .EBADF ≠ .ok := by decide
  simp only [dispatchTurn, hget, if_pos hm, h]
  simp only [ok_bind, if_neg hne, rtErrorFromErrno, if_true, hclear, pure_eq_ok]

theorem turn_fault {f : Fault} (hget : s.routed.routes[s.i]? = some route)
    (hm : msg.Matches route) (h : messageHandler J forward msg route s.routed = .error f) :
    dispatchTurn J forward msg s = .error f := by
  simp only [dispatchTurn, hget, if_pos hm, h]
  simp only [error_bind]

/-- **The turns there are.** -/
theorem dispatchTurn_cases (h : dispatchTurn J forward msg s = .ok s') :
    ∃ route, s.routed.routes[s.i]? = some route ∧
      (¬ msg.Matches route ∧ s' = { s with i := s.i + 1 } ∨
        msg.Matches route ∧ ∃ err r', messageHandler J forward msg route s.routed = .ok (err, r') ∧
          (err = .ok ∧ s' = { s with i := s.i + 1, matchFound := true, routed := r' } ∨
            err = .errno .EBADF ∧ (∃ routes,
              rtRoutedClearClientRoutes msg.sender r'.routes = .ok routes ∧
              s' = { s with n := routes.length, matchFound := true
                            routed := { r' with routes } }) ∨
            err ≠ .ok ∧ err ≠ .errno .EBADF ∧
              s' = { s with matchFound := true, routed := r' })) := by
  have h₀ := h
  cases hget : s.routed.routes[s.i]? with
  | none => simp only [dispatchTurn, hget] at h; cases h
  | some route =>
    refine ⟨route, rfl, ?_⟩
    by_cases hm : msg.Matches route
    · refine .inr ⟨hm, ?_⟩
      simp only [dispatchTurn, hget, if_pos hm] at h
      obtain ⟨⟨err, r'⟩, hh, h⟩ := bind_eq_ok.mp h
      refine ⟨err, r', hh, ?_⟩
      by_cases hok : err = .ok
      · subst hok
        rw [turn_handled hget hm hh] at h₀
        exact .inl ⟨rfl, (Except.ok.inj h₀).symm⟩
      · by_cases hbad : err = .errno .EBADF
        · subst hbad
          simp only [if_neg hok, rtErrorFromErrno, if_true] at h
          obtain ⟨routes, hclear, h⟩ := bind_eq_ok.mp h
          exact .inr (.inl ⟨rfl, routes, hclear, (Except.ok.inj h).symm⟩)
        · rw [turn_failed hget hm hh hok hbad] at h₀
          exact .inr (.inr ⟨hok, hbad, (Except.ok.inj h₀).symm⟩)
    · rw [turn_skip hget hm] at h₀
      exact .inl ⟨hm, (Except.ok.inj h₀).symm⟩

theorem turn_env (h : dispatchTurn J forward msg s = .ok s') :
    s'.routed.env = s.routed.env ∨
      ∃ sub err, forward msg sub s.routed = .ok (err, s'.routed.env) := by
  obtain ⟨route, -, ⟨-, rfl⟩ | ⟨-, err, r', hh, hs'⟩⟩ := dispatchTurn_cases h
  · exact .inl rfl
  · have henv : s'.routed.env = r'.env := by
      rcases hs' with ⟨-, rfl⟩ | ⟨-, routes, -, rfl⟩ | ⟨-, -, rfl⟩ <;> rfl
    rw [henv]
    rcases messageHandler_cases hh with ⟨-, a, rfl⟩ | ⟨sub, env, -, hf, rfl⟩
    · exact .inl (s.routed.subscribe_env msg.sender a)
    · exact .inr ⟨sub, err, hf⟩

/-- What a turn does to the table: it keeps it, adds the route the message asks for, or
    takes the sender's routes from it. -/
theorem turn_table (hw : RouteTable s.routed.routes s.routed.nextPtr)
    (h : dispatchTurn J forward msg s = .ok s') :
    (∃ a, s'.routed.routes = (s.routed.subscribe msg.sender a).routes ∧
      s'.routed.nextPtr = (s.routed.subscribe msg.sender a).nextPtr) ∨
    s'.routed.routes = withoutClient msg.sender s.routed.routes ∧
      s'.routed.nextPtr = s.routed.nextPtr := by
  obtain ⟨route, -, ⟨-, rfl⟩ | ⟨-, err, r', hh, hs'⟩⟩ := dispatchTurn_cases h
  · exact .inl ⟨none, rfl, rfl⟩
  · have hr' : ∃ a, r'.routes = (s.routed.subscribe msg.sender a).routes ∧
        r'.nextPtr = (s.routed.subscribe msg.sender a).nextPtr ∧
        (err = .errno .EBADF → a = none) := by
      rcases messageHandler_cases hh with ⟨rfl, a, rfl⟩ | ⟨sub, env, -, -, rfl⟩
      · exact ⟨a, rfl, rfl, fun he => by cases he⟩
      · exact ⟨none, rfl, rfl, fun _ => rfl⟩
    obtain ⟨a, hroutes, hnext, hbad⟩ := hr'
    rcases hs' with ⟨-, rfl⟩ | ⟨rfl, routes, hclear, rfl⟩ | ⟨-, -, rfl⟩
    · exact .inl ⟨a, hroutes, hnext⟩
    · cases hbad rfl
      rw [show r'.routes = s.routed.routes from hroutes, clearClientRoutes_eq _ hw] at hclear
      exact .inr ⟨(Except.ok.inj hclear).symm, hnext⟩
    · exact .inl ⟨a, hroutes, hnext⟩

/-- **The table stays one** in every turn. -/
theorem turn_routeTable (hw : RouteTable s.routed.routes s.routed.nextPtr)
    (h : dispatchTurn J forward msg s = .ok s') :
    RouteTable s'.routed.routes s'.routed.nextPtr := by
  rcases turn_table hw h with ⟨a, hroutes, hnext⟩ | ⟨hroutes, hnext⟩
  · rw [hroutes, hnext]
    exact hw.subscribe msg.sender a
  · rw [hroutes, hnext]
    exact hw.sublist List.filter_sublist

theorem RtRouted.mem_subscribe {r : RtRouted ε} {clnt : Nat} {a : Option (Bytes × UInt32)}
    {e : RtRouteEntry} (he : e ∈ r.routes) : e ∈ (r.subscribe clnt a).routes := by
  cases a with
  | none => exact he
  | some a => exact List.mem_append_left _ he

theorem turn_keeps (hw : RouteTable s.routed.routes s.routed.nextPtr)
    (h : dispatchTurn J forward msg s = .ok s') {e : RtRouteEntry} (he : e ∈ s.routed.routes)
    (howner : e.owner ≠ some msg.sender) : e ∈ s'.routed.routes := by
  rcases turn_table hw h with ⟨a, hroutes, -⟩ | ⟨hroutes, -⟩
  · rw [hroutes]
    exact RtRouted.mem_subscribe he
  · rw [hroutes]
    exact List.mem_filter.mpr ⟨he, decide_eq_true howner⟩

theorem turn_nextPtr (hw : RouteTable s.routed.routes s.routed.nextPtr)
    (h : dispatchTurn J forward msg s = .ok s') : s.routed.nextPtr ≤ s'.routed.nextPtr := by
  rcases turn_table hw h with ⟨a, -, hnext⟩ | ⟨-, hnext⟩
  · rw [hnext]
    cases a with
    | none => exact Nat.le_refl _
    | some a => exact Nat.le_add_right _ 2
  · exact Nat.le_of_eq hnext.symm

/-- A route that is not in the table any more does not come back. -/
theorem turn_gone (hw : RouteTable s.routed.routes s.routed.nextPtr)
    (h : dispatchTurn J forward msg s = .ok s') {e : RtRouteEntry}
    (hptr : e.ptr < s.routed.nextPtr) (he : e ∉ s.routed.routes) : e ∉ s'.routed.routes := by
  intro he'
  rcases turn_table hw h with ⟨a, hroutes, -⟩ | ⟨hroutes, -⟩
  · rw [hroutes] at he'
    cases a with
    | none => exact he he'
    | some a =>
      rcases List.mem_append.mp he' with he' | he'
      · exact he he'
      · rw [List.mem_singleton.mp he'] at hptr
        exact absurd hptr (Nat.not_lt.mpr (Nat.le_succ _))
  · rw [hroutes] at he'
    exact he (List.mem_filter.mp he').1

end Turn

end RtMessage
