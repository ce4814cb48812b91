import RtMessage.Termination

/- What one subscriber's failure does to the others.

   `EBADF` takes the sender's routes from the table, whoever's socket it was, and the
   loop does not move its index back by the routes that were before it. So a sender that
   did not fail may lose its routes, and when the sender's own route failed, as many
   routes behind it are passed over as the sender had before it. `isolated_iff` says for
   every script of a run that ends when none of this does harm. -/
namespace RtMessage
open Lib

/-- Among the `m` attempts that were made there is one for the client that ended so. -/
def Attempted (σ : Script) (routes : List RtRouteEntry) (m : Nat → Nat) (clnt : Nat)
    (o : Outcome) : Prop :=
  ∃ e ∈ routes, ∃ sub, e.target = .forwardMessage sub ∧ sub.client = clnt ∧
    ∃ k < m sub.ptr, σ sub.ptr k = o

/-- **A failing client does not affect the others**, in a dispatch that takes the router
    from `r` to `r'`. -/
structure Isolated (J : CJsonLib) (σ : Script) (msg : Message) (r r' : RtRouted (Nat → Nat)) :
    Prop where
  /-- a client that does not fail gets the message once for each of its matching routes -/
  delivered : ∀ e ∈ r.routes, ∀ sub, msg.Forwards e sub →
    (∀ o, Attempted σ r.routes r'.env sub.client o → o = .ok) →
    (List.range (r'.env sub.ptr)).countP (fun k => σ sub.ptr k = .ok) = 1
  /-- routes taken from the table are those of clients that failed with `EBADF` -/
  removed : ∀ s, Turns J σ msg r.start s → ∀ e ∈ s.routed.routes, e ∉ r'.routes →
    ∃ clnt, e.owner = some clnt ∧ Attempted σ r.routes r'.env clnt .badFd
  /-- a sender that does not fail keeps its routes -/
  kept : (∀ o, Attempted σ r.routes r'.env msg.sender o → o = .ok) →
    ∀ s, Turns J σ msg r.start s → ∀ e ∈ s.routed.routes, e.owner = some msg.sender →
    e ∈ r'.routes

/-- The routes the client has among these. -/
def ownedBy (clnt : Nat) (routes : List RtRouteEntry) : Nat :=
  routes.countP fun e => e.owner = some clnt

/-- When no harm is done. Either no forward fails with `EBADF` first. Or the sender has no
    routes, and none that it is given before an `EBADF`. Or the first `EBADF` comes from
    a route of the sender, and each route that is then passed over is that of a client
    which fails on a route that is not. -/
inductive Harmless (J : CJsonLib) (σ : Script) (msg : Message) (routes : List RtRouteEntry) :
    Prop where
  | noBadFd (h : ∀ e ∈ routes, ∀ sub, msg.Forwards e sub → ¬ BadFirst (σ sub.ptr))
  | noRoutes (h : ∀ e ∈ routes, e.owner ≠ some msg.sender)
      (hadd : ∀ pre a mid e post sub, routes = pre ++ a :: (mid ++ e :: post) → msg.Adds J a →
        msg.Forwards e sub → ¬ BadFirst (σ sub.ptr))
  | ownRoute {pre post : List RtRouteEntry} {e : RtRouteEntry} {sub : RtSubscription}
      (hsplit : routes = pre ++ e :: post)
      (hpre : ∀ k ∈ pre, ∀ sub', msg.Forwards k sub' → ¬ BadFirst (σ sub'.ptr))
      (hf : msg.Forwards e sub) (hown : sub.client = msg.sender) (hbad : BadFirst (σ sub.ptr))
      (hpassed : ∀ k ∈ (withoutClient msg.sender post).take (ownedBy msg.sender pre),
        ∀ sub', msg.Forwards k sub' →
          ∃ k' ∈ pre ++ (withoutClient msg.sender post).drop (ownedBy msg.sender pre),
            ∃ sub'', msg.Forwards k' sub'' ∧ sub''.client = sub'.client ∧ σ sub''.ptr 0 ≠ .ok)

section Runs
variable {J : CJsonLib} {σ : Script} {msg : Message} {table added : List RtRouteEntry}
  {i : Nat} {m : Nat → Nat} {s t : DispatchState (Nat → Nat)} {e : RtRouteEntry}
  {seg : List RtRouteEntry}

/-! What a run of turns keeps. -/

theorem turns_routeTable (h : Turns J σ msg s t)
    (hw : RouteTable s.routed.routes s.routed.nextPtr) :
    RouteTable t.routed.routes t.routed.nextPtr :=
  h.invariant (fun s => RouteTable s.routed.routes s.routed.nextPtr)
    (fun _ _ hw _ hst => turn_routeTable hw hst) hw

theorem turns_keeps (h : Turns J σ msg s t) (hw : RouteTable s.routed.routes s.routed.nextPtr)
    (he : e ∈ s.routed.routes) (howner : e.owner ≠ some msg.sender) : e ∈ t.routed.routes :=
  (h.invariant (fun s => RouteTable s.routed.routes s.routed.nextPtr ∧ e ∈ s.routed.routes)
    (fun _ _ hs _ hst => ⟨turn_routeTable hs.1 hst, turn_keeps hs.1 hst hs.2 howner⟩)
    ⟨hw, he⟩).2

theorem turns_gone (h : Turns J σ msg s t) (hw : RouteTable s.routed.routes s.routed.nextPtr)
    (hptr : e.ptr < s.routed.nextPtr) (he : e ∉ s.routed.routes) : e ∉ t.routed.routes :=
  (h.invariant (fun s => RouteTable s.routed.routes s.routed.nextPtr ∧
      e.ptr < s.routed.nextPtr ∧ e ∉ s.routed.routes)
    (fun _ _ hs _ hst => ⟨turn_routeTable hs.1 hst,
      Nat.lt_of_lt_of_le hs.2.1 (turn_nextPtr hs.1 hst), turn_gone hs.1 hst hs.2.1 hs.2.2⟩)
    ⟨hw, hptr, he⟩).2.2

theorem turns_nextPtr (h : Turns J σ msg s t)
    (hw : RouteTable s.routed.routes s.routed.nextPtr) : s.routed.nextPtr ≤ t.routed.nextPtr :=
  (h.invariant (fun t => RouteTable t.routed.routes t.routed.nextPtr ∧
      s.routed.nextPtr ≤ t.routed.nextPtr)
    (fun _ _ ht _ hst => ⟨turn_routeTable ht.1 hst, Nat.le_trans ht.2 (turn_nextPtr ht.1 hst)⟩)
    ⟨hw, Nat.le_refl _⟩).2

/-! What a run that ends has passed. -/

theorem At.not_fault (h : At msg.sender table added i m s) (hget : table[i]? = some e)
    (ht : Turns J σ msg s t) (hdone : t.goesOn = false) : ¬ msg.Faults J e := by
  intro hfault
  obtain ⟨u, hu⟩ := ht.turn (h.goesOn hget) hdone
  cases (h.fault hget hfault).symm.trans hu

theorem At.first_badFd {pre post : List RtRouteEntry}
    (h : At msg.sender table added i (fun _ => 0) s) (hseg : table.drop i = pre ++ e :: post)
    (hpre : ∀ k ∈ pre, msg.Clear J (fun sub => OkFirst (σ sub.ptr)) k)
    (he : ¬ msg.Clear J (fun sub => OkFirst (σ sub.ptr)) e) (ht : Turns J σ msg s t)
    (hdone : t.goesOn = false) :
    ∃ sub, msg.Forwards e sub ∧ BadFirst (σ sub.ptr) := by
  obtain ⟨s', added', m', hs, hc, h'⟩ := h.run_clear hseg hpre
  have hget := getElem?_of_drop hseg
  have hrest := hs.turns.rest ht hdone
  rcases not_clear he with hfault | ⟨sub, hf, hno⟩
  · exact absurd hfault (h'.not_fault hget hrest hdone)
  · refine ⟨sub, hf, ?_⟩
    rcases outcome_cases (σ sub.ptr) with hok | hbad | hfail
    · exact absurd hok hno
    · exact hbad
    · have hstuck : ¬ Dispatches J σ msg s' := by
        refine h'.stuck hget hf ?_ (.inr hfail)
        intro k _ hk
        cases hk.symm.trans (hfail k)
      exact absurd (hrest.ends hdone) hstuck

/-- Once the sender has no routes left, every route ahead is passed. -/
theorem At.clear_ahead (h : At msg.sender table added i m s) (hseg : table.drop i = seg)
    (hkeep : withoutClient msg.sender table = table)
    (hm : ∀ e ∈ seg, ∀ sub, msg.Forwards e sub → ∀ j < m sub.ptr, σ sub.ptr j ≠ .ok)
    (ht : Turns J σ msg s t) (hdone : t.goesOn = false) :
    ∀ e ∈ seg, msg.Clear J (fun sub => HasOk (σ sub.ptr)) e := by
  rcases all_or_first (msg.Clear J fun sub => HasOk (σ sub.ptr)) seg with
    hall | ⟨pre, e, post, rfl, hpre, he⟩
  · exact hall
  · obtain ⟨s', added', m', hs, hc, h', -, -⟩ := h.run hseg (fun k hk => (hpre k hk).1)
      fun k hk sub hf => .of_hasOk hkeep (hm k (by simp [hk]) sub hf) ((hpre k hk).2 sub hf)
    have hget := getElem?_of_drop hseg
    have hrest := hs.rest ht hdone
    rcases not_clear he with hfault | ⟨sub, hf, hno⟩
    · exact absurd hfault (h'.not_fault hget hrest hdone)
    · have hstuck : ¬ Dispatches J σ msg s' :=
        h'.stuck hget hf (fun k _ hk => hno ⟨k, hk⟩) (.inl hkeep)
      exact absurd (hrest.ends hdone) hstuck

theorem Counted.visited {m' : Nat → Nat} (h : Counted σ msg seg m m') {p : Nat}
    (hp : m' p ≠ m p) : ∃ e ∈ seg, ∃ sub, msg.Forwards e sub ∧ sub.ptr = p := by
  by_contra hn
  exact hp (h.others p fun e he sub hf heq => hn ⟨e, he, sub, hf, heq⟩)

theorem RouteTable.sub_inj {nextPtr : Nat} {e' : RtRouteEntry} {sub sub' : RtSubscription}
    (h : RouteTable table nextPtr) (he : e ∈ table) (he' : e' ∈ table)
    (hf : e.target = .forwardMessage sub) (hf' : e'.target = .forwardMessage sub')
    (heq : sub.ptr = sub'.ptr) : e = e' := by
  obtain ⟨a, b, rfl⟩ := List.append_of_mem he
  rcases List.mem_append.mp he' with ha | hb
  · exact absurd heq (h.sub_ne_append ha hf' e (by simp) sub hf)
  · rcases List.mem_cons.mp hb with rfl | hb
    · rfl
    · have h' := h.sublist (List.sublist_append_right a (e :: b))
      exact absurd heq.symm (h'.sub_ne hf e' hb sub' hf')

theorem Isolated.of_grows {r : RtRouted (Nat → Nat)} (hg : Grows J σ msg r.start t)
    (hc : Counted σ msg r.routes (fun _ => 0) t.routed.env) (hdone : t.goesOn = false) :
    Isolated J σ msg r t.routed := by
  have hkeep : ∀ s, Turns J σ msg r.start s → ∀ e ∈ s.routed.routes, e ∈ t.routed.routes := by
    intro s hs e he
    rcases Steps.on_path (fun _ _ hst => hst.1) hg hs with hst | hts
    · exact Grows.subset hst he
    · rw [hts.of_done hdone] at he
      exact he
  exact
    { delivered := fun e he sub hf _ => (hc.served e he sub hf).count
      removed := fun s hs e he hgone => absurd (hkeep s hs e he) hgone
      kept := fun _ s hs e he _ => hkeep s hs e he }

/-- The run when the first route that does not take the message at once fails with
    `EBADF`: the state `s` behind that failure, and the attempts before and after it. -/
theorem bad_run {r : RtRouted (Nat → Nat)} {pre post : List RtRouteEntry} {sub : RtSubscription}
    (hr : RouteTable r.routes r.nextPtr) (h0 : r.env = fun _ => 0)
    (hsplit : r.routes = pre ++ e :: post)
    (hpre : ∀ k ∈ pre, msg.Clear J (fun sub => OkFirst (σ sub.ptr)) k) (hf : msg.Forwards e sub)
    (hbad : BadFirst (σ sub.ptr)) (ht : Turns J σ msg r.start t) (hdone : t.goesOn = false) :
    ∃ s m n, Turns J σ msg r.start s ∧ Turns J σ msg s t ∧ Counted σ msg pre (fun _ => 0) m ∧
      (∃ k < n, σ sub.ptr k = .badFd) ∧
      At msg.sender (withoutClient msg.sender r.routes) [] pre.length
        (Function.update m sub.ptr n) s ∧
      Counted σ msg ((withoutClient msg.sender r.routes).drop pre.length)
        (Function.update m sub.ptr n) t.routed.env := by
  obtain ⟨s₂, m, n, hs, hc, hk, h₂, hno⟩ := run_to_badFd (J := J) hr h0 hsplit hpre hf hbad
  have hrest := hs.rest ht hdone
  have hkeep := withoutClient_idem msg.sender r.routes
  have hall := h₂.clear_ahead rfl hkeep hno hrest hdone
  have hdrop : (withoutClient msg.sender r.routes).drop pre.length =
      (withoutClient msg.sender r.routes).drop pre.length ++ [] := (List.append_nil _).symm
  obtain ⟨s₃, added₃, m₃, hs₃, hc₃, h₃, -, -⟩ := h₂.run hdrop (fun k' hk' => (hall k' hk').1)
    fun k' hk' sub' hf' => .of_hasOk hkeep (hno k' hk' sub' hf') ((hall k' hk').2 sub' hf')
  have hend : t = s₃ := ht.done_unique (hs.trans hs₃) hdone (h₃.done (length_le_of_drop rfl))
  refine ⟨s₂, m, n, hs, hrest, hc, hk, h₂, ?_⟩
  rw [hend, h₃.count]
  exact hc₃

theorem attempt_visited {pre : List RtRouteEntry} {sub : RtSubscription} {n : Nat}
    {m' : Nat → Nat} (hc : Counted σ msg pre (fun _ => 0) m)
    (hc' : Counted σ msg seg (Function.update m sub.ptr n) m') {p : Nat} (hp : m' p ≠ 0) :
    p = sub.ptr ∨ ∃ k ∈ pre ++ seg, ∃ sub', msg.Forwards k sub' ∧ sub'.ptr = p := by
  by_cases hsame : m' p = Function.update m sub.ptr n p
  · by_cases hsub : p = sub.ptr
    · exact .inl hsub
    · rw [hsame, Function.update_of_ne hsub] at hp
      obtain ⟨k, hk, hv⟩ := hc.visited hp
      exact .inr ⟨k, List.mem_append_left _ hk, hv⟩
  · obtain ⟨k, hk, hv⟩ := hc'.visited hsame
    exact .inr ⟨k, List.mem_append_right _ hk, hv⟩

theorem visited_served {pre post : List RtRouteEntry} {sub : RtSubscription} {n nextPtr : Nat}
    {m' : Nat → Nat} (hw : RouteTable (pre ++ e :: post) nextPtr) (hf : msg.Forwards e sub)
    (hseg : ∀ k ∈ seg, k ∈ e :: post) (hc : Counted σ msg pre (fun _ => 0) m)
    (hc' : Counted σ msg seg (Function.update m sub.ptr n) m') {k : RtRouteEntry}
    (hk : k ∈ pre ++ seg) {sub' : RtSubscription} (hf' : msg.Forwards k sub') :
    Served (σ sub'.ptr) (m' sub'.ptr) := by
  rcases List.mem_append.mp hk with hk | hk
  · have hne := hw.sub_ne_append hk hf'.2
    rw [hc'.others sub'.ptr fun l hl sub'' hf'' => hne l (hseg l hl) sub'' hf''.2,
      Function.update_of_ne (hne e (by simp) sub hf.2).symm]
    exact hc.served k hk sub' hf'
  · exact hc'.served k hk sub' hf'

end Runs

section Dispatch
variable {J : CJsonLib} {σ : Script} {msg : Message} {r : RtRouted (Nat → Nat)}
  {t : DispatchState (Nat → Nat)} {pre post : List RtRouteEntry} {e : RtRouteEntry}
  {sub : RtSubscription}

theorem mem_ahead {clnt : Nat} {k : RtRouteEntry}
    (hk : k ∈ (withoutClient clnt (pre ++ e :: post)).drop pre.length) : k ∈ e :: post := by
  rw [withoutClient_drop] at hk
  exact (List.mem_filter.mp (List.mem_of_mem_drop hk)).1

/-- Where the loop goes on when the failing route was the sender's own. -/
theorem ahead_of_own {clnt : Nat} (he : e.owner = some clnt) :
    (withoutClient clnt (pre ++ e :: post)).drop pre.length =
      (withoutClient clnt post).drop (ownedBy clnt pre) := by
  rw [withoutClient_drop, ownedBy]
  congr 1
  exact List.filter_cons_of_neg (by simp [he])

theorem clear_isolated (hr : RouteTable r.routes r.nextPtr) (h0 : r.env = fun _ => 0)
    (ht : Turns J σ msg r.start t) (hdone : t.goesOn = false)
    (hall : ∀ e ∈ r.routes, msg.Clear J (fun sub => OkFirst (σ sub.ptr)) e) :
    Isolated J σ msg r t.routed := by
  have hseg : r.routes.drop 0 = r.routes ++ [] := (List.append_nil _).symm
  obtain ⟨s', added, m, hs, hc, h'⟩ := (At.start hr h0 msg.sender).run_clear hseg hall
  have hend : t = s' := ht.done_unique hs.turns hdone (h'.done (by omega))
  subst hend
  refine .of_grows hs ?_ hdone
  rw [h'.count]
  exact hc

theorem clear_or_badFd (hr : RouteTable r.routes r.nextPtr) (h0 : r.env = fun _ => 0)
    (ht : Turns J σ msg r.start t) (hdone : t.goesOn = false) :
    (∀ e ∈ r.routes, msg.Clear J (fun sub => OkFirst (σ sub.ptr)) e) ∨
      ∃ pre e post sub, r.routes = pre ++ e :: post ∧
        (∀ k ∈ pre, msg.Clear J (fun sub => OkFirst (σ sub.ptr)) k) ∧ msg.Forwards e sub ∧
        BadFirst (σ sub.ptr) := by
  rcases all_or_first (msg.Clear J fun sub => OkFirst (σ sub.ptr)) r.routes with
    hall | ⟨pre, e, post, hsplit, hpre, he⟩
  · exact .inl hall
  · obtain ⟨sub, hf, hbad⟩ := (At.start hr h0 msg.sender).first_badFd hsplit hpre he ht hdone
    exact .inr ⟨pre, e, post, sub, hsplit, hpre, hf, hbad⟩

/-- The routes that the loop visits when a route of the sender itself fails: those in front of
    it and, of the rest, those that are not passed over. -/
def visitedByOwn (clnt : Nat) (pre post : List RtRouteEntry) : List RtRouteEntry :=
  pre ++ (withoutClient clnt post).drop (ownedBy clnt pre)

theorem mem_withoutClient {clnt : Nat} {k : RtRouteEntry} {routes : List RtRouteEntry}
    (hk : k ∈ withoutClient clnt routes) : k ∈ routes ∧ k.owner ≠ some clnt :=
  ⟨(List.mem_filter.mp hk).1, of_decide_eq_true (List.mem_filter.mp hk).2⟩

theorem mem_visitedByOwn {clnt : Nat} {k : RtRouteEntry} (hk : k ∈ visitedByOwn clnt pre post) :
    k ∈ pre ++ e :: post := by
  cases List.mem_append.mp hk with
  | inl hk => exact List.mem_append_left _ hk
  | inr hk =>
    have hpost := (mem_withoutClient (List.mem_of_mem_drop hk)).1
    exact List.mem_append_right _ (List.mem_cons_of_mem e hpost)

theorem visited_or_passed {clnt : Nat} {k : RtRouteEntry} (hk : k ∈ pre ++ e :: post)
    (he : e.owner = some clnt) (hkown : k.owner ≠ some clnt) :
    k ∈ visitedByOwn clnt pre post ∨ k ∈ (withoutClient clnt post).take (ownedBy clnt pre) := by
  cases List.mem_append.mp hk with
  | inl hk => exact .inl (List.mem_append_left _ hk)
  | inr hk =>
    cases List.mem_cons.mp hk with
    | inl heq => exact absurd (heq ▸ he) hkown
    | inr hk =>
      have hrest : k ∈ withoutClient clnt post :=
        List.mem_filter.mpr ⟨hk, decide_eq_true hkown⟩
      rw [← List.take_append_drop (ownedBy clnt pre) (withoutClient clnt post)] at hrest
      cases List.mem_append.mp hrest with
      | inl htake => exact .inr htake
      | inr hdrop => exact .inl (List.mem_append_right _ hdrop)

/-! A run whose first `EBADF` comes from a route of the sender. -/

section OwnRoute
variable (hr : RouteTable r.routes r.nextPtr) (h0 : r.env = fun _ => 0)
  (ht : Turns J σ msg r.start t) (hdone : t.goesOn = false)
  (hsplit : r.routes = pre ++ e :: post)
  (hpre : ∀ k ∈ pre, msg.Clear J (fun sub => OkFirst (σ sub.ptr)) k) (hf : msg.Forwards e sub)
  (hown : sub.client = msg.sender) (hbad : BadFirst (σ sub.ptr))
include hr h0 ht hdone hsplit hpre hf hown hbad

theorem ownRoute_run :
    Attempted σ r.routes t.routed.env msg.sender .badFd ∧
    (∀ k ∈ visitedByOwn msg.sender pre post, ∀ sub', msg.Forwards k sub' →
      Served (σ sub'.ptr) (t.routed.env sub'.ptr)) ∧
    ∀ p, t.routed.env p ≠ 0 → p = sub.ptr ∨
      ∃ k ∈ visitedByOwn msg.sender pre post, ∃ sub', msg.Forwards k sub' ∧ sub'.ptr = p := by
  obtain ⟨s, m, n, hs, hst, hc, ⟨j, hj, hjbad⟩, h, hc'⟩ :=
    bad_run (J := J) hr h0 hsplit hpre hf hbad ht hdone
  have howner : e.owner = some msg.sender := hown ▸ hf.owner
  have hw : RouteTable (pre ++ e :: post) r.nextPtr := hsplit ▸ hr
  have hahead : ∀ k ∈ (withoutClient msg.sender r.routes).drop pre.length, k ∈ e :: post := by
    rw [hsplit]
    exact fun k hk => mem_ahead hk
  have hserved : ∀ k ∈ pre ++ (withoutClient msg.sender r.routes).drop pre.length, ∀ sub',
      msg.Forwards k sub' → Served (σ sub'.ptr) (t.routed.env sub'.ptr) :=
    fun k hk sub' hf' => visited_served hw hf hahead hc hc' hk hf'
  rw [hsplit, ahead_of_own howner] at hserved hc'
  refine ⟨?_, hserved, fun p hp => attempt_visited hc hc' hp⟩
  -- the failing subscription is not tried again
  have hne : ∀ k ∈ (withoutClient msg.sender post).drop (ownedBy msg.sender pre), ∀ sub',
      msg.Forwards k sub' → sub'.ptr ≠ sub.ptr := by
    intro k hk sub' hf'
    refine (hw.sublist (List.sublist_append_right pre _)).sub_ne hf.2 k ?_ sub' hf'.2
    exact (mem_withoutClient (List.mem_of_mem_drop hk)).1
  refine ⟨e, by rw [hsplit]; simp, sub, hf.2, hown, j, ?_, hjbad⟩
  rw [hc'.others sub.ptr hne, Function.update_self]
  exact hj

theorem passed_not_attempted {k : RtRouteEntry}
    (hk : k ∈ (withoutClient msg.sender post).take (ownedBy msg.sender pre))
    {sub' : RtSubscription} (hf' : msg.Forwards k sub') : t.routed.env sub'.ptr = 0 := by
  have hw : RouteTable (pre ++ e :: post) r.nextPtr := hsplit ▸ hr
  obtain ⟨hpost, hkown⟩ := mem_withoutClient (List.mem_of_mem_take hk)
  by_contra hp
  cases (ownRoute_run hr h0 ht hdone hsplit hpre hf hown hbad).2.2 _ hp with
  | inl hp =>
    obtain rfl := hr.sub_inj (by rw [hsplit]; simp [hpost]) (by rw [hsplit]; simp) hf'.2 hf.2 hp
    exact hkown (hown ▸ hf.owner)
  | inr hvisited =>
    obtain ⟨k', hk', sub'', hf'', hp⟩ := hvisited
    cases List.mem_append.mp hk' with
    | inl hk' => exact hw.sub_ne_append hk' hf''.2 k (by simp [hpost]) sub' hf'.2 hp.symm
    | inr hk' =>
      have hwrest : RouteTable ((withoutClient msg.sender post).take (ownedBy msg.sender pre) ++
          (withoutClient msg.sender post).drop (ownedBy msg.sender pre)) r.nextPtr := by
        rw [List.take_append_drop]
        refine hw.sublist (List.filter_sublist.trans ?_)
        exact (List.sublist_cons_self e post).trans (List.sublist_append_right pre _)
      exact hwrest.sub_ne_append hk hf'.2 k' hk' sub'' hf''.2 hp

/-- Such a run harms a client whose route it passes over, if that client takes everything that
    it is sent. -/
theorem ownRoute_passed (hP : Isolated J σ msg r t.routed) {k : RtRouteEntry}
    (hk : k ∈ (withoutClient msg.sender post).take (ownedBy msg.sender pre))
    {sub' : RtSubscription} (hf' : msg.Forwards k sub') :
    ∃ k' ∈ visitedByOwn msg.sender pre post, ∃ sub'', msg.Forwards k' sub'' ∧
      sub''.client = sub'.client ∧ σ sub''.ptr 0 ≠ .ok := by
  obtain ⟨-, hserved, hattempted⟩ := ownRoute_run hr h0 ht hdone hsplit hpre hf hown hbad
  obtain ⟨hpost, hkown⟩ := mem_withoutClient (List.mem_of_mem_take hk)
  by_contra hn
  have hclient : sub'.client ≠ msg.sender := by
    intro heq
    exact hkown (heq ▸ hf'.owner)
  -- every attempt for its client is the first one on a route that is visited
  have hgood : ∀ o, Attempted σ r.routes t.routed.env sub'.client o → o = .ok := by
    rintro o ⟨e₀, he₀, sub₀, hsub₀, hc₀, i, hi, rfl⟩
    cases hattempted _ (Nat.ne_zero_of_lt hi) with
    | inl hp =>
      obtain rfl := hr.sub_inj he₀ (by rw [hsplit]; simp) hsub₀ hf.2 hp
      obtain rfl : sub₀ = sub := by injection hsub₀.symm.trans hf.2
      exact absurd (hc₀.symm.trans hown) hclient
    | inr hvisited =>
      obtain ⟨k', hk', sub'', hf'', hp⟩ := hvisited
      obtain rfl := hr.sub_inj (hsplit ▸ mem_visitedByOwn hk') he₀ hf''.2 hsub₀ hp
      obtain rfl : sub'' = sub₀ := by injection hf''.2.symm.trans hsub₀
      have hfirst : σ sub''.ptr 0 = .ok := by
        by_contra hne
        exact hn ⟨k', hk', sub'', hf'', hc₀, hne⟩
      obtain ⟨l, hl, hok, hlt⟩ := hserved k' hk' sub'' hf''
      obtain rfl : l = 0 := by
        by_contra hl0
        exact hlt 0 (by omega) hfirst
      obtain rfl : i = 0 := by omega
      exact hfirst
  have hone := hP.delivered k (by rw [hsplit]; simp [hpost]) sub' hf' hgood
  rw [passed_not_attempted hr h0 ht hdone hsplit hpre hf hown hbad hk hf'] at hone
  cases hone

theorem ownRoute_harmless
    (hpassed : ∀ k ∈ (withoutClient msg.sender post).take (ownedBy msg.sender pre),
      ∀ sub', msg.Forwards k sub' → ∃ k' ∈ visitedByOwn msg.sender pre post,
        ∃ sub'', msg.Forwards k' sub'' ∧ sub''.client = sub'.client ∧ σ sub''.ptr 0 ≠ .ok) :
    Isolated J σ msg r t.routed := by
  obtain ⟨hsender, hserved, -⟩ := ownRoute_run hr h0 ht hdone hsplit hpre hf hown hbad
  refine ⟨?_, ?_, fun hgood => absurd (hgood .badFd hsender) (by decide)⟩
  · intro k hk sub' hf' hgood
    have hne : sub'.client ≠ msg.sender := by
      intro heq
      exact absurd (hgood .badFd (heq ▸ hsender)) (by decide)
    have hkown : k.owner ≠ some msg.sender := by
      rw [hf'.owner]
      exact fun h => hne (Option.some.inj h)
    cases visited_or_passed (hsplit ▸ hk) (hown ▸ hf.owner) hkown with
    | inl hvisited => exact (hserved k hvisited sub' hf').count
    | inr htake =>
      -- its client fails elsewhere
      obtain ⟨k', hk', sub'', hf'', hclient, hno⟩ := hpassed k htake sub' hf'
      obtain ⟨l, hl, -⟩ := hserved k' hk' sub'' hf''
      have hfailed : Attempted σ r.routes t.routed.env sub'.client (σ sub''.ptr 0) :=
        ⟨k', hsplit ▸ mem_visitedByOwn hk', sub'', hf''.2, hclient, 0, by omega, rfl⟩
      exact absurd (hgood _ hfailed) hno
  · intro s' hs' k hk hgone
    have hw' := turns_routeTable hs' hr
    refine ⟨msg.sender, ?_, hsender⟩
    by_contra hkown
    exact hgone (turns_keeps (hs'.rest ht hdone) hw' hk hkown)

theorem ownRoute_isolated :
    Isolated J σ msg r t.routed ↔
      ∀ k ∈ (withoutClient msg.sender post).take (ownedBy msg.sender pre),
        ∀ sub', msg.Forwards k sub' →
          ∃ k' ∈ pre ++ (withoutClient msg.sender post).drop (ownedBy msg.sender pre),
            ∃ sub'', msg.Forwards k' sub'' ∧ sub''.client = sub'.client ∧
              σ sub''.ptr 0 ≠ .ok :=
  ⟨fun hP _ hk _ hf' => ownRoute_passed hr h0 ht hdone hsplit hpre hf hown hbad hP hk hf',
    ownRoute_harmless hr h0 ht hdone hsplit hpre hf hown hbad⟩

end OwnRoute

/-- A sender that did not fail itself loses its routes to another client's `EBADF`. -/
theorem otherRoute_not_isolated (hr : RouteTable r.routes r.nextPtr) (h0 : r.env = fun _ => 0)
    (ht : Turns J σ msg r.start t) (hdone : t.goesOn = false)
    (hsplit : r.routes = pre ++ e :: post)
    (hpre : ∀ k ∈ pre, msg.Clear J (fun sub => OkFirst (σ sub.ptr)) k) (hf : msg.Forwards e sub)
    (hown : sub.client ≠ msg.sender) (hbad : BadFirst (σ sub.ptr)) {x : RtRouteEntry}
    (hx : x ∈ r.routes) (hxown : x.owner = some msg.sender) : ¬ Isolated J σ msg r t.routed := by
  intro hP
  obtain ⟨s, m, n, hs, hst, hc, -, h, hc'⟩ := bad_run (J := J) hr h0 hsplit hpre hf hbad ht hdone
  have hw : RouteTable (pre ++ e :: post) r.nextPtr := hsplit ▸ hr
  have hgone : x ∉ t.routed.routes := by
    refine turns_gone hst h.wf ?_ ?_
    · exact Nat.lt_of_lt_of_le (hr.allocated x hx) (turns_nextPtr hs hr)
    · rw [h.routes, List.append_nil]
      intro hmem
      exact of_decide_eq_true (List.mem_filter.mp hmem).2 hxown
  obtain ⟨clnt, hclnt, e₀, he₀, sub₀, hsub₀, hc₀, i, hi, hio⟩ :=
    hP.removed r.start (Steps.refl r.start) x hx hgone
  obtain rfl : msg.sender = clnt := Option.some.inj (hxown.symm.trans hclnt)
  -- the attempts for the sender are those of the routes in front, and none is `EBADF`
  rcases attempt_visited hc hc' (Nat.ne_zero_of_lt hi) with hp | ⟨k, hk, sub', hf', hp⟩
  · obtain rfl := hr.sub_inj he₀ (by rw [hsplit]; simp) hsub₀ hf.2 hp
    obtain rfl : sub₀ = sub := by injection hsub₀.symm.trans hf.2
    exact hown hc₀
  · have hahead : ∀ k ∈ (withoutClient msg.sender r.routes).drop pre.length, k ∈ e :: post := by
      rw [hsplit]
      exact fun k hk => mem_ahead hk
    have hmem : k ∈ r.routes := by
      rw [hsplit]
      rcases List.mem_append.mp hk with hk | hk
      · exact List.mem_append_left _ hk
      · exact List.mem_append_right _ (hahead k hk)
    obtain rfl := hr.sub_inj hmem he₀ hf'.2 hsub₀ hp
    obtain rfl : sub' = sub₀ := by injection hf'.2.symm.trans hsub₀
    have hserved := visited_served hw hf hahead hc hc' hk hf'
    rcases List.mem_append.mp hk with hk | hk
    · exact ((hpre k hk).2 sub' hf').served_fail hserved hi hio
    · have hkown : k.owner ≠ some msg.sender :=
        of_decide_eq_true (List.mem_filter.mp (List.mem_of_mem_drop hk)).2
      exact hkown (hc₀ ▸ hf'.owner)

theorem Message.Adds.not_forwards {a : RtRouteEntry} (h : msg.Adds J a) :
    ∀ sub, ¬ msg.Forwards a sub := by
  intro sub hf
  obtain ⟨-, b, hb⟩ := h
  rw [asks, hf.2] at hb
  cases hb

theorem Message.Adds.not_faults {a : RtRouteEntry} (h : msg.Adds J a) : ¬ msg.Faults J a := by
  rintro ⟨-, f, hf⟩
  obtain ⟨-, b, hb⟩ := h
  cases hf.symm.trans hb

/-! A run in which the sender has no routes but those it is given on the way. -/

section NoRoutes
variable (hr : RouteTable r.routes r.nextPtr) (h0 : r.env = fun _ => 0)
  (ht : Turns J σ msg r.start t) (hdone : t.goesOn = false)
  (hfree : ∀ e ∈ r.routes, e.owner ≠ some msg.sender)
include hr h0 ht hdone hfree

theorem noRoutes_clear : ∀ e ∈ r.routes, msg.Clear J (fun sub => HasOk (σ sub.ptr)) e :=
  (At.start hr h0 msg.sender).clear_ahead rfl (withoutClient_of_none hfree)
    (fun _ _ _ _ j hj => absurd hj (Nat.not_lt_zero j)) ht hdone

theorem noRoutes_ready {k : RtRouteEntry} (hk : k ∈ r.routes) {m : Nat → Nat}
    {sub' : RtSubscription} (hf' : msg.Forwards k sub') (hm : m sub'.ptr = 0) :
    Ready σ msg.sender r.routes m sub' := by
  refine .of_hasOk (withoutClient_of_none hfree) (fun j hj => ?_)
    ((noRoutes_clear hr h0 ht hdone hfree k hk).2 sub' hf')
  omega

/-- An `EBADF` behind a route that gives the sender one harms the sender. -/
theorem noRoutes_not_badFirst (hP : Isolated J σ msg r t.routed) {a : RtRouteEntry}
    {mid : List RtRouteEntry} (hsplit : r.routes = pre ++ a :: (mid ++ e :: post))
    (ha : msg.Adds J a) (hf : msg.Forwards e sub) : ¬ BadFirst (σ sub.ptr) := by
  intro hbad
  have h := At.start hr h0 msg.sender
  have hall := noRoutes_clear hr h0 ht hdone hfree
  have hw : RouteTable (pre ++ a :: (mid ++ e :: post)) r.nextPtr := hsplit ▸ hr
  have hpre : ∀ k ∈ pre, k ∈ r.routes := fun k hk => by rw [hsplit]; simp [hk]
  have hmid : ∀ k ∈ mid, k ∈ r.routes := fun k hk => by rw [hsplit]; simp [hk]
  -- up to the route that adds one
  have hseg₁ : r.routes.drop 0 = pre ++ a :: (mid ++ e :: post) := hsplit
  obtain ⟨s₁, added₁, m₁, hs₁, hc₁, h₁, -, -⟩ := h.run hseg₁
    (fun k hk => (hall k (hpre k hk)).1)
    fun k hk _ hf' => noRoutes_ready hr h0 ht hdone hfree (hpre k hk) hf' rfl
  obtain ⟨s₂, more, hs₂, h₂, hmore⟩ :=
    h₁.pass (σ := σ) (getElem?_of_drop hseg₁) ha.not_forwards ha.not_faults
  obtain ⟨x, hx⟩ := List.exists_mem_of_ne_nil more fun hnil => hmore.mp hnil ha
  -- and from it to the one that fails
  have hm₁ : ∀ k ∈ mid ++ e :: post, ∀ sub', msg.Forwards k sub' → m₁ sub'.ptr = 0 := by
    intro k hk sub' hf'
    refine hc₁.others sub'.ptr fun l hl sub'' hf'' heq => ?_
    exact hw.sub_ne_append hl hf''.2 k (List.mem_cons_of_mem a hk) sub' hf'.2 heq.symm
  obtain ⟨s₃, added₃, m₃, hs₃, hc₃, h₃, -, -⟩ := h₂.run (drop_of_drop hseg₁)
    (fun k hk => (hall k (hmid k hk)).1) fun k hk sub' hf' =>
      noRoutes_ready hr h0 ht hdone hfree (hmid k hk) hf' (hm₁ k (by simp [hk]) sub' hf')
  have hm₃ : m₃ sub.ptr = 0 := by
    rw [hc₃.others sub.ptr fun l hl sub' hf' heq => ?_]
    · exact hm₁ e (by simp) sub hf
    · have hw' := hw.sublist ((List.sublist_cons_self a _).trans (List.sublist_append_right pre _))
      exact hw'.sub_ne_append hl hf'.2 e (by simp) sub hf.2 heq.symm
  obtain ⟨s₄, n, hs₄, -, -, h₄⟩ :=
    h₃.badFirst (J := J) (getElem?_of_drop (drop_of_drop hseg₁)) hf hm₃ hbad
  -- the route that was added is gone
  have hs₁₂ : Turns J σ msg r.start s₂ := hs₁.trans (Steps.one hs₂.1.1 hs₂.1.2)
  have hs₂₄ : Turns J σ msg s₂ s₄ := hs₃.trans hs₄
  have hxmem : x ∈ s₂.routed.routes := by
    rw [h₂.routes]
    simp [hx]
  have hxown : x.owner = some msg.sender := h₂.own x (by simp [hx])
  have hgone : x ∉ t.routed.routes := by
    refine turns_gone ((hs₁₂.trans hs₂₄).rest ht hdone) h₄.wf ?_ ?_
    · exact Nat.lt_of_lt_of_le (h₂.wf.allocated x hxmem) (turns_nextPtr hs₂₄ h₂.wf)
    · rw [h₄.routes, List.append_nil, withoutClient_of_none hfree]
      exact fun hmem => hfree x hmem hxown
  obtain ⟨clnt, hclnt, e₀, he₀, sub₀, hsub₀, hc₀, -⟩ := hP.removed s₂ hs₁₂ x hxmem hgone
  refine hfree e₀ he₀ ?_
  rw [owner_eq hsub₀, hc₀]
  exact hclnt.symm.trans hxown

theorem noRoutes_harmless (hadd : ∀ pre a mid e post sub,
      r.routes = pre ++ a :: (mid ++ e :: post) → msg.Adds J a → msg.Forwards e sub →
        ¬ BadFirst (σ sub.ptr)) :
    Isolated J σ msg r t.routed := by
  have h := At.start hr h0 msg.sender
  have hall := noRoutes_clear hr h0 ht hdone hfree
  have hseg : r.routes.drop 0 = r.routes ++ [] := (List.append_nil _).symm
  obtain ⟨s', added, m, hs', hc, h', -, hquiet⟩ := h.run (J := J) hseg (fun k hk => (hall k hk).1)
    fun k hk _ hf' => noRoutes_ready hr h0 ht hdone hfree hk hf' rfl
  have hend : t = s' := ht.done_unique hs' hdone (h'.done (by omega))
  subst hend
  rw [← h'.count] at hc
  rcases all_or_first (fun k => ¬ msg.Adds J k) r.routes with
    hnone | ⟨pre, a, post, hsplit, hpre, ha⟩
  · exact .of_grows (hquiet rfl hnone).1 hc hdone
  · have ha : msg.Adds J a := not_not.mp ha
    have hw : RouteTable (pre ++ a :: post) r.nextPtr := hsplit ▸ hr
    have hprem : ∀ k ∈ pre, k ∈ r.routes := fun k hk => by rw [hsplit]; simp [hk]
    have hpostm : ∀ k ∈ post, k ∈ r.routes := fun k hk => by rw [hsplit]; simp [hk]
    have hseg₁ : r.routes.drop 0 = pre ++ a :: post := hsplit
    obtain ⟨s₁, added₁, m₁, -, hc₁, h₁, -, hquiet₁⟩ := h.run hseg₁
      (fun k hk => (hall k (hprem k hk)).1)
      fun k hk _ hf' => noRoutes_ready hr h0 ht hdone hfree (hprem k hk) hf' rfl
    obtain ⟨s₂, more, hs₂, h₂, -⟩ :=
      h₁.pass (σ := σ) (getElem?_of_drop hseg₁) ha.not_forwards ha.not_faults
    -- behind it every subscription takes the message at once
    have hfirst : ∀ k ∈ post, ∀ sub', msg.Forwards k sub' →
        OkFirst (σ sub'.ptr) ∧ m₁ sub'.ptr = 0 := by
      intro k hk sub' hf'
      constructor
      · obtain ⟨mid, post', rfl⟩ := List.append_of_mem hk
        rcases outcome_cases (σ sub'.ptr) with hok | hbad | hfail
        · exact hok
        · exact absurd hbad (hadd pre a mid k post' sub' hsplit ha hf')
        · obtain ⟨j, hj⟩ := (hall k (hpostm k hk)).2 sub' hf'
          cases hj.symm.trans (hfail j)
      · refine hc₁.others sub'.ptr fun l hl sub'' hf'' heq => ?_
        exact hw.sub_ne_append hl hf''.2 k (by simp [hk]) sub' hf'.2 heq.symm
    have hseg₂ : r.routes.drop (0 + pre.length + 1) = post ++ [] := by
      rw [drop_of_drop hseg₁, List.append_nil]
    obtain ⟨s₃, added₃, m₃, -, -, h₃, hg₃, -⟩ := h₂.run hseg₂
      (fun k hk => (hall k (hpostm k hk)).1) fun k hk sub' hf' => .inl (hfirst k hk sub' hf')
    have hg : Grows J σ msg r.start s₃ := ((hquiet₁ rfl hpre).1.tail hs₂).trans (hg₃ hfirst)
    have hlen := congrArg List.length hsplit
    rw [List.length_append, List.length_cons] at hlen
    have hend : t = s₃ := ht.done_unique hg.turns hdone (h₃.done (by omega))
    subst hend
    exact .of_grows hg hc hdone

theorem noRoutes_isolated :
    Isolated J σ msg r t.routed ↔
      ∀ pre a mid e post sub, r.routes = pre ++ a :: (mid ++ e :: post) → msg.Adds J a →
        msg.Forwards e sub → ¬ BadFirst (σ sub.ptr) :=
  ⟨fun hP _ _ _ _ _ _ hsplit ha hf =>
      noRoutes_not_badFirst hr h0 ht hdone hfree hP hsplit ha hf,
    noRoutes_harmless hr h0 ht hdone hfree⟩

end NoRoutes

/-- **One failing subscriber and the others**: a run that ends leaves the other clients
    unaffected exactly when the failures are harmless. -/
theorem isolated_iff (J : CJsonLib) (σ : Script) (msg : Message) {r r' : RtRouted (Nat → Nat)}
    {fuel : Nat} {found : Bool} (hr : RouteTable r.routes r.nextPtr) (h0 : r.env = fun _ => 0)
    (hrun : dispatchLoop J (scripted σ) fuel msg r = .ok (found, r')) :
    Isolated J σ msg r r' ↔ Harmless J σ msg r.routes := by
  rw [dispatchLoop] at hrun
  obtain ⟨t, hloop, hret⟩ := bind_eq_ok.mp hrun
  obtain ⟨ht, hdone⟩ := steps_of_loop_ok hloop
  have hr' : r' = t.routed := by
    injection hret with hret
    exact (congrArg Prod.snd hret).symm
  subst hr'
  constructor
  · intro hP
    -- the first route that fails with `EBADF`, if any: the sender's own, or another client's
    rcases clear_or_badFd hr h0 ht hdone with hall | ⟨pre, e, post, sub, hsplit, hpre, hf, hbad⟩
    · exact .noBadFd fun e he sub hf => ((hall e he).2 sub hf).not_badFirst
    · by_cases hown : sub.client = msg.sender
      · refine .ownRoute hsplit (fun k hk sub' hf' => ((hpre k hk).2 sub' hf').not_badFirst) hf
          hown hbad ?_
        exact (ownRoute_isolated hr h0 ht hdone hsplit hpre hf hown hbad).mp hP
      · by_cases hfree : ∀ e ∈ r.routes, e.owner ≠ some msg.sender
        · exact .noRoutes hfree ((noRoutes_isolated hr h0 ht hdone hfree).mp hP)
        · simp only [not_forall, ne_eq, not_not, exists_prop] at hfree
          obtain ⟨x, hx, hxown⟩ := hfree
          exact absurd hP
            (otherRoute_not_isolated hr h0 ht hdone hsplit hpre hf hown hbad hx hxown)
  · rintro (hno | ⟨hfree, hadd⟩ | ⟨hsplit, hpre, hf, hown, hbad, hpassed⟩)
    · rcases clear_or_badFd hr h0 ht hdone with hall | ⟨pre, e, post, sub, hsplit, -, hf, hbad⟩
      · exact clear_isolated hr h0 ht hdone hall
      · exact absurd hbad (hno e (by rw [hsplit]; simp) sub hf)
    · exact (noRoutes_isolated hr h0 ht hdone hfree).mpr hadd
    · rename_i pre post e sub
      rcases clear_or_badFd hr h0 ht hdone with
        hall | ⟨pre', e', post', sub', hsplit', hpre', hf', hbad'⟩
      · exact absurd ((hall e (by rw [hsplit]; simp)).2 sub hf) hbad.not_okFirst
      · -- the two splits of the table are one
        obtain ⟨rfl, rfl, rfl⟩ := first_unique
          (P := fun k => ∀ sub', msg.Forwards k sub' → ¬ BadFirst (σ sub'.ptr))
          (hsplit.symm.trans hsplit') hpre (fun hP => hP sub hf hbad)
          (fun k hk sub' hf' => ((hpre' k hk).2 sub' hf').not_badFirst) (fun hP => hP sub' hf' hbad')
        exact (ownRoute_isolated hr h0 ht hdone hsplit hpre' hf hown hbad).mpr hpassed

theorem dispatchLoop_returns (ht : Turns J σ msg r.start t) (hdone : t.goesOn = false) :
    ∃ fuel, dispatchLoop J (scripted σ) fuel msg r = .ok (t.matchFound, t.routed) := by
  obtain ⟨fuel, hfuel⟩ := loop_of_steps .outOfFuel ht hdone
  refine ⟨fuel, ?_⟩
  rw [dispatchLoop, hfuel]
  rfl

end Dispatch

/-- A second client is subscribed to the message. -/
def twoSubscribers : RtRouted (Nat → Nat) :=
  ⟨[rtConnectedClientInit 7 0, rtConnectedClientInit 9 1],
    [exampleRoute, clientRoute 3 9 (ascii "A.B") 6], 5, fun _ => 0⟩

theorem twoSubscribers_dispatched :
    (dispatchLoop .unused (scripted firstBadFd) 4 exampleMessage twoSubscribers).toOption.map
      (fun p => (p.1, p.2.env 1, p.2.env 3)) = some (true, 2, 1) := by decide +kernel

/-- The first fails once with `EBADF`, but the sender has no routes that this could take. -/
theorem isolated_iff_example : ∃ r',
    dispatchLoop .unused (scripted firstBadFd) 4 exampleMessage twoSubscribers = .ok (true, r') ∧
    r'.env 1 = 2 ∧ r'.env 3 = 1 ∧ Isolated .unused firstBadFd exampleMessage twoSubscribers r' := by
  obtain ⟨⟨found, r'⟩, hrun, hends⟩ := ok_of_toOption_map twoSubscribers_dispatched
  simp only [Prod.mk.injEq] at hends
  obtain ⟨rfl, hfirst, hsecond⟩ := hends
  have hr : RouteTable twoSubscribers.routes twoSubscribers.nextPtr :=
    (exampleRouter_table (ε := Nat → Nat) fun _ => 0).clientRoute 9 (ascii "A.B") 6
  refine ⟨r', hrun, hfirst, hsecond, (isolated_iff _ _ _ hr rfl hrun).mpr (.noRoutes ?_ ?_)⟩
  · intro e he
    simp only [twoSubscribers, List.mem_cons, List.not_mem_nil, or_false] at he
    rcases he with rfl | rfl <;> decide
  · rintro pre a mid e post sub hsplit ⟨-, x, hasks⟩
    have ha : a ∈ twoSubscribers.routes := by
      rw [hsplit]
      exact List.mem_append_right _ List.mem_cons_self
    simp only [twoSubscribers, List.mem_cons, List.not_mem_nil, or_false] at ha
    rcases ha with rfl | rfl <;> cases hasks

/-- The sender's route, on a topic of its own. -/
def senderRoute : RtRouteEntry := clientRoute 3 8 (ascii "A.C") 6

/-- Another client's `EBADF` takes the route of the sender, which did not fail. -/
theorem not_isolated : ¬ ∀ (J : CJsonLib) (σ : Script) (msg : Message)
    (r r' : RtRouted (Nat → Nat)) (fuel : Nat) (found : Bool), RouteTable r.routes r.nextPtr →
    r.env = (fun _ => 0) → dispatchLoop J (scripted σ) fuel msg r = .ok (found, r') →
    Isolated J σ msg r r' := by
  intro hclaim
  let r : RtRouted (Nat → Nat) := ⟨[rtConnectedClientInit 7 0, rtConnectedClientInit 8 1],
    [exampleRoute, senderRoute], 5, fun _ => 0⟩
  have hr : RouteTable r.routes r.nextPtr :=
    (exampleRouter_table (ε := Nat → Nat) fun _ => 0).clientRoute 8 (ascii "A.C") 6
  have hbad : BadFirst (firstBadFd 1) := ⟨0, rfl, by simp⟩
  have hserved : Served (firstBadFd 1) 2 := ⟨1, rfl, rfl, by
    intro j hj
    obtain rfl : j = 0 := by omega
    decide⟩
  -- the attempt that fails, the one that does not, and the end of the table
  obtain ⟨s, n, hs, ⟨k, rfl, hk⟩, hn, h⟩ := (At.start hr rfl exampleMessage.sender).badFirst
    (J := .unused) (σ := firstBadFd) rfl exampleMessage_forwards rfl hbad
  have hk1 : k + 1 < 2 := by
    by_contra hle
    exact hn 1 (by omega) rfl
  have hkeep : withoutClient exampleMessage.sender [exampleRoute] = [exampleRoute] := rfl
  have hleft : withoutClient exampleMessage.sender r.routes = [exampleRoute] := rfl
  rw [hleft] at h
  obtain ⟨t, added, ht, -, h'⟩ := h.retry (J := .unused) (σ := firstBadFd) rfl
    exampleMessage_forwards hkeep hserved (by rw [Function.update_self]; exact hk1)
  have hdone : t.goesOn = false := h'.done (Nat.le_refl 1)
  obtain ⟨fuel, hfuel⟩ := dispatchLoop_returns (hs.trans ht) hdone
  have hsplit : r.routes = [] ++ exampleRoute :: [senderRoute] := rfl
  refine otherRoute_not_isolated hr rfl (hs.trans ht) hdone hsplit (by simp)
    exampleMessage_forwards (by decide) hbad (x := senderRoute) (by simp [r]) rfl
    (hclaim .unused firstBadFd exampleMessage r _ fuel _ hr rfl hfuel)

end RtMessage
