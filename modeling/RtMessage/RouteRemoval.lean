import Mathlib.Data.List.Flatten
import Mathlib.Data.List.Nodup
import Mathlib.Data.List.Perm.Basic
import RtMessage.Dispatch
import RtMessage.Vector

/- The route table as the router has it: a vector of pointers to routes on the heap, each of
   which points to its subscription, if it has one.

   `free` of an address where no object lies is a fault, and so is an access to it: that
   `rtRouted_ClearClientRoutes` returns means that it touches nothing it has freed.

   1. A store of routes (`StoredRoutes`) is what adding and clearing make and keep
      (`store_refines_table`), whatever their order.
   2. Clearing a client's routes frees these routes and their subscriptions once each, and
      leaves the others in their order (`clear_client_routes_exact`). -/
namespace RtMessage
open Lib

/-! The code. -/

inductive HeapObject where
  | route (e : RtRouteEntry)
  | subscription (s : RtSubscription)

structure RouteStore where
  vector : RtVector
  heap : Nat → Option HeapObject
  /-- the calls of `free`, in order -/
  frees : List Nat

namespace RouteStore

def empty : RouteStore := ⟨rtVectorCreate, fun _ => none, []⟩

def routeAt (s : RouteStore) (p : Nat) : Except Fault RtRouteEntry :=
  match s.heap p with
  | some (.route e) => .ok e
  | _ => .error .undefinedBehaviour

def subscriptionAt (s : RouteStore) (p : Nat) : Except Fault RtSubscription :=
  match s.heap p with
  | some (.subscription sub) => .ok sub
  | _ => .error .undefinedBehaviour

def free (s : RouteStore) (p : Nat) : Except Fault RouteStore :=
  match s.heap p with
  | some _ => .ok { s with heap := Function.update s.heap p none, frees := s.frees ++ [p] }
  | none => .error .undefinedBehaviour

/-- The objects of a route, at the addresses that `malloc` has returned. -/
def objectAt (e : RtRouteEntry) (p : Nat) : Option HeapObject :=
  if p = e.ptr then some (.route e)
  else
    match e.target with
    | .forwardMessage sub => if p = sub.ptr then some (.subscription sub) else none
    | _ => none

/-- `rtRouted_AddRoute`; the result of `rtVector_PushBack` is what the code does not look at. -/
def rtRoutedAddRoute (A : Allocator) (s : RouteStore) (e : RtRouteEntry) :
    Except Fault (RtError × RouteStore) := do
  let (err, vector) ← rtVectorPushBack A s.vector e.ptr
  return (err, { s with vector, heap := fun p => (objectAt e p).or (s.heap p) })

structure Clearing where
  i : Nat
  store : RouteStore

def Clearing.goesOn (s : Clearing) : Bool := decide (s.i < rtVectorSize s.store.vector)

/-- A turn of the loop in `rtRouted_ClearClientRoutes`. -/
def Clearing.turn (clnt : Nat) (s : Clearing) : Except Fault Clearing := do
  let p ← rtVectorAt s.store.vector s.i
  let route ← s.store.routeAt p
  match route.subscriptionPtr with
  | none => return { s with i := s.i + 1 }
  | some q =>
    let sub ← s.store.subscriptionAt q
    if sub.client = clnt then
      let (_, vector) ← rtVectorRemoveItem s.store.vector p false
      let store ← { s.store with vector }.free q
      let store ← store.free p
      return { s with store }
    else return { s with i := s.i + 1 }

/-- Every turn passes a route or removes one, so the size of the vector bounds them. -/
def rtRoutedClearClientRoutes (clnt : Nat) (s : RouteStore) : Except Fault RouteStore := do
  let done ← loop .outOfFuel Clearing.goesOn (Clearing.turn clnt) (rtVectorSize s.vector) ⟨0, s⟩
  return done.store

end RouteStore

/-! What a store holds. -/

/-- The vector has the addresses of the routes, in order, and every route and subscription is an
    object of its own. -/
structure RouteStore.Holds (s : RouteStore) (routes : List RtRouteEntry) : Prop where
  vector : s.vector.Holds (routes.map (·.ptr))
  route : ∀ e ∈ routes, s.heap e.ptr = some (.route e)
  subscription : ∀ e ∈ routes, ∀ sub, e.target = .forwardMessage sub →
    s.heap sub.ptr = some (.subscription sub)
  distinct : (routes.map (·.ptr)).Nodup
  subscriptions : (routes.filterMap (·.subscriptionPtr)).Nodup

theorem RouteStore.empty_holds : RouteStore.empty.Holds [] where
  vector := .empty
  route := fun e he => by cases he
  subscription := fun e he => by cases he
  distinct := .nil
  subscriptions := .nil

/-- A route table: the routes and a store that holds them. -/
structure StoredRoutes where
  routes : List RtRouteEntry
  store : RouteStore
  holds : store.Holds routes

/-- The addresses of the routes and of their subscriptions. -/
def addresses (routes : List RtRouteEntry) : List Nat :=
  routes.flatMap fun e => e.subscriptionPtr.toList ++ [e.ptr]

/-- The routes of a client. -/
def routesOf (clnt : Nat) (routes : List RtRouteEntry) : List RtRouteEntry :=
  routes.filter fun e => decide (e.owner = some clnt)

namespace RouteStore
variable {s : RouteStore} {routes pre post : List RtRouteEntry} {e : RtRouteEntry}
  {sub : RtSubscription} {clnt p q : Nat}

theorem Holds.route_ne_subscription (h : s.Holds routes) (he : e ∈ routes) {e' : RtRouteEntry}
    (he' : e' ∈ routes) (hsub : e'.target = .forwardMessage sub) : e.ptr ≠ sub.ptr := by
  intro heq
  have hroute := h.route e he
  rw [heq, h.subscription e' he' sub hsub] at hroute
  cases hroute

theorem Holds.at (h : s.Holds (pre ++ e :: post)) :
    rtVectorAt s.vector pre.length = .ok e.ptr := by
  rw [at_holds h.vector]
  simp

theorem Holds.goesOn_iff (h : s.Holds routes) (i : Nat) :
    Clearing.goesOn ⟨i, s⟩ = decide (i < routes.length) := by
  rw [Clearing.goesOn, size_holds h.vector, List.length_map]

theorem free_eq {x : HeapObject} (h : s.heap p = some x) :
    s.free p = .ok { s with heap := Function.update s.heap p none, frees := s.frees ++ [p] } := by
  rw [free, h]

theorem subscriptionPtr_of_target (hsub : e.target = .forwardMessage sub) :
    e.subscriptionPtr = some sub.ptr := by
  rw [RtRouteEntry.subscriptionPtr, hsub]

/-- The objects at these addresses have been freed in this order, and no other. -/
structure Freed (s : RouteStore) (ps : List Nat) (s' : RouteStore) : Prop where
  frees : s'.frees = s.frees ++ ps
  heap : ∀ p, s'.heap p = if p ∈ ps then none else s.heap p

theorem Freed.nil (s : RouteStore) : Freed s [] s := ⟨(List.append_nil _).symm, fun p => by simp⟩

theorem Freed.trans {s' s'' : RouteStore} {ps qs : List Nat} (h : Freed s ps s')
    (h' : Freed s' qs s'') : Freed s (ps ++ qs) s'' where
  frees := by rw [h'.frees, h.frees, List.append_assoc]
  heap := by
    intro p
    rw [h'.heap, h.heap]
    by_cases hq : p ∈ qs
    · rw [if_pos hq, if_pos (List.mem_append_right ps hq)]
    · rw [if_neg hq]
      by_cases hp : p ∈ ps
      · rw [if_pos hp, if_pos (List.mem_append_left qs hp)]
      · rw [if_neg hp, if_neg (by simp [hp, hq])]

theorem Holds.removed (h : s.Holds (pre ++ e :: post)) (hsub : e.target = .forwardMessage sub)
    {s' : RouteStore} (hfreed : Freed s [sub.ptr, e.ptr] s')
    (hvector : s'.vector.Holds ((pre ++ post).map (·.ptr))) : s'.Holds (pre ++ post) := by
  have hsublist : (pre ++ post).Sublist (pre ++ e :: post) := by simp
  have hmem : e ∈ pre ++ e :: post := by simp
  have hdistinct := h.distinct
  have hsubscriptions := h.subscriptions
  rw [List.map_append, List.map_cons, List.nodup_middle, List.nodup_cons, ← List.map_append]
    at hdistinct
  rw [List.filterMap_append, List.filterMap_cons_some (subscriptionPtr_of_target hsub),
    List.nodup_middle, List.nodup_cons, ← List.filterMap_append] at hsubscriptions
  refine ⟨hvector, ?_, ?_, hdistinct.2, hsubscriptions.2⟩
  · intro k hk
    have hne : k.ptr ≠ e.ptr := fun heq => hdistinct.1 (heq ▸ List.mem_map_of_mem hk)
    have hne' := h.route_ne_subscription (hsublist.subset hk) hmem hsub
    rw [hfreed.heap, if_neg (by simp [hne, hne'])]
    exact h.route k (hsublist.subset hk)
  · intro k hk sub' hsub'
    have hne : sub'.ptr ≠ sub.ptr := by
      intro heq
      apply hsubscriptions.1
      rw [← heq]
      exact List.mem_filterMap.mpr ⟨k, hk, subscriptionPtr_of_target hsub'⟩
    have hne' := h.route_ne_subscription hmem (hsublist.subset hk) hsub'
    rw [hfreed.heap, if_neg (by simp [hne, hne'.symm])]
    exact h.subscription k (hsublist.subset hk) sub' hsub'

theorem turn_passes (h : s.Holds (pre ++ e :: post)) (howner : e.owner ≠ some clnt) :
    Clearing.turn clnt ⟨pre.length, s⟩ = .ok ⟨(pre ++ [e]).length, s⟩ := by
  have hroute : s.routeAt e.ptr = .ok e := by rw [routeAt, h.route e (by simp)]
  have hlength : (pre ++ [e]).length = pre.length + 1 := by simp
  rw [Clearing.turn, h.at, ok_bind, hroute, ok_bind, hlength]
  cases htarget : e.target with
  | onMessage => simp only [RtRouteEntry.subscriptionPtr, htarget, pure_eq_ok]
  | printMessage => simp only [RtRouteEntry.subscriptionPtr, htarget, pure_eq_ok]
  | forwardMessage sub =>
    have hne : sub.client ≠ clnt := by
      rw [RtRouteEntry.owner, htarget] at howner
      exact fun heq => howner (congrArg some heq)
    have hat : s.subscriptionAt sub.ptr = .ok sub := by
      rw [subscriptionAt, h.subscription e (by simp) sub htarget]
    simp only [RtRouteEntry.subscriptionPtr, htarget, hat, ok_bind, if_neg hne, pure_eq_ok]

theorem turn_removes (h : s.Holds (pre ++ e :: post)) (howner : e.owner = some clnt) :
    ∃ (sub : RtSubscription) (s' : RouteStore), e.subscriptionPtr = some sub.ptr ∧
      Clearing.turn clnt ⟨pre.length, s⟩ = .ok ⟨pre.length, s'⟩ ∧ s'.Holds (pre ++ post) ∧
      Freed s [sub.ptr, e.ptr] s' := by
  have hmem : e ∈ pre ++ e :: post := by simp
  obtain ⟨sub, htarget, hclient⟩ : ∃ sub, e.target = .forwardMessage sub ∧ sub.client = clnt := by
    cases htarget : e.target with
    | onMessage => simp [RtRouteEntry.owner, htarget] at howner
    | printMessage => simp [RtRouteEntry.owner, htarget] at howner
    | forwardMessage sub => exact ⟨sub, rfl, by simpa [RtRouteEntry.owner, htarget] using howner⟩
  have hptr := subscriptionPtr_of_target htarget
  have hroute : s.routeAt e.ptr = .ok e := by rw [routeAt, h.route e hmem]
  have hat : s.subscriptionAt sub.ptr = .ok sub := by
    rw [subscriptionAt, h.subscription e hmem sub htarget]
  have hne := h.route_ne_subscription hmem hmem htarget
  obtain ⟨vector, hremove, hvector⟩ := removeItem_holds h.vector
    (List.mem_map_of_mem (f := (·.ptr)) hmem) false
  have herase : ((pre ++ e :: post).map (·.ptr)).erase e.ptr = (pre ++ post).map (·.ptr) := by
    have hdistinct := h.distinct
    rw [List.map_append, List.map_cons, List.nodup_middle, List.nodup_cons, List.mem_append] at hdistinct
    rw [List.map_append, List.map_cons,
      List.erase_append_right _ (fun hpre => hdistinct.1 (.inl hpre)), List.erase_cons_head,
      List.map_append]
  rw [herase] at hvector
  let s₁ : RouteStore := { s with vector }
  let s₂ : RouteStore := { s₁ with
    heap := Function.update s.heap sub.ptr none, frees := s.frees ++ [sub.ptr] }
  let s₃ : RouteStore := { s₂ with
    heap := Function.update s₂.heap e.ptr none, frees := s₂.frees ++ [e.ptr] }
  have hfree : s₁.free sub.ptr = .ok s₂ := free_eq (h.subscription e hmem sub htarget)
  have hfree' : s₂.free e.ptr = .ok s₃ := by
    refine free_eq (x := .route e) ?_
    exact (Function.update_of_ne hne none s.heap).trans (h.route e hmem)
  have hfreed : Freed s [sub.ptr, e.ptr] s₃ := by
    refine ⟨List.append_assoc s.frees [sub.ptr] [e.ptr], fun p => ?_⟩
    by_cases hp : p = e.ptr
    · rw [if_pos (by simp [hp]), hp]
      exact Function.update_self e.ptr none s₂.heap
    · refine (Function.update_of_ne hp none s₂.heap).trans ?_
      by_cases hq : p = sub.ptr
      · rw [if_pos (by simp [hq]), hq]
        exact Function.update_self sub.ptr none s.heap
      · rw [if_neg (by simp [hp, hq])]
        exact Function.update_of_ne hq none s.heap
  refine ⟨sub, s₃, hptr, ?_, h.removed htarget hfreed hvector, hfreed⟩
  rw [Clearing.turn, h.at, ok_bind, hroute, ok_bind]
  simp only [hptr, hat, ok_bind, if_pos hclient, hremove, pure_eq_ok]
  rw [hfree, ok_bind, hfree', ok_bind]

theorem clear_loop (clnt : Nat) (post pre : List RtRouteEntry) {s : RouteStore}
    (h : s.Holds (pre ++ post)) {fuel : Nat} (hfuel : post.length ≤ fuel) :
    ∃ i s', loop .outOfFuel Clearing.goesOn (Clearing.turn clnt) fuel ⟨pre.length, s⟩ =
        .ok ⟨i, s'⟩ ∧ s'.Holds (pre ++ withoutClient clnt post) ∧
      Freed s (addresses (routesOf clnt post)) s' := by
  induction post generalizing pre s fuel with
  | nil =>
    have hend : Clearing.goesOn ⟨pre.length, s⟩ = false := by simp [h.goesOn_iff]
    exact ⟨_, s, loop_done hend fuel, h, .nil s⟩
  | cons e post ih =>
    obtain ⟨fuel, rfl⟩ : ∃ k, fuel = k + 1 := ⟨fuel - 1, by rw [List.length_cons] at hfuel; omega⟩
    have hfuel' : post.length ≤ fuel := Nat.le_of_succ_le_succ hfuel
    have hgoes : Clearing.goesOn ⟨pre.length, s⟩ = true := by simp [h.goesOn_iff]
    by_cases howner : e.owner = some clnt
    · obtain ⟨sub, s₁, hptr, hturn, h₁, hfreed⟩ := turn_removes h howner
      obtain ⟨i, s', hloop, hholds, hrest⟩ := ih pre h₁ hfuel'
      refine ⟨i, s', (loop_step hgoes hturn fuel).trans hloop, ?_, ?_⟩
      · rw [withoutClient, List.filter_cons_of_neg (by simp [howner])]
        exact hholds
      · rw [routesOf, List.filter_cons_of_pos (by simp [howner]), addresses, List.flatMap_cons, hptr]
        exact hfreed.trans hrest
    · have hpre : s.Holds ((pre ++ [e]) ++ post) := by simpa using h
      obtain ⟨i, s', hloop, hholds, hrest⟩ := ih (pre ++ [e]) hpre hfuel'
      refine ⟨i, s', (loop_step hgoes (turn_passes h howner) fuel).trans hloop, ?_, ?_⟩
      · rw [withoutClient, List.filter_cons_of_pos (by simp [howner])]
        rw [List.append_assoc] at hholds
        exact hholds
      · rw [routesOf, List.filter_cons_of_neg (by simp [howner])]
        exact hrest

theorem clear_holds (clnt : Nat) (h : s.Holds routes) :
    ∃ s', s.rtRoutedClearClientRoutes clnt = .ok s' ∧ s'.Holds (withoutClient clnt routes) ∧
      Freed s (addresses (routesOf clnt routes)) s' := by
  have hsize : routes.length ≤ rtVectorSize s.vector := by rw [size_holds h.vector, List.length_map]
  obtain ⟨i, s', hloop, hholds, hfreed⟩ := clear_loop clnt routes [] h hsize
  rw [List.length_nil] at hloop
  exact ⟨s', by rw [rtRoutedClearClientRoutes, hloop, ok_bind, pure_eq_ok], hholds, hfreed⟩

/-! Each address once. -/

theorem mem_addresses : p ∈ addresses routes ↔
    ∃ e ∈ routes, p = e.ptr ∨ e.subscriptionPtr = some p := by
  simp only [addresses, List.mem_flatMap, List.mem_append, Option.mem_toList, List.mem_singleton]
  exact exists_congr fun e => and_congr_right fun _ => or_comm

theorem target_of_subscriptionPtr (h : e.subscriptionPtr = some p) :
    ∃ sub, e.target = .forwardMessage sub ∧ sub.ptr = p := by
  cases htarget : e.target with
  | onMessage => simp [RtRouteEntry.subscriptionPtr, htarget] at h
  | printMessage => simp [RtRouteEntry.subscriptionPtr, htarget] at h
  | forwardMessage sub => exact ⟨sub, rfl, by simpa [RtRouteEntry.subscriptionPtr, htarget] using h⟩

theorem Holds.addresses_nodup (h : s.Holds routes) : (addresses routes).Nodup := by
  have hperm := List.flatMap_append_perm routes (fun e => e.subscriptionPtr.toList) (fun e => [e.ptr])
  rw [← List.filterMap_eq_flatMap_toList, ← List.map_eq_flatMap] at hperm
  refine hperm.nodup_iff.mp (List.nodup_append.mpr ⟨h.subscriptions, h.distinct, ?_⟩)
  intro p hp q hq
  obtain ⟨e, he, hptr⟩ := List.mem_filterMap.mp hp
  obtain ⟨e', he', rfl⟩ := List.mem_map.mp hq
  obtain ⟨sub, htarget, rfl⟩ := target_of_subscriptionPtr hptr
  exact (h.route_ne_subscription he' he htarget).symm

theorem addresses_sublist (clnt : Nat) (routes : List RtRouteEntry) :
    (addresses (routesOf clnt routes)).Sublist (addresses routes) :=
  List.filter_sublist.flatMap _

/-! Adding. -/

/-- `malloc` returns addresses where no object lies, each for one object. -/
def Fresh (s : RouteStore) (e : RtRouteEntry) : Prop :=
  s.heap e.ptr = none ∧ ∀ q, e.subscriptionPtr = some q → s.heap q = none ∧ q ≠ e.ptr

theorem objectAt_route : objectAt e e.ptr = some (.route e) := if_pos rfl

theorem objectAt_subscription (hsub : e.target = .forwardMessage sub) (hne : sub.ptr ≠ e.ptr) :
    objectAt e sub.ptr = some (.subscription sub) := by
  simp only [objectAt, hsub, if_neg hne, if_true]

theorem Fresh.objectAt (hfresh : s.Fresh e) {x : HeapObject} (hp : s.heap p = some x) :
    objectAt e p = none := by
  have hroute : p ≠ e.ptr := by
    rintro rfl
    rw [hfresh.1] at hp
    cases hp
  rw [RouteStore.objectAt, if_neg hroute]
  cases htarget : e.target with
  | onMessage => rfl
  | printMessage => rfl
  | forwardMessage sub =>
    refine if_neg ?_
    rintro rfl
    rw [(hfresh.2 _ (subscriptionPtr_of_target htarget)).1] at hp
    cases hp

/-- **Adding a route** to a store, if the vector gets the block it asks for. -/
theorem addRoute_holds (A : Allocator) (h : s.Holds routes) (hfresh : s.Fresh e) :
    (∃ s', s.rtRoutedAddRoute A e = .ok (rtErrorFromErrno .ENOMEM, s')) ∨
      ∃ s', s.rtRoutedAddRoute A e = .ok (.ok, s') ∧ s'.Holds (routes ++ [e]) := by
  rcases @pushBack_holds A s.vector _ h.vector e.ptr with ⟨-, v, hpush⟩ | ⟨v, hpush, hvector⟩
  · left
    simp only [rtRoutedAddRoute, hpush, ok_bind, pure_eq_ok]
    exact ⟨_, rfl⟩
  · right
    simp only [rtRoutedAddRoute, hpush, ok_bind, pure_eq_ok]
    refine ⟨_, rfl, ?_⟩
    have hold : ∀ p x, s.heap p = some x → (objectAt e p).or (s.heap p) = some x := by
      intro p x hp
      rw [hfresh.objectAt hp, Option.none_or, hp]
    refine ⟨by simpa using hvector, ?_, ?_, ?_, ?_⟩
    · intro k hk
      cases List.mem_append.mp hk with
      | inl hk => exact hold _ _ (h.route k hk)
      | inr hk =>
        rw [List.mem_singleton.mp hk]
        simp only [objectAt_route, Option.some_or]
    · intro k hk sub htarget
      cases List.mem_append.mp hk with
      | inl hk => exact hold _ _ (h.subscription k hk sub htarget)
      | inr hk =>
        rw [List.mem_singleton.mp hk] at htarget
        have hne := (hfresh.2 _ (subscriptionPtr_of_target htarget)).2
        simp only [objectAt_subscription htarget hne, Option.some_or]
    · rw [List.map_append, List.map_singleton, List.nodup_append_comm]
      refine List.nodup_cons.mpr ⟨?_, h.distinct⟩
      intro hmem
      obtain ⟨k, hk, heq⟩ := List.mem_map.mp hmem
      have hroute := h.route k hk
      rw [heq, hfresh.1] at hroute
      cases hroute
    · cases hptr : e.subscriptionPtr with
      | none =>
        rw [List.filterMap_append, List.filterMap_cons_none hptr, List.filterMap_nil, List.append_nil]
        exact h.subscriptions
      | some q =>
        rw [List.filterMap_append, List.filterMap_cons_some hptr, List.filterMap_nil,
          List.nodup_append_comm]
        refine List.nodup_cons.mpr ⟨?_, h.subscriptions⟩
        intro hmem
        obtain ⟨k, hk, hkptr⟩ := List.mem_filterMap.mp hmem
        obtain ⟨sub, htarget, rfl⟩ := target_of_subscriptionPtr hkptr
        have hsub := h.subscription k hk sub htarget
        rw [(hfresh.2 _ hptr).1] at hsub
        cases hsub

end RouteStore

/-! The table over its whole life. -/

inductive TableCall where
  | add (e : RtRouteEntry)
  | clear (clnt : Nat)

namespace TableCall

def run (A : Allocator) (s : RouteStore) : TableCall → Except Fault RouteStore
  | .add e => (s.rtRoutedAddRoute A e).map (·.2)
  | .clear clnt => s.rtRoutedClearClientRoutes clnt

def spec (routes : List RtRouteEntry) : TableCall → List RtRouteEntry
  | .add e => routes ++ [e]
  | .clear clnt => withoutClient clnt routes

/-- A route is added with objects that were just allocated, and the vector gets its block. -/
def Proper (A : Allocator) (s : RouteStore) (_ : List RtRouteEntry) : TableCall → Prop
  | .add e => s.Fresh e ∧ ∀ s', s.rtRoutedAddRoute A e ≠ .ok (rtErrorFromErrno .ENOMEM, s')
  | .clear _ => True

theorem run_holds {A : Allocator} (s : RouteStore) (routes : List RtRouteEntry) (call : TableCall)
    (h : s.Holds routes) (hproper : call.Proper A s routes) :
    ∃ s', call.run A s = .ok s' ∧ s'.Holds (call.spec routes) := by
  cases call with
  | add e =>
    rcases RouteStore.addRoute_holds A h hproper.1 with ⟨s', hs'⟩ | ⟨s', hs', hholds⟩
    · exact absurd hs' (hproper.2 s')
    · exact ⟨s', by rw [run, hs']; rfl, hholds⟩
  | clear clnt =>
    obtain ⟨s', hs', hholds, -⟩ := RouteStore.clear_holds clnt h
    exact ⟨s', hs', hholds⟩

end TableCall

/-- **The store is the table** after any sequence of routes added and clients cleared. -/
theorem store_refines_table (A : Allocator) (calls : List TableCall)
    (hcalls : Legal (TableCall.run A) TableCall.spec (TableCall.Proper A) .empty [] calls) :
    ∃ s, calls.foldlM (TableCall.run A) .empty = .ok s ∧ s.Holds (calls.foldl TableCall.spec []) :=
  run_of_legal TableCall.run_holds RouteStore.empty_holds hcalls

/-- Clearing does to the vector and the heap what it does to the list of the routes. -/
theorem clear_refines_list {s : RouteStore} {routes : List RtRouteEntry} {nextPtr : Nat}
    (h : s.Holds routes) (htable : RouteTable routes nextPtr) (clnt : Nat) :
    ∃ s' routes', s.rtRoutedClearClientRoutes clnt = .ok s' ∧
      rtRoutedClearClientRoutes clnt routes = .ok routes' ∧ s'.Holds routes' := by
  obtain ⟨s', hrun, hholds, -⟩ := RouteStore.clear_holds clnt h
  exact ⟨s', _, hrun, clearClientRoutes_eq clnt htable, hholds⟩

/-- **Clearing a client's routes is exact.** It returns, and leaves the routes of others in their
    order; the addresses it frees, each once, are those of the client's routes and of their
    subscriptions, and nothing else on the heap changes. -/
theorem clear_client_routes_exact (t : StoredRoutes) (clnt : Nat) :
    ∃ s' frees, t.store.rtRoutedClearClientRoutes clnt = .ok s' ∧
      s'.Holds (t.routes.filter fun e => decide (e.owner ≠ some clnt)) ∧
      s'.frees = t.store.frees ++ frees ∧ frees.Nodup ∧
      (∀ p, p ∈ frees ↔ ∃ e ∈ t.routes, e.owner = some clnt ∧
        (p = e.ptr ∨ e.subscriptionPtr = some p)) ∧
      ∀ p, s'.heap p = if p ∈ frees then none else t.store.heap p := by
  obtain ⟨s', hrun, hholds, hfreed⟩ := RouteStore.clear_holds clnt t.holds
  refine ⟨s', _, hrun, hholds, hfreed.frees, ?_, fun p => ?_, hfreed.heap⟩
  · exact t.holds.addresses_nodup.sublist (RouteStore.addresses_sublist clnt t.routes)
  · rw [RouteStore.mem_addresses]
    simp only [routesOf, List.mem_filter, decide_eq_true_iff, and_assoc]

end RtMessage
