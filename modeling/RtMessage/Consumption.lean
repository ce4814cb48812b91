import Mathlib.Algebra.Order.BigOperators.Group.List
import RtMessage.Accounts

/- What is in flight can be consumed.

   The router can read each client whose bytes have arrived, and a client can dispatch each
   frame that has arrived there. Reads come first, as they are what sends frames to the
   clients; a dispatch sends nothing. -/
namespace RtMessage
open Lib

/-- What has arrived at a client and was not taken. -/
def Session.waiting (s : Session) : Bytes :=
  match s.con.fd with
  | none => []
  | some sock => s.os.input sock

namespace World

/-- The router has read everything. -/
def AllRead (w : World) : Prop := ∀ clnt ∈ w.router.clients, w.router.env.input clnt.fd = []

/-- Nothing is in flight. -/
structure Consumed (w : World) : Prop where
  read : w.AllRead
  taken : ∀ clnt ∈ w.router.clients, (w.sessions clnt.ptr).waiting = []

/-- The ends of the connections. -/
def ends (w : World) : List (Nat × Nat) := w.router.clients.map fun k => (k.ptr, k.fd)

/-- How much the router has not read. -/
def unreadLength (w : World) : Nat := (w.ends.map fun p => (w.router.env.input p.2).length).sum

/-- How much the clients have not taken. -/
def waitingLength (w : World) : Nat := (w.ends.map fun p => (w.sessions p.1).waiting.length).sum

end World

/-- A read of the router, or a client's dispatch. -/
def WorldEvent.consumes : WorldEvent → Bool
  | .read _ _ => true
  | .dispatched _ _ => true
  | _ => false

theorem WorldEvent.consumes_allowed {e : WorldEvent} (h : e.consumes = true) (J : CJsonLib) :
    e.Allowed J := by
  cases e with
  | added _ _ _ => cases h
  | refused _ => cases h
  | published _ _ _ => cases h
  | read _ _ => trivial
  | dispatched _ _ => trivial

theorem exists_of_sum_pos {ends : List (Nat × Nat)} {left : Nat × Nat → Bytes}
    (h : 0 < (ends.map fun p => (left p).length).sum) : ∃ p ∈ ends, left p ≠ [] := by
  by_contra hnone
  have hzero : (ends.map fun p => (left p).length).sum = 0 := by
    refine List.sum_eq_zero fun n hn => ?_
    obtain ⟨p, hp, rfl⟩ := List.mem_map.mp hn
    rw [List.length_eq_zero_iff]
    by_contra hne
    exact hnone ⟨p, hp, hne⟩
  omega

theorem nil_of_sum_zero {ends : List (Nat × Nat)} {left : Nat × Nat → Bytes}
    (h : (ends.map fun p => (left p).length).sum = 0) {p : Nat × Nat} (hp : p ∈ ends) :
    left p = [] := by
  have hle := List.le_sum_of_mem (List.mem_map_of_mem (f := fun p => (left p).length) hp)
  rw [h] at hle
  exact List.length_eq_zero_iff.mp (Nat.le_zero.mp hle)

theorem sum_lt_of_shorter {ends : List (Nat × Nat)} {left left' : Nat × Nat → Bytes}
    (hle : ∀ p ∈ ends, (left' p).length ≤ (left p).length) {p : Nat × Nat} (hp : p ∈ ends)
    (hlt : (left' p).length < (left p).length) :
    (ends.map fun p => (left' p).length).sum < (ends.map fun p => (left p).length).sum :=
  List.sum_lt_sum _ _ hle ⟨p, hp, hlt⟩

section Consume
variable {J : CJsonLib} {own : List Bytes} {es : List WorldEvent} {t : Traffic} {w : World}
  {clnt : RtConnectedClient}

/-- **The router can read a client** whose bytes have arrived. -/
theorem Accounted.read_step (h : Accounted J own es t w) (hmem : clnt ∈ w.router.clients)
    (hin : w.router.env.input clnt.fd ≠ []) :
    ∃ e w', WorldStep J w e w' ∧ e.consumes = true ∧ w'.ends = w.ends ∧
      (∀ k ∈ w.router.clients, (w'.router.env.input k.fd).length ≤
        (w.router.env.input k.fd).length) ∧
      (w'.router.env.input clnt.fd).length < (w.router.env.input clnt.fd).length := by
  obtain ⟨n, r', result, full, os', hn, hread, hserved, -, -, hserve⟩ :=
    h.serving.serve_extracts hmem hin
  have hstep := WorldStep.read hmem hread (hserve _ (Nat.lt_succ_self _))
  have hinput : ∀ k ∈ w.router.clients,
      r'.env.input k.fd = (readStream t.streams (clnt.ptr, n) k.ptr).unread := by
    intro k hk
    obtain ⟨k', hk', hptr, hfd⟩ := mem_of_same hserved.clients hk
    rw [← hptr, ← hfd]
    exact hserved.serving.input k' hk'
  have hless : (r'.env.input clnt.fd).length < (w.router.env.input clnt.fd).length := by
    rw [hinput clnt hmem, h.serving.input clnt hmem]
    rw [h.serving.input clnt hmem] at hin
    have hreading := h.serving.reading clnt hmem
    cases hstream : t.streams clnt.ptr with
    | mk fs got =>
    rw [hstream] at hreading hin
    cases hreading with
    | ended _ => exact absurd List.drop_nil hin
    | frame hreader =>
      rw [← hstream]
      exact readStream_shorter hstream hreader.unfinished hn
  refine ⟨_, _, hstep, rfl, hserved.clients, fun k hk => ?_, hless⟩
  by_cases hp : k.ptr = clnt.ptr
  · rw [h.serving.distinct.eq_of_ptr hk hmem hp]
    exact Nat.le_of_lt hless
  · change (r'.env.input k.fd).length ≤ _
    rw [hinput k hk, readStream_other hp n, h.serving.input k hk]

/-- **A client can dispatch** a frame that has arrived. -/
theorem Accounted.dispatch_step (h : Accounted J own es t w) (hmem : clnt ∈ w.router.clients)
    (hin : (w.sessions clnt.ptr).waiting ≠ []) :
    ∃ e w', WorldStep J w e w' ∧ e.consumes = true ∧ w'.router = w.router ∧
      (∀ k, (w'.sessions k).waiting.length ≤ (w.sessions k).waiting.length) ∧
      (w'.sessions clnt.ptr).waiting.length < (w.sessions clnt.ptr).waiting.length := by
  have hbox := (h.account clnt hmem).inbox
  obtain ⟨sock, hfd, -⟩ := (h.account clnt hmem).arrived
  rw [Session.waiting, hfd] at hin
  cases hunread : t.unread clnt.ptr sock with
  | nil =>
    refine absurd ?_ hin
    dsimp only
    rw [hbox.arriving.input, hunread, List.flatMap_nil]
  | cons g rest =>
    have hinput : (w.sessions clnt.ptr).os.input sock = g.bytes ++ rest.flatMap Frame.bytes := by
      rw [hbox.arriving.input, hunread, List.flatMap_cons]
      rfl
    have hsize := hbox.arriving.size_lt sock g (by rw [hunread]; exact List.mem_cons_self)
    obtain ⟨recvs', hanswers, -⟩ := hbox.arriving.delivers.frame g 4
    -- the dispatch of the frame in front returns, and takes this frame alone
    obtain ⟨fuel, d, hd⟩ := timedDispatch_returns J hfd hinput hsize hanswers
      hbox.registered.callable
    cases hbox.arriving.dispatch hd with
    | inl hnone => cases hnone.1.symm.trans hfd
    | inr hnext =>
      obtain ⟨sock', g', rest', buffer, evs, recvs₁, hsock, hunread', -, -, hos, hdeliver, hleft⟩ :=
        hnext
      cases hfd.symm.trans hsock
      cases hunread.symm.trans hunread'
      have hsent : d.os.sent = (w.sessions clnt.ptr).os.sent := by
        rw [hos]
        rfl
      have hfd' : d.con.fd = some sock := (deliverFrame_fd hdeliver).trans hfd
      have hwaiting : Session.waiting ⟨d.con, d.os⟩ = rest.flatMap Frame.bytes := by
        rw [Session.waiting, hfd']
        refine (hleft.input sock).trans ?_
        rw [Function.update_self]
        rfl
      -- so this client has a frame less waiting, and the others have what they had
      have hless : (Session.waiting ⟨d.con, d.os⟩).length <
          (w.sessions clnt.ptr).waiting.length := by
        have hpos := g.size_pos
        rw [hwaiting, Session.waiting, hfd]
        dsimp only
        rw [hinput, List.length_append, g.bytes_length]
        omega
      have hself : (w.called clnt ⟨d.con, d.os⟩).sessions clnt.ptr = ⟨d.con, d.os⟩ :=
        Function.update_self ..
      refine ⟨_, _, .dispatch hmem hd, rfl, World.called_silent hsent, fun k => ?_, ?_⟩
      · by_cases hk : k = clnt.ptr
        · rw [hk, hself]
          exact Nat.le_of_lt hless
        · have hother : (w.called clnt ⟨d.con, d.os⟩).sessions k = w.sessions k :=
            Function.update_of_ne hk ..
          rw [hother]
      · rw [hself]
        exact hless

/-! Step after step. -/

/-- Until everything is read, there is a read that leaves less to read. -/
theorem Accounted.read_next (h : Accounted J own es t w) (hleft : 0 < w.unreadLength) :
    ∃ e w', Allowing (fun _ e => e.consumes = true) (WorldStep J) w e w' ∧
      (∃ t', Accounted J own (es ++ [e]) t' w') ∧ w'.unreadLength < w.unreadLength := by
  obtain ⟨p, hp, hne⟩ := exists_of_sum_pos hleft
  obtain ⟨clnt, hmem, rfl⟩ := List.mem_map.mp hp
  obtain ⟨e, w', hstep, he, hends, hle, hlt⟩ := h.read_step hmem hne
  refine ⟨e, w', ⟨he, hstep⟩, h.step (e.consumes_allowed he J) hstep, ?_⟩
  rw [World.unreadLength, hends]
  refine sum_lt_of_shorter (fun q hq => ?_) hp hlt
  obtain ⟨k, hk, rfl⟩ := List.mem_map.mp hq
  exact hle k hk

theorem Accounted.dispatch_next (h : Accounted J own es t w) (hread : w.AllRead)
    (hleft : 0 < w.waitingLength) :
    ∃ e w', Allowing (fun _ e => e.consumes = true) (WorldStep J) w e w' ∧
      ((∃ t', Accounted J own (es ++ [e]) t' w') ∧ w'.AllRead) ∧
      w'.waitingLength < w.waitingLength := by
  obtain ⟨p, hp, hne⟩ := exists_of_sum_pos hleft
  obtain ⟨clnt, hmem, rfl⟩ := List.mem_map.mp hp
  obtain ⟨e, w', hstep, he, hrouter, hle, hlt⟩ := h.dispatch_step hmem hne
  have hread' : w'.AllRead := by
    rw [World.AllRead, hrouter]
    exact hread
  refine ⟨e, w', ⟨he, hstep⟩, ⟨h.step (e.consumes_allowed he J) hstep, hread'⟩, ?_⟩
  rw [World.waitingLength, World.ends, hrouter]
  exact sum_lt_of_shorter (fun q _ => hle q.1) hp hlt

/-- **Everything in flight can be consumed.** -/
theorem Accounted.consumed (h : Accounted J own es t w) :
    ∃ es' w', Run (Allowing (fun _ e => e.consumes = true) (WorldStep J)) w es' w' ∧
      w'.Consumed := by
  obtain ⟨es₁, w₁, hrun₁, h₁, hdone₁⟩ := Run.drain
    (I := fun es w => ∃ t, Accounted J own es t w) World.unreadLength
    (fun _ _ ⟨_, h⟩ hleft => h.read_next hleft) ⟨t, h⟩
  have hread : w₁.AllRead := fun clnt hmem =>
    nil_of_sum_zero hdone₁ (p := (clnt.ptr, clnt.fd)) (List.mem_map_of_mem hmem)
  obtain ⟨es₂, w₂, hrun₂, ⟨-, hread₂⟩, hdone₂⟩ := Run.drain
    (I := fun es w => (∃ t, Accounted J own es t w) ∧ w.AllRead) World.waitingLength
    (fun _ _ ⟨⟨_, h⟩, hread⟩ hleft => h.dispatch_next hread hleft) ⟨h₁, hread⟩
  exact ⟨es₁ ++ es₂, w₂, hrun₁.trans hrun₂, hread₂, fun clnt hmem =>
    nil_of_sum_zero hdone₂ (p := (clnt.ptr, clnt.fd)) (List.mem_map_of_mem hmem)⟩

end Consume

end RtMessage
