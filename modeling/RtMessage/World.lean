import RtMessage.Refinement
import RtMessage.Session

/- A router and its clients, joined by their connections.

   Each client is the other end of one of the router's connections. What either end sends
   has arrived at the other when the call is over, in order and whole; it is read when
   `recv` is called for it, in chunks of any size, so a slow connection is one that is read
   late. `WorldStep` is one call: of a client, or of the router for one readable client. -/
namespace RtMessage
open Lib

structure World where
  router : RtRouted Os
  /-- the other end of the connection of the client at an address -/
  sessions : Nat → Session
  /-- the process a client is part of, which gives it its subscription ids -/
  process : Nat → Nat
  nextId : Nat → UInt32

/-- What a socket took between two states of the system. -/
def newBytes (sock : Nat) (os os' : Os) : Bytes :=
  (wire sock os'.sent).drop (wire sock os.sent).length

/-- What a client sent on its connection. -/
def Session.newBytes (s s' : Session) : Bytes :=
  match s.con.fd with
  | none => []
  | some sock => RtMessage.newBytes sock s.os s'.os

/-- The bytes that the router sent to a client arrive there. -/
def Session.receives (s : Session) (bs : Bytes) : Session :=
  match s.con.fd with
  | none => s
  | some sock => { s with os := s.os.arrive sock bs }

namespace World

/-- A client has made a call, and what it sent has arrived at the router. -/
def called (w : World) (clnt : RtConnectedClient) (s : Session) : World :=
  { w with
    router := { w.router with
      env := w.router.env.arrive clnt.fd ((w.sessions clnt.ptr).newBytes s) }
    sessions := Function.update w.sessions clnt.ptr s }

/-- The router has made a call, and what it sent has arrived at the clients. -/
def routed (w : World) (r : RtRouted Os) : World :=
  { w with
    router := r
    sessions := fun ptr =>
      match w.router.clients.find? (fun k => k.ptr == ptr) with
      | none => w.sessions ptr
      | some clnt => (w.sessions ptr).receives (newBytes clnt.fd w.router.env r.env) }

/-- The next id of the client's process. -/
def idFor (w : World) (clnt : RtConnectedClient) : UInt32 := w.nextId (w.process clnt.ptr)

/-- A client has called `rtConnection_AddListener`. -/
def listened (w : World) (clnt : RtConnectedClient) (r : AddResult) : World :=
  { w.called clnt ⟨r.con, r.os⟩ with
    nextId := Function.update w.nextId (w.process clnt.ptr) r.nextId }

end World

inductive WorldEvent where
  /-- a listener was put into a slot -/
  | added (client slot : Nat) (l : RtListener)
  /-- there was no slot for a listener -/
  | refused (client : Nat)
  | published (client : Nat) (topic payload : Bytes)
  /-- the router has read a client, and dispatched the message that it extracted, if any -/
  | read (client : Nat) (message : Option (RtMessageHeader × Bytes))
  | dispatched (client : Nat) (call : Option CallbackCall)

inductive WorldStep (J : CJsonLib) (w : World) : WorldEvent → World → Prop where
  | add {clnt : RtConnectedClient} {fuel slot : Nat} {expression : Bytes}
      {callback : RtMessageCallback} {r : AddResult} (hmem : clnt ∈ w.router.clients)
      (h : rtConnectionAddListener J fuel (w.sessions clnt.ptr).con expression callback
        (w.idFor clnt) (w.sessions clnt.ptr).os = .ok r)
      (hslot : (w.sessions clnt.ptr).con.listeners.findIdx? (fun l => !l.inUse) = some slot) :
      WorldStep J w (.added clnt.ptr slot
        ⟨true, expression, (rtConnectionGetNextSubscriptionId (w.idFor clnt)).1, some callback⟩)
        (w.listened clnt r)
  | refuse {clnt : RtConnectedClient} {fuel : Nat} {expression : Bytes}
      {callback : RtMessageCallback} {r : AddResult} (hmem : clnt ∈ w.router.clients)
      (h : rtConnectionAddListener J fuel (w.sessions clnt.ptr).con expression callback
        (w.idFor clnt) (w.sessions clnt.ptr).os = .ok r)
      (hfull : (w.sessions clnt.ptr).con.listeners.findIdx? (fun l => !l.inUse) = none) :
      WorldStep J w (.refused clnt.ptr) (w.listened clnt r)
  | publish {clnt : RtConnectedClient} {fuel : Nat} {topic payload : Bytes} {e : RtError}
      {con' : RtConnection} {os' : Os} (hmem : clnt ∈ w.router.clients)
      (h : rtConnectionSendBinary J fuel (w.sessions clnt.ptr).con topic payload
        (w.sessions clnt.ptr).os = .ok (e, con', os')) :
      WorldStep J w (.published clnt.ptr topic payload) (w.called clnt ⟨con', os'⟩)
  | publishMessage {clnt : RtConnectedClient} {fuel : Nat} {topic : Bytes} {msg : CJson}
      {e : RtError} {con' : RtConnection} {os' : Os} (hmem : clnt ∈ w.router.clients)
      (h : rtConnectionSendMessage J fuel (w.sessions clnt.ptr).con msg topic
        (w.sessions clnt.ptr).os = .ok (e, con', os')) :
      WorldStep J w (.published clnt.ptr topic (rtMessageToByteArray J msg))
        (w.called clnt ⟨con', os'⟩)
  | read {clnt full : RtConnectedClient} {fuel : Nat} {r' : RtRouted Os} {result : ClientRead}
      {os' : Os} (hmem : clnt ∈ w.router.clients)
      (hread : readClient clnt w.router.env = .ok (result, full, os'))
      (h : serveClient J fuel clnt.ptr w.router = .ok r') :
      WorldStep J w (.read clnt.ptr (if result = .message then some full.extracted else none))
        (w.routed r')
  | dispatch {clnt : RtConnectedClient} {fuel : Nat} {d : Dispatched}
      (hmem : clnt ∈ w.router.clients)
      (h : rtConnectionTimedDispatch J fuel (w.sessions clnt.ptr).con
        (w.sessions clnt.ptr).os = .ok d) :
      WorldStep J w (.dispatched clnt.ptr d.call) (w.called clnt ⟨d.con, d.os⟩)

/-! Bytes that arrive. -/

theorem Os.arrive_nil (os : Os) (sock : Nat) : os.arrive sock [] = os := by
  rw [Os.arrive, List.append_nil, Function.update_eq_self]

theorem newBytes_nil {sock : Nat} {os os' : Os} (h : os'.sent = os.sent) :
    newBytes sock os os' = [] := by
  rw [newBytes, h, List.drop_length]

theorem newBytes_eq {sock : Nat} {os os' : Os} {bs : Bytes}
    (h : wire sock os'.sent = wire sock os.sent ++ bs) : newBytes sock os os' = bs := by
  rw [newBytes, h, List.drop_left]

theorem World.called_silent {w : World} {clnt : RtConnectedClient} {s : Session}
    (h : s.os.sent = (w.sessions clnt.ptr).os.sent) : (w.called clnt s).router = w.router := by
  have hnew : (w.sessions clnt.ptr).newBytes s = [] := by
    rw [Session.newBytes]
    split
    · rfl
    · exact newBytes_nil h
  rw [World.called, hnew, Os.arrive_nil]

section Arrive
variable {J : CJsonLib} {own : List Bytes} {streams : Nat → Progress} {r : RtRouted Os}
  {clnt : RtConnectedClient} {f : Frame} {p : Progress}

theorem ReadingAt.append (h : ReadingAt p clnt) (f : Frame) : ReadingAt (p.1 ++ [f], p.2) clnt := by
  cases h with
  | ended hrest => exact hrest.readingAt [f]
  | frame hreader => exact .frame hreader

theorem ReadingAt.unread_append (h : ReadingAt p clnt) (f : Frame) :
    Progress.unread (p.1 ++ [f], p.2) = p.unread ++ f.bytes := by
  cases h with
  | ended hrest => exact List.append_nil f.bytes
  | @frame g fs got _ hreader =>
    have hle : got ≤ ((g :: fs).flatMap Frame.bytes).length := by
      have hlt := hreader.unfinished
      rw [List.flatMap_cons, List.length_append, g.bytes_length]
      omega
    rw [Progress.unread, Progress.unread, List.flatMap_append, List.flatMap_singleton,
      List.drop_append_of_le_length hle]

theorem Serving.arrive (h : Serving J own streams r) (hmem : clnt ∈ r.clients)
    (hf : f.Admissible J) :
    Serving J own (Function.update streams clnt.ptr
        ((streams clnt.ptr).1 ++ [f], (streams clnt.ptr).2))
      { r with env := r.env.arrive clnt.fd f.bytes } where
  distinct := h.distinct
  routes := h.routes
  own_eq := h.own_eq
  takes := h.takes
  delivers := h.delivers
  input := by
    intro k hk
    change Function.update r.env.input clnt.fd _ k.fd = _
    by_cases heq : k = clnt
    · subst heq
      rw [Function.update_self, Function.update_self, (h.reading k hk).unread_append, h.input k hk]
    · rw [Function.update_of_ne fun hfd => heq (h.distinct.eq_of_fd hk hmem hfd),
        Function.update_of_ne fun hp => heq (h.distinct.eq_of_ptr hk hmem hp), h.input k hk]
  frames := by
    intro k hk g hg
    by_cases hp : k.ptr = clnt.ptr
    · rw [hp, Function.update_self] at hg
      cases List.mem_append.mp hg with
      | inl hg => exact h.frames clnt hmem g hg
      | inr hg =>
        rw [List.mem_singleton.mp hg]
        exact hf
    · rw [Function.update_of_ne hp] at hg
      exact h.frames k hk g hg
  reading := by
    intro k hk
    by_cases hp : k.ptr = clnt.ptr
    · rw [hp, Function.update_self, ← hp]
      exact (h.reading k hk).append f
    · rw [Function.update_of_ne hp]
      exact h.reading k hk

end Arrive

end RtMessage
