import RtMessage.NoDangling
import RtMessage.SocketAddress

/- The whole of `main`'s loop: the sets that are given to `select`, and a turn in which
   connections are accepted and clients are read.

   `serveSelected_eq` is what the loop over the clients comes to, though it walks a vector that
   grows shorter under it: the readable clients are served one after the other, as if nothing
   were taken out. `main_loop_turns` is a whole run. The kernel is asked for two things: that
   `select` reports descriptors it was asked about, and that a new descriptor is not one that
   is open. -/
namespace RtMessage
open Lib

/-! The sets. -/

def FD_SETSIZE : Nat := 1024

/-- `fd_set`, as the descriptors that are in it. -/
abbrev FdSet := List Nat

/-- `FD_SET`: a descriptor that is too large is a bit outside the set. -/
def fdSet (fd : Nat) (fds : FdSet) : Except Fault FdSet :=
  if fd < FD_SETSIZE then .ok (fds ++ [fd]) else .error .undefinedBehaviour

/-- `FD_ISSET`, which looks such a bit up as well. -/
def fdIsSet (fd : Nat) (fds : FdSet) : Except Fault Bool :=
  if fd < FD_SETSIZE then .ok (decide (fd ∈ fds)) else .error .undefinedBehaviour

/-- `rtRouted_PushFd`; `RTMSG_INVALID_FD` is `none`. -/
def rtRoutedPushFd (fds : FdSet) (fd : Option Nat) (maxFd : Int) : Except Fault (FdSet × Int) :=
  match fd with
  | none => .ok (fds, maxFd)
  | some fd => do
    let fds ← fdSet fd fds
    return (fds, if maxFd < fd then fd else maxFd)

/-- The arguments of `select`. -/
structure SelectArgs where
  readFds : FdSet
  errFds : FdSet
  maxFd : Int
  deriving DecidableEq, Repr

def SelectArgs.push (args : SelectArgs) (fd : Nat) : Except Fault SelectArgs := do
  let (readFds, maxFd) ← rtRoutedPushFd args.readFds (some fd) args.maxFd
  let (errFds, maxFd) ← rtRoutedPushFd args.errFds (some fd) maxFd
  return ⟨readFds, errFds, maxFd⟩

/-- The router's `rtListener`. -/
structure RoutedListener where
  fd : Nat
  localEndpoint : SockaddrStorage

/-- The state of `main`. -/
structure Daemon where
  listeners : List RoutedListener
  routed : RtRouted Os

/-- The descriptors it has open. -/
def Daemon.fds (d : Daemon) : List Nat := d.listeners.map (·.fd) ++ d.routed.clients.map (·.fd)

/-- The loops that fill the sets. -/
def Daemon.selectArgs (d : Daemon) : Except Fault SelectArgs := do
  let args ← d.listeners.foldlM (fun args listener => args.push listener.fd) ⟨[], [], -1⟩
  d.routed.clients.foldlM (fun args clnt => args.push clnt.fd) args

/-! A turn. -/

inductive Selected where
  | timeout
  | failed
  | ready (readFds : FdSet)

/-- What the kernel answers in a turn. -/
structure TurnAnswers where
  selected : Selected
  /-- what `accept` returns for a listener's descriptor -/
  accepted : Nat → Except Errno Nat
  /-- the system as it is when `select` returns -/
  os : Os

/-- The loop over the listeners, all of which are in the sets. -/
def acceptClients (listeners : List RoutedListener) (readFds : FdSet)
    (accepted : Nat → Except Errno Nat) (r : RtRouted Os) : RtRouted Os :=
  listeners.foldl (fun r listener =>
    if listener.fd ∈ readFds then rtRoutedAcceptClientConnection (accepted listener.fd) r else r) r

/-- A client's turn in the loop over the clients. A client that was just accepted is not in the
    sets, and its descriptor has not been compared with their size. -/
def selectedTurn (J : CJsonLib) (fuel : Nat) (readFds : FdSet) (s : ServeState) :
    Except Fault ServeState :=
  match s.routed.clients[s.i]? with
  | none => .error .undefinedBehaviour
  | some clnt => do
    let _ ← fdIsSet clnt.fd readFds
    serveTurn J fuel readFds s

/-- The loop over the clients. -/
def serveSelected (J : CJsonLib) (fuel : Nat) (readFds : FdSet) (r : RtRouted Os) :
    Except Fault (RtRouted Os) := do
  let s ← loop .outOfFuel ServeState.goesOn (selectedTurn J fuel readFds) r.clients.length
    ⟨0, r.clients.length, r⟩
  return s.routed

def mainTurn (J : CJsonLib) (fuel : Nat) (k : TurnAnswers) (d : Daemon) : Except Fault Daemon := do
  let _ ← d.selectArgs
  match k.selected with
  | .timeout => return d
  | .failed => return d
  | .ready readFds => do
    let routed := acceptClients d.listeners readFds k.accepted { d.routed with env := k.os }
    let routed ← serveSelected J fuel readFds routed
    return { d with routed }

/-- The clients at these addresses are served, one after the other. -/
def serveEach (J : CJsonLib) (fuel : Nat) (ptrs : List Nat) (r : RtRouted Os) :
    Except Fault (RtRouted Os) :=
  ptrs.foldlM (fun r ptr => serveClient J fuel ptr r) r

/-- The addresses of the readable clients, in the order of the vector. -/
def readable (readFds : FdSet) (clients : List RtConnectedClient) : List Nat :=
  (clients.filter fun clnt => decide (clnt.fd ∈ readFds)).map (·.ptr)

/-- The clients in front of the first one whose descriptor is too large for the sets. -/
def lookedUp (clients : List RtConnectedClient) : List RtConnectedClient :=
  clients.takeWhile fun clnt => decide (clnt.fd < FD_SETSIZE)

/-! The sets that are filled. -/

/-- The largest of a number and of these descriptors. -/
def highest (fds : List Nat) (m : Int) : Int :=
  match fds with
  | [] => m
  | fd :: fds => highest fds (max m fd)

section Sets

theorem push_eq (args : SelectArgs) (fd : Nat) :
    args.push fd = if fd < FD_SETSIZE
      then .ok ⟨args.readFds ++ [fd], args.errFds ++ [fd], max args.maxFd fd⟩
      else .error .undefinedBehaviour := by
  unfold SelectArgs.push rtRoutedPushFd fdSet
  by_cases hfd : fd < FD_SETSIZE
  · simp only [if_pos hfd, ok_bind, pure_eq_ok]
    congr 2
    split <;> omega
  · simp only [if_neg hfd, error_bind]

/-- The sets hold what is pushed, up to the first descriptor that is too large. -/
theorem pushAll_eq (fds : List Nat) (args : SelectArgs) :
    fds.foldlM SelectArgs.push args = if ∀ fd ∈ fds, fd < FD_SETSIZE
      then .ok ⟨args.readFds ++ fds, args.errFds ++ fds, highest fds args.maxFd⟩
      else .error .undefinedBehaviour := by
  induction fds generalizing args with
  | nil => simp [highest]
  | cons fd fds ih =>
    rw [List.foldlM_cons, push_eq]
    by_cases hfd : fd < FD_SETSIZE
    · rw [if_pos hfd, ok_bind, ih]
      simp only [List.forall_mem_cons, hfd, true_and, List.append_assoc, List.singleton_append,
        highest]
    · rw [if_neg hfd, error_bind, if_neg]
      exact fun hall => hfd (hall fd List.mem_cons_self)

theorem selectArgs_eq (d : Daemon) :
    d.selectArgs = if ∀ fd ∈ d.fds, fd < FD_SETSIZE
      then .ok ⟨d.fds, d.fds, highest d.fds (-1)⟩
      else .error .undefinedBehaviour := by
  have hboth : d.selectArgs = d.fds.foldlM SelectArgs.push ⟨[], [], -1⟩ := by
    simp only [Daemon.selectArgs, Daemon.fds, List.foldlM_append, List.foldlM_map]
  rw [hboth, pushAll_eq]
  rfl

theorem le_highest (fds : List Nat) (m : Int) :
    m ≤ highest fds m ∧ ∀ fd ∈ fds, fd ≤ highest fds m := by
  induction fds generalizing m with
  | nil => exact ⟨Int.le_refl m, fun fd hfd => by cases hfd⟩
  | cons k fds ih =>
    obtain ⟨hm, hall⟩ := ih (max m k)
    refine ⟨Int.le_trans (Int.le_max_left m k) hm, fun fd hfd => ?_⟩
    rcases List.mem_cons.mp hfd with rfl | hfd
    · exact Int.le_trans (Int.le_max_right m fd) hm
    · exact hall fd hfd

theorem highest_mem (fds : List Nat) (m : Int) :
    highest fds m = m ∨ ∃ fd ∈ fds, highest fds m = fd := by
  induction fds generalizing m with
  | nil => exact .inl rfl
  | cons k fds ih =>
    rcases ih (max m k) with heq | ⟨fd, hfd, heq⟩
    · rcases Int.le_total m k with hle | hle
      · exact .inr ⟨k, List.mem_cons_self, heq.trans (Int.max_eq_right hle)⟩
      · exact .inl (heq.trans (Int.max_eq_left hle))
    · exact .inr ⟨fd, List.mem_cons_of_mem k hfd, heq⟩

end Sets

/-! The loop over the clients. -/

section Serve
variable {J : CJsonLib} {fuel : Nat} {readFds : List Nat}

theorem readable_cons (clnt : RtConnectedClient) (clients : List RtConnectedClient) :
    readable readFds (clnt :: clients) = if clnt.fd ∈ readFds
      then clnt.ptr :: readable readFds clients
      else readable readFds clients := by
  simp only [readable, List.filter_cons, decide_eq_true_eq]
  split <;> rfl

theorem readable_append (clients new : List RtConnectedClient) :
    readable readFds (clients ++ new) = readable readFds clients ++ readable readFds new := by
  rw [readable, List.filter_append, List.map_append]
  rfl

theorem drop_eraseP {clients : List RtConnectedClient} (h : (clients.map (·.ptr)).Nodup) {i : Nat}
    {clnt : RtConnectedClient} (hget : clients[i]? = some clnt) :
    (clients.eraseP fun k => k.ptr == clnt.ptr).drop i = clients.drop (i + 1) := by
  induction clients generalizing i with
  | nil => simp
  | cons k clients ih =>
    rw [List.map_cons, List.nodup_cons] at h
    cases i with
    | zero =>
      cases Option.some.inj hget
      simp
    | succ i =>
      have hmem : clnt ∈ clients := List.mem_of_getElem? hget
      rw [List.eraseP_cons_of_neg]
      · exact ih h.2 hget
      · intro heq
        refine h.1 ?_
        rw [eq_of_beq heq]
        exact List.mem_map_of_mem hmem

theorem drop_put {clients : List RtConnectedClient} (h : (clients.map (·.ptr)).Nodup) {i : Nat}
    {clnt clnt' : RtConnectedClient} (hget : clients[i]? = some clnt) :
    (clients.map fun k => if k.ptr = clnt.ptr then clnt' else k).drop (i + 1) =
      clients.drop (i + 1) := by
  rw [← List.map_drop]
  refine (List.map_congr_left fun k hk => ?_).trans (List.map_id _)
  have hsplit : clients.drop i = clnt :: clients.drop (i + 1) := by
    obtain ⟨hi, hclnt⟩ := List.getElem?_eq_some_iff.mp hget
    rw [List.drop_eq_getElem_cons hi, hclnt]
  have hnodup : ((clients.drop i).map (·.ptr)).Nodup :=
    h.sublist ((List.drop_sublist i clients).map _)
  rw [hsplit, List.map_cons, List.nodup_cons] at hnodup
  rw [if_neg]
  · rfl
  · intro heq
    refine hnodup.1 ?_
    rw [← heq]
    exact List.mem_map_of_mem hk

/-- What is still to be done in the loop over the clients. -/
def ServeState.left (s : ServeState) : List RtConnectedClient := s.routed.clients.drop s.i

/-- **A client's turn**: it is passed, or it is served; then those behind it are left. -/
theorem Walking.turn_cases {s : ServeState} (h : Walking s) {clnt : RtConnectedClient}
    {rest : List RtConnectedClient} (hleft : s.left = clnt :: rest) :
    clnt.fd ∉ readFds ∧ serveTurn J fuel readFds s = .ok { s with i := s.i + 1 } ∧
      ServeState.left { s with i := s.i + 1 } = rest ∨
    clnt.fd ∈ readFds ∧
      ((∃ e, serveTurn J fuel readFds s = .error e ∧
          serveClient J fuel clnt.ptr s.routed = .error e) ∨
        ∃ s', serveTurn J fuel readFds s = .ok s' ∧
          serveClient J fuel clnt.ptr s.routed = .ok s'.routed ∧ s'.left = rest) := by
  have hi : s.i < s.routed.clients.length := by
    have hlength := congrArg List.length hleft
    rw [ServeState.left, List.length_drop, List.length_cons] at hlength
    omega
  have hget : s.routed.clients[s.i]? = some clnt := by
    rw [ServeState.left, List.drop_eq_getElem_cons hi] at hleft
    rw [List.getElem?_eq_getElem hi, (List.cons.inj hleft).1]
  have hrest : s.routed.clients.drop (s.i + 1) = rest := by
    rw [ServeState.left, List.drop_eq_getElem_cons hi] at hleft
    exact (List.cons.inj hleft).2
  by_cases hready : clnt.fd ∈ readFds
  · refine .inr ⟨hready, ?_⟩
    have hrouted : (serveTurn J fuel readFds s).map (·.routed) =
        serveClient J fuel clnt.ptr s.routed := serveTurn_routed h hget hready
    cases hturn : serveTurn J fuel readFds s with
    | error e =>
      rw [hturn] at hrouted
      exact .inl ⟨e, rfl, hrouted.symm⟩
    | ok s' =>
      rw [hturn] at hrouted
      refine .inr ⟨s', rfl, hrouted.symm, ?_⟩
      rw [← hrest]
      simp only [serveTurn, hget, if_pos hready] at hturn
      obtain ⟨⟨err, clnt', r⟩, hread, hturn⟩ := bind_eq_ok.mp hturn
      obtain ⟨hr, hclients, hptr⟩ := h.noDangling.read (List.mem_of_getElem? hget) hread
      dsimp only at hturn
      -- destroyed: the next client moves into this place, and the index stays
      split at hturn
      · obtain ⟨q, hdestroy, hturn⟩ := bind_eq_ok.mp hturn
        cases hturn
        obtain ⟨-, hqclients⟩ := hr.destroy hptr hdestroy
        rw [ServeState.left, hqclients, hclients]
        exact drop_eraseP h.noDangling.distinct hget
      · cases hturn
        rw [ServeState.left, hclients]
        exact drop_put h.noDangling.distinct hget
  · refine .inl ⟨hready, ?_, hrest⟩
    simp only [serveTurn, hget, if_neg hready, pure_eq_ok]

theorem selectedTurn_eq {s : ServeState} {clnt : RtConnectedClient}
    {rest : List RtConnectedClient} (hleft : s.left = clnt :: rest) :
    selectedTurn J fuel readFds s = if clnt.fd < FD_SETSIZE then serveTurn J fuel readFds s
      else .error .undefinedBehaviour := by
  have hget : s.routed.clients[s.i]? = some clnt := by
    rw [← List.head?_drop]
    exact congrArg List.head? hleft
  rw [selectedTurn, hget]
  dsimp only
  rw [fdIsSet]
  split <;> rfl

theorem lookedUp_cons (clnt : RtConnectedClient) (clients : List RtConnectedClient) :
    lookedUp (clnt :: clients) =
      if clnt.fd < FD_SETSIZE then clnt :: lookedUp clients else [] := by
  rw [lookedUp, List.takeWhile_cons]
  simp only [decide_eq_true_eq]
  rfl

theorem lookedUp_append {clients : List RtConnectedClient}
    (h : ∀ clnt ∈ clients, clnt.fd < FD_SETSIZE) (new : List RtConnectedClient) :
    lookedUp (clients ++ new) = clients ++ lookedUp new :=
  List.takeWhile_append_of_pos fun clnt hclnt => decide_eq_true (h clnt hclnt)

/-- The clients in `left` are served and looked up. -/
def servedAll (J : CJsonLib) (fuel : Nat) (readFds : FdSet) (left : List RtConnectedClient)
    (r : RtRouted Os) : Except Fault (RtRouted Os) := do
  let r ← serveEach J fuel (readable readFds (lookedUp left)) r
  if ∀ clnt ∈ left, clnt.fd < FD_SETSIZE then return r else .error .undefinedBehaviour

theorem servedAll_nil (r : RtRouted Os) : servedAll J fuel readFds [] r = .ok r := by
  simp [servedAll, lookedUp, readable, serveEach]

theorem servedAll_large {clnt : RtConnectedClient} (hfd : ¬clnt.fd < FD_SETSIZE)
    (left : List RtConnectedClient) (r : RtRouted Os) :
    servedAll J fuel readFds (clnt :: left) r = .error .undefinedBehaviour := by
  unfold servedAll
  rw [lookedUp_cons, if_neg hfd]
  exact if_neg fun hall => hfd (hall clnt List.mem_cons_self)

theorem servedAll_cons {clnt : RtConnectedClient} (hfd : clnt.fd < FD_SETSIZE)
    (left : List RtConnectedClient) (r : RtRouted Os) :
    servedAll J fuel readFds (clnt :: left) r = if clnt.fd ∈ readFds
      then serveClient J fuel clnt.ptr r >>= servedAll J fuel readFds left
      else servedAll J fuel readFds left r := by
  unfold servedAll
  rw [lookedUp_cons, if_pos hfd, readable_cons]
  simp only [List.forall_mem_cons, hfd, true_and]
  split
  · rw [serveEach, List.foldlM_cons, bind_assoc]
    rfl
  · rfl

theorem Walking.loop_eq {s : ServeState} (h : Walking s) {bound : Nat}
    (hbound : s.left.length ≤ bound) :
    (loop .outOfFuel ServeState.goesOn (selectedTurn J fuel readFds) bound s).map (·.routed) =
      servedAll J fuel readFds s.left s.routed := by
  generalize hrest : s.left = rest at hbound
  induction rest generalizing s bound with
  | nil =>
    have hdone : s.goesOn = false := by
      have hlength := congrArg List.length hrest
      rw [ServeState.left, List.length_drop, List.length_nil] at hlength
      rw [ServeState.goesOn, h.size, decide_eq_false_iff_not]
      omega
    rw [loop_done hdone, servedAll_nil]
    rfl
  | cons clnt rest ih =>
    have hgo : s.goesOn = true := by
      have hlength := congrArg List.length hrest
      rw [ServeState.left, List.length_drop, List.length_cons] at hlength
      rw [ServeState.goesOn, h.size, decide_eq_true_iff]
      omega
    rw [List.length_cons] at hbound
    obtain ⟨bound, rfl⟩ : ∃ b, bound = b + 1 := ⟨bound - 1, by omega⟩
    have hbound' : rest.length ≤ bound := Nat.le_of_succ_le_succ hbound
    have hlookup := @selectedTurn_eq J fuel readFds s clnt rest hrest
    by_cases hfd : clnt.fd < FD_SETSIZE
    · rw [if_pos hfd] at hlookup
      rw [servedAll_cons hfd]
      rcases @Walking.turn_cases J fuel readFds s h clnt rest hrest with
        ⟨hready, hturn, hleft⟩ | ⟨hready, ⟨e, hturn, hserve⟩ | ⟨s', hturn, hserve, hleft⟩⟩
      · rw [loop_step hgo (hlookup.trans hturn), ih (h.turn hturn) hleft hbound', if_neg hready]
      · rw [loop_error hgo (hlookup.trans hturn), if_pos hready, hserve]
        rfl
      · rw [loop_step hgo (hlookup.trans hturn), ih (h.turn hturn) hleft hbound', if_pos hready,
          hserve, ok_bind]
    · rw [if_neg hfd] at hlookup
      rw [loop_error hgo hlookup, servedAll_large hfd]
      rfl

/-- **The loop over the clients** serves the readable ones, each once, up to the first whose
    descriptor is too large. -/
theorem serveSelected_eq {r : RtRouted Os} (h : NoDangling r) :
    serveSelected J fuel readFds r = servedAll J fuel readFds r.clients r := by
  have hbound : (ServeState.left ⟨0, r.clients.length, r⟩).length ≤ r.clients.length := by
    rw [ServeState.left, List.drop_zero]
  have hloop := @Walking.loop_eq J fuel readFds _ (h.walking r.env) _ hbound
  rw [ServeState.left, List.drop_zero] at hloop
  rw [← hloop, serveSelected]
  cases loop .outOfFuel ServeState.goesOn (selectedTurn J fuel readFds) r.clients.length
    ⟨0, r.clients.length, r⟩ <;> rfl

end Serve

/-! The descriptors of the clients. -/

theorem readerTurn_fd {clnt full : RtConnectedClient} {complete : Bool}
    (h : readerTurn clnt = .ok (full, complete)) : full.fd = clnt.fd := by
  unfold readerTurn at h
  split at h
  · cases h
    rfl
  · split at h
    · obtain ⟨_, -, h⟩ := bind_eq_ok.mp h
      cases h
      rfl
    · obtain ⟨_, -, h⟩ := bind_eq_ok.mp h
      cases h
      rfl
    · cases h
      rfl

theorem connectedClientRead_fd {J : CJsonLib} {fuel : Nat} {r r' : RtRouted Os}
    {clnt clnt' : RtConnectedClient} {err : RtError}
    (h : rtConnectedClientRead J fuel clnt r = .ok (err, clnt', r')) : clnt'.fd = clnt.fd := by
  obtain ⟨⟨reply, env⟩, -, h⟩ := bind_eq_ok.mp h
  dsimp only at h
  split at h
  · cases h
    rfl
  · cases h
    rfl
  · obtain ⟨⟨full, complete⟩, hstore, h⟩ := bind_eq_ok.mp h
    obtain ⟨_, -, hstore⟩ := bind_eq_ok.mp hstore
    have hfd := readerTurn_fd hstore
    cases complete with
    | false =>
      cases h
      exact hfd
    | true =>
      obtain ⟨q, -, h⟩ := bind_eq_ok.mp h
      cases h
      exact hfd

/-- The clients with their addresses and descriptors. -/
def clientEnds (clients : List RtConnectedClient) : List (Nat × Nat) :=
  clients.map fun k => (k.ptr, k.fd)

section Ends
variable {J : CJsonLib} {fuel : Nat} {r r' : RtRouted Os}

theorem clientEnds_fds (clients : List RtConnectedClient) :
    (clientEnds clients).map Prod.snd = clients.map (·.fd) := List.map_map

/-- Serving a client takes it out of the vector, or leaves the clients as they are. -/
theorem NoDangling.serve (h : NoDangling r) {ptr : Nat}
    (hserve : serveClient J fuel ptr r = .ok r') :
    NoDangling r' ∧ (clientEnds r'.clients).Sublist (clientEnds r.clients) := by
  unfold serveClient at hserve
  split at hserve
  · cases hserve
    exact ⟨h, List.Sublist.refl _⟩
  · next clnt hfind =>
    have hmem := List.mem_of_find?_eq_some hfind
    have hptr : clnt.ptr = ptr := by simpa using List.find?_some hfind
    subst hptr
    obtain ⟨⟨err, clnt', q⟩, hread, hserve⟩ := bind_eq_ok.mp hserve
    obtain ⟨hq, hclients, hptr'⟩ := h.read hmem hread
    have hfd' := connectedClientRead_fd hread
    dsimp only at hserve
    split at hserve
    · obtain ⟨hr', hclients'⟩ := hq.destroy hptr' hserve
      refine ⟨hr', ?_⟩
      rw [hclients', hclients]
      exact List.eraseP_sublist.map _
    · cases hserve
      refine ⟨hq.put hptr', ?_⟩
      have hsame : clientEnds (q.clients.map fun k => if k.ptr = clnt.ptr then clnt' else k) =
          clientEnds r.clients := by
        rw [clientEnds, clientEnds, List.map_map, hclients]
        refine List.map_congr_left fun k hk => ?_
        rw [Function.comp_apply]
        split
        · next heq =>
          have hk' : k = clnt := List.inj_on_of_nodup_map h.distinct hk hmem heq
          rw [hptr', hfd', hk']
        · rfl
      rw [hsame]

theorem NoDangling.serveEach {ptrs : List Nat} (h : NoDangling r)
    (hserve : serveEach J fuel ptrs r = .ok r') :
    NoDangling r' ∧ (clientEnds r'.clients).Sublist (clientEnds r.clients) := by
  induction ptrs generalizing r with
  | nil =>
    cases hserve
    exact ⟨h, List.Sublist.refl _⟩
  | cons ptr ptrs ih =>
    obtain ⟨q, hq, hserve⟩ := bind_eq_ok.mp hserve
    obtain ⟨hq', hsub⟩ := h.serve hq
    obtain ⟨hr', hsub'⟩ := ih hq' hserve
    exact ⟨hr', hsub'.trans hsub⟩

end Ends

/-! Connections that are accepted. -/

section Accept
variable {readFds : List Nat} {accepted : Nat → Except Errno Nat} {r : RtRouted Os}

/-- The descriptors that `accept` returned for these listeners. -/
def acceptedFds (listeners : List RoutedListener) (readFds : FdSet)
    (accepted : Nat → Except Errno Nat) : List Nat :=
  (listeners.filter fun l => decide (l.fd ∈ readFds)).filterMap fun l => (accepted l.fd).toOption

theorem acceptedFds_cons (l : RoutedListener) (listeners : List RoutedListener) :
    acceptedFds (l :: listeners) readFds accepted =
      (if l.fd ∈ readFds then (accepted l.fd).toOption.toList else []) ++
        acceptedFds listeners readFds accepted := by
  simp only [acceptedFds, List.filter_cons, decide_eq_true_eq]
  split
  · rw [List.filterMap_cons]
    cases (accepted l.fd).toOption <;> rfl
  · rfl

theorem acceptClients_clients (listeners : List RoutedListener) :
    ∃ new, (acceptClients listeners readFds accepted r).clients = r.clients ++ new ∧
      new.map (·.fd) = acceptedFds listeners readFds accepted := by
  induction listeners generalizing r with
  | nil => exact ⟨[], (List.append_nil _).symm, rfl⟩
  | cons l listeners ih =>
    rw [acceptClients, List.foldl_cons, acceptedFds_cons]
    split
    · cases haccepted : accepted l.fd with
      | error e =>
        obtain ⟨new, hclients, hfds⟩ := @ih r
        exact ⟨new, hclients, hfds⟩
      | ok fd =>
        obtain ⟨new, hclients, hfds⟩ := @ih (rtRoutedRegisterNewClient fd r)
        refine ⟨rtConnectedClientInit r.nextPtr fd :: new, ?_, ?_⟩
        · refine hclients.trans ?_
          rw [rtRoutedRegisterNewClient, List.append_assoc]
          rfl
        · rw [List.map_cons, hfds]
          rfl
    · obtain ⟨new, hclients, hfds⟩ := @ih r
      exact ⟨new, hclients, hfds⟩

theorem acceptedFds_none {listeners : List RoutedListener} (h : ∀ l ∈ listeners, l.fd ∉ readFds) :
    acceptedFds listeners readFds accepted = [] := by
  have hnone : listeners.filter (fun l => decide (l.fd ∈ readFds)) = [] :=
    List.filter_eq_nil_iff.mpr fun l hl hmem => h l hl (of_decide_eq_true hmem)
  rw [acceptedFds, hnone, List.filterMap_nil]

theorem acceptClients_none {listeners : List RoutedListener} (h : ∀ l ∈ listeners, l.fd ∉ readFds) :
    acceptClients listeners readFds accepted r = r := by
  induction listeners with
  | nil => rfl
  | cons l listeners ih =>
    rw [acceptClients, List.foldl_cons, if_neg (h l List.mem_cons_self)]
    exact ih fun l' hl' => h l' (List.mem_cons_of_mem l hl')

theorem NoDangling.acceptClients (h : NoDangling r) (listeners : List RoutedListener) :
    NoDangling (acceptClients listeners readFds accepted r) := by
  induction listeners generalizing r with
  | nil => exact h
  | cons l listeners ih =>
    rw [RtMessage.acceptClients, List.foldl_cons]
    split
    · exact ih (h.accept _)
    · exact ih h

end Accept

/-! Runs. -/

/-- `select` reports descriptors that it was asked about, and `accept` returns descriptors that
    are not open, each once. -/
structure Kernel (d : Daemon) (k : TurnAnswers) : Prop where
  asked : ∀ readFds, k.selected = .ready readFds → ∀ fd ∈ readFds, fd ∈ d.fds
  fresh : ∀ readFds, k.selected = .ready readFds →
    ∀ fd ∈ acceptedFds d.listeners readFds k.accepted, fd ∉ d.fds
  once : ∀ readFds, k.selected = .ready readFds →
    (acceptedFds d.listeners readFds k.accepted).Nodup

theorem Kernel.of_ready {d : Daemon} {k : TurnAnswers} {readFds : FdSet}
    (h : k.selected = .ready readFds) (hasked : ∀ fd ∈ readFds, fd ∈ d.fds)
    (hfresh : ∀ fd ∈ acceptedFds d.listeners readFds k.accepted, fd ∉ d.fds)
    (honce : (acceptedFds d.listeners readFds k.accepted).Nodup) : Kernel d k := by
  have hready : ∀ fds, k.selected = .ready fds → fds = readFds := fun fds hfds =>
    Selected.ready.inj (hfds.symm.trans h)
  refine ⟨?_, ?_, ?_⟩
  · rintro fds hfds
    rwa [hready fds hfds]
  · rintro fds hfds
    rwa [hready fds hfds]
  · rintro fds hfds
    rwa [hready fds hfds]

inductive TurnStep (J : CJsonLib) (d : Daemon) : TurnAnswers → Daemon → Prop where
  | turn {fuel : Nat} {k : TurnAnswers} {d' : Daemon} (hkernel : Kernel d k)
      (h : mainTurn J fuel k d = .ok d') : TurnStep J d k d'

/-- What `main` keeps: no route dangles, and no two of its objects share a descriptor. -/
structure Daemon.Sound (d : Daemon) : Prop where
  noDangling : NoDangling d.routed
  fds : d.fds.Nodup

section Turns
variable {J : CJsonLib} {d d' : Daemon} {k : TurnAnswers} {readFds : FdSet}

theorem Daemon.Sound.accept (h : d.Sound) (hkernel : Kernel d k)
    (hready : k.selected = .ready readFds) :
    Daemon.Sound { d with
      routed := acceptClients d.listeners readFds k.accepted { d.routed with env := k.os } } := by
  obtain ⟨new, hclients, hnew⟩ :=
    @acceptClients_clients readFds k.accepted { d.routed with env := k.os } d.listeners
  have hfresh := hkernel.fresh readFds hready
  refine ⟨(h.noDangling.env k.os).acceptClients d.listeners, ?_⟩
  rw [Daemon.fds, hclients, List.map_append, hnew, ← List.append_assoc]
  refine List.nodup_append.mpr ⟨h.fds, hkernel.once readFds hready, ?_⟩
  intro fd hfd fd' hfd' heq
  exact hfresh fd' hfd' (heq ▸ hfd)

/-- No connection is read in the turn that accepts it. -/
theorem Kernel.unread (hkernel : Kernel d k) (hready : k.selected = .ready readFds)
    {new : List RtConnectedClient}
    (hnew : new.map (·.fd) = acceptedFds d.listeners readFds k.accepted) :
    readable readFds (lookedUp new) = [] := by
  refine List.map_eq_nil_iff.mpr (List.filter_eq_nil_iff.mpr fun clnt hclnt hmem => ?_)
  have hclnt' : clnt ∈ new := (List.takeWhile_sublist _).subset hclnt
  refine hkernel.fresh readFds hready clnt.fd (hnew ▸ List.mem_map_of_mem hclnt') ?_
  exact hkernel.asked readFds hready clnt.fd (of_decide_eq_true hmem)

/-- What a turn is, where no descriptor is too large for the sets at its start: the new
    connections are accepted, the clients that were readable are served, and then the new
    connections are looked up in the set. -/
def servedTurn (J : CJsonLib) (fuel : Nat) (k : TurnAnswers) (d : Daemon) : Except Fault Daemon :=
  match k.selected with
  | .timeout => .ok d
  | .failed => .ok d
  | .ready readFds => do
    let routed ← serveEach J fuel (readable readFds d.routed.clients)
      (acceptClients d.listeners readFds k.accepted { d.routed with env := k.os })
    if ∀ fd ∈ acceptedFds d.listeners readFds k.accepted, fd < FD_SETSIZE then
      return { d with routed }
    else .error .undefinedBehaviour

theorem Daemon.Sound.mainTurn_eq (h : d.Sound) (hkernel : Kernel d k) (fuel : Nat) :
    mainTurn J fuel k d = if ∀ fd ∈ d.fds, fd < FD_SETSIZE then servedTurn J fuel k d
      else .error .undefinedBehaviour := by
  rw [mainTurn, selectArgs_eq]
  split
  · next hsize =>
    rw [ok_bind, servedTurn]
    cases hselected : k.selected with
    | timeout => rfl
    | failed => rfl
    | ready readFds =>
      obtain ⟨new, hclients, hnew⟩ :=
        @acceptClients_clients readFds k.accepted { d.routed with env := k.os } d.listeners
      have hold : ∀ clnt ∈ d.routed.clients, clnt.fd < FD_SETSIZE := fun clnt hclnt =>
        hsize clnt.fd (List.mem_append_right _ (List.mem_map_of_mem hclnt))
      have hserved : readable readFds (lookedUp (d.routed.clients ++ new)) =
          readable readFds d.routed.clients := by
        rw [lookedUp_append hold, readable_append, hkernel.unread hselected hnew, List.append_nil]
      have hall : (∀ clnt ∈ d.routed.clients ++ new, clnt.fd < FD_SETSIZE) ↔
          ∀ fd ∈ acceptedFds d.listeners readFds k.accepted, fd < FD_SETSIZE := by
        rw [← hnew, List.forall_mem_map, List.forall_mem_append]
        exact and_iff_right hold
      dsimp only
      rw [serveSelected_eq (h.accept hkernel hselected).noDangling, servedAll, hclients, hserved]
      simp only [hall, bind_assoc]
      refine bind_congr fun r => ?_
      split <;> rfl
  · rfl

theorem Daemon.Sound.turn (h : d.Sound) (hstep : TurnStep J d k d') :
    d'.Sound ∧ d'.listeners = d.listeners := by
  cases hstep with
  | turn hkernel hturn =>
    rw [h.mainTurn_eq hkernel] at hturn
    split at hturn
    · unfold servedTurn at hturn
      split at hturn
      · cases hturn
        exact ⟨h, rfl⟩
      · cases hturn
        exact ⟨h, rfl⟩
      · next readFds hselected =>
        obtain ⟨r, hserve, hturn⟩ := bind_eq_ok.mp hturn
        split at hturn
        · cases hturn
          have hsound := h.accept hkernel hselected
          obtain ⟨hr, hsub⟩ := hsound.noDangling.serveEach hserve
          refine ⟨⟨hr, hsound.fds.sublist ?_⟩, rfl⟩
          have hfds := hsub.map Prod.snd
          rw [clientEnds_fds, clientEnds_fds] at hfds
          exact List.Sublist.append_left hfds _
        · cases hturn
    · cases hturn

theorem Daemon.Sound.readable_nodup (h : d.Sound) (readFds : FdSet) :
    (readable readFds d.routed.clients).Nodup :=
  h.noDangling.distinct.sublist (List.filter_sublist.map _)

/-- What `select` is given: all descriptors, and one more than the largest of them. -/
structure SelectsAll (d : Daemon) (args : SelectArgs) : Prop where
  readFds : args.readFds = d.fds
  errFds : args.errFds = d.fds
  covers : ∀ fd ∈ d.fds, (fd : Int) < args.maxFd + 1
  tight : args.maxFd = -1 ∨ ∃ fd ∈ d.fds, args.maxFd = fd

theorem Daemon.selectsAll (hfds : ∀ fd ∈ d.fds, fd < FD_SETSIZE) :
    ∃ args, d.selectArgs = .ok args ∧ SelectsAll d args := by
  refine ⟨_, (selectArgs_eq d).trans (if_pos hfds), rfl, rfl, ?_, highest_mem d.fds (-1)⟩
  exact fun fd hfd => Int.lt_add_one_of_le ((le_highest d.fds (-1)).2 fd hfd)

/-- **Every run of the main loop**, from its start with any listeners and debug routes: no two
    objects share a descriptor, and the next turn writes outside the descriptor sets exactly if a
    descriptor has become too large for them. If not, `select` is given all descriptors; then
    the new connections are accepted and the clients that it reports are read, each of them
    once, whichever are taken out of the vector on the way, and no other; a connection is not
    read in the turn that accepts it, but looked up in the set, which is read outside exactly if
    a descriptor that was accepted is too large. -/
theorem main_loop_turns (J : CJsonLib) {listeners : List RoutedListener}
    (hlisteners : (listeners.map (·.fd)).Nodup) {debugRoutes : Nat} {os : Os}
    {ks : List TurnAnswers} {d : Daemon}
    (hrun : Run (TurnStep J) ⟨listeners, startRouter debugRoutes os⟩ ks d) :
    d.listeners = listeners ∧ d.fds.Nodup ∧
    (∀ readFds, (readable readFds d.routed.clients).Nodup) ∧
    ((∀ fd ∈ d.fds, fd < FD_SETSIZE) → ∃ args, d.selectArgs = .ok args ∧ SelectsAll d args) ∧
    ∀ fuel k, Kernel d k → mainTurn J fuel k d =
      if ∀ fd ∈ d.fds, fd < FD_SETSIZE then servedTurn J fuel k d
      else .error .undefinedBehaviour := by
  have hstart : Daemon.Sound ⟨listeners, startRouter debugRoutes os⟩ := by
    refine ⟨.start debugRoutes os, ?_⟩
    rw [Daemon.fds, startRouter, List.map_nil, List.append_nil]
    exact hlisteners
  obtain ⟨hend, hsame⟩ : d.Sound ∧ d.listeners = listeners := by
    refine hrun.invariant (I := fun _ d => d.Sound ∧ d.listeners = listeners) ⟨hstart, rfl⟩ ?_
    intro _ d k d' ⟨hd, hsame⟩ hstep
    obtain ⟨hd', hkept⟩ := hd.turn hstep
    exact ⟨hd', hkept.trans hsame⟩
  exact ⟨hsame, hend.fds, hend.readable_nodup, Daemon.selectsAll,
    fun fuel k hkernel => hend.mainTurn_eq hkernel fuel⟩

end Turns

/-! A connection that is accepted. -/

def oneListener : Daemon := ⟨[⟨3, .zero⟩], startRouter 0 closingOs⟩

def acceptOne : TurnAnswers := ⟨.ready [3], fun _ => .ok 7, closingOs⟩

theorem acceptOne_step (J : CJsonLib) :
    TurnStep J oneListener acceptOne
      { oneListener with routed := rtRoutedRegisterNewClient 7 (startRouter 0 closingOs) } :=
  @TurnStep.turn J oneListener 0 acceptOne _
    (.of_ready rfl (by decide) (by decide) (by decide)) rfl

/-- The stream of the client that was accepted has come to its end. -/
def streamEnds : TurnAnswers := ⟨.ready [7], fun _ => .error .EAGAIN, closingOs⟩

/-- The descriptor that is accepted is the first that is too large. -/
def acceptLarge : TurnAnswers := ⟨.ready [3], fun _ => .ok FD_SETSIZE, closingOs⟩

theorem main_loop_turns_example : ∃ d : Daemon, d.fds = [3, 7] ∧
    (∃ args, d.selectArgs = .ok args ∧ SelectsAll d args) ∧
    (∃ d', mainTurn .unused 0 streamEnds d = .ok d' ∧ d'.fds = [3]) ∧
    ∀ fuel, mainTurn .unused fuel acceptLarge d = .error .undefinedBehaviour := by
  obtain ⟨-, -, -, hselect, hturn⟩ :=
    main_loop_turns .unused (by decide) (Run.single (acceptOne_step .unused))
  refine ⟨_, rfl, hselect (by decide), ?_, fun fuel => ?_⟩
  · rw [hturn 0 streamEnds (.of_ready rfl (by decide) (by decide) (by decide)),
      if_pos (by decide)]
    exact ok_of_toOption_map (by decide +kernel)
  · rw [hturn fuel acceptLarge (.of_ready rfl (by decide) (by decide) (by decide)),
      if_pos (by decide)]
    rfl

end RtMessage
