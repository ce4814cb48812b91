import RtMessage.Membership

/- Nothing that a client sends is stuck in the router.

   `clients_come_and_go` says what goes out for the frames that were read to their end. Here they
   come to their end: a turn of the main loop reads every client of which there is something to
   read, and takes at least a byte of each. So within as many turns as a client has unread bytes
   all its frames are dispatched, however much the others send (`main_loop_drains`). -/
namespace RtMessage
open Lib

/-- The frames of a client that were completed. -/
def framesFrom (client : Nat) : List Happening → List Frame
  | [] => []
  | .frame owner f :: rest =>
    if owner = client then f :: framesFrom client rest else framesFrom client rest
  | .left _ :: rest => framesFrom client rest

theorem framesFrom_append (client : Nat) (a b : List Happening) :
    framesFrom client (a ++ b) = framesFrom client a ++ framesFrom client b := by
  induction a with
  | nil => rfl
  | cons e a ih =>
    cases e with
    | frame owner f =>
      rw [List.cons_append, framesFrom, framesFrom, ih]
      by_cases howner : owner = client
      · rw [if_pos howner, if_pos howner]
        rfl
      · rw [if_neg howner, if_neg howner]
    | left _ => exact ih

theorem framesFrom_frames (client : Nat) (done : List (Nat × Frame)) :
    framesFrom client (done.map fun p => .frame p.1 p.2) = framesTo client done := by
  induction done with
  | nil => rfl
  | cons p done ih =>
    rw [List.map_cons, framesFrom, ih, framesTo, framesTo, List.filterMap_cons]
    by_cases howner : p.1 = client
    · rw [if_pos howner, if_pos howner]
    · rw [if_neg howner, if_neg howner]

/-- The frames a client completed and those that are left are the frames of its stream. -/
theorem happenings_streams (s : Nat → Progress) (es : List MemberEvent) (client : Nat) :
    framesFrom client (happenings s es) ++ (streamsAmong s es client).1 = (s client).1 := by
  induction es generalizing s with
  | nil => rfl
  | cons e es ih =>
    have hone : framesFrom client (happened s e) ++ (streamsBehind s e client).1 =
        (s client).1 := by
      cases e with
      | accepted _ _ => rfl
      | left _ => rfl
      | read owner n =>
        have hread := completions_streamsAfter s [(owner, n)] client
        rw [completions, completions, List.append_nil] at hread
        rw [happened, framesFrom_frames]
        exact hread
    rw [happenings, framesFrom_append, List.append_assoc, streamsAmong, List.foldl_cons, ← hone,
      ← ih (streamsBehind s e)]
    rfl

/-- A turn in which no connection comes and no client ends: `select` reports the clients of which
    there is something to read. -/
inductive QuietTurn (J : CJsonLib) (d : Daemon) : Unit → Daemon → Prop
  | turn {readFds : FdSet} {accepted : Nat → Except Errno Nat} {fuel : Nat} {d' : Daemon}
      (hselected : ∀ fd, fd ∈ readFds ↔
        ∃ clnt ∈ d.routed.clients, clnt.fd = fd ∧ d.routed.env.input fd ≠ [])
      (h : mainTurn J fuel ⟨.ready readFds, accepted, d.routed.env⟩ d = .ok d') :
      QuietTurn J d () d'

section Runs
variable {J : CJsonLib} {own : List Bytes} {streams : Nat → List Frame} {r r' : RtRouted Os}
  {es es' : List MemberEvent} {e : MemberEvent}

/-- What is left to read of a client. -/
def unreadOf (streams : Nat → List Frame) (es : List MemberEvent) (ptr : Nat) : Bytes :=
  (streamsAmong (unreadStreams streams) es ptr).unread

theorem Attends.read_shorter (h : Attends J own streams es r) {client n : Nat}
    (hstep : MemberStep J streams r (.read client n) r') :
    (unreadOf streams (es ++ [.read client n]) client).length <
      (unreadOf streams es client).length := by
  cases hstep with
  | read hread =>
    obtain ⟨clnt, hmem, rfl, hn, hin, -, -⟩ := h.serving.routerStep hread
    have hreading := h.serving.reading clnt hmem
    have hinput := h.serving.input clnt hmem
    unfold unreadOf
    rw [streamsAmong_snoc]
    cases hstream : streamsAmong (unreadStreams streams) es clnt.ptr with
    | mk fs got =>
      rw [hstream] at hreading hinput
      cases hreading with
      | ended _ => exact absurd hinput hin
      | frame hreader =>
        rw [← hstream]
        exact readStream_shorter hstream hreader.unfinished hn

/-- What a run of reads takes off the streams. -/
structure ReadBy (streams : Nat → List Frame) (es es' : List MemberEvent) : Prop where
  le : ∀ ptr, (unreadOf streams (es ++ es') ptr).length ≤ (unreadOf streams es ptr).length
  lt : ∀ ptr, some ptr ∈ es'.map (·.reader?) →
    (unreadOf streams (es ++ es') ptr).length < (unreadOf streams es ptr).length
  accepted : acceptedIn (es ++ es') = acceptedIn es
  left : leftIn (es ++ es') = leftIn es

theorem ReadBy.nil (streams : Nat → List Frame) (es : List MemberEvent) :
    ReadBy streams es [] where
  le := fun ptr => by rw [List.append_nil]
  lt := fun ptr hptr => by cases hptr
  accepted := by rw [List.append_nil]
  left := by rw [List.append_nil]

theorem ReadBy.snoc (h : ReadBy streams es es') (hattends : Attends J own streams (es ++ es') r)
    {client n : Nat} (hstep : MemberStep J streams r (.read client n) r') :
    ReadBy streams es (es' ++ [.read client n]) := by
  have hclient := hattends.read_shorter hstep
  have hother : ∀ ptr, ptr ≠ client →
      unreadOf streams (es ++ es' ++ [.read client n]) ptr = unreadOf streams (es ++ es') ptr := by
    intro ptr hptr
    unfold unreadOf
    rw [streamsAmong_snoc]
    exact congrArg Progress.unread (readStream_other hptr n)
  constructor
  · intro ptr
    rw [← List.append_assoc]
    by_cases hptr : ptr = client
    · rw [hptr]
      exact (Nat.le_of_lt hclient).trans (h.le client)
    · rw [hother ptr hptr]
      exact h.le ptr
  · intro ptr hread
    rw [← List.append_assoc]
    by_cases hptr : ptr = client
    · rw [hptr]
      exact hclient.trans_le (h.le client)
    · rw [hother ptr hptr]
      rw [List.map_append, List.mem_append] at hread
      rcases hread with hread | hread
      · exact h.lt ptr hread
      · exact absurd (Option.some.inj (List.mem_singleton.mp hread)) hptr
  · rw [← List.append_assoc, acceptedIn_snoc, h.accepted]
    exact List.append_nil _
  · rw [← List.append_assoc, leftIn_snoc, h.left]
    exact List.append_nil _

theorem Attends.reads (h : Attends J own streams es r)
    (hframes : ∀ ptr, ∀ f ∈ streams ptr, f.Admissible J)
    (hrun : Run (MemberStep J streams) r es' r') (hreads : ∀ e ∈ es', e.reader? ≠ none) :
    Attends J own streams (es ++ es') r' ∧ ReadBy streams es es' := by
  induction hrun with
  | nil => exact ⟨by rwa [List.append_nil], .nil streams es⟩
  | @snoc es' e t u _ hstep ih =>
    obtain ⟨ht, hread⟩ := ih fun e he => hreads e (List.mem_append_left _ he)
    refine ⟨by rw [← List.append_assoc]; exact ht.step hframes hstep, ?_⟩
    cases e with
    | read client n => exact hread.snoc ht hstep
    | accepted _ _ => exact absurd rfl (hreads _ (List.mem_append_right _ List.mem_cons_self))
    | left _ => exact absurd rfl (hreads _ (List.mem_append_right _ List.mem_cons_self))

theorem Attends.input_eq (h : Attends J own streams es r) {clnt : RtConnectedClient}
    (hmem : clnt ∈ r.clients) : r.env.input clnt.fd = unreadOf streams es clnt.ptr :=
  h.serving.input clnt hmem

theorem Attends.dispatched (h : Attends J own streams es r) {clnt : RtConnectedClient}
    (hmem : clnt ∈ r.clients) (hin : r.env.input clnt.fd = []) :
    framesFrom clnt.ptr (happenings (unreadStreams streams) es) = streams clnt.ptr := by
  have hunread := (h.input_eq hmem).symm.trans hin
  have hended := ((h.serving.reading clnt hmem).of_unread_nil hunread).1
  have hall := happenings_streams (unreadStreams streams) es clnt.ptr
  rwa [hended, List.append_nil] at hall

theorem ReadBy.clientEnds (h : ReadBy streams es es') (hr : Attends J own streams es r)
    (hr' : Attends J own streams (es ++ es') r') :
    clientEnds r'.clients = clientEnds r.clients := by
  rw [hr'.clients, h.accepted, h.left, ← hr.clients]

/-- A quiet turn takes a byte at least of every client of which there is something to read. -/
theorem Attends.quietTurn (h : Attends J own streams es r)
    (hframes : ∀ ptr, ∀ f ∈ streams ptr, f.Admissible J) {listeners : List RoutedListener}
    (hfds : (Daemon.fds ⟨listeners, r⟩).Nodup)
    (hsize : ∀ fd ∈ Daemon.fds ⟨listeners, r⟩, fd < FD_SETSIZE) {d : Daemon}
    (hturn : QuietTurn J ⟨listeners, r⟩ () d) :
    ∃ es' r', d = ⟨listeners, r'⟩ ∧ Run (MemberStep J streams) r es' r' ∧
      Attends J own streams (es ++ es') r' ∧ clientEnds r'.clients = clientEnds r.clients ∧
      ∀ clnt ∈ r.clients, (unreadOf streams (es ++ es') clnt.ptr).length ≤
        (unreadOf streams es clnt.ptr).length - 1 := by
  cases hturn with
  | @turn readFds accepted fuel _ hselected hturn =>
  obtain ⟨es', r', hrun, hreaders, hone, -⟩ := h.mainTurn hframes hfds hsize
    (fun fd hfd => (hselected fd).mp hfd) accepted
  have hreads : ∀ e ∈ es', e.reader? ≠ none := by
    intro e he
    have hmem : e.reader? ∈ es'.map (·.reader?) := List.mem_map_of_mem he
    rw [hreaders] at hmem
    obtain ⟨ptr, -, hptr⟩ := List.mem_map.mp hmem
    rw [← hptr]
    exact Option.some_ne_none ptr
  obtain ⟨h', hread⟩ := h.reads hframes hrun hreads
  refine ⟨es', r', hone fuel d hturn, hrun, h', hread.clientEnds h h', fun clnt hmem => ?_⟩
  by_cases hin : r.env.input clnt.fd = []
  · have hle := hread.le clnt.ptr
    rw [← h.input_eq hmem, hin] at hle ⊢
    exact hle
  · have hptr : clnt.ptr ∈ readable readFds r.clients := by
      have hfd : clnt.fd ∈ readFds := (hselected clnt.fd).mpr ⟨clnt, hmem, rfl, hin⟩
      exact List.mem_map_of_mem (List.mem_filter.mpr ⟨hmem, decide_eq_true hfd⟩)
    have hlt := hread.lt clnt.ptr (hreaders ▸ List.mem_map_of_mem hptr)
    omega

theorem Attends.quietTurn_returns (h : Attends J own streams es r)
    (hframes : ∀ ptr, ∀ f ∈ streams ptr, f.Admissible J) {listeners : List RoutedListener}
    (hfds : (Daemon.fds ⟨listeners, r⟩).Nodup)
    (hsize : ∀ fd ∈ Daemon.fds ⟨listeners, r⟩, fd < FD_SETSIZE) :
    ∃ d, QuietTurn J ⟨listeners, r⟩ () d := by
  let waiting := (r.clients.filter fun k => decide (r.env.input k.fd ≠ [])).map (·.fd)
  have hselected : ∀ fd, fd ∈ waiting ↔
      ∃ clnt ∈ r.clients, clnt.fd = fd ∧ r.env.input fd ≠ [] := by
    intro fd
    constructor
    · intro hfd
      obtain ⟨k, hk, rfl⟩ := List.mem_map.mp hfd
      obtain ⟨hk, hin⟩ := List.mem_filter.mp hk
      exact ⟨k, hk, rfl, of_decide_eq_true hin⟩
    · rintro ⟨k, hk, rfl, hin⟩
      exact List.mem_map_of_mem (List.mem_filter.mpr ⟨hk, decide_eq_true hin⟩)
  obtain ⟨es', r', -, -, -, bound, hreturns⟩ := h.mainTurn hframes hfds hsize
    (fun fd hfd => (hselected fd).mp hfd) fun _ => .error .EAGAIN
  exact ⟨⟨listeners, r'⟩, .turn hselected (hreturns bound (Nat.le_refl _))⟩

/-- What quiet turns have brought about, from a state `r` on. -/
structure Drained (J : CJsonLib) (own : List Bytes) (streams : Nat → List Frame)
    (listeners : List RoutedListener) (es : List MemberEvent) (r : RtRouted Os) (turns : List Unit)
    (d : Daemon) : Prop where
  listeners_eq : d.listeners = listeners
  clients : clientEnds d.routed.clients = clientEnds r.clients
  reads : ∃ es', Run (MemberStep J streams) r es' d.routed ∧
    Attends J own streams (es ++ es') d.routed ∧
    ∀ p ∈ clientEnds r.clients, (unreadOf streams (es ++ es') p.1).length ≤
      (unreadOf streams es p.1).length - turns.length

theorem Drained.fds {listeners : List RoutedListener} {turns : List Unit} {d : Daemon}
    (h : Drained J own streams listeners es r turns d) :
    d.fds = Daemon.fds ⟨listeners, r⟩ := by
  rw [Daemon.fds, Daemon.fds, h.listeners_eq, ← clientEnds_fds, h.clients, clientEnds_fds]

theorem Drained.turn {listeners : List RoutedListener} {turns : List Unit} {d d' : Daemon}
    (h : Drained J own streams listeners es r turns d)
    (hframes : ∀ ptr, ∀ f ∈ streams ptr, f.Admissible J)
    (hfds : (Daemon.fds ⟨listeners, r⟩).Nodup)
    (hsize : ∀ fd ∈ Daemon.fds ⟨listeners, r⟩, fd < FD_SETSIZE) {u : Unit}
    (hturn : QuietTurn J d u d') : Drained J own streams listeners es r (turns ++ [u]) d' := by
  obtain ⟨es₁, hrun, hattends, hleft⟩ := h.reads
  rw [← h.fds] at hfds hsize
  obtain ⟨es₂, r', rfl, hrun', hattends', hclients, hless⟩ :=
    hattends.quietTurn hframes hfds hsize hturn
  refine ⟨h.listeners_eq, hclients.trans h.clients, es₁ ++ es₂, hrun.trans hrun', ?_, ?_⟩
  · rwa [← List.append_assoc]
  · intro p hp
    obtain ⟨k, hk, hptr, -⟩ := mem_clientEnds.mp (h.clients ▸ hp)
    have hone := hless k hk
    have hbefore := hleft p hp
    rw [hptr, List.append_assoc] at hone
    rw [List.length_append, List.length_singleton]
    omega

/-- **Nothing is stuck**, and no client keeps another waiting: from every state that the router
    can come to, the turns of the main loop return, and within as many of them as a client has
    unread bytes, nothing of it is left to read, all its frames were dispatched, and it has been
    sent what is due to it, however much the others send. -/
theorem main_loop_drains (J : CJsonLib) {listeners : List RoutedListener}
    {streams : Nat → List Frame} {debugRoutes : Nat} {os : Os} (htakes : Takes os.sends)
    (hdelivers : Delivers os.recvs) (hsent : os.sent = [])
    (hframes : ∀ ptr, ∀ f ∈ streams ptr, f.Admissible J)
    (hrun : Run (MemberStep J streams) (startRouter debugRoutes os) es r)
    (hfds : (Daemon.fds ⟨listeners, r⟩).Nodup)
    (hsize : ∀ fd ∈ Daemon.fds ⟨listeners, r⟩, fd < FD_SETSIZE) :
    (∀ k, ∃ turns d, turns.length = k ∧ Run (QuietTurn J) ⟨listeners, r⟩ turns d) ∧
    ∀ turns d, Run (QuietTurn J) ⟨listeners, r⟩ turns d →
      ∃ es', Run (MemberStep J streams) (startRouter debugRoutes os) (es ++ es') d.routed ∧
        d.fds = Daemon.fds ⟨listeners, r⟩ ∧
        ∀ clnt ∈ r.clients, (r.env.input clnt.fd).length ≤ turns.length →
          d.routed.env.input clnt.fd = [] ∧
          framesFrom clnt.ptr (happenings (unreadStreams streams) (es ++ es')) =
            streams clnt.ptr ∧
          wire clnt.fd d.routed.env.sent =
            (framesTo clnt.ptr (deliveriesAmong J (ownExpressions (startRoutes debugRoutes)) []
              (happenings (unreadStreams streams) (es ++ es')))).flatMap Frame.bytes := by
  have h := Attends.of_run htakes hdelivers hsent hframes hrun
  have hstart : Drained J (ownExpressions (startRoutes debugRoutes)) streams listeners es r []
      ⟨listeners, r⟩ :=
    ⟨rfl, rfl, [], .nil, by rwa [List.append_nil], fun p _ => by rw [List.append_nil]; rfl⟩
  have hdrained : ∀ {turns d}, Run (QuietTurn J) ⟨listeners, r⟩ turns d →
      Drained J (ownExpressions (startRoutes debugRoutes)) streams listeners es r turns d :=
    fun hturns => hturns.invariant hstart fun _ _ _ _ ht hturn => ht.turn hframes hfds hsize hturn
  constructor
  · intro k
    induction k with
    | zero => exact ⟨[], _, rfl, .nil⟩
    | succ k ih =>
      obtain ⟨turns, d, hlength, hturns⟩ := ih
      have hd := hdrained hturns
      obtain ⟨es', -, hattends, -⟩ := hd.reads
      have heq : d = ⟨listeners, d.routed⟩ := by rw [← hd.listeners_eq]
      rw [← hd.fds, heq] at hfds hsize
      -- after a run there is always another turn
      obtain ⟨d', hturn⟩ := hattends.quietTurn_returns hframes hfds hsize
      rw [← heq] at hturn
      exact ⟨turns ++ [()], d', by rw [List.length_append, hlength]; rfl, hturns.snoc hturn⟩
  · intro turns d hturns
    have hd := hdrained hturns
    obtain ⟨es', hrun', hattends, hleft⟩ := hd.reads
    refine ⟨es', hrun.trans hrun', hd.fds, fun clnt hmem hlength => ?_⟩
    have hend : (clnt.ptr, clnt.fd) ∈ clientEnds r.clients := List.mem_map_of_mem hmem
    obtain ⟨k, hk, hends⟩ := mem_clientEnds.mp (hd.clients ▸ hend)
    obtain ⟨hptr, hfd⟩ : k.ptr = clnt.ptr ∧ k.fd = clnt.fd := hends
    -- each turn has taken a byte at least while there was one
    have hnone : d.routed.env.input clnt.fd = [] := by
      have hless : (unreadOf streams (es ++ es') clnt.ptr).length ≤
          (unreadOf streams es clnt.ptr).length - turns.length := hleft _ hend
      rw [← h.input_eq hmem, ← hptr, ← hattends.input_eq hk, hfd] at hless
      exact List.length_eq_zero_iff.mp (by omega)
    refine ⟨hnone, ?_, ?_⟩
    · rw [← hptr]
      exact hattends.dispatched hk (hfd ▸ hnone)
    · have haccepted := (hattends.client hk).1
      rw [hptr, hfd] at haccepted
      exact hattends.sent _ haccepted

end Runs

theorem main_loop_drains_example : ∃ r turns d es',
    Run (MemberStep subscribeLib exampleStreams) (startRouter 0 quietOs) [.accepted 1 1] r ∧
    Run (QuietTurn subscribeLib) ⟨[⟨3, .zero⟩], r⟩ turns d ∧
    Run (MemberStep subscribeLib exampleStreams) (startRouter 0 quietOs) ([.accepted 1 1] ++ es')
      d.routed ∧
    framesFrom 1 (happenings (unreadStreams exampleStreams) ([.accepted 1 1] ++ es')) =
      [subscribeFrame] := by
  obtain ⟨hreturns, hdrains⟩ := main_loop_drains subscribeLib (fun _ => rfl)
    (fun _ => ⟨8191, rfl⟩) rfl exampleStreams_admissible firstAccepted
    (by decide : (Daemon.fds ⟨[⟨3, .zero⟩], _⟩).Nodup) (by decide)
  obtain ⟨turns, d, hlength, hturns⟩ := hreturns subscribeFrame.size
  obtain ⟨es', hrun, -, hclient⟩ := hdrains turns d hturns
  refine ⟨_, turns, d, es', firstAccepted, hturns, hrun, (hclient _ List.mem_cons_self ?_).2.1⟩
  rw [hlength]
  change ([subscribeFrame].flatMap Frame.bytes).length ≤ _
  rw [List.flatMap_singleton, subscribeFrame.bytes_length]

end RtMessage
