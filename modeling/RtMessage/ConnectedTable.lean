import Mathlib.Algebra.Order.BigOperators.Group.List
import RtMessage.Draining

/- The router's table as a function of who is connected.

   `deliveriesAmong` has the table as it grew: by every SUBSCRIBE in the order of their completion,
   less what the leavers had in it. Nothing of that history stays. Up to the order, the table has
   the subscriptions of the clients that are connected, and each client's own ones are in the order
   in which it made them (`table_of_connected`). So what a client gets of a frame depends on its
   own subscriptions and on nothing that the others do. -/
namespace RtMessage
open Lib

/-! A list in groups. -/

section Groups
variable {α κ : Type} [DecidableEq κ] {key : α → κ}

/-- The groups of a list, one after the other, are the list in another order. -/
theorem perm_groups {ks : List κ} (hnodup : ks.Nodup) {l : List α} (hkeys : ∀ x ∈ l, key x ∈ ks) :
    l.Perm (ks.flatMap fun k => l.filter fun x => decide (key x = k)) := by
  induction ks generalizing l with
  | nil =>
    rw [List.eq_nil_iff_forall_not_mem.mpr fun x hx => List.not_mem_nil (hkeys x hx)]
    exact .nil
  | cons k ks ih =>
    obtain ⟨hk, hnodup⟩ := List.nodup_cons.mp hnodup
    have hothers := @ih hnodup (l.filter fun x => !decide (key x = k)) fun x hx => by
      obtain ⟨hx, hne⟩ := List.mem_filter.mp hx
      have hne : key x ≠ k := by simpa using hne
      exact (List.mem_cons.mp (hkeys x hx)).resolve_left hne
    have hsame : (ks.flatMap fun k' => (l.filter fun x => !decide (key x = k)).filter
        fun x => decide (key x = k')) =
        ks.flatMap fun k' => l.filter fun x => decide (key x = k') := by
      refine List.flatMap_congr fun k' hk' => ?_
      rw [List.filter_filter]
      refine List.filter_congr fun x _ => ?_
      by_cases hx : key x = k'
      · have hne : key x ≠ k := fun heq => hk (heq ▸ hx ▸ hk')
        simp [hx, hx ▸ hne]
      · simp [hx]
    rw [hsame] at hothers
    exact (List.filter_append_perm _ l).symm.trans (hothers.append_left _)

end Groups

/-! The subscriptions of one client. -/

/-- What the frames of a client subscribe to, in order. -/
def subscriptionsBy (J : CJsonLib) (client : Nat) (fs : List Frame) : List Subscription :=
  fs.flatMap fun f => subscribed J (client, f)

/-- The table if clients that have sent these frames had sent them one after the other. -/
def tableOf (J : CJsonLib) (sent : Nat → List Frame) (clients : List RtConnectedClient) :
    List Subscription :=
  clients.flatMap fun clnt => subscriptionsBy J clnt.ptr (sent clnt.ptr)

/-- The frames that a client has completed after the events. -/
def sentIn (streams : Nat → List Frame) (es : List MemberEvent) (client : Nat) : List Frame :=
  framesFrom client (happenings (unreadStreams streams) es)

section Table
variable {J : CJsonLib} {client : Nat}

theorem client_of_subscribed {p : Nat × Frame} {u : Subscription} (h : u ∈ subscribed J p) :
    u.client = p.1 := by
  obtain ⟨a, -, rfl⟩ := Option.map_eq_some_iff.mp (Option.mem_toList.mp h)
  rfl

theorem tableOf_ends (sent : Nat → List Frame) (clients : List RtConnectedClient) :
    tableOf J sent clients =
      (clientEnds clients).flatMap fun p => subscriptionsBy J p.1 (sent p.1) := by
  rw [tableOf, clientEnds, List.flatMap_map]

/-- The part of the table that is a client's: what it had, and what its frames add. -/
theorem tableAmong_client {hs : List Happening} (hstays : Happening.left client ∉ hs)
    (table : List Subscription) :
    (tableAmong J table hs).filter (fun u => decide (u.client = client)) =
      table.filter (fun u => decide (u.client = client)) ++
        subscriptionsBy J client (framesFrom client hs) := by
  induction hs generalizing table with
  | nil => exact (List.append_nil _).symm
  | cons e hs ih =>
    have hrest : Happening.left client ∉ hs := fun hmem => hstays (List.mem_cons_of_mem e hmem)
    cases e with
    | frame owner f =>
      rw [tableAmong, ih hrest, List.filter_append, List.append_assoc, framesFrom]
      congr 1
      by_cases howner : owner = client
      · have hall : (subscribed J (owner, f)).filter (fun u => decide (u.client = client)) =
            subscribed J (owner, f) :=
          List.filter_eq_self.mpr fun u hu =>
            decide_eq_true ((client_of_subscribed hu).trans howner)
        rw [if_pos howner, hall, howner]
        rfl
      · have hnone : (subscribed J (owner, f)).filter (fun u => decide (u.client = client)) = [] :=
          List.filter_eq_nil_iff.mpr fun u hu h =>
            howner ((client_of_subscribed hu).symm.trans (of_decide_eq_true h))
        rw [if_neg howner, hnone]
        rfl
    | left owner =>
      have hne : client ≠ owner := fun heq => hstays (heq ▸ List.mem_cons_self)
      rw [tableAmong, ih hrest, List.filter_filter, framesFrom]
      congr 1
      refine List.filter_congr fun u _ => ?_
      by_cases hu : u.client = client
      · simp [hu, hne]
      · simp [hu]

theorem framesTo_copies (table : List Subscription) (f : Frame) :
    framesTo client (copies table f) =
      ((table.filter fun u => decide (u.client = client)).filter (·.matches f)).map
        fun u => f.withControlData u.id := by
  induction table with
  | nil => rfl
  | cons u table ih =>
    rw [copies, List.filter_cons, List.filter_cons]
    by_cases hmatch : u.matches f <;> by_cases hclient : u.client = client
    · rw [if_pos hmatch, if_pos (decide_eq_true hclient), List.filter_cons, if_pos hmatch,
        List.map_cons, List.map_cons, ← ih, framesTo, List.filterMap_cons, if_pos hclient]
      rfl
    · rw [if_pos hmatch, if_neg (by simpa using hclient), ← ih, framesTo, List.map_cons,
        List.filterMap_cons, if_neg hclient]
      rfl
    · rw [if_neg hmatch, if_pos (decide_eq_true hclient), List.filter_cons, if_neg hmatch,
        ← ih]
      rfl
    · rw [if_neg hmatch, if_neg (by simpa using hclient), ← ih]
      rfl

end Table

/-! The router. -/

section Runs
variable {J : CJsonLib} {own : List Bytes} {streams : Nat → List Frame} {r : RtRouted Os}
  {es : List MemberEvent} {clnt : RtConnectedClient}

/-- Who has left in what happened is gone for good. -/
theorem mem_leftIn_of_happened {s : Nat → Progress} {client : Nat}
    (h : Happening.left client ∈ happenings s es) : client ∈ leftIn es := by
  induction es generalizing s with
  | nil => cases h
  | cons e es ih =>
    rcases List.mem_append.mp h with h | h
    · cases e with
      | accepted _ _ => cases h
      | read _ _ =>
        obtain ⟨_, -, heq⟩ := List.mem_map.mp h
        cases heq
      | left _ =>
        cases List.mem_singleton.mp h
        exact List.mem_cons_self
    · have hrest := ih h
      rw [leftIn, List.filterMap_cons]
      cases e.left? with
      | none => exact hrest
      | some _ => exact List.mem_cons_of_mem _ hrest

theorem Attends.table_client (h : Attends J own streams es r) (hmem : clnt ∈ r.clients) :
    (subscriptions r.routes).filter (fun u => decide (u.client = clnt.ptr)) =
      subscriptionsBy J clnt.ptr (sentIn streams es clnt.ptr) := by
  have hstays : Happening.left clnt.ptr ∉ happenings (unreadStreams streams) es :=
    fun hleft => (h.client hmem).2 (mem_leftIn_of_happened hleft)
  rw [h.table, tableAmong_client hstays]
  rfl

theorem Attends.table_perm (h : Attends J own streams es r) :
    (subscriptions r.routes).Perm (tableOf J (sentIn streams es) r.clients) := by
  have howners : ∀ u ∈ subscriptions r.routes, u.client ∈ r.clients.map (·.ptr) := by
    intro u hu
    obtain ⟨e, he, howner⟩ := mem_subscriptions hu
    obtain ⟨k, hk, hptr⟩ := h.noDangling.served e he u.client howner
    exact List.mem_map.mpr ⟨k, hk, hptr⟩
  have hgroups := perm_groups h.serving.distinct.ptrs howners
  rw [List.flatMap_map] at hgroups
  have hsame : (r.clients.flatMap fun k =>
      (subscriptions r.routes).filter fun u => decide (u.client = k.ptr)) =
      tableOf J (sentIn streams es) r.clients :=
    List.flatMap_congr fun k hk => h.table_client hk
  rwa [hsame] at hgroups

end Runs

/-! Reading on to a point of the streams. -/

/-- The stream was not read past the point where `rest` is left of it. -/
def NotPast (rest : List Frame) (p : Progress) : Prop :=
  ∃ fs, p.1 = fs ++ rest ∧ (fs = [] → p.2 = 0)

theorem NotPast.eq_of_length {rest : List Frame} {p : Progress} {clnt : RtConnectedClient}
    (h : NotPast rest p) (hreading : ReadingAt p clnt)
    (hlength : p.unread.length ≤ (rest.flatMap Frame.bytes).length) : p = (rest, 0) := by
  obtain ⟨fs, hfs, hgot⟩ := h
  cases p with
  | mk gs got =>
  dsimp only at hfs hgot
  subst hfs
  cases fs with
  | nil => rw [hgot rfl, List.nil_append]
  | cons f fs =>
    cases hreading with
    | frame hreader =>
      have hlt := hreader.unfinished
      rw [List.cons_append, Progress.unread_length, List.flatMap_append,
        List.length_append] at hlength
      omega

theorem NotPast.read {rest : List Frame} {s : Nat → Progress} {ptr : Nat} {f : Frame}
    {fs : List Frame} {got : Nat} (hstream : s ptr = (f :: fs ++ rest, got)) (n : Nat) :
    NotPast rest (readStream s (ptr, n) ptr) := by
  rw [readStream_cons hstream, Function.update_self]
  by_cases hpart : got + n < f.size
  · rw [if_pos hpart]
    exact ⟨f :: fs, rfl, fun hnil => by cases hnil⟩
  · rw [if_neg hpart]
    exact ⟨fs, rfl, fun _ => rfl⟩

section Points
variable {J : CJsonLib} {own : List Bytes} {streams rest : Nat → List Frame} {r : RtRouted Os}
  {es : List MemberEvent}

/-- What is to be read of the clients until `rest` is left of each. -/
def untilRest (rest : Nat → List Frame) (ends : List (Nat × Nat)) (r : RtRouted Os) : Nat :=
  (ends.map fun p =>
    (r.env.input p.2).length - ((rest p.1).flatMap Frame.bytes).length).sum

theorem Attends.input_length (h : Attends J own streams es r) {p : Nat × Nat}
    (hp : p ∈ clientEnds r.clients) :
    (r.env.input p.2).length = (unreadOf streams es p.1).length := by
  obtain ⟨k, hk, hptr, hfd⟩ := mem_clientEnds.mp hp
  rw [← hptr, ← hfd, h.input_eq hk]

/-- Where something is to be read until the points are come to, there is a read that goes on to
    them and not past one. -/
theorem Attends.read_on (h : Attends J own streams es r)
    (hframes : ∀ ptr, ∀ f ∈ streams ptr, f.Admissible J)
    (hbefore : ∀ p ∈ clientEnds r.clients,
      NotPast (rest p.1) (streamsAmong (unreadStreams streams) es p.1))
    (hleft : 0 < untilRest rest (clientEnds r.clients) r) :
    ∃ e r', MemberStep J streams r e r' ∧ Attends J own streams (es ++ [e]) r' ∧
      clientEnds r'.clients = clientEnds r.clients ∧
      (∀ p ∈ clientEnds r.clients,
        NotPast (rest p.1) (streamsAmong (unreadStreams streams) (es ++ [e]) p.1)) ∧
      untilRest rest (clientEnds r.clients) r' < untilRest rest (clientEnds r.clients) r := by
  obtain ⟨left, hmem, hpos⟩ := List.sum_pos_iff_exists_pos_nat.mp hleft
  obtain ⟨p, hp, rfl⟩ := List.mem_map.mp hmem
  have hlength := h.input_length hp
  obtain ⟨k, hk, hptr, hfd⟩ := mem_clientEnds.mp hp
  obtain ⟨fs, hfs, hgot⟩ := hbefore p hp
  -- The point is ahead of this client, so the next frame is before it.
  cases hstream : streamsAmong (unreadStreams streams) es p.1 with
  | mk gs got =>
  rw [unreadOf] at hlength
  rw [hstream] at hfs hgot hlength
  dsimp only at hfs hgot
  subst hfs
  cases fs with
  | nil =>
    rw [hgot rfl, List.nil_append] at hlength
    change _ = ((rest p.1).flatMap Frame.bytes).length at hlength
    omega
  | cons f fs =>
  have hin : r.env.input k.fd ≠ [] := by
    intro hnil
    rw [← hfd, hnil] at hpos
    simp at hpos
  obtain ⟨n, r', -, hread, -, hserve⟩ := h.serving.serve hk hin
  have hstep : MemberStep J streams r (.read k.ptr n) r' :=
    .read (.read hk (hserve _ (Nat.lt_succ_self _)) hread.received)
  have h' := h.step hframes hstep
  have hshorter := h.read_shorter hstep
  have hother : ∀ ptr, ptr ≠ k.ptr → streamsAmong (unreadStreams streams)
      (es ++ [.read k.ptr n]) ptr = streamsAmong (unreadStreams streams) es ptr := by
    intro ptr hne
    rw [streamsAmong_snoc]
    exact readStream_other hne n
  have hends : clientEnds r'.clients = clientEnds r.clients := hread.clients
  refine ⟨_, r', hstep, h', hends, fun q hq => ?_, ?_⟩
  · by_cases hsame : q.1 = k.ptr
    · rw [hsame, streamsAmong_snoc, hptr]
      exact NotPast.read hstream n
    · rw [hother q.1 hsame]
      exact hbefore q hq
  · refine List.sum_lt_sum _ _ (fun q hq => ?_) ⟨p, hp, ?_⟩
    · rw [h.input_length hq, h'.input_length (hends ▸ hq), unreadOf, unreadOf]
      by_cases hsame : q.1 = k.ptr
      · rw [hsame]
        exact Nat.sub_le_sub_right (Nat.le_of_lt hshorter) _
      · rw [hother q.1 hsame]
    · rw [h.input_length hp] at hpos ⊢
      rw [h'.input_length (hends ▸ hp)]
      rw [← hptr] at hpos ⊢
      omega

/-- **Every point between frames is come to**: where no client was read past it, the router can
    read on until each is at it. -/
theorem Attends.comes_to (h : Attends J own streams es r) (rest : Nat → List Frame)
    (hframes : ∀ ptr, ∀ f ∈ streams ptr, f.Admissible J)
    (hbefore : ∀ p ∈ clientEnds r.clients,
      NotPast (rest p.1) (streamsAmong (unreadStreams streams) es p.1)) :
    ∃ es' r', Run (MemberStep J streams) r es' r' ∧ Attends J own streams (es ++ es') r' ∧
      clientEnds r'.clients = clientEnds r.clients ∧
      ∀ p ∈ clientEnds r.clients,
        streamsAmong (unreadStreams streams) (es ++ es') p.1 = (rest p.1, 0) := by
  let Short : List MemberEvent → RtRouted Os → Prop := fun es' t =>
    Attends J own streams es' t ∧ clientEnds t.clients = clientEnds r.clients ∧
      ∀ p ∈ clientEnds r.clients,
        NotPast (rest p.1) (streamsAmong (unreadStreams streams) es' p.1)
  have hstep : ∀ es' t, Short es' t → 0 < untilRest rest (clientEnds r.clients) t →
      ∃ e u, MemberStep J streams t e u ∧ Short (es' ++ [e]) u ∧
        untilRest rest (clientEnds r.clients) u < untilRest rest (clientEnds r.clients) t := by
    rintro es' t ⟨ht, hclients, hnot⟩ hleft
    rw [← hclients] at hnot hleft ⊢
    obtain ⟨e, u, hstep, hu, hends, hnot', hless⟩ := ht.read_on hframes hnot hleft
    exact ⟨e, u, hstep, ⟨hu, hends.trans hclients, hclients ▸ hnot'⟩, hless⟩
  have hstart : Short es r := ⟨h, rfl, hbefore⟩
  obtain ⟨es', r', hrun, ⟨hattends, hclients, hnot⟩, hdone⟩ := Run.drain _ hstep hstart
  refine ⟨es', r', hrun, hattends, hclients, fun p hp => ?_⟩
  have hzero := List.sum_eq_zero_iff_forall_eq_nat.mp hdone _ (List.mem_map_of_mem hp)
  have hlength := hattends.input_length (hclients ▸ hp)
  obtain ⟨k, hk, hptr, -⟩ := mem_clientEnds.mp (hclients ▸ hp)
  have hreading := hattends.serving.reading k hk
  rw [hptr] at hreading
  refine (hnot p hp).eq_of_length hreading ?_
  rw [unreadOf] at hlength
  omega

end Points

/-! What the table is. -/

/-- **The table is that of the connected**: after every run, whoever came and left in it and
    however the streams were interleaved, the table has the subscriptions that the completed frames
    of the connected clients make, each client's in their order, and no others. What a client gets
    of a frame is a copy for each of its own subscriptions that match. -/
theorem table_of_connected (J : CJsonLib) {streams : Nat → List Frame} {debugRoutes : Nat}
    {os : Os} {es : List MemberEvent} {r : RtRouted Os} (htakes : Takes os.sends)
    (hdelivers : Delivers os.recvs) (hsent : os.sent = [])
    (hframes : ∀ ptr, ∀ f ∈ streams ptr, f.Admissible J)
    (hrun : Run (MemberStep J streams) (startRouter debugRoutes os) es r) :
    (subscriptions r.routes).Perm (tableOf J (sentIn streams es) r.clients) ∧
    ∀ clnt ∈ r.clients,
      (subscriptions r.routes).filter (fun u => decide (u.client = clnt.ptr)) =
        subscriptionsBy J clnt.ptr (sentIn streams es clnt.ptr) ∧
      ∀ f, framesTo clnt.ptr (copies (subscriptions r.routes) f) =
        ((subscriptionsBy J clnt.ptr (sentIn streams es clnt.ptr)).filter (·.matches f)).map
          fun u => f.withControlData u.id := by
  have h := Attends.of_run htakes hdelivers hsent hframes hrun
  refine ⟨h.table_perm, fun clnt hmem => ⟨h.table_client hmem, fun f => ?_⟩⟩
  rw [framesTo_copies, h.table_client hmem]

/-- A client that has subscribed, and nobody else. -/
theorem table_of_connected_example : ∃ es r,
    Run (MemberStep subscribeLib exampleStreams) (startRouter 0 quietOs) es r ∧
    (subscriptions r.routes).Perm [⟨1, 5, ascii "A.B"⟩] := by
  have htakes : Takes quietOs.sends := fun _ => rfl
  have hdelivers : Delivers quietOs.recvs := fun _ => ⟨8191, rfl⟩
  have hfirst := Attends.of_run htakes hdelivers rfl exampleStreams_admissible firstAccepted
  have hbefore : ∀ p ∈ [(1, 1)],
      NotPast [] (streamsAmong (unreadStreams exampleStreams) [.accepted 1 1] p.1) := by
    intro p hp
    rw [List.mem_singleton.mp hp]
    exact ⟨[subscribeFrame], rfl, fun h => by cases h⟩
  obtain ⟨es, r, hrun, -, hends, hpoints⟩ :=
    hfirst.comes_to (fun _ => []) exampleStreams_admissible hbefore
  have hends : clientEnds r.clients = [(1, 1)] := hends
  have hrun := firstAccepted.trans hrun
  obtain ⟨hperm, -⟩ := table_of_connected subscribeLib htakes hdelivers rfl
    exampleStreams_admissible hrun
  have hall : sentIn exampleStreams ([.accepted 1 1] ++ es) 1 ++ _ = [subscribeFrame] :=
    happenings_streams (unreadStreams exampleStreams) ([.accepted 1 1] ++ es) 1
  rw [hpoints (1, 1) List.mem_cons_self, List.append_nil] at hall
  refine ⟨_, r, hrun, hperm.trans (.of_eq ?_)⟩
  rw [tableOf_ends, hends]
  change subscriptionsBy subscribeLib 1 _ ++ [] = _
  rw [hall]
  decide

end RtMessage
