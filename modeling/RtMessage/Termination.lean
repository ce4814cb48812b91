import RtMessage.Framing
import RtMessage.Scripted

/- When the dispatch of a message ends.

   The loop stays at a route until an attempt to forward to it succeeds. The first
   `EBADF` takes the sender's routes from the table, and with them the route it
   came from if that is the sender's own; after it the sender has no routes left, and
   `EBADF` is a failure like any other. `dispatch_ends_iff` says of every script for
   which tables the loop ends, and `dispatch_dead_subscriber` is the router over a
   socket whose peer is gone. -/
namespace RtMessage
open Lib

section Passes
variable {J : CJsonLib} {msg : Message} {Q : RtSubscription → Prop} {e : RtRouteEntry}
  {pre post L : List RtRouteEntry}

/-- `Q` holds of every subscription the message is forwarded to, up to the first route
    whose handler cannot read it. -/
def Passes (J : CJsonLib) (msg : Message) (Q : RtSubscription → Prop) :
    List RtRouteEntry → Prop
  | [] => True
  | e :: rest => msg.Faults J e ∨ (∀ sub, msg.Forwards e sub → Q sub) ∧ Passes J msg Q rest

/-- A route the loop leaves behind, if `Q` says which subscriptions it does. -/
def Message.Clear (msg : Message) (J : CJsonLib) (Q : RtSubscription → Prop) (e : RtRouteEntry) :
    Prop :=
  ¬ msg.Faults J e ∧ ∀ sub, msg.Forwards e sub → Q sub

theorem passes_of_clear (h : ∀ e ∈ L, msg.Clear J Q e) : Passes J msg Q L := by
  induction L with
  | nil => exact trivial
  | cons e L ih => exact .inr ⟨(h e (by simp)).2, ih fun k hk => h k (by simp [hk])⟩

theorem passes_append_iff (h : ∀ e ∈ pre, msg.Clear J Q e) :
    Passes J msg Q (pre ++ post) ↔ Passes J msg Q post := by
  induction pre with
  | nil => exact Iff.rfl
  | cons e pre ih =>
    obtain ⟨hfault, hQ⟩ := h e (by simp)
    rw [← ih fun k hk => h k (by simp [hk])]
    exact ⟨fun hp => (hp.resolve_left hfault).2, fun hp => .inr ⟨hQ, hp⟩⟩

theorem all_or_first {α : Type} (P : α → Prop) (L : List α) :
    (∀ e ∈ L, P e) ∨ ∃ pre e post, L = pre ++ e :: post ∧ (∀ k ∈ pre, P k) ∧ ¬ P e := by
  induction L with
  | nil => exact .inl fun e he => by cases he
  | cons e L ih =>
    by_cases he : P e
    · rcases ih with hall | ⟨pre, f, post, rfl, hpre, hf⟩
      · exact .inl (List.forall_mem_cons.mpr ⟨he, hall⟩)
      · exact .inr ⟨e :: pre, f, post, rfl, List.forall_mem_cons.mpr ⟨he, hpre⟩, hf⟩
    · exact .inr ⟨[], e, L, rfl, by simp, he⟩

theorem first_unique {α : Type} {P : α → Prop} {pre post pre' post' : List α} {e e' : α}
    (h : pre ++ e :: post = pre' ++ e' :: post') (hpre : ∀ k ∈ pre, P k)
    (he : ¬ P e) (hpre' : ∀ k ∈ pre', P k) (he' : ¬ P e') :
    pre = pre' ∧ e = e' ∧ post = post' := by
  induction pre generalizing pre' with
  | nil =>
    cases pre' with
    | nil => injection h with h₁ h₂; exact ⟨rfl, h₁, h₂⟩
    | cons k pre' =>
      injection h with h₁ _
      exact absurd (hpre' e (by simp [h₁])) he
  | cons k pre ih =>
    cases pre' with
    | nil =>
      injection h with h₁ _
      exact absurd (hpre e' (by simp [h₁])) he'
    | cons k' pre' =>
      injection h with h₁ h₂
      obtain ⟨rfl, rfl, rfl⟩ := ih h₂ (fun k hk => hpre k (by simp [hk]))
        (fun k hk => hpre' k (by simp [hk]))
      exact ⟨by rw [h₁], rfl, rfl⟩

theorem Message.Forwards.not_clear {sub : RtSubscription} (hf : msg.Forwards e sub)
    (hQ : ¬ Q sub) : ¬ msg.Clear J Q e := fun hc => hQ (hc.2 sub hf)

theorem not_clear (h : ¬ msg.Clear J Q e) :
    msg.Faults J e ∨ ∃ sub, msg.Forwards e sub ∧ ¬ Q sub := by
  by_contra hn
  refine h ⟨fun hf => hn (.inl hf), fun sub hf => ?_⟩
  by_contra hQ
  exact hn (.inr ⟨sub, hf, hQ⟩)

theorem passes_fault (h : msg.Faults J e) : Passes J msg Q (e :: post) := .inl h

theorem not_passes {sub : RtSubscription} (hf : msg.Forwards e sub) (hQ : ¬ Q sub) :
    ¬ Passes J msg Q (e :: post) := by
  rintro (hfault | ⟨hall, -⟩)
  · exact hf.not_faults hfault
  · exact hQ (hall sub hf)

end Passes

section Ends
variable {J : CJsonLib} {σ : Script} {msg : Message} {table added : List RtRouteEntry}
  {i : Nat} {m : Nat → Nat} {s : DispatchState (Nat → Nat)} {e : RtRouteEntry}
  {seg : List RtRouteEntry}

theorem At.ends_fault (h : At msg.sender table added i m s) (hget : table[i]? = some e)
    (hfault : msg.Faults J e) : Dispatches J σ msg s :=
  ends_error (h.goesOn hget) (h.fault hget hfault) (by decide)

theorem At.ends_last (h : At msg.sender table added i m s) (hi : table.length ≤ i) :
    Dispatches J σ msg s := ends_done (h.done hi)

theorem length_le_of_drop {α : Type} {L seg : List α} {i : Nat} (h : L.drop i = seg) :
    L.length ≤ i + seg.length := by
  have := congrArg List.length h
  rw [List.length_drop] at this
  omega

theorem getElem?_of_drop {α : Type} {L pre post : List α} {a : α} {i : Nat}
    (h : L.drop i = pre ++ a :: post) : L[i + pre.length]? = some a := by
  rw [← List.getElem?_drop, h]
  simp

theorem drop_of_drop {α : Type} {L pre post : List α} {a : α} {i : Nat}
    (h : L.drop i = pre ++ a :: post) : L.drop (i + pre.length + 1) = post := by
  rw [Nat.add_assoc, ← List.drop_drop, h]
  simp

/-- Once the sender has no routes left, the loop ends if every subscription ahead takes
    the message at some time. -/
theorem At.retry_ends_iff (h : At msg.sender table added i m s) (hseg : table.drop i = seg)
    (hkeep : withoutClient msg.sender table = table)
    (hm : ∀ e ∈ seg, ∀ sub, msg.Forwards e sub → ∀ j < m sub.ptr, σ sub.ptr j ≠ .ok) :
    Dispatches J σ msg s ↔ Passes J msg (fun sub => HasOk (σ sub.ptr)) seg := by
  have hready : ∀ e ∈ seg, msg.Clear J (fun sub => HasOk (σ sub.ptr)) e →
      ∀ sub, msg.Forwards e sub → Ready σ msg.sender table m sub :=
    fun e he hc sub hf => .of_hasOk hkeep (hm e he sub hf) (hc.2 sub hf)
  rcases all_or_first (msg.Clear J fun sub => HasOk (σ sub.ptr)) seg with
    hall | ⟨pre, e, post, rfl, hpre, he⟩
  · refine iff_of_true ?_ (passes_of_clear hall)
    have hseg' : table.drop i = seg ++ [] := by rw [hseg, List.append_nil]
    obtain ⟨s', added', m', hs, -, h', -, -⟩ := h.run hseg'
      (fun e he => (hall e he).1) (fun e he => hready e he (hall e he))
    exact (ends_iff_of_steps hs).mpr (h'.ends_last (length_le_of_drop hseg))
  · rw [passes_append_iff hpre]
    obtain ⟨s', added', m', hs, hc, h', -, -⟩ := h.run hseg
      (fun k hk => (hpre k hk).1) (fun k hk => hready k (by simp [hk]) (hpre k hk))
    rw [show Dispatches J σ msg s ↔ Dispatches J σ msg s' from ends_iff_of_steps hs]
    have hget := getElem?_of_drop hseg
    rcases not_clear he with hfault | ⟨sub, hf, hno⟩
    · exact iff_of_true (h'.ends_fault hget hfault) (passes_fault hfault)
    · refine iff_of_false (h'.stuck hget hf ?_ (.inl hkeep)) (not_passes hf hno)
      exact fun k _ hk => hno ⟨k, hk⟩

theorem At.run_clear {pre rest : List RtRouteEntry}
    (h : At msg.sender table added i (fun _ => 0) s) (hseg : table.drop i = pre ++ rest)
    (hpre : ∀ k ∈ pre, msg.Clear J (fun sub => OkFirst (σ sub.ptr)) k) :
    ∃ s' added' m', Grows J σ msg s s' ∧ Counted σ msg pre (fun _ => 0) m' ∧
      At msg.sender table added' (i + pre.length) m' s' := by
  have hfirst : ∀ e ∈ pre, ∀ sub, msg.Forwards e sub → OkFirst (σ sub.ptr) ∧ (0 : Nat) = 0 :=
    fun e he sub hf => ⟨(hpre e he).2 sub hf, rfl⟩
  obtain ⟨s', added', m', -, hc, h', hg, -⟩ := h.run hseg (fun k hk => (hpre k hk).1)
    fun e he sub hf => .inl (hfirst e he sub hf)
  exact ⟨s', added', m', hg hfirst, hc, h'⟩

end Ends

/-- Where the dispatch loop starts. -/
abbrev RtRouted.start {ε : Type} (r : RtRouted ε) : DispatchState ε :=
  ⟨0, r.routes.length, false, r⟩

theorem At.start {r : RtRouted (Nat → Nat)} (hr : RouteTable r.routes r.nextPtr)
    (h0 : r.env = fun _ => 0) (sender : Nat) :
    At sender r.routes [] 0 (fun _ => 0) r.start where
  index := rfl
  bound := rfl
  routes := (List.append_nil _).symm
  count := h0
  wf := hr
  own := fun e he => by cases he

theorem dispatchLoop_ends {ε : Type} {J : CJsonLib} {forward : Forward ε} {msg : Message}
    {r : RtRouted ε} :
    (∃ fuel, dispatchLoop J forward fuel msg r ≠ .error .outOfFuel) ↔
      Ends .outOfFuel DispatchState.goesOn (dispatchTurn J forward msg) r.start := by
  refine exists_congr fun fuel => not_congr ?_
  rw [dispatchLoop]
  cases loop Fault.outOfFuel DispatchState.goesOn (dispatchTurn J forward msg) fuel r.start with
  | error f => simp only [error_bind, Except.error.injEq]
  | ok s => simp only [ok_bind, pure_eq_ok, reduceCtorEq]

/-- Where the loop goes on in the table that is left of the sender's routes. -/
theorem withoutClient_drop (clnt : Nat) (pre L : List RtRouteEntry) :
    (withoutClient clnt (pre ++ L)).drop pre.length =
      (withoutClient clnt L).drop (pre.countP fun e => e.owner = some clnt) := by
  have hlen := List.length_eq_countP_add_countP (fun e => decide (e.owner = some clnt)) (l := pre)
  have hpre : (withoutClient clnt pre).length =
      pre.countP fun e => ¬ decide (e.owner = some clnt) = true := by
    rw [withoutClient, ← List.countP_eq_length_filter]
    simp
  rw [withoutClient_append, List.drop_append, List.drop_of_length_le (by omega),
    List.nil_append]
  congr 1
  omega

/-- The run up to the first `EBADF`, where every route before it takes the message at once:
    the sender's routes are gone, and no subscription ahead has taken the message. -/
theorem run_to_badFd {J : CJsonLib} {σ : Script} {msg : Message} {r : RtRouted (Nat → Nat)}
    {pre post : List RtRouteEntry} {e : RtRouteEntry} {sub : RtSubscription}
    (hr : RouteTable r.routes r.nextPtr) (h0 : r.env = fun _ => 0)
    (hsplit : r.routes = pre ++ e :: post)
    (hpre : ∀ k ∈ pre, msg.Clear J (fun sub => OkFirst (σ sub.ptr)) k) (hf : msg.Forwards e sub)
    (hbad : BadFirst (σ sub.ptr)) :
    ∃ s m n, Turns J σ msg r.start s ∧ Counted σ msg pre (fun _ => 0) m ∧
      (∃ k < n, σ sub.ptr k = .badFd) ∧
      At msg.sender (withoutClient msg.sender r.routes) [] pre.length
        (Function.update m sub.ptr n) s ∧
      ∀ k ∈ (withoutClient msg.sender r.routes).drop pre.length, ∀ sub', msg.Forwards k sub' →
        ∀ j < Function.update m sub.ptr n sub'.ptr, σ sub'.ptr j ≠ .ok := by
  have hseg : r.routes.drop 0 = pre ++ e :: post := hsplit
  have h := At.start hr h0 msg.sender
  obtain ⟨s₁, added, m, hs₁, hc, h₁⟩ := h.run_clear hseg hpre
  have hm : ∀ k ∈ e :: post, ∀ sub', msg.Forwards k sub' → m sub'.ptr = 0 := by
    intro k hk sub' hf'
    refine hc.others sub'.ptr fun l hl sub'' hf'' heq => ?_
    exact (h.rest hseg).sub_ne_append hl hf''.2 k hk sub' hf'.2 heq.symm
  obtain ⟨s₂, n, hs₂, ⟨k, rfl, hk⟩, hn, h₂⟩ :=
    h₁.badFirst (J := J) (getElem?_of_drop hseg) hf (hm e (by simp) sub hf) hbad
  rw [Nat.zero_add] at h₂
  refine ⟨s₂, m, k + 1, hs₁.turns.trans hs₂, hc, ⟨k, Nat.lt_succ_self k, hk⟩, h₂, ?_⟩
  intro k' hk' sub' hf' j hj
  rw [hsplit, withoutClient_drop] at hk'
  have hmem : k' ∈ e :: post := (List.mem_filter.mp (List.mem_of_mem_drop hk')).1
  by_cases hp : sub'.ptr = sub.ptr
  · rw [hp, Function.update_self] at hj
    rw [hp]
    exact hn j hj
  · rw [Function.update_of_ne hp, hm k' hmem sub' hf'] at hj
    omega

/-- **When the dispatch of a message ends**: every subscription ahead takes the message
    before it fails with `EBADF`; or the first that does not fails with `EBADF`, and
    of the routes that are ahead once the sender's are gone each takes the message at
    some time. -/
theorem dispatch_ends_iff (J : CJsonLib) (σ : Script) (msg : Message) (r : RtRouted (Nat → Nat))
    (hr : RouteTable r.routes r.nextPtr) (h0 : r.env = fun _ => 0) :
    (∃ fuel, dispatchLoop J (scripted σ) fuel msg r ≠ .error .outOfFuel) ↔
      Passes J msg (fun sub => OkFirst (σ sub.ptr)) r.routes ∨
        ∃ pre e post sub, r.routes = pre ++ e :: post ∧
          (∀ k ∈ pre, msg.Clear J (fun sub => OkFirst (σ sub.ptr)) k) ∧
          msg.Forwards e sub ∧ BadFirst (σ sub.ptr) ∧
          Passes J msg (fun sub => HasOk (σ sub.ptr))
            ((withoutClient msg.sender r.routes).drop pre.length) := by
  rw [dispatchLoop_ends]
  have h := At.start hr h0 msg.sender
  rcases all_or_first (msg.Clear J fun sub => OkFirst (σ sub.ptr)) r.routes with
    hall | ⟨pre, e, post, hroutes, hpre, he⟩
  · refine iff_of_true ?_ (.inl (passes_of_clear hall))
    have hseg : r.routes.drop 0 = r.routes ++ [] := (List.append_nil _).symm
    obtain ⟨s', added, m, hs, -, h'⟩ := h.run_clear hseg hall
    exact (ends_iff_of_steps hs.turns).mpr (h'.ends_last (by omega))
  · have hseg : r.routes.drop 0 = pre ++ e :: post := hroutes
    obtain ⟨s', added, m, hs, hc, h'⟩ := h.run_clear hseg hpre
    have hget := getElem?_of_drop hseg
    have hends : Ends .outOfFuel DispatchState.goesOn (dispatchTurn J (scripted σ) msg) r.start ↔
        Dispatches J σ msg s' := ends_iff_of_steps hs.turns
    -- the first route that is not clear decides
    have hleft : Passes J msg (fun sub => OkFirst (σ sub.ptr)) r.routes ↔
        Passes J msg (fun sub => OkFirst (σ sub.ptr)) (e :: post) := by
      rw [hroutes, passes_append_iff hpre]
    rcases not_clear he with hfault | ⟨sub, hf, hno⟩
    · exact iff_of_true (hends.mpr (h'.ends_fault hget hfault))
        (.inl (hleft.mpr (passes_fault hfault)))
    · rw [hleft, or_iff_right (not_passes hf hno)]
      -- no other split of the table has clear routes up to one that is not
      have hsplit : ∀ pre' e' post' sub', r.routes = pre' ++ e' :: post' →
          (∀ k ∈ pre', msg.Clear J (fun sub => OkFirst (σ sub.ptr)) k) → msg.Forwards e' sub' →
          BadFirst (σ sub'.ptr) → pre' = pre ∧ sub' = sub := by
        intro pre' e' post' sub' hr' hpre' hf' hbad'
        obtain ⟨rfl, rfl, -⟩ := first_unique (hr'.symm.trans hroutes) hpre'
          (hf'.not_clear hbad'.not_okFirst) hpre (hf.not_clear hno)
        exact ⟨rfl, hf.unique hf'⟩
      rcases outcome_cases (σ sub.ptr) with hok | hbad | hfail
      · exact absurd hok hno
      · obtain ⟨s₁, m₁, n, hs₁, -, -, h₁, hm⟩ := run_to_badFd (J := J) hr h0 hroutes hpre hf hbad
        rw [ends_iff_of_steps hs₁, show Ends .outOfFuel DispatchState.goesOn
            (dispatchTurn J (scripted σ) msg) s₁ ↔ _ from
          h₁.retry_ends_iff rfl (withoutClient_idem msg.sender r.routes) hm]
        constructor
        · exact fun hp => ⟨pre, e, post, sub, hroutes, hpre, hf, hbad, hp⟩
        · rintro ⟨pre', e', post', sub', hr', hpre', hf', hbad', hp⟩
          obtain ⟨rfl, -⟩ := hsplit pre' e' post' sub' hr' hpre' hf' hbad'
          exact hp
      · refine iff_of_false (fun he => h'.stuck hget hf ?_ (.inr hfail) (hends.mp he)) ?_
        · intro k _ hk
          cases hk.symm.trans (hfail k)
        · rintro ⟨pre', e', post', sub', hr', hpre', hf', hbad', -⟩
          obtain ⟨-, rfl⟩ := hsplit pre' e' post' sub' hr' hpre' hf' hbad'
          obtain ⟨k, hk, -⟩ := hbad'
          cases hk.symm.trans (hfail k)

/-! A peer that is gone. -/

theorem forward_refused {clients : List RtConnectedClient} {hdr : RtMessageHeader} (buff : Bytes)
    {sub : RtSubscription} {client : RtConnectedClient} {n : Errno} (os : Os)
    (ht : hdr.topic.str.length ≤ 127) (hr : hdr.replyTopic.str.length ≤ 127)
    (hfind : clients.find? (fun k => k.ptr == sub.client) = some client)
    (hsend : os.sends.head = .error n) :
    ∃ os', rtRoutedForwardMessage clients hdr buff hdr.payloadLength.toNat sub os =
      .ok (forwardError n, os') ∧ os'.sends = os.sends.tail := by
  rw [forward_eq ht hr hfind]
  simp only [Os.beginCall, Os.send, hsend, SendResult.reply]
  exact ⟨_, rfl, rfl⟩

/-- **A dead subscriber hangs the router**: the first route a message matches is that of a
    client whose socket fails every send, say with `EPIPE`. -/
theorem dispatch_dead_subscriber (J : CJsonLib) {msg : Message} {r : RtRouted Os}
    {pre post : List RtRouteEntry} {e : RtRouteEntry} {sub : RtSubscription}
    {client : RtConnectedClient} (hroutes : r.routes = pre ++ e :: post)
    (hpre : ∀ k ∈ pre, ¬ msg.Matches k) (hf : msg.Forwards e sub)
    (hfind : r.clients.find? (fun k => k.ptr == sub.client) = some client)
    (ht : msg.hdr.topic.str.length ≤ 127) (hr : msg.hdr.replyTopic.str.length ≤ 127)
    (hsends : ∀ k, ∃ n, r.env.sends.get k = .error n ∧ n ≠ .EBADF) (fuel : Nat) :
    dispatchLoop J forwardMessage fuel msg r = .error .outOfFuel := by
  have hloop : loop .outOfFuel DispatchState.goesOn (dispatchTurn J forwardMessage msg) fuel
      r.start = .error .outOfFuel := loop_diverges
    (fun s => s.i ≤ pre.length ∧ s.n = r.routes.length ∧ s.routed.routes = r.routes ∧
      s.routed.clients = r.clients ∧ ∀ k, ∃ n, s.routed.env.sends.get k = .error n ∧ n ≠ .EBADF)
    ?_ ⟨Nat.zero_le _, rfl, rfl, rfl, hsends⟩ fuel
  · rw [dispatchLoop, hloop, error_bind]
  · rintro s ⟨hi, hn, htable, hclients, hsends⟩
    have hlt : s.i < r.routes.length := by
      rw [hroutes, List.length_append, List.length_cons]
      omega
    refine ⟨by rw [DispatchState.goesOn, hn]; exact decide_eq_true hlt, ?_⟩
    rcases Nat.lt_or_eq_of_le hi with hi | hi
    · -- on the way to the route, nothing matches
      have hget : s.routed.routes[s.i]? = some pre[s.i] := by
        rw [htable, hroutes, List.getElem?_append_left hi, List.getElem?_eq_getElem hi]
      exact ⟨_, turn_skip hget (hpre _ (List.getElem_mem hi)), hi, hn, htable, hclients, hsends⟩
    · have hget : s.routed.routes[s.i]? = some e := by
        rw [htable, hroutes, hi]
        simp
      obtain ⟨n, hsend, hbad⟩ := hsends 0
      obtain ⟨os', hfwd, htail⟩ := forward_refused msg.buff s.routed.env ht hr
        (hclients ▸ hfind) hsend
      have hh : messageHandler J forwardMessage msg e s.routed =
          .ok (.fail, { s.routed with env := os' }) := by
        have herr : forwardError n = .fail := by
          cases n <;> first | rfl | exact absurd rfl hbad
        have hfwd : forwardMessage msg sub s.routed = .ok (.fail, os') := herr ▸ hfwd
        unfold messageHandler
        rw [hf.2]
        dsimp only
        rw [hfwd, ok_bind]
        rfl
      refine ⟨_, turn_failed hget hf.1 hh (by decide) (by decide), Nat.le_of_eq hi, hn, htable,
        hclients, fun k => ?_⟩
      change ∃ n, os'.sends.get k = .error n ∧ n ≠ .EBADF
      rw [htail]
      exact hsends (k + 1)

/-! One subscriber. -/

/-- The message of `exampleFrame`, sent by client 8. -/
def exampleMessage : Message := ⟨8, exampleFrame.header, exampleFrame.payload⟩

/-- The route of client 7 that matches it. -/
def exampleRoute : RtRouteEntry := clientRoute 1 7 (ascii "A.B") 5

theorem exampleMessage_forwards : exampleMessage.Forwards exampleRoute ⟨1, 5, 7⟩ := by
  refine ⟨?_, rfl⟩
  have htopic : exampleFrame.header.topic.str = ascii "A.B" := by
    rw [Frame.header_topic_str]
    decide
  have hexp : exampleRoute.expression.str = ascii "A.B" := CArray.pad_str (by decide) (by decide)
  change rtRoutedIsTopicMatch exampleFrame.header.topic.str exampleRoute.expression.str = true
  rw [htopic, hexp]
  decide

/-- A router with this route, client 7 on socket 0. -/
def exampleRouter {ε : Type} (env : ε) : RtRouted ε :=
  ⟨[rtConnectedClientInit 7 0], [exampleRoute], 3, env⟩

theorem exampleRouter_table {ε : Type} (env : ε) :
    RouteTable (exampleRouter env).routes (exampleRouter env).nextPtr := by
  have hone : RouteTable [] 1 := ⟨List.nodup_nil, by simp, List.nodup_nil, by simp⟩
  exact hone.clientRoute 7 (ascii "A.B") 5

/-- Client 7's first attempt fails with `EBADF`, and every other succeeds. -/
def firstBadFd : Script := fun p k => if p = 1 ∧ k = 0 then .badFd else .ok

theorem dispatch_ends_iff_example :
    ∃ fuel, dispatchLoop .unused (scripted firstBadFd) fuel exampleMessage
      (exampleRouter fun _ => 0) ≠ .error .outOfFuel := by
  refine (dispatch_ends_iff .unused _ exampleMessage _ (exampleRouter_table _) rfl).mpr (.inr ?_)
  refine ⟨[], exampleRoute, [], ⟨1, 5, 7⟩, rfl, by simp, exampleMessage_forwards, ⟨0, rfl, by simp⟩,
    .inr ⟨fun sub hf => ?_, trivial⟩⟩
  cases exampleMessage_forwards.unique hf
  exact ⟨1, rfl⟩

/-- The loop does not end where every forward fails: under that script, and in the router
    when every send fails with `EPIPE`. -/
theorem dispatch_not_ends :
    (¬ ∀ (J : CJsonLib) (σ : Script) (msg : Message) (r : RtRouted (Nat → Nat)),
      RouteTable r.routes r.nextPtr → r.env = (fun _ => 0) →
      ∃ fuel, dispatchLoop J (scripted σ) fuel msg r ≠ .error .outOfFuel) ∧
    ∀ fuel, dispatchLoop .unused forwardMessage fuel exampleMessage
      (exampleRouter (.idle (Stream'.const (.error .EPIPE)))) = .error .outOfFuel := by
  constructor
  · intro hclaim
    obtain ⟨fuel, hfuel⟩ := hclaim .unused (fun _ _ => .fail) exampleMessage
      (exampleRouter fun _ => 0) (exampleRouter_table _) rfl
    have hstart := At.start (exampleRouter_table fun _ => 0) rfl exampleMessage.sender
    have hstuck := hstart.stuck (J := .unused) (σ := fun _ _ => .fail) (i := 0) rfl
      exampleMessage_forwards (fun k _ h => by cases h) (.inr fun k => rfl)
    exact hstuck (dispatchLoop_ends.mp ⟨fuel, hfuel⟩)
  · have hroutes : (exampleRouter (Os.idle (Stream'.const (.error .EPIPE)))).routes =
        [] ++ exampleRoute :: [] := rfl
    refine dispatch_dead_subscriber .unused hroutes (by simp) exampleMessage_forwards rfl
      ?_ ?_ fun k => ⟨.EPIPE, rfl, by decide⟩
    · exact exampleFrame.header_topic_str ▸ exampleFrame.topic.length_le
    · exact exampleFrame.header_replyTopic_str ▸ exampleFrame.replyTopic.length_le

end RtMessage
