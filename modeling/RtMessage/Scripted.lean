import RtMessage.Forwarding
import RtMessage.Dispatch

/- The dispatch loop when the outcome of every forwarding attempt is given.

   A script says how the attempts to forward to each subscription end, in the order
   they are made; the environment counts them. `forward_outcome` says that the
   router's forwarding has no other outcomes. `At` describes the loop at an index of
   the table, and each lemma `At.*` takes it over one turn; `At.ok_run` and
   `At.retry_run` take it over a stretch of the table. -/
namespace RtMessage
open Lib

/-! Scripts. -/

inductive Outcome where
  | ok | fail | badFd
  deriving DecidableEq, Repr

def Outcome.error : Outcome → RtError
  | .ok => .ok
  | .fail => .fail
  | .badFd => rtErrorFromErrno .EBADF

/-- The outcomes of the attempts to forward to a subscription, by its address. -/
abbrev Script := Nat → Nat → Outcome

/-- Forwarding by script. The environment holds the number of attempts made. -/
def scripted (σ : Script) : Forward (Nat → Nat) := fun _ sub r =>
  .ok ((σ sub.ptr (r.env sub.ptr)).error, Function.update r.env sub.ptr (r.env sub.ptr + 1))

theorem forwardError_outcome (n : Errno) : ∃ o : Outcome, forwardError n = o.error := by
  cases n with
  | EBADF => exact ⟨.badFd, rfl⟩
  | _ => exact ⟨.fail, rfl⟩

/-- **The outcomes there are.** -/
theorem forward_outcome {clients : List RtConnectedClient} {hdr : RtMessageHeader} {buff : Bytes}
    {n : Nat} {sub : RtSubscription} {os os' : Os} {err : RtError}
    (h : rtRoutedForwardMessage clients hdr buff n sub os = .ok (err, os')) :
    ∃ o : Outcome, err = o.error := by
  unfold rtRoutedForwardMessage at h
  obtain ⟨topic, -, h⟩ := bind_eq_ok.mp h
  obtain ⟨replyTopic, -, h⟩ := bind_eq_ok.mp h
  dsimp only at h
  split at h
  · cases h
  · split at h
    · next errno _ _ =>
      cases h
      exact forwardError_outcome errno
    · split at h
      · split at h
        · next errno _ _ =>
          cases h
          exact forwardError_outcome errno
        · cases h
          exact ⟨.ok, rfl⟩
      · cases h

section Outcomes
variable {o : Nat → Outcome} {n : Nat}

/-- Every attempt before the first success fails, and not with `EBADF`. -/
def OkFirst (o : Nat → Outcome) : Prop := ∃ k, o k = .ok ∧ ∀ j < k, o j = .fail

/-- An attempt fails with `EBADF` before any succeeds. -/
def BadFirst (o : Nat → Outcome) : Prop := ∃ k, o k = .badFd ∧ ∀ j < k, o j = .fail

def HasOk (o : Nat → Outcome) : Prop := ∃ k, o k = .ok

/-- `n` attempts, the last of them the first success. -/
def Served (o : Nat → Outcome) (n : Nat) : Prop :=
  ∃ k, n = k + 1 ∧ o k = .ok ∧ ∀ j < k, o j ≠ .ok

theorem outcome_cases (o : Nat → Outcome) : OkFirst o ∨ BadFirst o ∨ ∀ k, o k = .fail := by
  by_cases h : ∃ k, o k ≠ .fail
  · have hmin : ∀ j < Nat.find h, o j = .fail := fun j hj => not_not.mp (Nat.find_min h hj)
    cases hk : o (Nat.find h) with
    | ok => exact .inl ⟨_, hk, hmin⟩
    | fail => exact absurd hk (Nat.find_spec h)
    | badFd => exact .inr (.inl ⟨_, hk, hmin⟩)
  · exact .inr (.inr fun k => not_not.mp fun hk => h ⟨k, hk⟩)

theorem OkFirst.not_badFirst (h : OkFirst o) : ¬ BadFirst o := by
  obtain ⟨k, hk, hlt⟩ := h
  rintro ⟨l, hl, hlt'⟩
  rcases Nat.lt_trichotomy k l with h | rfl | h
  · cases hk.symm.trans (hlt' k h)
  · cases hk.symm.trans hl
  · cases hl.symm.trans (hlt l h)

theorem BadFirst.not_okFirst (h : BadFirst o) : ¬ OkFirst o := fun h' => h'.not_badFirst h

theorem HasOk.served (h : HasOk o) : ∃ n, Served o n :=
  ⟨Nat.find h + 1, Nat.find h, rfl, Nat.find_spec h, fun _ hj => Nat.find_min h hj⟩

theorem Served.count (h : Served o n) : (List.range n).countP (fun k => o k = .ok) = 1 := by
  obtain ⟨k, rfl, hk, hlt⟩ := h
  have h0 : (List.range k).countP (fun k => decide (o k = .ok)) = 0 := by
    rw [List.countP_eq_zero]
    intro j hj
    simpa using hlt j (List.mem_range.mp hj)
  rw [List.range_succ, List.countP_append, h0]
  simp [hk]

theorem OkFirst.served_fail (h : OkFirst o) (hn : Served o n) {j : Nat} (hj : j < n) :
    o j ≠ .badFd := by
  obtain ⟨k, hk, hlt⟩ := h
  obtain ⟨l, rfl, hl, hl'⟩ := hn
  have hle : l ≤ k := by
    by_contra hkl
    exact hl' k (by omega) hk
  intro hbad
  rcases Nat.lt_or_ge j k with h | h
  · cases hbad.symm.trans (hlt j h)
  · obtain rfl : j = k := by omega
    cases hbad.symm.trans hk

end Outcomes

/-! Routes. -/

section Routes
variable {J : CJsonLib} {msg : Message} {e : RtRouteEntry} {sub : RtSubscription}

/-- The message is forwarded to the route's subscription when its turn comes. -/
def Message.Forwards (msg : Message) (e : RtRouteEntry) (sub : RtSubscription) : Prop :=
  msg.Matches e ∧ e.target = .forwardMessage sub

/-- What the router's own handlers find the message to ask for. -/
def asks (J : CJsonLib) (msg : Message) (e : RtRouteEntry) :
    Except Fault (Option (Bytes × UInt32)) :=
  match e.target with
  | .onMessage => controlRoute J msg.hdr msg.buff
  | _ => .ok none

/-- The handler of the route reads a message it cannot. -/
def Message.Faults (J : CJsonLib) (msg : Message) (e : RtRouteEntry) : Prop :=
  msg.Matches e ∧ ∃ f, asks J msg e = .error f

/-- The handler of the route adds a route of the sender to the table. -/
def Message.Adds (J : CJsonLib) (msg : Message) (e : RtRouteEntry) : Prop :=
  msg.Matches e ∧ ∃ a, asks J msg e = .ok (some a)

theorem Message.Forwards.not_faults (h : msg.Forwards e sub) : ¬ msg.Faults J e := by
  rintro ⟨-, f, hf⟩
  rw [asks, h.2] at hf
  cases hf

theorem Message.Forwards.unique {sub' : RtSubscription} (h : msg.Forwards e sub)
    (h' : msg.Forwards e sub') : sub' = sub := by
  injection h'.2.symm.trans h.2

theorem owner_eq (h : e.target = .forwardMessage sub) : e.owner = some sub.client := by
  rw [RtRouteEntry.owner, h]

theorem Message.Forwards.owner (h : msg.Forwards e sub) : e.owner = some sub.client :=
  owner_eq h.2

theorem subscriptionPtr_eq (h : e.target = .forwardMessage sub) :
    e.subscriptionPtr = some sub.ptr := by
  rw [RtRouteEntry.subscriptionPtr, h]

theorem controlMessage_error {name buff : Bytes} {f : Fault}
    (h : controlMessage J name buff = .error f) : f = .undefinedBehaviour := by
  unfold controlMessage at h
  split at h
  · cases h; rfl
  · cases h

theorem controlRoute_error {hdr : RtMessageHeader} {buff : Bytes} {f : Fault}
    (h : controlRoute J hdr buff = .error f) : f = .undefinedBehaviour := by
  unfold controlRoute at h
  split at h
  · cases hm : controlMessage J (ascii "topic") buff with
    | error g => rw [hm, error_bind] at h; cases h; exact controlMessage_error hm
    | ok m =>
      rw [hm, ok_bind] at h
      dsimp only at h
      split at h <;> cases h
      rfl
  · split at h
    · cases hm : controlMessage J (ascii "inbox") buff with
      | error g => rw [hm, error_bind] at h; cases h; exact controlMessage_error hm
      | ok m =>
        rw [hm, ok_bind] at h
        dsimp only at h
        split at h <;> cases h
        rfl
    · cases h

theorem asks_error {f : Fault} (h : asks J msg e = .error f) : f = .undefinedBehaviour := by
  unfold asks at h
  split at h
  · exact controlRoute_error h
  · cases h

theorem handler_own {ε : Type} (J : CJsonLib) (forward : Forward ε) (msg : Message)
    (r : RtRouted ε) (h : ∀ sub, e.target ≠ .forwardMessage sub) :
    messageHandler J forward msg e r = do
      let a ← asks J msg e
      return (.ok, r.subscribe msg.sender a) := by
  unfold messageHandler asks
  cases ht : e.target with
  | onMessage => exact onMessage_eq J msg.sender msg.hdr msg.buff r
  | printMessage => rfl
  | forwardMessage sub => exact absurd ht (h sub)

theorem handler_scripted (J : CJsonLib) (σ : Script) (msg : Message) (r : RtRouted (Nat → Nat))
    (h : e.target = .forwardMessage sub) :
    messageHandler J (scripted σ) msg e r =
      .ok ((σ sub.ptr (r.env sub.ptr)).error,
        { r with env := Function.update r.env sub.ptr (r.env sub.ptr + 1) }) := by
  unfold messageHandler
  rw [h]
  simp only [scripted, ok_bind, pure_eq_ok]

end Routes

/-! One turn. -/

/-- The loop is at index `i` of `table` and has made `m` attempts; behind the table are
    the routes the sender was given in this dispatch. -/
structure At (sender : Nat) (table added : List RtRouteEntry) (i : Nat) (m : Nat → Nat)
    (s : DispatchState (Nat → Nat)) : Prop where
  index : s.i = i
  bound : s.n = table.length
  routes : s.routed.routes = table ++ added
  count : s.routed.env = m
  wf : RouteTable s.routed.routes s.routed.nextPtr
  own : ∀ e ∈ added, e.owner = some sender

section Visit
variable {J : CJsonLib} {σ : Script} {msg : Message} {table added : List RtRouteEntry}
  {i : Nat} {m : Nat → Nat} {s s' : DispatchState (Nat → Nat)} {e : RtRouteEntry}
  {sub : RtSubscription}

/-- The turns of the loop. -/
abbrev Turns (J : CJsonLib) (σ : Script) (msg : Message) :
    DispatchState (Nat → Nat) → DispatchState (Nat → Nat) → Prop :=
  Steps DispatchState.goesOn (dispatchTurn J (scripted σ) msg)

/-- The dispatch of the message ends, if only by a fault. -/
abbrev Dispatches (J : CJsonLib) (σ : Script) (msg : Message) :
    DispatchState (Nat → Nat) → Prop :=
  Ends .outOfFuel DispatchState.goesOn (dispatchTurn J (scripted σ) msg)

/-- A turn that takes no route from the table. -/
def GrowTurn (J : CJsonLib) (σ : Script) (msg : Message) (s s' : DispatchState (Nat → Nat)) :
    Prop :=
  (s.goesOn = true ∧ dispatchTurn J (scripted σ) msg s = .ok s') ∧
    s.routed.routes ⊆ s'.routed.routes

/-- Turns that take no route from the table. -/
abbrev Grows (J : CJsonLib) (σ : Script) (msg : Message) :
    DispatchState (Nat → Nat) → DispatchState (Nat → Nat) → Prop :=
  Relation.ReflTransGen (GrowTurn J σ msg)

theorem Grows.turns (h : Grows J σ msg s s') : Turns J σ msg s s' := by
  induction h with
  | refl => exact Steps.refl s
  | tail _ ht ih => exact ih.trans (Steps.one ht.1.1 ht.1.2)

theorem Grows.subset (h : Grows J σ msg s s') : s.routed.routes ⊆ s'.routed.routes := by
  induction h with
  | refl => exact List.Subset.refl _
  | tail _ ht ih => exact List.Subset.trans ih ht.2

theorem At.goesOn (h : At msg.sender table added i m s) (hget : table[i]? = some e) :
    s.goesOn = true := by
  obtain ⟨hi, -⟩ := List.getElem?_eq_some_iff.mp hget
  rw [DispatchState.goesOn, h.index, h.bound]
  exact decide_eq_true hi

theorem At.done (h : At msg.sender table added i m s) (hi : table.length ≤ i) :
    s.goesOn = false := by
  rw [DispatchState.goesOn, h.index, h.bound]
  exact decide_eq_false (Nat.not_lt.mpr hi)

theorem At.get (h : At msg.sender table added i m s) (hget : table[i]? = some e) :
    s.routed.routes[s.i]? = some e := by
  obtain ⟨hi, -⟩ := List.getElem?_eq_some_iff.mp hget
  rw [h.routes, h.index, List.getElem?_append_left hi, hget]

theorem At.pass (h : At msg.sender table added i m s) (hget : table[i]? = some e)
    (hf : ∀ sub, ¬ msg.Forwards e sub) (hfault : ¬ msg.Faults J e) :
    ∃ s' more, GrowTurn J σ msg s s' ∧ At msg.sender table (added ++ more) (i + 1) m s' ∧
      (more = [] ↔ ¬ msg.Adds J e) := by
  by_cases hm : msg.Matches e
  · have hne : ∀ sub, e.target ≠ .forwardMessage sub := fun sub ht => hf sub ⟨hm, ht⟩
    -- a handler of the router's own: it adds the route that the message asks for, or none
    cases ha : asks J msg e with
    | error f => exact absurd ⟨hm, f, ha⟩ hfault
    | ok a =>
      have hh := handler_own J (scripted σ) msg s.routed hne
      rw [ha, ok_bind] at hh
      refine ⟨_, (match a with
        | none => []
        | some a => [clientRoute s.routed.nextPtr msg.sender a.1 a.2]),
        ⟨⟨h.goesOn hget, turn_handled (h.get hget) hm hh⟩, ?_⟩, ?_, ?_⟩
      · cases a with
        | none => exact List.Subset.refl _
        | some a => exact List.subset_append_left _ _
      · refine ⟨by rw [h.index], h.bound, ?_, ?_, h.wf.subscribe msg.sender a, ?_⟩
        · cases a with
          | none => rw [List.append_nil]; exact h.routes
          | some a =>
            rw [← List.append_assoc, ← h.routes]
            rfl
        · rw [RtRouted.subscribe_env]
          exact h.count
        · intro k hk
          rcases List.mem_append.mp hk with hk | hk
          · exact h.own k hk
          · cases a with
            | none => cases hk
            | some a => rw [List.mem_singleton.mp hk]; rfl
      · cases a with
        | none =>
          refine ⟨fun _ => ?_, fun _ => rfl⟩
          rintro ⟨-, a, ha'⟩
          cases ha.symm.trans ha'
        | some a => exact ⟨fun h0 => (List.cons_ne_nil _ _ h0).elim, fun hn => absurd ⟨hm, a, ha⟩ hn⟩
  · refine ⟨_, [], ⟨⟨h.goesOn hget, turn_skip (h.get hget) hm⟩, List.Subset.refl _⟩, ?_, ?_⟩
    · rw [List.append_nil]
      exact ⟨by rw [h.index], h.bound, h.routes, h.count, h.wf, h.own⟩
    · exact ⟨fun _ ha => hm ha.1, fun _ => rfl⟩

theorem At.fault (h : At msg.sender table added i m s) (hget : table[i]? = some e)
    (hfault : msg.Faults J e) :
    dispatchTurn J (scripted σ) msg s = .error .undefinedBehaviour := by
  obtain ⟨hm, f, hf⟩ := hfault
  have hne : ∀ sub, e.target ≠ .forwardMessage sub := by
    intro sub ht
    rw [asks, ht] at hf
    cases hf
  have hh := handler_own J (scripted σ) msg s.routed hne
  rw [hf, error_bind, asks_error hf] at hh
  exact turn_fault (h.get hget) hm hh

theorem At.ok (h : At msg.sender table added i m s) (hget : table[i]? = some e)
    (hf : msg.Forwards e sub) (ho : σ sub.ptr (m sub.ptr) = .ok) :
    ∃ s', GrowTurn J σ msg s s' ∧
      At msg.sender table added (i + 1) (Function.update m sub.ptr (m sub.ptr + 1)) s' := by
  have hh := handler_scripted J σ msg s.routed hf.2
  rw [h.count, ho] at hh
  refine ⟨_, ⟨⟨h.goesOn hget, turn_handled (h.get hget) hf.1 hh⟩, List.Subset.refl _⟩, ?_⟩
  exact ⟨by rw [h.index], h.bound, h.routes, rfl, h.wf, h.own⟩

theorem At.fail (h : At msg.sender table added i m s) (hget : table[i]? = some e)
    (hf : msg.Forwards e sub) (ho : σ sub.ptr (m sub.ptr) = .fail) :
    ∃ s', GrowTurn J σ msg s s' ∧
      At msg.sender table added i (Function.update m sub.ptr (m sub.ptr + 1)) s' := by
  have hh := handler_scripted J σ msg s.routed hf.2
  rw [h.count, ho] at hh
  refine ⟨_, ⟨⟨h.goesOn hget, turn_failed (h.get hget) hf.1 hh ?_ ?_⟩, List.Subset.refl _⟩, ?_⟩
  · exact fun h0 => by cases h0
  · exact fun h0 => by cases h0
  · exact ⟨h.index, h.bound, h.routes, rfl, h.wf, h.own⟩

/-- An attempt that fails with `EBADF` takes the sender's routes from the table; the
    index stays. -/
theorem At.badFd (h : At msg.sender table added i m s) (hget : table[i]? = some e)
    (hf : msg.Forwards e sub) (ho : σ sub.ptr (m sub.ptr) = .badFd) :
    ∃ s', (s.goesOn = true ∧ dispatchTurn J (scripted σ) msg s = .ok s') ∧
      At msg.sender (withoutClient msg.sender table) [] i
        (Function.update m sub.ptr (m sub.ptr + 1)) s' := by
  have hh := handler_scripted J σ msg s.routed hf.2
  rw [h.count, ho] at hh
  have hclear := clearClientRoutes_eq msg.sender h.wf
  refine ⟨_, ⟨h.goesOn hget, turn_badFd (h.get hget) hf.1 hh hclear⟩, ?_⟩
  have hkeep : withoutClient msg.sender s.routed.routes = withoutClient msg.sender table := by
    rw [h.routes, withoutClient_append, withoutClient_of_all h.own, List.append_nil]
  refine ⟨h.index, congrArg List.length hkeep, ?_, rfl, h.wf.sublist List.filter_sublist, ?_⟩
  · rw [List.append_nil]
    exact hkeep
  · intro k hk
    cases hk

/-! One route. -/

theorem At.fails (h : At msg.sender table added i m s) (hget : table[i]? = some e)
    (hf : msg.Forwards e sub) (hm : m sub.ptr = 0) {k : Nat} (hk : ∀ j < k, σ sub.ptr j = .fail) :
    ∃ s', Grows J σ msg s s' ∧
      At msg.sender table added i (Function.update m sub.ptr k) s' := by
  induction k with
  | zero => exact ⟨s, .refl, by rw [← hm, Function.update_eq_self]; exact h⟩
  | succ k ih =>
    obtain ⟨s₁, hs₁, h₁⟩ := ih fun j hj => hk j (by omega)
    obtain ⟨s₂, hs₂, h₂⟩ := h₁.fail (J := J) hget hf (by
      rw [Function.update_self]; exact hk k (by omega))
    rw [Function.update_self, Function.update_idem] at h₂
    exact ⟨s₂, hs₁.tail hs₂, h₂⟩

theorem At.okFirst (h : At msg.sender table added i m s) (hget : table[i]? = some e)
    (hf : msg.Forwards e sub) (hm : m sub.ptr = 0) (ho : OkFirst (σ sub.ptr)) :
    ∃ s' n, Grows J σ msg s s' ∧ Served (σ sub.ptr) n ∧
      At msg.sender table added (i + 1) (Function.update m sub.ptr n) s' := by
  obtain ⟨k, hk, hlt⟩ := ho
  obtain ⟨s₁, hs₁, h₁⟩ := h.fails (J := J) hget hf hm hlt
  obtain ⟨s₂, hs₂, h₂⟩ := h₁.ok (J := J) hget hf (by rw [Function.update_self]; exact hk)
  rw [Function.update_self, Function.update_idem] at h₂
  refine ⟨s₂, k + 1, hs₁.tail hs₂, ⟨k, rfl, hk, ?_⟩, h₂⟩
  intro j hj hjk
  cases hjk.symm.trans (hlt j hj)

theorem At.badFirst (h : At msg.sender table added i m s) (hget : table[i]? = some e)
    (hf : msg.Forwards e sub) (hm : m sub.ptr = 0) (ho : BadFirst (σ sub.ptr)) :
    ∃ s' n, Turns J σ msg s s' ∧ (∃ k, n = k + 1 ∧ σ sub.ptr k = .badFd) ∧
      (∀ j < n, σ sub.ptr j ≠ .ok) ∧
      At msg.sender (withoutClient msg.sender table) [] i (Function.update m sub.ptr n) s' := by
  obtain ⟨k, hk, hlt⟩ := ho
  obtain ⟨s₁, hs₁, h₁⟩ := h.fails (J := J) hget hf hm hlt
  obtain ⟨s₂, hs₂, h₂⟩ := h₁.badFd (J := J) hget hf (by rw [Function.update_self]; exact hk)
  rw [Function.update_self, Function.update_idem] at h₂
  refine ⟨s₂, k + 1, hs₁.turns.trans (Steps.one hs₂.1 hs₂.2), ⟨k, rfl, hk⟩, ?_, h₂⟩
  intro j hj hok
  rcases Nat.lt_succ_iff_lt_or_eq.mp hj with hj | rfl
  · cases hok.symm.trans (hlt j hj)
  · cases hok.symm.trans hk

/-- Where the sender has no routes, `EBADF` is a failure like any other: it takes from
    the table only what the sender was given in this dispatch. -/
theorem At.retry (h : At msg.sender table added i m s) (hget : table[i]? = some e)
    (hf : msg.Forwards e sub) (hkeep : withoutClient msg.sender table = table) {n : Nat}
    (hn : Served (σ sub.ptr) n) (hm : m sub.ptr < n) :
    ∃ s' added', Turns J σ msg s s' ∧ (added = [] → Grows J σ msg s s' ∧ added' = []) ∧
      At msg.sender table added' (i + 1) (Function.update m sub.ptr n) s' := by
  obtain ⟨k, rfl, hk, hlt⟩ := hn
  induction hd : k - m sub.ptr generalizing added m s with
  | zero =>
    have hmk : m sub.ptr = k := by omega
    obtain ⟨s', hs', h'⟩ := h.ok (J := J) hget hf (by rw [hmk]; exact hk)
    rw [hmk] at h'
    exact ⟨s', added, Steps.one hs'.1.1 hs'.1.2, fun ha => ⟨.single hs', ha⟩, h'⟩
  | succ d ih =>
    have hne := hlt (m sub.ptr) (by omega)
    cases ho : σ sub.ptr (m sub.ptr) with
    | ok => exact absurd ho hne
    | fail =>
      obtain ⟨s₁, hs₁, h₁⟩ := h.fail (J := J) hget hf ho
      obtain ⟨s₂, added₂, hs₂, hg₂, h₂⟩ := ih h₁ (by rw [Function.update_self]; omega)
        (by rw [Function.update_self]; omega)
      rw [Function.update_idem] at h₂
      refine ⟨s₂, added₂, (Steps.one hs₁.1.1 hs₁.1.2).trans hs₂, ?_, h₂⟩
      exact fun ha => ⟨(hg₂ ha).1.head hs₁, (hg₂ ha).2⟩
    | badFd =>
      obtain ⟨s₁, hs₁, h₁⟩ := h.badFd (J := J) hget hf ho
      rw [hkeep] at h₁
      obtain ⟨s₂, added₂, hs₂, hg₂, h₂⟩ := ih h₁ (by rw [Function.update_self]; omega)
        (by rw [Function.update_self]; omega)
      rw [Function.update_idem] at h₂
      refine ⟨s₂, added₂, (Steps.one hs₁.1 hs₁.2).trans hs₂, ?_, h₂⟩
      intro ha
      refine ⟨(hg₂ rfl).1.head ⟨hs₁, ?_⟩, (hg₂ rfl).2⟩
      rw [h.routes, h₁.routes, ha]
      exact List.Subset.refl _

/-- A route all of whose attempts fail is never passed. -/
theorem At.stuck (h : At msg.sender table added i m s) (hget : table[i]? = some e)
    (hf : msg.Forwards e sub) (ho : ∀ k, m sub.ptr ≤ k → σ sub.ptr k ≠ .ok)
    (hbad : withoutClient msg.sender table = table ∨ ∀ k, σ sub.ptr k = .fail) :
    ¬ Dispatches J σ msg s := by
  refine not_ends (fun s => ∃ added m, At msg.sender table added i m s ∧
    ∀ k, m sub.ptr ≤ k → σ sub.ptr k ≠ .ok) ?_ ⟨added, m, h, ho⟩
  rintro s ⟨added, m, h, ho⟩
  refine ⟨h.goesOn hget, ?_⟩
  have hnext : ∀ k, Function.update m sub.ptr (m sub.ptr + 1) sub.ptr ≤ k →
      σ sub.ptr k ≠ .ok := by
    intro k hk
    rw [Function.update_self] at hk
    exact ho k (by omega)
  cases hk : σ sub.ptr (m sub.ptr) with
  | ok => exact absurd hk (ho _ (Nat.le_refl _))
  | fail =>
    obtain ⟨s', hs', h'⟩ := h.fail (J := J) hget hf hk
    exact ⟨s', hs'.1.2, added, _, h', hnext⟩
  | badFd =>
    obtain ⟨s', hs', h'⟩ := h.badFd (J := J) hget hf hk
    rcases hbad with hkeep | hfail
    · rw [hkeep] at h'
      exact ⟨s', hs'.2, [], _, h', hnext⟩
    · cases hk.symm.trans (hfail _)

/-! A stretch of the table. -/

/-- The attempts made for a stretch of the table: `m` before it and `m'` after. -/
structure Counted (σ : Script) (msg : Message) (seg : List RtRouteEntry) (m m' : Nat → Nat) :
    Prop where
  served : ∀ e ∈ seg, ∀ sub, msg.Forwards e sub → Served (σ sub.ptr) (m' sub.ptr)
  others : ∀ p, (∀ e ∈ seg, ∀ sub, msg.Forwards e sub → sub.ptr ≠ p) → m' p = m p

/-- The attempts to come pass the subscription: a success comes first, or failing
    before it takes nothing from the table. -/
def Ready (σ : Script) (sender : Nat) (table : List RtRouteEntry) (m : Nat → Nat)
    (sub : RtSubscription) : Prop :=
  (OkFirst (σ sub.ptr) ∧ m sub.ptr = 0) ∨
    withoutClient sender table = table ∧ ∃ n, Served (σ sub.ptr) n ∧ m sub.ptr < n

theorem Ready.of_hasOk {sender : Nat} (hkeep : withoutClient sender table = table)
    (hm : ∀ j < m sub.ptr, σ sub.ptr j ≠ .ok) (ho : HasOk (σ sub.ptr)) :
    Ready σ sender table m sub := by
  obtain ⟨n, hn⟩ := ho.served
  refine .inr ⟨hkeep, n, hn, ?_⟩
  obtain ⟨k, rfl, hk, -⟩ := hn
  by_contra hlt
  exact hm k (by omega) hk

theorem RouteTable.sub_ne {nextPtr : Nat} {seg : List RtRouteEntry}
    (h : RouteTable (e :: seg) nextPtr) (hf : e.target = .forwardMessage sub) :
    ∀ k ∈ seg, ∀ sub', k.target = .forwardMessage sub' → sub'.ptr ≠ sub.ptr := by
  intro k hk sub' hf' heq
  have hd := h.subscriptions
  rw [List.filterMap_cons_some (subscriptionPtr_eq hf), List.nodup_cons] at hd
  refine hd.1 (List.mem_filterMap.mpr ⟨k, hk, ?_⟩)
  rw [subscriptionPtr_eq hf', heq]

theorem RouteTable.sub_ne_append {nextPtr : Nat} {pre L : List RtRouteEntry}
    (h : RouteTable (pre ++ L) nextPtr) (he : e ∈ pre) (hf : e.target = .forwardMessage sub) :
    ∀ k ∈ L, ∀ sub', k.target = .forwardMessage sub' → sub'.ptr ≠ sub.ptr := by
  obtain ⟨pre₁, pre₂, rfl⟩ := List.append_of_mem he
  have hsub : (e :: (pre₂ ++ L)).Sublist ((pre₁ ++ e :: pre₂) ++ L) := by simp
  exact fun k hk => (h.sublist hsub).sub_ne hf k (List.mem_append_right _ hk)

theorem At.rest (h : At msg.sender table added i m s) {seg : List RtRouteEntry}
    (hseg : table.drop i = seg) : RouteTable seg s.routed.nextPtr := by
  refine h.wf.sublist ?_
  rw [h.routes, ← hseg]
  exact (List.drop_sublist i table).trans (List.sublist_append_left table added)

/-- **A stretch of the table is passed** when every route in it is ready. -/
theorem At.run {seg rest : List RtRouteEntry} (h : At msg.sender table added i m s)
    (hseg : table.drop i = seg ++ rest) (hfault : ∀ e ∈ seg, ¬ msg.Faults J e)
    (hready : ∀ e ∈ seg, ∀ sub, msg.Forwards e sub → Ready σ msg.sender table m sub) :
    ∃ s' added' m', Turns J σ msg s s' ∧ Counted σ msg seg m m' ∧
      At msg.sender table added' (i + seg.length) m' s' ∧
      ((∀ e ∈ seg, ∀ sub, msg.Forwards e sub → OkFirst (σ sub.ptr) ∧ m sub.ptr = 0) →
        Grows J σ msg s s') ∧
      (added = [] → (∀ e ∈ seg, ¬ msg.Adds J e) → Grows J σ msg s s' ∧ added' = []) := by
  induction seg generalizing i added m s with
  | nil =>
    refine ⟨s, added, m, .refl s, ⟨?_, fun _ _ => rfl⟩, h, fun _ => .refl, fun ha _ => ⟨.refl, ha⟩⟩
    intro e he
    cases he
  | cons e seg ih =>
    have hget : table[i]? = some e := by
      have := congrArg (·[0]?) hseg
      simpa using this
    have hnext : table.drop (i + 1) = seg ++ rest := by
      rw [← List.tail_drop, hseg]
      rfl
    have hrest : RouteTable (e :: (seg ++ rest)) s.routed.nextPtr := h.rest hseg
    have hfault' : ∀ k ∈ seg, ¬ msg.Faults J k := fun k hk => hfault k (by simp [hk])
    by_cases hfw : ∃ sub, msg.Forwards e sub
    · obtain ⟨sub, hf⟩ := hfw
      have hne : ∀ k ∈ seg, ∀ sub', msg.Forwards k sub' → sub'.ptr ≠ sub.ptr :=
        fun k hk sub' hf' => hrest.sub_ne hf.2 k (by simp [hk]) sub' hf'.2
      -- the route is passed, after `n` attempts
      obtain ⟨s₁, added₁, n, hs₁, hn, h₁, hok₁, hquiet₁⟩ : ∃ s₁ added₁ n, Turns J σ msg s s₁ ∧
          Served (σ sub.ptr) n ∧
          At msg.sender table added₁ (i + 1) (Function.update m sub.ptr n) s₁ ∧
          (OkFirst (σ sub.ptr) ∧ m sub.ptr = 0 → Grows J σ msg s s₁) ∧
          (added = [] → Grows J σ msg s s₁ ∧ added₁ = []) := by
        by_cases hfirst : OkFirst (σ sub.ptr) ∧ m sub.ptr = 0
        · obtain ⟨s₁, n, hs₁, hn, h₁⟩ := h.okFirst (J := J) hget hf hfirst.2 hfirst.1
          exact ⟨s₁, added, n, hs₁.turns, hn, h₁, fun _ => hs₁, fun ha => ⟨hs₁, ha⟩⟩
        · rcases hready e (by simp) sub hf with hok | ⟨hkeep, n, hn, hlt⟩
          · exact absurd hok hfirst
          · obtain ⟨s₁, added₁, hs₁, hg₁, h₁⟩ := h.retry (J := J) hget hf hkeep hn hlt
            exact ⟨s₁, added₁, n, hs₁, hn, h₁, fun hok => absurd hok hfirst, hg₁⟩
      have hm : ∀ k ∈ seg, ∀ sub', msg.Forwards k sub' →
          Function.update m sub.ptr n sub'.ptr = m sub'.ptr :=
        fun k hk sub' hf' => Function.update_of_ne (hne k hk sub' hf') _ _
      obtain ⟨s₂, added₂, m₂, hs₂, hc₂, h₂, hok₂, hquiet₂⟩ := ih h₁ hnext hfault' (by
        intro k hk sub' hf'
        rw [Ready, hm k hk sub' hf']
        exact hready k (by simp [hk]) sub' hf')
      refine ⟨s₂, added₂, m₂, hs₁.trans hs₂, ⟨?_, ?_⟩, ?_, ?_, ?_⟩
      · intro k hk sub' hf'
        rcases List.mem_cons.mp hk with rfl | hk
        · rw [hf.unique hf', hc₂.others sub.ptr hne, Function.update_self]
          exact hn
        · exact hc₂.served k hk sub' hf'
      · intro p hp
        have hpe : p ≠ sub.ptr := (hp e (by simp) sub hf).symm
        rw [hc₂.others p fun k hk => hp k (by simp [hk]), Function.update_of_ne hpe]
      · rw [List.length_cons, show i + (seg.length + 1) = i + 1 + seg.length by omega]
        exact h₂
      · intro hall
        refine (hok₁ (hall e (by simp) sub hf)).trans (hok₂ ?_)
        intro k hk sub' hf'
        rw [hm k hk sub' hf']
        exact hall k (by simp [hk]) sub' hf'
      · intro ha hadds
        obtain ⟨hg₁, ha₁⟩ := hquiet₁ ha
        obtain ⟨hg₂, ha₂⟩ := hquiet₂ ha₁ fun k hk => hadds k (by simp [hk])
        exact ⟨hg₁.trans hg₂, ha₂⟩
    · have hnf : ∀ sub, ¬ msg.Forwards e sub := fun sub hf => hfw ⟨sub, hf⟩
      obtain ⟨s₁, more, hs₁, h₁, hmore⟩ := h.pass (σ := σ) hget hnf (hfault e (by simp))
      obtain ⟨s₂, added₂, m₂, hs₂, hc₂, h₂, hok₂, hquiet₂⟩ := ih h₁ hnext hfault'
        fun k hk => hready k (by simp [hk])
      refine ⟨s₂, added₂, m₂, (Steps.one hs₁.1.1 hs₁.1.2).trans hs₂, ⟨?_, ?_⟩, ?_, ?_, ?_⟩
      · intro k hk sub' hf'
        rcases List.mem_cons.mp hk with rfl | hk
        · exact absurd hf' (hnf sub')
        · exact hc₂.served k hk sub' hf'
      · exact fun p hp => hc₂.others p fun k hk => hp k (by simp [hk])
      · rw [List.length_cons, show i + (seg.length + 1) = i + 1 + seg.length by omega]
        exact h₂
      · exact fun hall => (hok₂ fun k hk => hall k (by simp [hk])).head hs₁
      · intro ha hadds
        have hnil : added ++ more = [] := by
          rw [ha, hmore.mpr (hadds e (by simp))]
          rfl
        obtain ⟨hg₂, ha₂⟩ := hquiet₂ hnil fun k hk => hadds k (by simp [hk])
        exact ⟨hg₂.head hs₁, ha₂⟩

end Visit

end RtMessage
