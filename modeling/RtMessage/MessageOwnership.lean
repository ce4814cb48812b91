import RtMessage.Lib.Run
import RtMessage.MessageNodes

/- Who owns the nodes of a message.

   A caller acquires a message when a call gives it one, or when it retains one, and may
   release it once for each time. Between them the nodes of the message are its
   own. That holds for the messages whose tree was made for them; one that
   `rtMessage_GetMessageItem` gives has a count of its own over a part of the tree of
   another message, and `rtMessage_SetSendTopic` deletes a topic that it replaces twice.

   The invariant (`Inv`): a message there is has the count that the history says, and
   its node lies in a tree that is the own one of a message there is. As long as neither of
   the two happens (`Permitted`) every call keeps it (`inv_step`). -/
namespace RtMessage.Ownership
open Lib (NodeStore Run Allowing AllowedAfter)
open Lib.NodeStore (Closed Extends)

abbrev Event := Call × Answer

def Step (J : CJsonLib) (s : State) (e : Event) (t : State) : Prop := call J s e.1 = .ok (t, e.2)

def initial : State := ⟨[], []⟩

/-! What a caller may do. -/

/-- How often the message was given to the caller, or retained. -/
def acquisitions (log : List Event) (h : Nat) : Nat :=
  log.countP fun e => e.2.handle = some h ∨ e.1 = .retain h

def releases (log : List Event) (h : Nat) : Nat := log.countP fun e => e.1 = .release h

/-- The message is not yet finally released. -/
def Held (log : List Event) (h : Nat) : Prop := releases log h < acquisitions log h

/-- A call may be given messages that are held. In particular none is released more often than
    it was acquired. -/
def Disciplined (log : List Event) : Prop :=
  AllowedAfter (fun log e => ∀ h ∈ e.1.handles, Held log h) log

/-! What the caller may expect of the nodes. -/

/-- Every node that is reached from a message that is held is allocated. -/
def Intact (log : List Event) (s : State) : Prop :=
  ∀ h, Held log h → ∃ m, s.Live h m ∧
    ∀ n, m.json = some n → ∀ x, s.nodes.Reaches n x → s.nodes.Allocated x

/-- A call that is given messages that are held returns; so it frees no node that is freed. -/
def Returns (J : CJsonLib) (log : List Event) (s : State) (c : Call) : Prop :=
  (∀ h ∈ c.handles, Held log h) → ∃ a t, Step J s (c, a) t

/-! When it gets that. -/

/-- No other message points above the node of this one, or below it. -/
def Unshared (s : State) (h : Nat) (m : Message) : Prop :=
  ∀ h' m' n n', h' ≠ h → s.Live h' m' → m.json = some n → m'.json = some n' →
    ¬ s.nodes.Reaches n n' ∧ ¬ s.nodes.Reaches n' n

/-- The call sets no topic where there is one; it releases no message for good whose nodes
    another message points to; and it does not retain a message until its count wraps around. -/
def Permitted (s : State) : Call → Prop
  | .setSendTopic h _ => ∀ m, s.Live h m →
      cJSONGetObjectItem s.nodes m.json sendTopicName = .ok none
  | .retain h => ∀ m, s.Live h m → m.count + 1 ≠ 0
  | .release h => ∀ m, s.Live h m → m.count = 1 → Unshared s h m
  | _ => True

/-! The invariant. -/

def State.count (s : State) (h : Nat) : Nat :=
  match s.messages[h]? with
  | some (some m) => m.count.toNat
  | _ => 0

/-- The nodes of every message lie in the own tree of a message. -/
def State.Owned (s : State) : Prop :=
  ∀ h m n, s.Live h m → m.json = some n → ∃ h' m' r, s.Live h' m' ∧ m'.json = some r ∧
    s.nodes.Orphan r ∧ s.nodes.Reaches r n

structure Inv (log : List Event) (s : State) : Prop where
  sound : s.Sound
  owned : s.Owned
  counted : ∀ h, acquisitions log h = releases log h + s.count h
  positive : ∀ h m, s.Live h m → m.count ≠ 0

variable {J : CJsonLib} {log : List Event} {s t : State} {c : Call} {a : Answer} {h : Nat}
  {m : Message}

theorem acquisitions_append (e : Event) : acquisitions (log ++ [e]) h =
    acquisitions log h + if e.2.handle = some h ∨ e.1 = .retain h then 1 else 0 := by
  simp [acquisitions, List.countP_append, List.countP_singleton]

theorem releases_append (e : Event) : releases (log ++ [e]) h =
    releases log h + if e.1 = .release h then 1 else 0 := by
  simp [releases, List.countP_append, List.countP_singleton]

theorem State.Live.unique {m' : Message} (hm : s.Live h m) (hm' : s.Live h m') : m = m' :=
  Option.some.inj (Option.some.inj (hm.symm.trans hm'))

theorem State.Live.count (hm : s.Live h m) : s.count h = m.count.toNat := by
  unfold State.Live at hm
  unfold State.count
  rw [hm]

theorem live_of_count (hcount : 0 < s.count h) : ∃ m, s.Live h m := by
  unfold State.count at hcount
  split at hcount
  · next m hm => exact ⟨m, hm⟩
  · omega

theorem Inv.live (hinv : Inv log s) (hheld : Held log h) : ∃ m, s.Live h m := by
  have hcount := hinv.counted h
  exact live_of_count (by unfold Held at hheld; omega)

theorem inv_initial : Inv [] initial := by
  have hno : ∀ h m, ¬ initial.Live h m := fun h m hm => by simp [State.Live, initial] at hm
  exact ⟨⟨NodeStore.closed_nil, fun h m n hm => absurd hm (hno h m)⟩,
    fun h m n hm => absurd hm (hno h m), fun h => rfl, fun h m hm => absurd hm (hno h m)⟩

theorem Inv.intact (hinv : Inv log s) : Intact log s := by
  intro h hheld
  obtain ⟨m, hm⟩ := hinv.live hheld
  refine ⟨m, hm, fun n hn x hx => ?_⟩
  exact hinv.sound.closed.allocated_of_reaches (hinv.sound.allocated h m n hm hn) hx

/-! Calls that neither retain nor release. -/

theorem live_acquire {nodes : Nodes} {json : Option Nat} : (s.acquire nodes json).1.Live h m ↔
    s.Live h m ∨ h = s.messages.length ∧ m = ⟨json, 1⟩ := by
  simp only [State.Live, State.acquire, List.getElem?_append]
  split
  · next hlt => simp [Nat.ne_of_lt hlt]
  · next hge =>
    have hnone : s.messages[h]? = none := List.getElem?_eq_none (by omega)
    rw [hnone, List.getElem?_singleton]
    by_cases heq : h = s.messages.length
    · simp [heq, eq_comm]
    · have hpos : h - s.messages.length ≠ 0 := by omega
      simp [heq, hpos]

theorem count_acquire {nodes : Nodes} {json : Option Nat} :
    (s.acquire nodes json).1.count h = s.count h + if s.messages.length = h then 1 else 0 := by
  simp only [State.count, State.acquire]
  obtain hlt | rfl | hgt := Nat.lt_trichotomy h s.messages.length
  · rw [List.getElem?_append_left hlt, if_neg (Nat.ne_of_gt hlt), Nat.add_zero]
  · simp
  · have hnone : s.messages[h]? = none := List.getElem?_eq_none (by omega)
    have hnone' : (s.messages ++ [some (⟨json, 1⟩ : Message)])[h]? = none :=
      List.getElem?_eq_none (by simp; omega)
    rw [hnone, hnone', if_neg (Nat.ne_of_lt hgt)]

/-- A call that neither retains nor releases gives the caller the message it answers with, and
    nothing else. -/
theorem counted_append (log : List Event) (a : Answer) (h : Nat) (hretain : ∀ h, c ≠ .retain h)
    (hrelease : ∀ h, c ≠ .release h) :
    acquisitions (log ++ [(c, a)]) h = acquisitions log h + (if a.handle = some h then 1 else 0) ∧
      releases (log ++ [(c, a)]) h = releases log h := by
  simp [acquisitions_append, releases_append, hretain h, hrelease h]

theorem owned_extends {nodes : Nodes} (hsound : s.Sound) (howned : s.Owned)
    (hextends : Extends s.nodes nodes) {n : Nat} (hm : s.Live h m) (hn : m.json = some n) :
    ∃ h' m' r, s.Live h' m' ∧ m'.json = some r ∧ nodes.Orphan r ∧ nodes.Reaches r n := by
  obtain ⟨h', m', r, hm', hr, horphan, hreach⟩ := howned h m n hm hn
  have hall := hsound.allocated h' m' r hm' hr
  exact ⟨h', m', r, hm', hr, hextends.orphan r hall horphan, hextends.reaches hreach⟩

theorem Outcome.inv {r : State × Answer} (hout : Outcome s r) (hinv : Inv log s)
    (hretain : ∀ h, c ≠ .retain h) (hrelease : ∀ h, c ≠ .release h) :
    Inv (log ++ [(c, r.2)]) r.1 := by
  cases hout with
  | kept nodes error hextends =>
    refine ⟨⟨hextends.closed, fun h m n hm hn => ?_⟩, fun h m n hm hn => ?_, fun h => ?_,
      fun h m hm => hinv.positive h m hm⟩
    · exact hextends.allocated n (hinv.sound.allocated h m n hm hn)
    · exact owned_extends hinv.sound hinv.owned hextends hm hn
    · obtain ⟨hacq, hrel⟩ := counted_append log ⟨error, none⟩ h hretain hrelease
      rw [hacq, hrel, hinv.counted h]
      rfl
  | @acquired nodes json hextends hallocated howner =>
    refine ⟨⟨hextends.closed, fun h m n hm hn => ?_⟩, fun h m n hm hn => ?_, fun h => ?_,
      fun h m hm => ?_⟩
    · obtain hm | ⟨rfl, rfl⟩ := live_acquire.mp hm
      · exact hextends.allocated n (hinv.sound.allocated h m n hm hn)
      · exact hallocated n hn
    · have hold : ∀ h m n, s.Live h m → m.json = some n → ∃ h' m' r,
          (s.acquire nodes json).1.Live h' m' ∧ m'.json = some r ∧ nodes.Orphan r ∧
            nodes.Reaches r n := by
        intro h m n hm hn
        obtain ⟨h', m', r, hm', hrest⟩ := owned_extends hinv.sound hinv.owned hextends hm hn
        exact ⟨h', m', r, live_acquire.mpr (.inl hm'), hrest⟩
      obtain hm' | ⟨rfl, rfl⟩ := live_acquire.mp hm
      · exact hold h m n hm' hn
      · obtain horphan | ⟨h', m', r, hm', hr, hreach⟩ := howner n hn
        · exact ⟨_, _, n, hm, hn, horphan, .refl⟩
        · -- The new message points into the tree of another one, and so shares its owner.
          obtain ⟨h'', m'', r', hm'', hr', horphan, hreach'⟩ := hold h' m' r hm' hr
          exact ⟨h'', m'', r', hm'', hr', horphan, hreach'.trans hreach⟩
    · obtain ⟨hacq, hrel⟩ := counted_append log (s.acquire nodes json).2 h hretain hrelease
      rw [hacq, hrel, hinv.counted h, count_acquire, Nat.add_assoc]
      simp [State.acquire]
    · obtain hm | ⟨_, rfl⟩ := live_acquire.mp hm
      · exact hinv.positive h m hm
      · show (1 : UInt32) ≠ 0
        decide

/-! Counts. -/

theorem live_set {nodes : Nodes} {o : Option Message} (hm : s.Live h m) {h' : Nat} {m' : Message} :
    State.Live ⟨nodes, s.messages.set h o⟩ h' m' ↔
      h' = h ∧ o = some m' ∨ h' ≠ h ∧ s.Live h' m' := by
  have hlt : h < s.messages.length := (List.getElem?_eq_some_iff.mp hm).1
  simp only [State.Live, List.getElem?_set]
  by_cases heq : h = h'
  · subst heq
    simp [hlt]
  · simp [heq, Ne.symm heq]

theorem count_set {nodes : Nodes} {o : Option Message} (hm : s.Live h m) {h' : Nat} :
    State.count ⟨nodes, s.messages.set h o⟩ h' =
      if h' = h then o.elim 0 fun m => m.count.toNat else s.count h' := by
  have hlt : h < s.messages.length := (List.getElem?_eq_some_iff.mp hm).1
  simp only [State.count, List.getElem?_set]
  by_cases heq : h = h'
  · subst heq
    cases o with
    | none => simp [hlt]
    | some m' => simp [hlt]
  · simp [heq, Ne.symm heq]

/-- Only the count of a message that stays has changed. -/
theorem recount_sound (hinv : Inv log s) (hm : s.Live h m) (k : UInt32) :
    State.Sound ⟨s.nodes, s.messages.set h (some { m with count := k })⟩ ∧
      State.Owned ⟨s.nodes, s.messages.set h (some { m with count := k })⟩ := by
  have hback : ∀ h' m', State.Live ⟨s.nodes, s.messages.set h (some { m with count := k })⟩ h' m' →
      ∃ m₀, s.Live h' m₀ ∧ m₀.json = m'.json := by
    intro h' m' hm'
    obtain ⟨rfl, heq⟩ | ⟨_, hm'⟩ := (live_set hm).mp hm'
    · exact ⟨m, hm, by rw [← Option.some.inj heq]⟩
    · exact ⟨m', hm', rfl⟩
  have hforth : ∀ h' m₀, s.Live h' m₀ → ∃ m',
      State.Live ⟨s.nodes, s.messages.set h (some { m with count := k })⟩ h' m' ∧
        m'.json = m₀.json := by
    intro h' m₀ hm₀
    by_cases heq : h' = h
    · subst heq
      exact ⟨_, (live_set hm).mpr (.inl ⟨rfl, rfl⟩), by rw [hm.unique hm₀]⟩
    · exact ⟨m₀, (live_set hm).mpr (.inr ⟨heq, hm₀⟩), rfl⟩
  refine ⟨⟨hinv.sound.closed, fun h' m' n hm' hn => ?_⟩, fun h' m' n hm' hn => ?_⟩
  · obtain ⟨m₀, hm₀, hjson⟩ := hback h' m' hm'
    exact hinv.sound.allocated h' m₀ n hm₀ (hjson.trans hn)
  · obtain ⟨m₀, hm₀, hjson⟩ := hback h' m' hm'
    obtain ⟨h₁, m₁, r, hm₁, hr, horphan, hreach⟩ := hinv.owned h' m₀ n hm₀ (hjson.trans hn)
    obtain ⟨m₂, hm₂, hjson'⟩ := hforth h₁ m₁ hm₁
    exact ⟨h₁, m₂, r, hm₂, hjson'.trans hr, horphan, hreach⟩

/-- A message that stays, with a count that the caller's acts explain. -/
theorem recount_inv (hinv : Inv log s) (hm : s.Live h m) {k : UInt32} (hk : k ≠ 0)
    (hother : ∀ h', h' ≠ h → acquisitions (log ++ [(c, a)]) h' = acquisitions log h' ∧
      releases (log ++ [(c, a)]) h' = releases log h')
    (hself : acquisitions (log ++ [(c, a)]) h = releases (log ++ [(c, a)]) h + k.toNat) :
    Inv (log ++ [(c, a)]) ⟨s.nodes, s.messages.set h (some { m with count := k })⟩ := by
  obtain ⟨hsound, howned⟩ := recount_sound hinv hm k
  refine ⟨hsound, howned, fun h' => ?_, fun h' m' hm' => ?_⟩
  · rw [count_set hm]
    by_cases heq : h' = h
    · subst heq
      rw [if_pos rfl, hself]
      rfl
    · obtain ⟨hacq, hrel⟩ := hother h' heq
      rw [if_neg heq, hacq, hrel, hinv.counted h']
  · obtain ⟨rfl, heq⟩ | ⟨_, hm'⟩ := (live_set hm).mp hm'
    · rw [← Option.some.inj heq]
      exact hk
    · exact hinv.positive h' m' hm'

theorem retain_step (hinv : Inv log s) (hm : s.Live h m) (hwrap : m.count + 1 ≠ 0) :
    ∃ a t, Step J s (.retain h, a) t ∧ Inv (log ++ [(.retain h, a)]) t := by
  refine ⟨⟨.ok, none⟩, ⟨s.nodes, s.messages.set h (some { m with count := m.count + 1 })⟩, ?_, ?_⟩
  · show rtMessageRetain s h = _
    rw [rtMessageRetain, hm.read]
    rfl
  · apply recount_inv hinv hm hwrap
    · intro h' hne
      simp [acquisitions_append, releases_append, Ne.symm hne]
    · -- The count goes up by one with the caller's acquisitions.
      have hcount := hinv.counted h
      have hnat : (m.count + 1).toNat = m.count.toNat + 1 := by
        have hlt := m.count.toNat_lt
        have hne : (m.count + 1).toNat ≠ 0 := fun e => hwrap (UInt32.toNat_inj.mp e)
        rw [UInt32.toNat_add] at hne ⊢
        simp only [UInt32.toNat_one] at hne ⊢
        omega
      rw [hm.count] at hcount
      simp only [acquisitions_append, releases_append, hnat]
      simp
      omega

theorem release_kept_step (hinv : Inv log s) (hm : s.Live h m) (hone : m.count ≠ 1) :
    ∃ a t, Step J s (.release h, a) t ∧ Inv (log ++ [(.release h, a)]) t := by
  have hpos := hinv.positive h m hm
  have hnat : (m.count - 1).toNat + 1 = m.count.toNat := by
    have hlt := m.count.toNat_lt
    have hne : m.count.toNat ≠ 0 := fun e => hpos (UInt32.toNat_inj.mp e)
    rw [UInt32.toNat_sub]
    simp only [UInt32.toNat_one]
    omega
  have hleft : m.count - 1 ≠ 0 := by
    intro e
    rw [e] at hnat
    exact hone (UInt32.toNat_inj.mp hnat.symm)
  refine ⟨⟨.ok, none⟩, ⟨s.nodes, s.messages.set h (some { m with count := m.count - 1 })⟩, ?_, ?_⟩
  · show rtMessageRelease s h = _
    rw [rtMessageRelease, hm.read, ok_bind]
    simp only [ne_eq, hpos, not_false_eq_true, if_true, hleft, if_false]
    rfl
  · apply recount_inv hinv hm hleft
    · intro h' hne
      simp [acquisitions_append, releases_append, Ne.symm hne]
    · have hcount := hinv.counted h
      rw [hm.count] at hcount
      simp only [acquisitions_append, releases_append]
      simp
      omega

/-! The last release. -/

theorem Inv.orphan (hinv : Inv log s) (hm : s.Live h m) (hunshared : Unshared s h m) {n : Nat}
    (hn : m.json = some n) : s.nodes.Orphan n := by
  obtain ⟨h', m', r, hm', hr, horphan, hreach⟩ := hinv.owned h m n hm hn
  by_cases heq : h' = h
  · subst heq
    have hroot : n = r := Option.some.inj (hn.symm.trans (hm.unique hm' ▸ hr))
    exact hroot ▸ horphan
  · -- Another owner would point above the node.
    exact absurd hreach (hunshared h' m' n r heq hm' hn hr).2

/-- The message goes, and nodes are left for the others. -/
theorem destroyed_inv (hinv : Inv log s) (hm : s.Live h m) (hone : m.count = 1) {nodes : Nodes}
    (hclosed : nodes.Closed)
    (hallocated : ∀ h' m' n, h' ≠ h → s.Live h' m' → m'.json = some n → nodes.Allocated n)
    (howned : ∀ h' m' n, h' ≠ h → s.Live h' m' → m'.json = some n → ∃ h₁ m₁ r, h₁ ≠ h ∧
      s.Live h₁ m₁ ∧ m₁.json = some r ∧ nodes.Orphan r ∧ nodes.Reaches r n) :
    Inv (log ++ [(.release h, ⟨.ok, none⟩)]) ⟨nodes, s.messages.set h none⟩ := by
  have hlive : ∀ h' m', State.Live ⟨nodes, s.messages.set h none⟩ h' m' ↔
      h' ≠ h ∧ s.Live h' m' := by
    intro h' m'
    rw [live_set hm]
    simp
  refine ⟨⟨hclosed, fun h' m' n hm' hn => ?_⟩, fun h' m' n hm' hn => ?_, fun h' => ?_,
    fun h' m' hm' => hinv.positive h' m' ((hlive h' m').mp hm').2⟩
  · obtain ⟨hne, hm'⟩ := (hlive h' m').mp hm'
    exact hallocated h' m' n hne hm' hn
  · obtain ⟨hne, hm'⟩ := (hlive h' m').mp hm'
    obtain ⟨h₁, m₁, r, hne₁, hm₁, hrest⟩ := howned h' m' n hne hm' hn
    exact ⟨h₁, m₁, r, (hlive h₁ m₁).mpr ⟨hne₁, hm₁⟩, hrest⟩
  · rw [count_set hm, acquisitions_append, releases_append]
    have hcount := hinv.counted h'
    by_cases heq : h' = h
    · subst heq
      rw [hm.count, hone] at hcount
      simpa using hcount
    · simpa [heq, Ne.symm heq] using hcount

theorem release_last_eq (nodes : Nodes) (hm : s.Live h m) (hone : m.count = 1)
    (hdelete : (match m.json with
      | some json => cJSONDelete s.nodes json
      | none => pure s.nodes) = .ok nodes) :
    rtMessageRelease s h = .ok (⟨nodes, s.messages.set h none⟩, ⟨.ok, none⟩) := by
  have hread : State.read ⟨s.nodes, s.messages.set h (some { m with count := 0 })⟩ h =
      .ok { m with count := 0 } := State.Live.read ((live_set hm).mpr (.inl ⟨rfl, rfl⟩))
  have hset : (s.messages.set h (some { m with count := 0 })).set h none =
      s.messages.set h none := List.set_set ..
  have hresult := congrArg (fun ms => (Except.ok (⟨nodes, ms⟩, ⟨.ok, none⟩) :
    Except Fault (State × Answer))) hset
  rw [rtMessageRelease, hm.read, ok_bind, hone]
  show (rtMessageDestroy ⟨s.nodes, s.messages.set h (some { m with count := 0 })⟩ h >>= _) = _
  rw [rtMessageDestroy, hread, ok_bind, if_pos rfl]
  obtain ⟨json, count⟩ := m
  cases json with
  | none =>
    obtain rfl := Except.ok.inj hdelete
    exact hresult
  | some n =>
    show ((cJSONDelete s.nodes n >>= _) >>= _) = _
    rw [show cJSONDelete s.nodes n = .ok nodes from hdelete]
    exact hresult

theorem release_last_step (hinv : Inv log s) (hm : s.Live h m) (hone : m.count = 1)
    (hunshared : Unshared s h m) :
    ∃ a t, Step J s (.release h, a) t ∧ Inv (log ++ [(.release h, a)]) t := by
  cases hjson : m.json with
  | none =>
    have hcall := release_last_eq s.nodes hm hone (by rw [hjson]; rfl)
    refine ⟨_, _, hcall, destroyed_inv hinv hm hone hinv.sound.closed ?_ ?_⟩
    · exact fun h' m' n _ hm' hn => hinv.sound.allocated h' m' n hm' hn
    · intro h' m' n _ hm' hn
      obtain ⟨h₁, m₁, r, hm₁, hr, hrest⟩ := hinv.owned h' m' n hm' hn
      refine ⟨h₁, m₁, r, fun e => ?_, hm₁, hr, hrest⟩
      subst e
      rw [← hm.unique hm₁, hjson] at hr
      cases hr
  | some n =>
    have horphan := hinv.orphan hm hunshared hjson
    obtain ⟨nodes, hdelete, hpruned⟩ := cJSONDelete_pruned hinv.sound.closed
      (hinv.sound.allocated h m n hm hjson) horphan
    have hcall := release_last_eq nodes hm hone (by rw [hjson]; exact hdelete)
    refine ⟨_, _, hcall, destroyed_inv hinv hm hone hpruned.closed ?_ ?_⟩
    · intro h' m' n' hne hm' hn'
      exact hpruned.allocated (hinv.sound.allocated h' m' n' hm' hn')
        (hunshared h' m' n n' hne hm' hjson hn').1
    · intro h' m' n' hne hm' hn'
      have hoff := hunshared h' m' n n' hne hm' hjson hn'
      obtain ⟨h₁, m₁, r, hm₁, hr, hroot, hreach⟩ := hinv.owned h' m' n' hm' hn'
      refine ⟨h₁, m₁, r, fun e => ?_, hm₁, hr, hpruned.orphan hroot, hpruned.reaches hreach hoff.1⟩
      -- The owner of a message that stays is not the one that goes.
      subst e
      have hroot : n = r := Option.some.inj (hjson.symm.trans (hm.unique hm₁ ▸ hr))
      exact hoff.1 (hroot ▸ hreach)

/-! Every call, and every run. -/

theorem inv_step (hinv : Inv log s) (hheld : ∀ h ∈ c.handles, Held log h)
    (hpermitted : Permitted s c) : ∃ a t, Step J s (c, a) t ∧ Inv (log ++ [(c, a)]) t := by
  have hlive : ∀ h ∈ c.handles, ∃ m, s.Live h m := fun h hmem => hinv.live (hheld h hmem)
  have hplain : (∀ h, c ≠ .retain h) → (∀ h, c ≠ .release h) →
      (∃ r, call J s c = .ok r ∧ Outcome s r) →
      ∃ a t, Step J s (c, a) t ∧ Inv (log ++ [(c, a)]) t := by
    intro hretain hrelease ⟨r, hcall, hout⟩
    exact ⟨r.2, r.1, hcall, hout.inv hinv hretain hrelease⟩
  cases c with
  | create => exact hplain (by simp) (by simp) (create_outcome hinv.sound)
  | fromBytes bytes => exact hplain (by simp) (by simp) (fromBytes_outcome hinv.sound bytes)
  | clone h =>
    obtain ⟨m, hm⟩ := hlive h (by simp [Call.handles])
    exact hplain (by simp) (by simp) (clone_outcome hinv.sound hm)
  | setMessage h name item =>
    obtain ⟨m, hm⟩ := hlive h (by simp [Call.handles])
    obtain ⟨i, hi⟩ := hlive item (by simp [Call.handles])
    exact hplain (by simp) (by simp) (setMessage_outcome hinv.sound hm hi name)
  | addMessage h name item =>
    obtain ⟨m, hm⟩ := hlive h (by simp [Call.handles])
    obtain ⟨i, hi⟩ := hlive item (by simp [Call.handles])
    exact hplain (by simp) (by simp) (addMessage_outcome hinv.sound hm hi name)
  | getMessage h name =>
    obtain ⟨m, hm⟩ := hlive h (by simp [Call.handles])
    exact hplain (by simp) (by simp) (getMessage_outcome hinv.sound hm name)
  | getMessageItem h name idx =>
    obtain ⟨m, hm⟩ := hlive h (by simp [Call.handles])
    exact hplain (by simp) (by simp) (getMessageItem_outcome hinv.sound hm name idx)
  | setSendTopic h topic =>
    obtain ⟨m, hm⟩ := hlive h (by simp [Call.handles])
    exact hplain (by simp) (by simp) (setSendTopic_outcome hinv.sound hm topic (hpermitted m hm))
  | retain h =>
    obtain ⟨m, hm⟩ := hlive h (by simp [Call.handles])
    exact retain_step hinv hm (hpermitted m hm)
  | release h =>
    obtain ⟨m, hm⟩ := hlive h (by simp [Call.handles])
    by_cases hone : m.count = 1
    · exact release_last_step hinv hm hone (hpermitted m hm hone)
    · exact release_kept_step hinv hm hone

/-- The invariant holds wherever permitted calls of a disciplined caller lead. -/
theorem inv_run (hrun : Run (Allowing (fun s e => Permitted s e.1) (Step J)) initial log s)
    (hdisciplined : Disciplined log) : Inv log s := by
  refine hrun.invariant (I := fun log s => Disciplined log → Inv log s) (fun _ => inv_initial) ?_
    hdisciplined
  rintro log s ⟨c, a⟩ t ih ⟨hpermitted, hstep⟩ hd
  obtain ⟨hd, hheld⟩ := Lib.allowedAfter_append.mp hd
  obtain ⟨a', t', hstep', hinv⟩ := inv_step (J := J) (ih hd) hheld hpermitted
  have heq : (t', a') = (t, a) := Except.ok.inj (hstep'.symm.trans hstep)
  obtain ⟨rfl, rfl⟩ := Prod.mk.inj heq
  exact hinv

/-- In every run of a disciplined caller whose calls are permitted, the nodes that it reaches are
    allocated, and the next permitted call frees nothing that is freed. -/
theorem owned_nodes_intact
    (hrun : Run (Allowing (fun s e => Permitted s e.1) (Step J)) initial log s)
    (hdisciplined : Disciplined log) :
    Intact log s ∧ ∀ c, Permitted s c → Returns J log s c := by
  have hinv := inv_run hrun hdisciplined
  refine ⟨hinv.intact, fun c hpermitted hheld => ?_⟩
  obtain ⟨a, t, hstep, _⟩ := inv_step (J := J) hinv hheld hpermitted
  exact ⟨a, t, hstep⟩

/-- A message is made, and a topic is set. -/
def topicLog : List Event :=
  [(.create, ⟨.ok, some 0⟩), (.setSendTopic 0 (ascii "a"), ⟨.ok, none⟩)]

def topicState : State :=
  ⟨[some ⟨⟨none, .object⟩, [1]⟩, some ⟨⟨some sendTopicName, .string (ascii "a")⟩, []⟩],
    [some ⟨some 0, 1⟩]⟩

theorem topicLog_run : Run (Allowing (fun s e => Permitted s e.1) (Step .unused)) initial topicLog
    topicState := by
  have hcreated : Run (Allowing (fun s e => Permitted s e.1) (Step .unused)) initial
      [(.create, ⟨.ok, some 0⟩)] ⟨[some ⟨⟨none, .object⟩, []⟩], [some ⟨some 0, 1⟩]⟩ :=
    Run.single ⟨trivial, rfl⟩
  refine hcreated.snoc ⟨fun m hm => ?_, rfl⟩
  rw [← Option.some.inj (Option.some.inj hm)]
  rfl

theorem topicLog_disciplined : Disciplined topicLog := by
  refine Lib.allowedAfter_append.mpr ⟨Lib.allowedAfter_append.mpr ⟨Lib.allowedAfter_nil, ?_⟩, ?_⟩
  · exact fun h hh => by cases hh
  · intro h hh
    rw [List.mem_singleton.mp hh]
    unfold Held
    decide

theorem owned_nodes_intact_example : Intact topicLog topicState ∧
    ∀ c, Permitted topicState c → Returns .unused topicLog topicState c :=
  owned_nodes_intact topicLog_run topicLog_disciplined

/-- The topic is set a second time: the first one is freed twice. -/
theorem replaced_topic_freed_twice : ¬ ∀ J log s, Run (Step J) initial log s →
    Disciplined log → Intact log s ∧ ∀ c, Returns J log s c := by
  intro hclaim
  have hrun : Run (Step .unused) initial topicLog topicState :=
    topicLog_run.mono fun s e t hstep => hstep.2
  have hheld : ∀ h ∈ (Call.setSendTopic 0 (ascii "b")).handles, Held topicLog h := by
    intro h hh
    rw [List.mem_singleton.mp hh]
    unfold Held
    decide
  obtain ⟨a, t, hstep⟩ := (hclaim _ _ _ hrun topicLog_disciplined).2 _ hheld
  have hfault : call .unused topicState (.setSendTopic 0 (ascii "b")) =
      .error .undefinedBehaviour := rfl
  cases hfault.symm.trans hstep

-- An item is released, and then the message that it was taken from.
example : [.create, .create, .addMessage 0 (ascii "items") 1, .getMessageItem 0 (ascii "items") 0,
    .release 2, .release 0].foldlM (fun s c => return (← call .unused s c).1) initial =
      .error .undefinedBehaviour := rfl

end RtMessage.Ownership
