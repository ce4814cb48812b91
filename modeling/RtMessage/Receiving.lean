import RtMessage.Connection

/- What `rtConnection_ReadUntil` reads.

   `Fills` and `Refused` speak of the answers `recv` is to give: enough data for a
   number of bytes, with interruptions only, or a failure before the first byte.
   `readUntil_fills` is the read under the first, and `readUntil_cases` every read
   that returns. -/
namespace RtMessage
open Lib

/-! What `recv` does to the system. -/

/-- The system after calls of `recv` on a socket that took `n` bytes of its input, left the
    answers `recvs`, and are recorded as `evs`. -/
def Os.consume (os : Os) (sock n : Nat) (evs : List RecvEvent) (recvs : Stream' RecvResult) : Os :=
  { os with
    recvs := recvs
    input := Function.update os.input sock ((os.input sock).drop n)
    received := os.received ++ evs }

section Consume
variable (os : Os) (sock n : Nat) (evs : List RecvEvent) (recvs : Stream' RecvResult)

@[simp] theorem consume_input : (os.consume sock n evs recvs).input sock =
    (os.input sock).drop n := Function.update_self ..

@[simp] theorem consume_recvs : (os.consume sock n evs recvs).recvs = recvs := rfl

@[simp] theorem consume_received :
    (os.consume sock n evs recvs).received = os.received ++ evs := rfl

theorem consume_nothing : os.consume sock 0 [] os.recvs = os := by
  simp [Os.consume]

theorem consume_consume (m : Nat) (evs' : List RecvEvent) (recvs' : Stream' RecvResult) :
    (os.consume sock n evs recvs).consume sock m evs' recvs' =
      os.consume sock (n + m) (evs ++ evs') recvs' := by
  simp [Os.consume, List.append_assoc]

end Consume

/-- The bytes a `recv` returned. -/
def RecvEvent.count (ev : RecvEvent) : Nat :=
  match ev.reply with
  | .ok n => n
  | .error _ => 0

/-- A `recv` that the read goes on after: it returned bytes or was interrupted. -/
def RecvEvent.Smooth (ev : RecvEvent) : Prop :=
  match ev.reply with
  | .ok n => 0 < n
  | .error e => e = .EINTR

def received (evs : List RecvEvent) : Nat := (evs.map (·.count)).sum

@[simp] theorem received_append (a b : List RecvEvent) :
    received (a ++ b) = received a + received b := by simp [received]

/-! The answers. -/

/-- The answers `s` fill `c` bytes and leave `s'`. -/
inductive Fills : Nat → Stream' RecvResult → Stream' RecvResult → Prop where
  | done (s : Stream' RecvResult) : Fills 0 s s
  | data {c k : Nat} {s s' : Stream' RecvResult} (hc : 0 < c) (hk : s.head = .data k)
      (h : Fills (c - min (k + 1) c) s.tail s') : Fills c s s'
  | interrupted {c : Nat} {s s' : Stream' RecvResult} (hc : 0 < c)
      (hk : s.head = .error .EINTR) (h : Fills c s.tail s') : Fills c s s'

theorem Fills.once {c k : Nat} {s : Stream' RecvResult} (hc : 0 < c) (hk : s.head = .data k)
    (hle : c ≤ k + 1) : Fills c s s.tail := by
  refine .data hc hk ?_
  rw [Nat.min_eq_right hle, Nat.sub_self]
  exact .done _

/-- Every answer is data: the chunks may have any size. -/
def Delivers (s : Stream' RecvResult) : Prop := ∀ n, ∃ k, s.get n = .data k

theorem Delivers.fills {s : Stream' RecvResult} (h : Delivers s) (c : Nat) :
    ∃ s', Fills c s s' ∧ Delivers s' := by
  induction c using Nat.strong_induction_on generalizing s with
  | _ c ih =>
    by_cases hc : c = 0
    · subst hc
      exact ⟨s, .done s, h⟩
    · obtain ⟨k, hk⟩ := h 0
      obtain ⟨s', hs', hd⟩ := ih (c - min (k + 1) c) (by omega) (s := s.tail) fun n => h (n + 1)
      exact ⟨s', .data (by omega) hk hs', hd⟩

/-- The first answer that is not an interruption is the error `e`. -/
inductive Refused : Stream' RecvResult → Errno → Stream' RecvResult → Prop where
  | error {s : Stream' RecvResult} {e : Errno} (hk : s.head = .error e) (he : e ≠ .EINTR) :
      Refused s e s.tail
  | interrupted {s s' : Stream' RecvResult} {e : Errno} (hk : s.head = .error .EINTR)
      (h : Refused s.tail e s') : Refused s e s'

/-! One turn. -/

section Turn
variable {sock off : Nat} {count : Int} {s : ReadState}

theorem readTurn_data (sock off : Nat) {k : Nat} {bs : Bytes} (hk : s.os.recvs.head = .data k)
    (hbs : bs = (s.os.input sock).take (min (k + 1) (count - s.bytesRead).toNat)) (hne : bs ≠ [])
    (hlt : s.bytesRead < count) :
    readTurn (some sock) off count s = do
      let buffer ← s.buffer.write (off + s.bytesRead) bs
      return { s with bytesRead := s.bytesRead + bs.length, buffer := buffer
                      os := s.os.consume sock bs.length [⟨sock, .ok bs.length⟩] s.os.recvs.tail } := by
  have hpos : (count - s.bytesRead).toNat ≠ 0 := by omega
  have hrecv : s.os.recv (some sock) (count - s.bytesRead).toNat =
      .ok (.ok bs, s.os.consume sock bs.length [⟨sock, .ok bs.length⟩] s.os.recvs.tail) := by
    simp only [Os.recv, if_neg hpos, hk, ← hbs, if_neg hne]
    rfl
  rw [readTurn, hrecv, ok_bind]
  cases bs with
  | nil => exact absurd rfl hne
  | cons b bs => rfl

/-- An answer that is no data is one that interrupts the read or ends it. -/
theorem readTurn_error (sock off : Nat) {r : RecvResult} (hr : s.os.recvs.head = r)
    (hlt : s.bytesRead < count) (hdata : ∀ k, r ≠ .data k) :
    (r = .error .EINTR ∧ readTurn (some sock) off count s =
      .ok { s with os := s.os.consume sock 0 [⟨sock, .error .EINTR⟩] s.os.recvs.tail }) ∨
    ∃ e ev, readTurn (some sock) off count s =
      .ok { s with err := some (.errno e), os := s.os.consume sock 0 [ev] s.os.recvs.tail } ∧
      ev.count = 0 ∧ ¬ ev.Smooth ∧
      (r = .error e ∧ e ≠ .EINTR ∧ ev.reply = .error e ∨ r = .eof ∧ ev.reply = .ok 0) := by
  have hpos : (count - s.bytesRead).toNat ≠ 0 := by omega
  have hinput : Function.update s.os.input sock ((s.os.input sock).drop 0) = s.os.input := by
    rw [List.drop_zero, Function.update_eq_self]
  cases r with
  | data k => exact absurd rfl (hdata k)
  | eof =>
    refine .inr ⟨.ENOTCONN, ⟨sock, .ok 0⟩, ?_, rfl, ?_, .inr ⟨rfl, rfl⟩⟩
    · simp only [readTurn, Os.recv, if_neg hpos, hr, ok_bind, Os.consume, hinput]
      rfl
    · exact Nat.lt_irrefl 0
  | error e =>
    have hrecv : s.os.recv (some sock) (count - s.bytesRead).toNat =
        .ok (.error e, s.os.consume sock 0 [⟨sock, .error e⟩] s.os.recvs.tail) := by
      simp only [Os.recv, if_neg hpos, hr, Os.consume, hinput]
    rw [readTurn, hrecv, ok_bind]
    by_cases he : e = .EINTR
    · subst he
      exact .inl ⟨rfl, rfl⟩
    · refine .inr ⟨e, ⟨sock, .error e⟩, ?_, rfl, he, .inl ⟨rfl, he, rfl⟩⟩
      cases e <;> first | rfl | exact absurd rfl he

theorem readTurn_cases {u : ReadState} (hlt : s.bytesRead < count)
    (h : readTurn (some sock) off count s = .ok u) :
    (∃ k n buffer, s.os.recvs.head = .data k ∧ 0 < n ∧
      n = min (k + 1) (min (count - s.bytesRead).toNat (s.os.input sock).length) ∧
      s.buffer.write (off + s.bytesRead) ((s.os.input sock).take n) = .ok buffer ∧
      u = { s with bytesRead := s.bytesRead + n, buffer := buffer
                   os := s.os.consume sock n [⟨sock, .ok n⟩] s.os.recvs.tail }) ∨
    (s.os.recvs.head = .error .EINTR ∧
      u = { s with os := s.os.consume sock 0 [⟨sock, .error .EINTR⟩] s.os.recvs.tail }) ∨
    ∃ e ev, u = { s with err := some (.errno e)
                         os := s.os.consume sock 0 [ev] s.os.recvs.tail } ∧
      ev.count = 0 ∧ ¬ ev.Smooth ∧
      ∀ e', ev.reply = .error e' → e' = e ∧ s.os.recvs.head = .error e ∧ e ≠ .EINTR := by
  cases hk : s.os.recvs.head with
  | data k =>
    let bs := (s.os.input sock).take (min (k + 1) (count - s.bytesRead).toNat)
    -- where nothing has arrived, `recv` waits and there is no turn
    by_cases hne : bs = []
    · have hpos : (count - s.bytesRead).toNat ≠ 0 := by omega
      rw [readTurn] at h
      simp only [Os.recv, if_neg hpos, hk, show (s.os.input sock).take
        (min (k + 1) (count - s.bytesRead).toNat) = [] from hne, if_true, error_bind] at h
      cases h
    · have hlen : bs.length = min (min (k + 1) (count - s.bytesRead).toNat)
          (s.os.input sock).length := List.length_take
      have htake : bs = (s.os.input sock).take bs.length := by
        rw [hlen, List.take_eq_take_iff]
        omega
      rw [readTurn_data sock off hk (show bs = _ from rfl) hne hlt] at h
      obtain ⟨buffer, hw, h⟩ := bind_eq_ok.mp h
      cases h
      refine .inl ⟨k, bs.length, buffer, rfl, List.length_pos_iff.mpr hne, ?_, ?_, rfl⟩
      · rw [hlen]
        omega
      · rw [← htake]
        exact hw
  | eof =>
    rcases readTurn_error sock off hk hlt (fun k hk => by cases hk) with
      ⟨he, -⟩ | ⟨e, ev, hturn, hcount, hsmooth, ⟨he, -⟩ | ⟨-, hreply⟩⟩
    · cases he
    · cases he
    · rw [hturn] at h
      cases h
      refine .inr (.inr ⟨e, ev, rfl, hcount, hsmooth, fun e' he' => ?_⟩)
      cases hreply.symm.trans he'
  | error e₀ =>
    rcases readTurn_error sock off hk hlt (fun k hk => by cases hk) with
      ⟨he, hturn⟩ | ⟨e, ev, hturn, hcount, hsmooth, ⟨he, hne, hreply⟩ | ⟨he, -⟩⟩
    · rw [hturn] at h
      cases h
      exact .inr (.inl ⟨he, rfl⟩)
    · rw [hturn] at h
      cases h
      refine .inr (.inr ⟨e, ev, rfl, hcount, hsmooth, fun e' he' => ?_⟩)
      exact ⟨Except.error.inj (he'.symm.trans hreply), he, hne⟩
    · cases he

end Turn

theorem recv_received {os os' : Os} {fd : Option Nat} {len : Nat} {reply : Except Errno Bytes}
    (h : os.recv fd len = .ok (reply, os')) : os.received <+: os'.received := by
  unfold Os.recv at h
  split at h
  · cases h
    exact List.prefix_refl _
  · split at h
    · cases h
      exact List.prefix_refl _
    · dsimp only at h
      split at h
      · split at h
        · cases h
        · cases h
          exact List.prefix_append _ _
      · cases h
        exact List.prefix_append _ _
      · cases h
        exact List.prefix_append _ _

theorem readTurn_received {fd : Option Nat} {u : ReadState} (h : readTurn fd off count s = .ok u) :
    s.os.received <+: u.os.received := by
  rw [readTurn] at h
  obtain ⟨⟨reply, os'⟩, hrecv, h⟩ := bind_eq_ok.mp h
  have hpre := recv_received hrecv
  cases reply with
  | error e => cases e <;> (cases h; exact hpre)
  | ok bs =>
    cases bs with
    | nil =>
      cases h
      exact hpre
    | cons b bs =>
      obtain ⟨buffer, -, h⟩ := bind_eq_ok.mp h
      cases h
      exact hpre

/-! The read. -/

section Read
variable {sock off : Nat} {count : Int}

theorem readState_goesOn {s : ReadState} (herr : s.err = none) (hlt : (s.bytesRead : Int) < count) :
    s.goesOn count = true := by
  simp [ReadState.goesOn, herr, hlt]

theorem readState_done {s : ReadState} (h : ¬ (s.bytesRead : Int) < count) :
    s.goesOn count = false := by
  simp [ReadState.goesOn, h]

theorem readLoop_fills {c : Nat} {recvs recvs' : Stream' RecvResult} (h : Fills c recvs recvs')
    (b : Nat) (buffer : CArray 8192) (os : Os) (hrecvs : os.recvs = recvs)
    (hc : (count - b).toNat = c) (hin : c ≤ (os.input sock).length) (hroom : off + b + c ≤ 8192) :
    ∃ fuel evs buffer', loop .outOfFuel (ReadState.goesOn count) (readTurn (some sock) off count) fuel
        ⟨b, none, buffer, os⟩ = .ok ⟨b + c, none, buffer', os.consume sock c evs recvs'⟩ ∧
      buffer.write (off + b) ((os.input sock).take c) = .ok buffer' ∧
      received evs = c ∧ ∀ ev ∈ evs, ev.Smooth := by
  induction h generalizing b buffer os with
  | done recvs =>
    subst hrecvs
    have hdone : ReadState.goesOn count ⟨b, none, buffer, os⟩ = false :=
      readState_done (s := ⟨b, none, buffer, os⟩) (show ¬ (b : Int) < count by omega)
    refine ⟨0, [], buffer, ?_, CArray.write_nil hroom, rfl, by simp⟩
    rw [loop_done hdone, consume_nothing]
    rfl
  | @data c k recvs recvs' hpos hk h ih =>
    subst hrecvs
    have hlt : (b : Int) < count := by omega
    -- the chunk, which is stored in front of what the rest of the answers fill
    let n := min (k + 1) c
    have hlen : ((os.input sock).take n).length = n := List.length_take_of_le (by omega)
    have hne : (os.input sock).take n ≠ [] := by
      intro hnil
      rw [hnil] at hlen
      change 0 = n at hlen
      omega
    obtain ⟨buffer₁, hw, -⟩ := CArray.write_ok buffer (off + b) ((os.input sock).take n)
      (by rw [hlen]; omega)
    have hturn := readTurn_data sock off (s := ⟨b, none, buffer, os⟩) hk
      (show (os.input sock).take n = _ by rw [hc]) hne hlt
    rw [hw, ok_bind, hlen] at hturn
    obtain ⟨fuel, evs, buffer', hloop, hw', hevs, hsmooth⟩ :=
      ih (b + n) buffer₁ (os.consume sock n [⟨sock, .ok n⟩] os.recvs.tail) rfl (by omega)
        (by rw [consume_input, List.length_drop]; omega) (by omega)
    refine ⟨fuel + 1, ⟨sock, .ok n⟩ :: evs, buffer', ?_, ?_, ?_, ?_⟩
    · rw [loop_step (readState_goesOn (s := ⟨b, none, buffer, os⟩) rfl hlt) hturn, hloop,
        consume_consume, Nat.add_assoc, show n + (c - min (k + 1) c) = c by omega]
      rfl
    · have happ := CArray.write_append hw (((os.input sock).drop n).take (c - n))
      rw [hlen, ← List.take_add, show n + (c - n) = c by omega] at happ
      rw [consume_input, ← Nat.add_assoc] at hw'
      rw [← happ]
      exact hw'
    · have hcons : received (⟨sock, .ok n⟩ :: evs) = n + received evs := rfl
      rw [hcons, hevs]
      omega
    · intro ev hev
      rcases List.mem_cons.mp hev with rfl | hev
      · exact show 0 < n by omega
      · exact hsmooth ev hev
  | @interrupted c recvs recvs' hpos hk h ih =>
    subst hrecvs
    have hlt : (b : Int) < count := by omega
    -- `EINTR` changes nothing but the answers
    rcases readTurn_error sock off (s := ⟨b, none, buffer, os⟩) hk hlt
      (fun k hk => by cases hk) with ⟨-, hturn⟩ | ⟨e, ev, -, -, -, ⟨he, hne, -⟩ | ⟨he, -⟩⟩
    · obtain ⟨fuel, evs, buffer', hloop, hw', hevs, hsmooth⟩ :=
        ih b buffer (os.consume sock 0 [⟨sock, .error .EINTR⟩] os.recvs.tail) rfl hc
          (by rw [consume_input, List.drop_zero]; exact hin) hroom
      refine ⟨fuel + 1, ⟨sock, .error .EINTR⟩ :: evs, buffer', ?_, ?_, ?_, ?_⟩
      · rw [loop_step (readState_goesOn (s := ⟨b, none, buffer, os⟩) rfl hlt) hturn, hloop,
          consume_consume, Nat.zero_add]
        rfl
      · rwa [consume_input, List.drop_zero] at hw'
      · have hcons : received (⟨sock, .error .EINTR⟩ :: evs) = 0 + received evs := rfl
        rw [hcons, hevs, Nat.zero_add]
      · intro ev hev
        rcases List.mem_cons.mp hev with rfl | hev
        · exact rfl
        · exact hsmooth ev hev
    · cases he
      exact absurd rfl hne
    · cases he

/-- How a read ended that took `n` bytes by the calls `evs`: with all it was to read, or at
    the last of the calls. -/
def ReadEnd (c n : Nat) (evs : List RecvEvent) (recvs recvs' : Stream' RecvResult) :
    Option RtError → Prop
  | none => n = c ∧ Fills c recvs recvs' ∧ ∀ ev ∈ evs, ev.Smooth
  | some err => err ≠ .ok ∧ ∃ init last, evs = init ++ [last] ∧ ¬ last.Smooth ∧
      (n = 0 → ∀ e, last.reply = .error e → err = .errno e ∧ Refused recvs e recvs')

/-- The end of a read that receives some bytes first: all that the answer gives, if the read
    comes to its count. -/
theorem ReadEnd.data {c k n n' : Nat} {evs : List RecvEvent} {recvs recvs' : Stream' RecvResult}
    {err : Option RtError} (h : ReadEnd (c - n) n' evs recvs.tail recvs' err)
    (hk : recvs.head = .data k) (hpos : 0 < n) (hle : n ≤ c)
    (hall : n' = c - n → n = min (k + 1) c) :
    ReadEnd c (n + n') ([⟨sock, .ok n⟩] ++ evs) recvs recvs' err := by
  cases err with
  | none =>
    obtain ⟨hn', hfills, hsmooth⟩ := h
    rw [hall hn'] at hfills
    exact ⟨by omega, .data (by omega) hk hfills, List.forall_mem_cons.mpr ⟨hpos, hsmooth⟩⟩
  | some err =>
    obtain ⟨hne, init, last, rfl, hlast, -⟩ := h
    exact ⟨hne, [⟨sock, .ok n⟩] ++ init, last, (List.append_assoc ..).symm, hlast,
      fun h0 => by omega⟩

theorem ReadEnd.interrupted {c n : Nat} {evs : List RecvEvent} {recvs recvs' : Stream' RecvResult}
    {err : Option RtError} (h : ReadEnd c n evs recvs.tail recvs' err)
    (hk : recvs.head = .error .EINTR) (hpos : 0 < c) :
    ReadEnd c n ([⟨sock, .error .EINTR⟩] ++ evs) recvs recvs' err := by
  cases err with
  | none =>
    obtain ⟨rfl, hfills, hsmooth⟩ := h
    exact ⟨rfl, .interrupted hpos hk hfills, List.forall_mem_cons.mpr ⟨rfl, hsmooth⟩⟩
  | some err =>
    obtain ⟨hne, init, last, rfl, hlast, hfirst⟩ := h
    refine ⟨hne, [⟨sock, .error .EINTR⟩] ++ init, last, (List.append_assoc ..).symm, hlast, ?_⟩
    exact fun h0 e he => ⟨(hfirst h0 e he).1, .interrupted hk (hfirst h0 e he).2⟩

theorem readLoop_end {s : ReadState} (herr : s.err = none) (hroom : off + s.bytesRead ≤ 8192)
    (hc : s.goesOn count = false) :
    ∃ n evs recvs, s.os = s.os.consume sock n evs recvs ∧ n ≤ (s.os.input sock).length ∧
      received evs = n ∧ s.bytesRead = s.bytesRead + n ∧
      s.buffer.write (off + s.bytesRead) ((s.os.input sock).take n) = .ok s.buffer ∧
      ReadEnd (count - s.bytesRead).toNat n evs s.os.recvs recvs s.err := by
  have hle : ¬ (s.bytesRead : Int) < count := by simpa [ReadState.goesOn, herr] using hc
  have hz : (count - s.bytesRead).toNat = 0 := by omega
  refine ⟨0, [], s.os.recvs, (consume_nothing s.os sock).symm, Nat.zero_le _, rfl, rfl,
    CArray.write_nil hroom, ?_⟩
  rw [herr, hz]
  exact ⟨rfl, .done _, by simp⟩

/-- **Every run of the read loop that returns.** -/
theorem readLoop_cases {fuel : Nat} {s t : ReadState} (herr : s.err = none)
    (hroom : off + s.bytesRead ≤ 8192)
    (h : loop .outOfFuel (ReadState.goesOn count) (readTurn (some sock) off count) fuel s = .ok t) :
    ∃ n evs recvs, t.os = s.os.consume sock n evs recvs ∧ n ≤ (s.os.input sock).length ∧
      received evs = n ∧ t.bytesRead = s.bytesRead + n ∧
      s.buffer.write (off + s.bytesRead) ((s.os.input sock).take n) = .ok t.buffer ∧
      ReadEnd (count - s.bytesRead).toNat n evs s.os.recvs recvs t.err := by
  induction fuel generalizing s with
  | zero =>
    rcases loop_ok_cases h with ⟨hc, rfl⟩ | ⟨_, _, h0, _⟩
    · exact readLoop_end herr hroom hc
    · cases h0
  | succ fuel ih =>
    rcases loop_ok_cases h with ⟨hc, rfl⟩ | ⟨fuel', u, hf, hc, hturn, hrest⟩
    · exact readLoop_end herr hroom hc
    · cases hf
      have hlt : (s.bytesRead : Int) < count := by
        simpa [ReadState.goesOn, herr] using hc
      rcases readTurn_cases hlt hturn with ⟨k, n, buffer, hk, hpos, hn, hw, rfl⟩ | ⟨hk, rfl⟩ |
        ⟨e, ev, rfl, hcount, hsmooth, hreply⟩
      · -- some bytes, and the rest
        have hle := (CArray.write_eq_ok hw).1
        have hlen : ((s.os.input sock).take n).length = n := List.length_take_of_le (by omega)
        rw [hlen, RTMSG_SEND_BUFFER_SIZE] at hle
        obtain ⟨n', evs, recvs, hos, hn', hevs, hread, hw', hend⟩ :=
          ih (s := ⟨s.bytesRead + n, s.err, buffer, _⟩) herr
            (show off + (s.bytesRead + n) ≤ 8192 by omega) hrest
        rw [consume_input, List.length_drop] at hn'
        rw [consume_consume] at hos
        refine ⟨n + n', [⟨sock, .ok n⟩] ++ evs, recvs, hos, by omega, ?_, ?_, ?_, ?_⟩
        · rw [received_append, hevs]
          exact Nat.add_right_cancel_iff.mpr (Nat.add_zero n)
        · rw [hread, Nat.add_assoc]
        · have happ := CArray.write_append hw (((s.os.input sock).drop n).take n')
          rw [hlen, ← List.take_add] at happ
          rw [← happ, Nat.add_assoc]
          rw [consume_input] at hw'
          exact hw'
        · have hleft : (count - ↑(s.bytesRead + n)).toNat = (count - s.bytesRead).toNat - n := by
            omega
          rw [consume_recvs] at hend
          change ReadEnd (count - ↑(s.bytesRead + n)).toNat n' evs s.os.recvs.tail recvs t.err at hend
          rw [hleft] at hend
          exact hend.data hk hpos (by omega) fun hn' => by omega
      · -- an interruption, and the rest
        obtain ⟨n', evs, recvs, hos, hn', hevs, hread, hw', hend⟩ :=
          ih (s := ⟨s.bytesRead, s.err, s.buffer,
            s.os.consume sock 0 [⟨sock, .error .EINTR⟩] s.os.recvs.tail⟩) herr hroom hrest
        simp only [consume_input, List.drop_zero] at hn' hw'
        rw [consume_consume, Nat.zero_add] at hos
        refine ⟨n', [⟨sock, .error .EINTR⟩] ++ evs, recvs, hos, hn', ?_, hread, hw', ?_⟩
        · rw [received_append, hevs]
          exact Nat.zero_add n'
        · have hpos : 0 < (count - s.bytesRead).toNat := by omega
          rw [consume_recvs] at hend
          exact hend.interrupted hk hpos
      · -- the read ends here
        have hstop : ReadState.goesOn count { s with
            err := some (.errno e), os := s.os.consume sock 0 [ev] s.os.recvs.tail } = false := by
          simp [ReadState.goesOn]
        rw [loop_done hstop] at hrest
        cases hrest
        refine ⟨0, [ev], s.os.recvs.tail, rfl, Nat.zero_le _, ?_, rfl, CArray.write_nil hroom, ?_⟩
        · exact hcount
        · refine ⟨by simp, [], ev, rfl, hsmooth, fun _ e' he' => ?_⟩
          obtain ⟨rfl, hk, hne⟩ := hreply e' he'
          exact ⟨rfl, .error hk hne⟩

/-- **A read that its answers fill.** -/
theorem readUntil_fills (off : Nat) (count : Int) (con : RtConnection) (os : Os) {c : Nat}
    {recvs' : Stream' RecvResult} (h : Fills c os.recvs recvs') (hfd : con.fd = some sock)
    (hc : count.toNat = c)
    (hin : c ≤ (os.input sock).length) (hroom : off + c ≤ 8192) :
    ∃ evs buffer, con.recvBuffer.write off ((os.input sock).take c) = .ok buffer ∧
      received evs = c ∧ (∀ ev ∈ evs, ev.Smooth) ∧
      ∃ enough, ∀ fuel, enough ≤ fuel → rtConnectionReadUntil fuel con off count os =
        .ok (.ok, { con with recvBuffer := buffer }, os.consume sock c evs recvs') := by
  obtain ⟨enough, evs, buffer, hloop, hw, hevs, hsmooth⟩ :=
    readLoop_fills h 0 con.recvBuffer os rfl (by simpa using hc) hin hroom
  refine ⟨evs, buffer, hw, hevs, hsmooth, enough, fun fuel hfuel => ?_⟩
  rw [rtConnectionReadUntil, hfd, loop_mono hloop hfuel]
  rfl

theorem readLoop_refused (sock off : Nat) {e : Errno} {recvs recvs' : Stream' RecvResult}
    (h : Refused recvs e recvs') (buffer : CArray 8192) (os : Os) (hrecvs : os.recvs = recvs)
    (hcount : 0 < count) :
    ∃ fuel evs, loop .outOfFuel (ReadState.goesOn count) (readTurn (some sock) off count) fuel
        ⟨0, none, buffer, os⟩ = .ok ⟨0, some (.errno e), buffer, os.consume sock 0 evs recvs'⟩ ∧
      ∀ ev ∈ evs, ∃ e, ev.reply = .error e := by
  have hgo : ∀ os, ReadState.goesOn count ⟨0, none, buffer, os⟩ = true := fun os =>
    readState_goesOn (s := ⟨0, none, buffer, os⟩) rfl hcount
  induction h generalizing os with
  | @error recvs e hk he =>
    subst hrecvs
    rcases readTurn_error sock off (s := ⟨0, none, buffer, os⟩) hk hcount
      (fun k hk => by cases hk) with ⟨h0, -⟩ | ⟨e', ev, hturn, -, -, ⟨h1, -, hev⟩ | ⟨h0, -⟩⟩
    · cases h0
      exact absurd rfl he
    · cases h1
      have hstop : ReadState.goesOn count
          ⟨0, some (.errno e), buffer, os.consume sock 0 [ev] os.recvs.tail⟩ = false := by
        simp [ReadState.goesOn]
      refine ⟨1, [ev], ?_, ?_⟩
      · rw [loop_step (hgo os) hturn, loop_done hstop]
      · intro ev' hev'
        rw [List.mem_singleton.mp hev']
        exact ⟨e, hev⟩
    · cases h0
  | @interrupted recvs recvs' e hk h ih =>
    subst hrecvs
    rcases readTurn_error sock off (s := ⟨0, none, buffer, os⟩) hk hcount
      (fun k hk => by cases hk) with ⟨-, hturn⟩ | ⟨e', ev, -, -, -, ⟨h1, hne, -⟩ | ⟨h0, -⟩⟩
    · obtain ⟨fuel, evs, hloop, hevs⟩ :=
        ih (os.consume sock 0 [⟨sock, .error .EINTR⟩] os.recvs.tail) rfl
      refine ⟨fuel + 1, [⟨sock, .error .EINTR⟩] ++ evs, ?_, List.forall_mem_cons.mpr ⟨⟨_, rfl⟩, hevs⟩⟩
      rw [loop_step (hgo os) hturn, hloop, consume_consume]
    · cases h1
      exact absurd rfl hne
    · cases h0

theorem readUntil_refused (off : Nat) {con : RtConnection} {os : Os} {e : Errno}
    {recvs' : Stream' RecvResult} (h : Refused os.recvs e recvs') (hfd : con.fd = some sock)
    (hcount : 0 < count) :
    ∃ evs, (∀ ev ∈ evs, ∃ e, ev.reply = .error e) ∧ ∃ enough, ∀ fuel, enough ≤ fuel →
      rtConnectionReadUntil fuel con off count os =
        .ok (.errno e, con, os.consume sock 0 evs recvs') := by
  obtain ⟨enough, evs, hloop, hevs⟩ :=
    readLoop_refused sock off h con.recvBuffer os rfl hcount
  refine ⟨evs, hevs, enough, fun fuel hfuel => ?_⟩
  rw [rtConnectionReadUntil, hfd, loop_mono hloop hfuel, ok_bind, ← hfd]
  rfl

theorem readUntil_eof (fuel off : Nat) {con : RtConnection} {os : Os} (hfd : con.fd = some sock)
    (heof : os.recvs.head = .eof) (hcount : 0 < count) :
    rtConnectionReadUntil (fuel+1) con off count os =
      .ok (.errno .ENOTCONN, con, os.consume sock 0 [⟨sock, .ok 0⟩] os.recvs.tail) := by
  have hpos : (count - 0).toNat ≠ 0 := by omega
  have hturn : readTurn (some sock) off count ⟨0, none, con.recvBuffer, os⟩ =
      .ok ⟨0, some (.errno .ENOTCONN), con.recvBuffer,
        os.consume sock 0 [⟨sock, .ok 0⟩] os.recvs.tail⟩ := by
    simp only [readTurn, Os.recv, Nat.cast_zero, if_neg hpos, heof, ok_bind, Os.consume,
      List.drop_zero, Function.update_eq_self]
    rfl
  have hstop : ReadState.goesOn count ⟨0, some (.errno .ENOTCONN), con.recvBuffer,
      os.consume sock 0 [⟨sock, .ok 0⟩] os.recvs.tail⟩ = false := by
    simp [ReadState.goesOn]
  rw [rtConnectionReadUntil, hfd, loop_step (readState_goesOn rfl hcount) hturn, loop_done hstop,
    ok_bind, ← hfd]
  rfl

/-- **Every read that returns.** -/
theorem readUntil_cases {con con' : RtConnection} {os os' : Os} {fuel : Nat} {err : RtError}
    (h : rtConnectionReadUntil fuel con off count os = .ok (err, con', os'))
    (hfd : con.fd = some sock) (hroom : off ≤ 8192) :
    ∃ n evs recvs buffer failure, con' = { con with recvBuffer := buffer } ∧
      os' = os.consume sock n evs recvs ∧ n ≤ (os.input sock).length ∧ received evs = n ∧
      con.recvBuffer.write off ((os.input sock).take n) = .ok buffer ∧
      err = failure.getD .ok ∧ ReadEnd count.toNat n evs os.recvs recvs failure := by
  rw [rtConnectionReadUntil, hfd] at h
  obtain ⟨t, hloop, h⟩ := bind_eq_ok.mp h
  cases h
  obtain ⟨n, evs, recvs, hos, hn, hevs, -, hw, hend⟩ := readLoop_cases rfl hroom hloop
  refine ⟨n, evs, recvs, t.buffer, t.err, ?_, hos, hn, hevs, hw, rfl, ?_⟩
  · rw [hfd]
  · simpa using hend

theorem readUntil_received {con : RtConnection} {os : Os} {fuel : Nat}
    {x : RtError × RtConnection × Os} (h : rtConnectionReadUntil fuel con off count os = .ok x) :
    os.received <+: x.2.2.received := by
  rw [rtConnectionReadUntil] at h
  obtain ⟨t, hloop, h⟩ := bind_eq_ok.mp h
  cases h
  exact (loop_invariant (fun s => os.received <+: s.os.received)
    (fun _ _ hs _ ht => hs.trans (readTurn_received ht)) (List.prefix_refl _) hloop).1

theorem readUntil_unique {con : RtConnection} {os : Os} {a b : Nat}
    {x y : RtError × RtConnection × Os} (ha : rtConnectionReadUntil a con off count os = .ok x)
    (hb : rtConnectionReadUntil b con off count os = .ok y) : x = y := by
  rw [rtConnectionReadUntil] at ha hb
  obtain ⟨s, hs, ha⟩ := bind_eq_ok.mp ha
  obtain ⟨t, ht, hb⟩ := bind_eq_ok.mp hb
  rw [loop_unique hs ht, hb] at ha
  exact (Except.ok.inj ha).symm

/-- Nothing is read where there is no descriptor. -/
theorem readUntil_closed {con : RtConnection} {os : Os} {fuel : Nat}
    {x : RtError × RtConnection × Os} (hfd : con.fd = none) (hcount : 0 < count)
    (h : rtConnectionReadUntil fuel con off count os = .ok x) :
    x = (.errno .EBADF, con, os) := by
  have hgo : ReadState.goesOn count ⟨0, none, con.recvBuffer, os⟩ = true :=
    readState_goesOn (s := ⟨0, none, con.recvBuffer, os⟩) rfl hcount
  have hturn : readTurn none off count ⟨0, none, con.recvBuffer, os⟩ =
      .ok ⟨0, some (.errno .EBADF), con.recvBuffer, os⟩ := rfl
  rw [rtConnectionReadUntil, hfd] at h
  obtain ⟨t, hloop, h⟩ := bind_eq_ok.mp h
  have hstop : ReadState.goesOn count ⟨0, some (.errno .EBADF), con.recvBuffer, os⟩ = false := by
    simp [ReadState.goesOn]
  have hone := (loop_step hgo hturn 0 : loop Fault.outOfFuel _ _ 1 _ = _)
  rw [loop_done hstop] at hone
  rw [loop_unique hloop hone] at h
  cases h
  rw [← hfd]
  rfl

end Read

end RtMessage
