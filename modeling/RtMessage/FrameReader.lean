import RtMessage.FrameDelivery
import RtMessage.ReaderBounds

/- The router's reader on a stream of frames.

   `ReaderAt f got` is a reader that has read `got` bytes of the frame `f`: which part of
   it the reader is in is decided by `got`, however the bytes came. `ReaderAt.receives` is
   the next read. -/
namespace RtMessage

/-- The part of the frame a reader is in, how far it reads, and its header. -/
inductive ReaderPhase (f : Frame) (got : Nat) : RtConnectionState → Int → RtMessageHeader → Prop where
  | preamble (h : got < 4) : ReaderPhase f got .readHeaderPreamble 4 rtMessageHeaderInit
  | header (h₄ : 4 ≤ got) (h : got < f.headerLength) :
      ReaderPhase f got .readHeader f.headerLength rtMessageHeaderInit
  | payload (h : f.headerLength ≤ got) : ReaderPhase f got .readPayload f.size f.header

structure ReaderAt (f : Frame) (got : Nat) (clnt : RtConnectedClient) : Prop where
  unfinished : got < f.size
  bytesRead : clnt.bytesRead = got
  stored : clnt.readBuffer.data.take got = f.bytes.take got
  phase : ReaderPhase f got clnt.state clnt.bytesToRead clnt.header

/-- A reader between two frames. -/
structure Resting (clnt : RtConnectedClient) : Prop where
  bytesRead : clnt.bytesRead = 0
  state : clnt.state = .readHeaderPreamble
  bytesToRead : clnt.bytesToRead = 4
  header : clnt.header = rtMessageHeaderInit

theorem resting_init (ptr fd : Nat) : Resting (rtConnectedClientInit ptr fd) := ⟨rfl, rfl, rfl, rfl⟩

theorem resting_reset (clnt : RtConnectedClient) : Resting (readerReset clnt) := ⟨rfl, rfl, rfl, rfl⟩

theorem Frame.size_pos (f : Frame) : 0 < f.size := by
  have := f.headerLength_ge
  rw [size]
  omega

/-- Between two frames none of the next one was read. -/
theorem Resting.readerAt {clnt : RtConnectedClient} (h : Resting clnt) (f : Frame) :
    ReaderAt f 0 clnt where
  unfinished := f.size_pos
  bytesRead := h.bytesRead
  stored := rfl
  phase := by
    rw [h.state, h.bytesToRead, h.header]
    exact .preamble (by decide)

theorem store_next {f : Frame} {got n : Nat} {a : CArray 8192}
    (h : a.data.take got = f.bytes.take got) (hn : got + n ≤ f.size) (hsize : f.size ≤ 8192) :
    ∃ b, a.write got ((f.bytes.drop got).take n) = .ok b ∧
      b.data.take (got + n) = f.bytes.take (got + n) := by
  have hlen : ((f.bytes.drop got).take n).length = n := by
    rw [List.length_take, List.length_drop, f.bytes_length]
    omega
  obtain ⟨b, hb, hdata⟩ := CArray.write_ok a got ((f.bytes.drop got).take n) (by omega)
  refine ⟨b, hb, ?_⟩
  have hfront : (f.bytes.take got ++ (f.bytes.drop got).take n).length = got + n := by
    rw [List.length_append, hlen, List.length_take, f.bytes_length]
    omega
  rw [hdata, h, ← List.append_assoc, List.take_left' hfront, ← List.take_add]

theorem split_at_front {f : Frame} {got : Nat} {a : CArray 8192}
    (h : a.data.take got = f.bytes.take got) : a.data = f.bytes.take got ++ a.data.drop got := by
  rw [← h, List.take_append_drop]

theorem toInt32_size {f : Frame} (hsize : f.size ≤ 8192) :
    toInt32 (toUInt32 f.headerLength + f.header.payloadLength) = f.size := by
  have hsum : (toUInt32 f.headerLength + f.header.payloadLength).toNat = f.size := by
    have hdef : f.size = f.headerLength + f.payload.length := rfl
    rw [UInt32.toNat_add, toUInt32, UInt32.toNat_ofNat', f.header_payloadLength]
    omega
  unfold toInt32
  rw [hsum, if_pos (by omega)]

section Store
variable {f : Frame} {got n : Nat} {clnt : RtConnectedClient}

/-- What the reader makes of the next `n` bytes of the frame. -/
inductive StoreEnd (f : Frame) (got n : Nat) (clnt full : RtConnectedClient) : Bool → Prop where
  | partway (h : ReaderAt f (got + n) full) : StoreEnd f got n clnt full false
  | complete (hend : got + n = f.size) (hheader : full.header = f.header) {rest : Bytes}
      (hbuffer : full.readBuffer.data = f.bytes ++ rest) : StoreEnd f got n clnt full true

/-- A reader that has read the header of a frame without a payload: it goes on to the payload,
    of which it wants no byte. -/
structure WantsNothing (f : Frame) (clnt : RtConnectedClient) : Prop where
  empty : f.payload = []
  bytesRead : clnt.bytesRead = clnt.bytesToRead

/-- **The next bytes of a frame**, up to the end of the part that the reader is in. -/
theorem ReaderAt.store_cases (h : ReaderAt f got clnt) (hsize : f.size ≤ 8192) (hn : 0 < n)
    (hle : (got : Int) + n ≤ clnt.bytesToRead) :
    ∃ full complete, storeBytes clnt ((f.bytes.drop got).take n) = .ok (full, complete) ∧
      full.ptr = clnt.ptr ∧ full.fd = clnt.fd ∧
      (StoreEnd f got n clnt full complete ∨
        complete = false ∧ WantsNothing f full ∧ got + n = f.size) := by
  obtain ⟨ptr, fd, buffer, state, bytesRead, bytesToRead, header⟩ := clnt
  obtain ⟨hunfinished, hread, hstored, hphase⟩ := h
  dsimp only at hread hstored hphase hle
  subst hread
  have hge := f.headerLength_ge
  have hdef : f.size = f.headerLength + f.payload.length := rfl
  have hbound : bytesToRead ≤ f.size := by
    cases hphase <;> omega
  have hlen : ((f.bytes.drop got).take n).length = n := by
    rw [List.length_take, List.length_drop, f.bytes_length]
    omega
  obtain ⟨b, hw, hfront⟩ := store_next hstored (n := n) (by omega) hsize
  have hdata := split_at_front hfront
  have hstore : storeBytes ⟨ptr, fd, buffer, state, got, bytesToRead, header⟩
      ((f.bytes.drop got).take n) =
        readerTurn ⟨ptr, fd, b, state, (got + n : Nat), bytesToRead, header⟩ := by
    rw [storeBytes, Int.toNat_natCast, hw, ok_bind, hlen]
    rfl
  rw [hstore]
  -- either the part that the reader is in is complete, or more of it is wanted
  by_cases hend : ((got + n : Nat) : Int) = bytesToRead
  · rw [readerTurn, if_neg (not_not_intro hend)]
    cases hphase with
    | preamble hlt =>
      have hfour : got + n = 4 := by omega
      rw [hfour] at hdata
      obtain ⟨after, hlength⟩ := f.decode_length (b.data.drop 4)
      rw [← hdata] at hlength
      have hnext : (4 : Int) + ((f.header.headerLength.toNat : Int) - 4) = f.headerLength := by
        rw [f.header_headerLength]
        omega
      simp only [hlength, ok_bind, hnext]
      exact ⟨_, _, rfl, rfl, rfl,
        .inl (.partway ⟨by omega, rfl, hfront, .header (by omega) (by omega)⟩)⟩
    | header h₄ hlt =>
      have hhl : got + n = f.headerLength := by omega
      rw [hhl, f.take_bytes_headerLength] at hdata
      have hdecode := f.decode_headerBytes (b.data.drop f.headerLength)
      rw [← hdata] at hdecode
      simp only [hdecode, ok_bind, toInt32_size hsize]
      refine ⟨_, _, rfl, rfl, rfl, ?_⟩
      -- without a payload nothing is wanted, and the frame is not handed on
      by_cases hpayload : f.payload.length = 0
      · exact .inr ⟨rfl, ⟨List.eq_nil_of_length_eq_zero hpayload, by dsimp only; omega⟩, by omega⟩
      · exact .inl (.partway ⟨by omega, rfl, hfront, .payload (by omega)⟩)
    | payload hle' =>
      have hfull : got + n = f.size := by omega
      rw [hfull, ← f.bytes_length, List.take_length] at hdata
      exact ⟨_, _, rfl, rfl, rfl, .inl (.complete hfull rfl hdata)⟩
  · rw [readerTurn, if_pos hend]
    refine ⟨_, _, rfl, rfl, rfl, .inl (.partway ⟨?_, rfl, hfront, ?_⟩)⟩
    · cases hphase <;> omega
    cases hphase with
    | preamble hlt => exact .preamble (by omega)
    | header h₄ hlt => exact .header (by omega) (by omega)
    | payload hle' => exact .payload (by omega)

end Store

/-! A read. -/

/-- A reader in a frame wants more of it, and nothing beyond it. -/
theorem ReaderAt.wants {f : Frame} {got : Nat} {clnt : RtConnectedClient} (h : ReaderAt f got clnt) :
    (got : Int) < clnt.bytesToRead ∧ clnt.bytesToRead ≤ f.size := by
  have hdef : f.size = f.headerLength + f.payload.length := rfl
  have hge := f.headerLength_ge
  have hlt := h.unfinished
  have hphase := h.phase
  generalize clnt.bytesToRead = bytesToRead at hphase ⊢
  generalize clnt.state = state at hphase
  generalize clnt.header = header at hphase
  cases hphase <;> omega

theorem recv_data {os : Os} {sock k len : Nat} (hk : os.recvs.head = .data k) (hlen : 0 < len)
    (hin : len ≤ (os.input sock).length) :
    os.recv (some sock) len = .ok (.ok ((os.input sock).take (min (k + 1) len)),
      os.consume sock (min (k + 1) len) [⟨sock, .ok (min (k + 1) len)⟩] os.recvs.tail) := by
  have hcount : ((os.input sock).take (min (k + 1) len)).length = min (k + 1) len :=
    List.length_take_of_le (by omega)
  have hne : (os.input sock).take (min (k + 1) len) ≠ [] := by
    intro hnil
    rw [hnil] at hcount
    change 0 = min (k + 1) len at hcount
    omega
  simp only [Os.recv, if_neg (show len ≠ 0 by omega), hk, if_neg hne, hcount]
  rfl

/-- **A client's next `recv`** finds bytes of the frame, and the reader stores them. -/
theorem ReaderAt.receives {f : Frame} {got : Nat} {clnt : RtConnectedClient} {os : Os}
    {rest : Bytes} (h : ReaderAt f got clnt) (hsize : f.size ≤ 8192)
    (hdelivers : Delivers os.recvs) (hin : os.input clnt.fd = f.bytes.drop got ++ rest) :
    ∃ n b bs full complete, 0 < n ∧ got + n ≤ f.size ∧
      os.recv (some clnt.fd) (toSize (clnt.bytesToRead - clnt.bytesRead)) =
        .ok (.ok (b :: bs), os.consume clnt.fd n [⟨clnt.fd, .ok n⟩] os.recvs.tail) ∧
      storeBytes clnt (b :: bs) = .ok (full, complete) ∧ full.ptr = clnt.ptr ∧
      full.fd = clnt.fd ∧
      (StoreEnd f got n clnt full complete ∨
        complete = false ∧ WantsNothing f full ∧ got + n = f.size) := by
  obtain ⟨k, hk⟩ := hdelivers 0
  have hbounds := h.wants
  have hask : (toSize (clnt.bytesToRead - clnt.bytesRead) : Int) = clnt.bytesToRead - got := by
    rw [h.bytesRead]
    exact toSize_of_pos (by omega) (by omega)
  let len := toSize (clnt.bytesToRead - clnt.bytesRead)
  have hlen : got + len ≤ f.bytes.length := by
    rw [f.bytes_length]
    omega
  have htake : (os.input clnt.fd).take (min (k + 1) len) =
      (f.bytes.drop got).take (min (k + 1) len) := by
    rw [hin, List.take_append_of_le_length]
    rw [List.length_drop]
    omega
  have havail : len ≤ (os.input clnt.fd).length := by
    rw [hin, List.length_append, List.length_drop]
    omega
  have hrecv := recv_data hk (show 0 < len by omega) havail
  have hne : (f.bytes.drop got).take (min (k + 1) len) ≠ [] := by
    intro hnil
    have hcount := congrArg List.length hnil
    rw [List.length_take, List.length_drop] at hcount
    change _ = 0 at hcount
    omega
  obtain ⟨full, complete, hstore, hptr, hfd, hend⟩ :=
    h.store_cases hsize (n := min (k + 1) len) (by omega) (by omega)
  obtain ⟨b, bs, hbs⟩ := List.exists_cons_of_ne_nil hne
  rw [hbs] at hstore
  rw [htake, hbs] at hrecv
  refine ⟨min (k + 1) len, b, bs, full, complete, by omega, by omega, hrecv, hstore, hptr, hfd, hend⟩

end RtMessage
