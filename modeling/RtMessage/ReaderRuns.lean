import RtMessage.FrameReader

/- The runs of one client's reader, over whatever bytes the client sends.

   `reader_in_buffer_iff`: a run stays inside the reader's buffers, and hands out payloads
   that lie in the read buffer, exactly if every length that its bytes complete fits
   (`LengthsFit`). A read that does not return is the last of its run. -/
namespace RtMessage
open Lib.BigEndian

/-- The reads of one client's reader, each with the state it starts in and the bytes it
    receives, and the reader after them: none if the last read does not return. Between two
    reads the rest of the router may change in any way. -/
inductive ReaderRun (J : CJsonLib) (start : RtConnectedClient) :
    List (RtConnectedClient × Bytes) → Option RtConnectedClient → Prop
  | nil : ReaderRun J start [] (some start)
  | read {trace : List (RtConnectedClient × Bytes)} {clnt clnt' : RtConnectedClient}
      {fuel : Nat} {r r' : RtRouted Os} {bs : Bytes} {env : Os} :
      ReaderRun J start trace (some clnt) →
      r.env.recv (some clnt.fd) (toSize (clnt.bytesToRead - clnt.bytesRead)) =
        .ok (.ok bs, env) →
      rtConnectedClientRead J fuel clnt r = .ok (.ok, clnt', r') →
      ReaderRun J start (trace ++ [(clnt, bs)]) (some clnt')
  | fault {trace : List (RtConnectedClient × Bytes)} {clnt : RtConnectedClient}
      {fuel : Nat} {r : RtRouted Os} {bs : Bytes} {env : Os} {e : Fault} :
      ReaderRun J start trace (some clnt) →
      r.env.recv (some clnt.fd) (toSize (clnt.bytesToRead - clnt.bytesRead)) =
        .ok (.ok bs, env) →
      rtConnectedClientRead J fuel clnt r = .error e →
      ReaderRun J start (trace ++ [(clnt, bs)]) none

section Read
variable {J : CJsonLib} {fuel : Nat} {clnt clnt' : RtConnectedClient} {r r' : RtRouted Os}
  {bs : Bytes} {env : Os}

theorem read_stores
    (hrecv : r.env.recv (some clnt.fd) (toSize (clnt.bytesToRead - clnt.bytesRead)) =
      .ok (.ok bs, env))
    (h : rtConnectedClientRead J fuel clnt r = .ok (.ok, clnt', r')) :
    ∃ full complete, storeBytes clnt bs = .ok (full, complete) ∧
      clnt' = afterStore full complete := by
  rw [rtConnectedClientRead, hrecv, ok_bind] at h
  cases bs with
  | nil => cases h
  | cons b bs =>
    obtain ⟨⟨full, complete⟩, hs, h⟩ := bind_eq_ok.mp h
    refine ⟨full, complete, hs, ?_⟩
    cases complete with
    | false =>
      cases h
      rfl
    | true =>
      simp only [if_true] at h
      obtain ⟨r₁, -, h⟩ := bind_eq_ok.mp h
      cases h
      rfl

/-- A read that does not return could not store its bytes, or has completed a message. -/
theorem read_faults {e : Fault}
    (hrecv : r.env.recv (some clnt.fd) (toSize (clnt.bytesToRead - clnt.bytesRead)) =
      .ok (.ok bs, env))
    (h : rtConnectedClientRead J fuel clnt r = .error e) :
    (∀ x, storeBytes clnt bs ≠ .ok x) ∨ ∃ full, storeBytes clnt bs = .ok (full, true) := by
  rw [rtConnectedClientRead, hrecv, ok_bind] at h
  cases bs with
  | nil => cases h
  | cons b bs =>
    cases hs : storeBytes clnt (b :: bs) with
    | error e' => exact .inl fun x hx => by cases hx
    | ok x =>
      obtain ⟨full, complete⟩ := x
      cases complete with
      | false =>
        simp only [hs, ok_bind] at h
        cases h
      | true => exact .inr ⟨full, rfl⟩

theorem InBuffer.receives (h : InBuffer clnt)
    (hrecv : r.env.recv (some clnt.fd) (toSize (clnt.bytesToRead - clnt.bytesRead)) =
      .ok (.ok bs, env)) : clnt.bytesRead + bs.length ≤ clnt.bytesToRead := by
  have hpos := h.unfinished
  have hnonneg := h.nonneg
  have hbounded := h.bounded
  have hle := recv_length hrecv
  have hsize := toSize_of_pos (n := clnt.bytesToRead - clnt.bytesRead) (by omega) (by omega)
  omega

end Read

/-- As long as the lengths fit, the reader keeps its invariant and stays in its buffers. -/
theorem reader_run {J : CJsonLib} {ptr fd : Nat} {trace : List (RtConnectedClient × Bytes)}
    {last : Option RtConnectedClient} (hrun : ReaderRun J (rtConnectedClientInit ptr fd) trace last)
    (hfits : ∀ p ∈ trace, LengthsFit p.1 p.2) :
    (∀ p ∈ trace, InBuffer p.1 ∧ ReadInBuffer p.1 p.2) ∧ ∀ clnt ∈ last, ReaderOk clnt := by
  induction hrun with
  | nil => exact ⟨by simp, by simpa using readerOk_init ptr fd⟩
  | @read trace clnt clnt' fuel r r' bs env _ hrecv hread ih =>
    obtain ⟨hfits, hfit⟩ := List.forall_mem_append.mp hfits
    obtain ⟨hin, hlast⟩ := ih hfits
    have hok := hlast clnt rfl
    have hfit := List.forall_mem_singleton.mp hfit
    obtain ⟨full, complete, hs, rfl⟩ := read_stores hrecv hread
    obtain ⟨hnext, -, hpay⟩ := reader_step hok (hok.toInBuffer.receives hrecv) hs
    refine ⟨List.forall_mem_append.mpr ⟨hin, List.forall_mem_singleton.mpr
      ⟨hok.toInBuffer, ⟨_, _, hs⟩, fun full' hs' => ?_⟩⟩, by simpa using hnext hfit⟩
    rw [hs] at hs'
    cases hs'
    exact hpay rfl
  | @fault trace clnt fuel r bs env e _ hrecv _ ih =>
    obtain ⟨hfits, hfit⟩ := List.forall_mem_append.mp hfits
    obtain ⟨hin, hlast⟩ := ih hfits
    have hok := hlast clnt rfl
    have hfit := List.forall_mem_singleton.mp hfit
    have hlen := hok.toInBuffer.receives hrecv
    refine ⟨List.forall_mem_append.mpr ⟨hin, List.forall_mem_singleton.mpr
      ⟨hok.toInBuffer, reader_stores hok hlen hfit, fun full hs => ?_⟩⟩, by simp⟩
    exact (reader_step hok hlen hs).2.2 rfl

/-! A frame that arrives byte by byte. -/

/-- The router when one byte has arrived on the client's socket. -/
def routerWith (fd : Nat) (b : UInt8) : RtRouted Os where
  clients := []
  routes := []
  nextPtr := 1
  env := { Os.idle (Stream'.const .complete) with
    recvs := Stream'.const (.data 0)
    input := fun sock => if sock = fd then [b] else [] }

theorem routerWith_recv (fd : Nat) (b : UInt8) {len : Nat} (hlen : 0 < len) :
    ∃ env, (routerWith fd b).env.recv (some fd) len = .ok (.ok [b], env) := by
  have hin : (routerWith fd b).env.input fd = [b] := if_pos rfl
  have hk : (routerWith fd b).env.recvs.head = .data 0 := rfl
  have hmin : min (0 + 1) len = 1 := by omega
  simp only [Os.recv, if_neg (show len ≠ 0 by omega), hk, hmin, hin]
  exact ⟨_, rfl⟩

theorem dispatch_nothing (J : CJsonLib) (clnt : RtConnectedClient) {r : RtRouted Os}
    (hroutes : r.routes = []) (h : rtMessageHeaderIsRequest clnt.header = false) :
    rtRouterDispatchMessageFromClient J 0 clnt r = .ok r := by
  obtain ⟨clients, routes, nextPtr, env⟩ := r
  dsimp only at hroutes
  subst hroutes
  rw [rtRouterDispatchMessageFromClient]
  simp only [h, Bool.and_false]
  rfl

/-- **A frame is read in the reader's buffers**, byte by byte to its end. -/
theorem frame_run {J : CJsonLib} {start : RtConnectedClient} {f : Frame} (hsize : f.size ≤ 8192)
    (hpayload : f.payload ≠ []) (hflags : rtMessageHeaderIsRequest f.header = false) (left : Nat) :
    ∀ {got : Nat} {clnt : RtConnectedClient} {trace : List (RtConnectedClient × Bytes)},
      got + left = f.size → ReaderRun J start trace (some clnt) → ReaderAt f got clnt →
      (∀ p ∈ trace, InBuffer p.1 ∧ ReadInBuffer p.1 p.2) →
      trace.flatMap (·.2) = f.bytes.take got →
      ∃ trace' clnt', ReaderRun J start trace' (some clnt') ∧ Resting clnt' ∧
        (∀ p ∈ trace', InBuffer p.1 ∧ ReadInBuffer p.1 p.2) ∧
        trace'.flatMap (·.2) = f.bytes := by
  induction left with
  | zero =>
    intro got clnt trace hleft _ h
    exact absurd h.unfinished (by omega)
  | succ left ih =>
    intro got clnt trace hleft hrun h hin hbytes
    obtain ⟨hwants, hbound⟩ := h.wants
    have hread := h.bytesRead
    have hclnt : InBuffer clnt := ⟨by omega, by omega, by omega⟩
    have hlt : got < f.bytes.length := by
      rw [f.bytes_length]
      omega
    have hnext : (f.bytes.drop got).take 1 = [f.bytes[got]] := by
      rw [List.drop_eq_getElem_cons hlt]
      rfl
    obtain ⟨full, complete, hs, -, -, hend⟩ := h.store_cases hsize (n := 1) (by decide) (by omega)
    rw [hnext] at hs
    have hasks : 0 < toSize (clnt.bytesToRead - clnt.bytesRead) := by
      have hsame := toSize_of_pos (n := clnt.bytesToRead - clnt.bytesRead) (by omega) (by omega)
      omega
    obtain ⟨env, hrecv⟩ := routerWith_recv clnt.fd f.bytes[got] hasks
    have hbytes' : (trace ++ [(clnt, [f.bytes[got]])]).flatMap (·.2) = f.bytes.take (got + 1) := by
      rw [List.flatMap_append, hbytes, List.take_add, hnext]
      rfl
    rcases hend with hend | ⟨-, hnothing, -⟩
    · cases hend with
      | partway hat =>
        have hreads : rtConnectedClientRead J 0 clnt (routerWith clnt.fd f.bytes[got]) =
            .ok (.ok, full, { routerWith clnt.fd f.bytes[got] with env }) := by
          rw [rtConnectedClientRead, hrecv, ok_bind]
          simp only [hs, ok_bind]
          rfl
        refine ih (by omega) (hrun.read hrecv hreads) hat (List.forall_mem_append.mpr ⟨hin,
          List.forall_mem_singleton.mpr ⟨hclnt, ⟨_, _, hs⟩, fun full' hs' => ?_⟩⟩) hbytes'
        rw [hs] at hs'
        cases hs'
      | complete hfull hheader hbuffer =>
        have hdispatch := dispatch_nothing J full
          (r := { routerWith clnt.fd f.bytes[got] with env }) rfl (by rw [hheader]; exact hflags)
        have hreads : rtConnectedClientRead J 0 clnt (routerWith clnt.fd f.bytes[got]) =
            .ok (.ok, readerReset full, { routerWith clnt.fd f.bytes[got] with env }) := by
          rw [rtConnectedClientRead, hrecv, ok_bind]
          simp only [hs, ok_bind, if_true, hdispatch]
          rfl
        refine ⟨_, _, hrun.read hrecv hreads, resting_reset full, List.forall_mem_append.mpr ⟨hin,
          List.forall_mem_singleton.mpr ⟨hclnt, ⟨_, _, hs⟩, fun full' hs' => ?_⟩⟩, ?_⟩
        · rw [hs] at hs'
          cases hs'
          rw [PayloadInBuffer, hheader, f.header_headerLength, f.header_payloadLength]
          exact hsize
        · rw [hbytes', hfull, ← f.bytes_length, List.take_length]
    · exact absurd hnothing.empty hpayload

/-- A message with two topics and a payload. -/
def readFrame : Frame where
  sequenceNumber := 1
  flags := 0
  controlData := 0
  topic := Topic.cut (ascii "A.B")
  replyTopic := Topic.cut (ascii "C")
  payload := ascii "[1,2]"
  payload_lt := by decide

/-! The exact condition. -/

/-- **The reader stays in its buffers exactly if every length fits.** -/
theorem reader_in_buffer_iff {J : CJsonLib} {ptr fd : Nat}
    {trace : List (RtConnectedClient × Bytes)} {last : Option RtConnectedClient}
    (hrun : ReaderRun J (rtConnectedClientInit ptr fd) trace last) :
    ((∀ p ∈ trace, InBuffer p.1 ∧ ReadInBuffer p.1 p.2) ∧ ∀ clnt ∈ last, InBuffer clnt) ↔
      ∀ p ∈ trace, LengthsFit p.1 p.2 := by
  constructor
  · rintro ⟨hin, hlast⟩
    induction hrun with
    | nil => simp
    | @read trace clnt clnt' fuel r r' bs env hrun hrecv hread ih =>
      obtain ⟨hin, hthis⟩ := List.forall_mem_append.mp hin
      obtain ⟨hclnt, -⟩ := List.forall_mem_singleton.mp hthis
      have hfits := ih hin (by simpa using hclnt)
      have hok := (reader_run hrun hfits).2 clnt rfl
      obtain ⟨full, complete, hs, rfl⟩ := read_stores hrecv hread
      obtain ⟨-, hfit, -⟩ := reader_step hok (hclnt.receives hrecv) hs
      exact List.forall_mem_append.mpr ⟨hfits, List.forall_mem_singleton.mpr
        (hfit (hlast _ rfl))⟩
    | @fault trace clnt fuel r bs env e hrun hrecv hread ih =>
      obtain ⟨hin, hthis⟩ := List.forall_mem_append.mp hin
      obtain ⟨hclnt, hstored⟩ := List.forall_mem_singleton.mp hthis
      have hfits := ih hin (by simpa using hclnt)
      have hok := (reader_run hrun hfits).2 clnt rfl
      refine List.forall_mem_append.mpr ⟨hfits, List.forall_mem_singleton.mpr ?_⟩
      -- what was stored has completed a message, and the reader after it is reset
      rcases read_faults hrecv hread with hnot | ⟨full, hs⟩
      · obtain ⟨full, complete, hs⟩ := hstored.stored
        exact absurd hs (hnot _)
      · obtain ⟨-, hfit, -⟩ := reader_step hok (hclnt.receives hrecv) hs
        exact hfit (readerOk_reset full).toInBuffer
  · intro hfits
    obtain ⟨hin, hok⟩ := reader_run hrun hfits
    exact ⟨hin, fun clnt hmem => (hok clnt hmem).toInBuffer⟩

theorem reader_in_buffer_iff_example : ∃ trace clnt,
    ReaderRun .unused (rtConnectedClientInit 1 0) trace (some clnt) ∧
      trace.flatMap (·.2) = readFrame.bytes ∧ ∀ p ∈ trace, LengthsFit p.1 p.2 := by
  obtain ⟨trace, clnt, hrun, hrest, hin, hbytes⟩ := frame_run (J := .unused) (f := readFrame)
    (by decide) (by decide) (by decide) readFrame.size (Nat.zero_add _) ReaderRun.nil
    ((resting_init 1 0).readerAt readFrame) (by simp) rfl
  refine ⟨trace, clnt, hrun, hbytes, (reader_in_buffer_iff hrun).mp ⟨hin, ?_⟩⟩
  intro last hlast
  cases hlast
  exact ⟨by rw [hrest.bytesRead], by rw [hrest.bytesRead, hrest.bytesToRead]; decide,
    by rw [hrest.bytesToRead]; decide⟩

theorem preamble_run (a b : UInt8) : ∃ clnt,
    ReaderRun .unused (rtConnectedClientInit 1 0) [(rtConnectedClientInit 1 0, [0, 1, a, b])]
      (some clnt) ∧ clnt.bytesToRead = ofBytes [a, b] := by
  let env : Os := { Os.idle (Stream'.const .complete) with input := fun _ => [0, 1, a, b] }
  let r : RtRouted Os := ⟨[], [], 1, env⟩
  have hrecv : ∃ env', r.env.recv (some (rtConnectedClientInit 1 0).fd)
      (toSize ((rtConnectedClientInit 1 0).bytesToRead - (rtConnectedClientInit 1 0).bytesRead)) =
        .ok (.ok [0, 1, a, b], env') := ⟨_, rfl⟩
  obtain ⟨env', hrecv⟩ := hrecv
  obtain ⟨buf, hw, hdata⟩ := CArray.write_ok (.zero 8192) 0 [0, 1, a, b] (by simp)
  have hfield : buf.data.drop 2 = [a, b] ++ (CArray.zero 8192).data.drop 4 := by
    rw [hdata]
    rfl
  have hd : rtEncoderDecodeUInt16 (buf.data.drop 2) =
      .ok (UInt16.ofNat (ofBytes [a, b]), (CArray.zero 8192).data.drop 4) := by
    rw [hfield, rtEncoderDecodeUInt16, readBytes_append (show [a, b].length = 2 from rfl),
      ok_bind]
    rfl
  have hl : (UInt16.ofNat (ofBytes [a, b])).toNat = ofBytes [a, b] := by
    have hlt := ofBytes_lt [a, b]
    rw [show [a, b].length = 2 from rfl] at hlt
    exact UInt16.toNat_ofNat_of_lt' hlt
  let clnt := { rtConnectedClientInit 1 0 with
    readBuffer := buf, bytesRead := 4, bytesToRead := ofBytes [a, b], state := .readHeader }
  have hs : storeBytes (rtConnectedClientInit 1 0) [0, 1, a, b] = .ok (clnt, false) := by
    have hw' : (rtConnectedClientInit 1 0).readBuffer.write
        (rtConnectedClientInit 1 0).bytesRead.toNat [0, 1, a, b] = .ok buf := hw
    have hto : (4 : Int) + ((ofBytes [a, b] : Int) - 4) = ofBytes [a, b] := by omega
    rw [storeBytes, hw', ok_bind]
    simp only [readerTurn, rtConnectedClientInit]
    simp only [List.length_cons, List.length_nil, hd, ok_bind, hl, pure_eq_ok]
    simp [hto, clnt, rtConnectedClientInit]
  have hread : rtConnectedClientRead .unused 0 (rtConnectedClientInit 1 0) r =
      .ok (.ok, clnt, { r with env := env' }) := by
    rw [rtConnectedClientRead, hrecv, ok_bind]
    simp only [hs, ok_bind]
    rfl
  exact ⟨_, ReaderRun.nil.read hrecv hread, rfl⟩

/-- A client that claims a header of 65535 bytes sends the reader past its buffer. -/
theorem reader_leaves_buffer :
    ¬ ∀ (J : CJsonLib) (ptr fd : Nat) (trace : List (RtConnectedClient × Bytes))
        (last : Option RtConnectedClient), ReaderRun J (rtConnectedClientInit ptr fd) trace last →
      (∀ p ∈ trace, InBuffer p.1 ∧ ReadInBuffer p.1 p.2) ∧ ∀ clnt ∈ last, InBuffer clnt := by
  intro hclaim
  obtain ⟨clnt, hrun, hto⟩ := preamble_run 255 255
  have hbounded := ((hclaim _ _ _ _ _ hrun).2 clnt rfl).bounded
  rw [hto] at hbounded
  exact absurd hbounded (by decide)

end RtMessage
