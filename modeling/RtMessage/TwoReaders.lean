import RtMessage.FrameReader
import RtMessage.TimedDispatch

/- The two readers of one stream: the router's, which a `recv` at a time takes through its
   states, and the client's, whose blocking reads take a frame in one piece.

   `readClient` is a read of the router up to the dispatch of the message it completes, and
   `receiveAttempt` the reads of a client for a frame. `routerReads` and `clientReads` go on
   to the end of the stream and say what they have extracted by then. The client extracts
   every frame (`clientReads_eq`), the router every one in front of the first that has no
   payload (`routerReads_eq`). -/
namespace RtMessage
open Lib

/-! The router's reads. -/

inductive ClientRead where
  | failed (err : RtError)
  | partway
  | message
  deriving DecidableEq, Repr

/-- `rtConnectedClient_Read` up to the dispatch. -/
def readClient (clnt : RtConnectedClient) (os : Os) :
    Except Fault (ClientRead × RtConnectedClient × Os) := do
  match ← os.recv (some clnt.fd) (toSize (clnt.bytesToRead - clnt.bytesRead)) with
  | (.error e, os) => return (.failed (rtErrorFromErrno e), clnt, os)
  | (.ok [], os) => return (.failed .streamClosed, clnt, os)
  | (.ok bs, os) =>
    let (clnt, complete) ← storeBytes clnt bs
    return (if complete then .message else .partway, clnt, os)

theorem connectedClientRead_eq (J : CJsonLib) (fuel : Nat) (clnt : RtConnectedClient)
    (r : RtRouted Os) :
    rtConnectedClientRead J fuel clnt r = do
      let (read, clnt, os) ← readClient clnt r.env
      match read with
      | .failed err => return (err, clnt, { r with env := os })
      | .partway => return (.ok, clnt, { r with env := os })
      | .message =>
        let r ← rtRouterDispatchMessageFromClient J fuel clnt { r with env := os }
        return (.ok, readerReset clnt, r) := by
  rw [rtConnectedClientRead, readClient]
  cases r.env.recv (some clnt.fd) (toSize (clnt.bytesToRead - clnt.bytesRead)) with
  | error fault => rfl
  | ok a =>
    obtain ⟨reply, os⟩ := a
    cases reply with
    | error e => rfl
    | ok bs =>
      cases bs with
      | nil => rfl
      | cons b bs =>
        simp only [ok_bind]
        cases storeBytes clnt (b :: bs) with
        | error fault => rfl
        | ok stored =>
          obtain ⟨full, complete⟩ := stored
          cases complete <;> rfl

/-! Reading to the end. -/

/-- What a reader makes of a stream: the frames, the error it ends with, and the bytes that it
    has not read by then. -/
structure Extracted where
  frames : List (RtMessageHeader × Bytes)
  err : RtError
  unread : Bytes

/-- Where everything that was sent is read, the peer has closed its end. -/
def Os.peerCloses (os : Os) (sock : Nat) : Os :=
  if os.input sock = [] then { os with recvs := Stream'.const .eof } else os

theorem peerCloses_of_unread {os : Os} {sock : Nat} (h : os.input sock ≠ []) :
    os.peerCloses sock = os := if_neg h

/-- The header and the payload of the message a client's reader has completed. -/
def RtConnectedClient.extracted (clnt : RtConnectedClient) : RtMessageHeader × Bytes :=
  (clnt.header, clnt.message.buff.take clnt.header.payloadLength.toNat)

/-- The reads of a client by the main loop, until one fails. -/
def routerReads : Nat → RtConnectedClient → Os → Except Fault Extracted
  | 0, _, _ => .error .outOfFuel
  | fuel+1, clnt, os => do
    let (read, clnt, os) ← readClient clnt (os.peerCloses clnt.fd)
    match read with
    | .failed err => return ⟨[], err, os.input clnt.fd⟩
    | .partway => routerReads fuel clnt os
    | .message => do
      let x ← routerReads fuel (readerReset clnt) os
      return { x with frames := clnt.extracted :: x.frames }

/-- The header and the payload that an attempt has received. -/
def Received.extracted (r : Received) : RtMessageHeader × Bytes :=
  (r.hdr, (r.con.recvBuffer.data.drop r.hdr.headerLength.toNat).take r.hdr.payloadLength.toNat)

/-- The attempts of one call of `rtConnection_TimedDispatch` after another, until one fails. -/
def clientReads (sock : Nat) : Nat → RtConnection → Os → Except Fault Extracted
  | 0, _, _ => .error .outOfFuel
  | fuel+1, con, os => do
    let r ← receiveAttempt fuel rtMessageHeaderInit con (os.peerCloses sock)
    if r.err = .ok then do
      let x ← clientReads sock fuel r.con r.os
      return { x with frames := r.extracted :: x.frames }
    else return ⟨[], r.err, r.os.input sock⟩

/-- The reader has extracted the frames, all of them, and read everything before it reported
    the end. -/
structure Extracted.Exact (fs : List Frame) (x : Extracted) : Prop where
  frames : x.frames = fs.map fun f => (f.header, f.payload)
  unread : x.unread = []

def RouterExtracts (fs : List Frame) (clnt : RtConnectedClient) (os : Os) : Prop :=
  ∃ enough x, (∀ fuel, enough ≤ fuel → routerReads fuel clnt os = .ok x) ∧ x.Exact fs

def ClientExtracts (fs : List Frame) (sock : Nat) (con : RtConnection) (os : Os) : Prop :=
  ∃ enough x, (∀ fuel, enough ≤ fuel → clientReads sock fuel con os = .ok x) ∧ x.Exact fs

/-! The router on a stream of frames. -/

section Router
variable {f : Frame} {got : Nat} {clnt : RtConnectedClient} {os : Os} {rest : Bytes}

theorem readClient_stores {full : RtConnectedClient} {complete : Bool} {b : UInt8} {bs : Bytes}
    {os' : Os} (hrecv : os.recv (some clnt.fd) (toSize (clnt.bytesToRead - clnt.bytesRead)) =
      .ok (.ok (b :: bs), os'))
    (hstore : storeBytes clnt (b :: bs) = .ok (full, complete)) :
    readClient clnt os = .ok (if complete then .message else .partway, full, os') := by
  simp only [readClient, hrecv, ok_bind, hstore, pure_eq_ok]

theorem extracted_of_stored {full : RtConnectedClient} (hheader : full.header = f.header)
    (hbuffer : full.readBuffer.data = f.bytes ++ rest) :
    full.extracted = (f.header, f.payload) := by
  rw [RtConnectedClient.extracted, RtConnectedClient.message, hheader, hbuffer,
    f.header_headerLength, f.header_payloadLength, Frame.bytes, List.append_assoc,
    List.drop_left' f.headerBytes_length, List.take_left]

/-- **The next read** of a client whose stream goes on with a frame. -/
theorem ReaderAt.read_client (h : ReaderAt f got clnt) (hsize : f.size ≤ 8192)
    (hpayload : 0 < f.payload.length) (hdelivers : Delivers os.recvs)
    (hin : os.input clnt.fd = f.bytes.drop got ++ rest) :
    ∃ n full complete, 0 < n ∧ got + n ≤ f.size ∧ full.ptr = clnt.ptr ∧ full.fd = clnt.fd ∧
      StoreEnd f got n clnt full complete ∧
      readClient clnt os = .ok (if complete then .message else .partway, full,
        os.consume clnt.fd n [⟨clnt.fd, .ok n⟩] os.recvs.tail) := by
  obtain ⟨n, b, bs, full, complete, hn, hle, hrecv, hstore, hptr, hfd, hend⟩ :=
    h.receives hsize hdelivers hin
  have hend : StoreEnd f got n clnt full complete := by
    rcases hend with hend | ⟨-, hnothing, -⟩
    · exact hend
    · rw [hnothing.empty] at hpayload
      cases hpayload
  exact ⟨n, full, complete, hn, hle, hptr, hfd, hend, readClient_stores hrecv hstore⟩

/-- Asked for no byte, `recv` returns 0, and the reader takes that for the end of the stream. -/
theorem readClient_nothing (h : clnt.bytesRead = clnt.bytesToRead) :
    readClient clnt os = .ok (.failed .streamClosed, clnt, os) := by
  have hask : toSize (clnt.bytesToRead - clnt.bytesRead) = 0 := by
    rw [h, Int.sub_self]
    rfl
  rw [readClient, hask]
  rfl

theorem readClient_end (h : Resting clnt) (hin : os.input clnt.fd = []) :
    ∃ os', readClient clnt (os.peerCloses clnt.fd) = .ok (.failed .streamClosed, clnt, os') ∧
      os'.input clnt.fd = [] := by
  have hask : toSize (clnt.bytesToRead - clnt.bytesRead) = 4 := by
    rw [h.bytesRead, h.bytesToRead]
    rfl
  rw [readClient, hask, Os.peerCloses, if_pos hin]
  exact ⟨_, rfl, hin⟩

/-- A message is complete in the last state only, which a frame without payload never is in. -/
theorem ReaderAt.payload_of_complete (h : ReaderAt f got clnt) {full : RtConnectedClient}
    {bs : Bytes} (hstore : storeBytes clnt bs = .ok (full, true)) : f.payload ≠ [] := by
  obtain ⟨buffer, -, hturn⟩ := bind_eq_ok.mp hstore
  have hstate : clnt.state = .readPayload := by
    unfold readerTurn at hturn
    split at hturn
    · cases hturn
    · split at hturn
      · obtain ⟨_, -, hturn⟩ := bind_eq_ok.mp hturn
        cases hturn
      · obtain ⟨_, -, hturn⟩ := bind_eq_ok.mp hturn
        cases hturn
      · next hstate => exact hstate
  have hphase := h.phase
  have hlt := h.unfinished
  rw [hstate] at hphase
  intro hnil
  have hsize : f.size = f.headerLength := by rw [Frame.size, hnil, List.length_nil, Nat.add_zero]
  generalize clnt.bytesToRead = bytesToRead at hphase
  generalize clnt.header = header at hphase
  cases hphase with
  | payload hle => omega

/-- **The rest of a frame**: the reader extracts it, or, if the frame has no payload, reports
    the end of the stream behind its header. -/
theorem routerReads_frame (h : ReaderAt f got clnt) (hsize : f.size ≤ 8192)
    (hdelivers : Delivers os.recvs) (hin : os.input clnt.fd = f.bytes.drop got ++ rest) :
    (f.payload ≠ [] ∧ ∃ n clnt' os', Resting clnt' ∧ clnt'.fd = clnt.fd ∧
      Delivers os'.recvs ∧ os'.input clnt.fd = rest ∧
      ∀ fuel, routerReads (fuel + n) clnt os = do
        let x ← routerReads fuel clnt' os'
        return { x with frames := (f.header, f.payload) :: x.frames }) ∨
    f.payload = [] ∧ ∃ n, ∀ fuel, routerReads (fuel + n) clnt os = .ok ⟨[], .streamClosed, rest⟩ := by
  -- on the bytes of the frame that are to come
  induction hleft : f.size - got using Nat.strong_induction_on generalizing got clnt os with
  | _ left ih =>
    have hunread : os.input clnt.fd ≠ [] := by
      intro hnil
      have hlen := congrArg List.length (hin.symm.trans hnil)
      have hlt := h.unfinished
      rw [List.length_append, List.length_drop, f.bytes_length, List.length_nil] at hlen
      omega
    obtain ⟨n, b, bs, full, complete, hn, hle, hrecv, hstore, -, hfd, hend⟩ :=
      h.receives hsize hdelivers hin
    have hread := readClient_stores hrecv hstore
    let os' := os.consume clnt.fd n [⟨clnt.fd, .ok n⟩] os.recvs.tail
    have hdelivers' : Delivers os'.recvs := fun k => hdelivers (k + 1)
    have hin' : os'.input clnt.fd = f.bytes.drop (got + n) ++ rest := by
      have hlen : n ≤ (f.bytes.drop got).length := by
        rw [List.length_drop, f.bytes_length]
        omega
      rw [consume_input, hin, List.drop_append_of_le_length hlen, List.drop_drop]
    have hturn : ∀ fuel, routerReads (fuel + 1) clnt os = do
        let x ← (.ok (if complete then .message else .partway, full, os') :
          Except Fault (ClientRead × RtConnectedClient × Os))
        match x.1 with
        | .failed err => return ⟨[], err, x.2.2.input x.2.1.fd⟩
        | .partway => routerReads fuel x.2.1 x.2.2
        | .message => do
          let y ← routerReads fuel (readerReset x.2.1) x.2.2
          return { y with frames := x.2.1.extracted :: y.frames } := by
      intro fuel
      rw [routerReads, peerCloses_of_unread hunread, hread]
    rcases hend with hend | ⟨rfl, hnothing, hwhole⟩
    · cases hend with
      | partway hnext =>
        have hpartway : ∀ fuel, routerReads (fuel + 1) clnt os = routerReads fuel full os' := hturn
        have hlt := hnext.unfinished
        rw [← hfd] at hin'
        rcases ih (f.size - (got + n)) (by omega) hnext hdelivers' hin' rfl with
          ⟨hpayload, m, clnt', os'', hrest, hfd', hdel, hin'', hreads⟩ | ⟨hpayload, m, hreads⟩
        · rw [hfd] at hfd' hin''
          refine .inl ⟨hpayload, m + 1, clnt', os'', hrest, hfd', hdel, hin'', fun fuel => ?_⟩
          rw [← Nat.add_assoc, hpartway, hreads]
        · refine .inr ⟨hpayload, m + 1, fun fuel => ?_⟩
          rw [← Nat.add_assoc, hpartway, hreads]
      | @complete hsum hheader more hbuffer =>
        have hpayload := h.payload_of_complete hstore
        have hextracted := extracted_of_stored hheader hbuffer
        have hwhole : f.bytes.drop (got + n) = [] := by
          rw [hsum, ← f.bytes_length, List.drop_length]
        rw [hwhole, List.nil_append] at hin'
        refine .inl ⟨hpayload, 1, readerReset full, os', resting_reset full, hfd, hdelivers',
          hin', fun fuel => ?_⟩
        rw [hturn fuel]
        simp only [ok_bind, if_true, hextracted]
    · have hpartway : ∀ fuel, routerReads (fuel + 1) clnt os = routerReads fuel full os' := hturn
      refine .inr ⟨hnothing.empty, 2, fun fuel => ?_⟩
      rw [show fuel + 2 = (fuel + 1) + 1 from rfl, hpartway, routerReads,
        readClient_nothing hnothing.bytesRead, ok_bind]
      have hrest : os'.input clnt.fd = rest := by
        rw [hin', hwhole, ← f.bytes_length, List.drop_length, List.nil_append]
      have hpeer : (os'.peerCloses full.fd).input full.fd = rest := by
        rw [hfd, Os.peerCloses]
        split
        · exact hrest
        · exact hrest
      dsimp only
      rw [hpeer]
      rfl

/-- **What the router extracts**: the frames in front of the first one without a payload. -/
theorem routerReads_eq {fs : List Frame} (h : Resting clnt) (hsize : ∀ f ∈ fs, f.size < 8192)
    (hdelivers : Delivers os.recvs) (hin : os.input clnt.fd = fs.flatMap Frame.bytes) :
    ∃ enough, ∀ fuel, enough ≤ fuel → routerReads fuel clnt os =
      .ok ⟨(fs.takeWhile fun f => f.payload ≠ []).map fun f => (f.header, f.payload),
        .streamClosed, (fs.dropWhile fun f => f.payload ≠ []).tail.flatMap Frame.bytes⟩ := by
  induction fs generalizing clnt os with
  | nil =>
    obtain ⟨os', hread, hin'⟩ := readClient_end h hin
    refine ⟨1, fun fuel hfuel => ?_⟩
    obtain ⟨fuel, rfl⟩ := Nat.exists_eq_add_of_le' hfuel
    rw [routerReads, hread, ok_bind]
    dsimp only
    rw [hin']
    rfl
  | cons f fs ih =>
    have hf := Nat.le_of_lt (hsize f List.mem_cons_self)
    rcases routerReads_frame (h.readerAt f) hf hdelivers hin with
      ⟨hpayload, n, clnt', os', hrest, hfd, hdelivers', hin', hreads⟩ | ⟨hpayload, n, hreads⟩
    · rw [← hfd] at hin'
      obtain ⟨enough, heq⟩ := ih hrest (fun g hg => hsize g (List.mem_cons_of_mem f hg)) hdelivers' hin'
      refine ⟨enough + n, fun fuel hfuel => ?_⟩
      obtain ⟨fuel, rfl⟩ := Nat.exists_eq_add_of_le' (Nat.le_of_add_left_le hfuel)
      rw [hreads, heq fuel (by omega), List.takeWhile_cons_of_pos (by simpa using hpayload),
        List.dropWhile_cons_of_pos (by simpa using hpayload)]
      rfl
    · refine ⟨n, fun fuel hfuel => ?_⟩
      obtain ⟨fuel, rfl⟩ := Nat.exists_eq_add_of_le' hfuel
      rw [hreads, List.takeWhile_cons_of_neg (by simpa using hpayload),
        List.dropWhile_cons_of_neg (by simpa using hpayload)]
      rfl

end Router

/-! The client on a stream of frames. -/

theorem receiveAttempt_end (fuel sock : Nat) {con : RtConnection} {os : Os}
    (hfd : con.fd = some sock) (hin : os.input sock = []) :
    ∃ r, receiveAttempt (fuel + 1) rtMessageHeaderInit con (os.peerCloses sock) = .ok r ∧
      r.err = .errno .ENOTCONN ∧ r.os.input sock = [] := by
  rw [Os.peerCloses, if_pos hin, receiveAttempt,
    readUntil_eof fuel 0 hfd rfl (show (0 : Int) < 4 by decide), ok_bind]
  refine ⟨_, rfl, rfl, ?_⟩
  rw [consume_input, List.drop_zero]
  exact hin

/-- **What the client extracts**: every frame. -/
theorem clientReads_eq {fs : List Frame} {sock : Nat} {con : RtConnection} {os : Os}
    (hfd : con.fd = some sock) (hsize : ∀ f ∈ fs, f.size < 8192) (hdelivers : Delivers os.recvs)
    (hin : os.input sock = fs.flatMap Frame.bytes) :
    ∃ enough, ∀ fuel, enough ≤ fuel → clientReads sock fuel con os =
      .ok ⟨fs.map fun f => (f.header, f.payload), .errno .ENOTCONN, []⟩ := by
  induction fs generalizing con os with
  | nil =>
    refine ⟨2, fun fuel hfuel => ?_⟩
    obtain ⟨fuel, rfl⟩ := Nat.exists_eq_add_of_le' hfuel
    obtain ⟨r, hr, herr, hin'⟩ := receiveAttempt_end fuel sock hfd hin
    rw [clientReads, hr, ok_bind, herr, if_neg (by decide), hin']
    rfl
  | cons f fs ih =>
    rw [List.flatMap_cons] at hin
    -- the peer has not closed while there is something to read
    have hunread : os.input sock ≠ [] := by
      intro hnil
      have hlen := congrArg List.length (hin.symm.trans hnil)
      have hpos := f.size_pos
      rw [List.length_append, f.bytes_length, List.length_nil] at hlen
      omega
    obtain ⟨s₁, h₁, hd₁⟩ := hdelivers.fills 4
    obtain ⟨s₂, h₂, hd₂⟩ := hd₁.fills (f.headerLength - 4)
    obtain ⟨s', h₃, hd₃⟩ := hd₂.fills f.payload.length
    obtain ⟨evs, buffer, hw, -, -, n, hattempt⟩ :=
      receiveAttempt_frame hfd hin (hsize f List.mem_cons_self) h₁ h₂ h₃
    obtain ⟨after, hbuffer⟩ := frame_in_buffer hw
    have hin' : (os.consume sock f.size evs s').input sock = fs.flatMap Frame.bytes := by
      rw [consume_input, hin, ← f.bytes_length, List.drop_left]
    have hfd' : ({ con with recvBuffer := buffer } : RtConnection).fd = some sock := hfd
    obtain ⟨m, heq⟩ := ih
      hfd' (fun g hg => hsize g (List.mem_cons_of_mem f hg)) hd₃ hin'
    have hextracted : Received.extracted ⟨.ok, f.header, { con with recvBuffer := buffer },
        os.consume sock f.size evs s'⟩ = (f.header, f.payload) := by
      rw [Received.extracted, f.header_headerLength, f.header_payloadLength]
      dsimp only
      rw [hbuffer, List.take_left]
    refine ⟨n + m + 1, fun fuel hfuel => ?_⟩
    obtain ⟨fuel, rfl⟩ := Nat.exists_eq_add_of_le' (Nat.le_of_add_left_le hfuel)
    rw [clientReads, peerCloses_of_unread hunread, hattempt fuel (by omega), ok_bind, if_pos rfl,
      heq fuel (by omega), hextracted]
    rfl

/-! Both. -/

theorem RouterExtracts.of_reads {fs : List Frame} {clnt : RtConnectedClient} {os : Os} {n : Nat}
    {x : Extracted} (h : RouterExtracts fs clnt os)
    (hx : ∀ fuel, n ≤ fuel → routerReads fuel clnt os = .ok x) : x.Exact fs := by
  obtain ⟨m, y, hy, hexact⟩ := h
  have hboth := (hx (max n m) (Nat.le_max_left n m)).symm.trans (hy _ (Nat.le_max_right n m))
  rw [Except.ok.inj hboth]
  exact hexact

/-- **The two readers agree** on the frames sent, in whatever chunks either of them gets them,
    if and only if every frame has a payload. -/
theorem readers_agree_iff {fs : List Frame} (hsize : ∀ f ∈ fs, f.size < 8192) {ptr fd sock : Nat}
    {con : RtConnection} {os os' : Os} (hfd : con.fd = some sock) (hdelivers : Delivers os.recvs)
    (hdelivers' : Delivers os'.recvs) (hin : os.input fd = fs.flatMap Frame.bytes)
    (hin' : os'.input sock = fs.flatMap Frame.bytes) :
    RouterExtracts fs (rtConnectedClientInit ptr fd) os ∧ ClientExtracts fs sock con os' ↔
      ∀ f ∈ fs, 0 < f.payload.length := by
  obtain ⟨n, hrouter⟩ := routerReads_eq (resting_init ptr fd) hsize hdelivers hin
  obtain ⟨m, hclient⟩ := clientReads_eq hfd hsize hdelivers' hin'
  have hpayload : (∀ f ∈ fs, 0 < f.payload.length) ↔
      (fs.takeWhile fun f => f.payload ≠ []) = fs := by
    rw [List.takeWhile_eq_self_iff]
    simp only [List.length_pos_iff, decide_eq_true_eq]
  rw [hpayload]
  constructor
  · rintro ⟨hextracts, -⟩
    have hframes := (hextracts.of_reads hrouter).frames
    have hlen := congrArg List.length hframes
    rw [List.length_map, List.length_map] at hlen
    exact (List.takeWhile_prefix _).eq_of_length hlen
  · intro hall
    have hdrop : (fs.dropWhile fun f => f.payload ≠ []) = [] := by
      have hsplit := List.takeWhile_append_dropWhile (p := fun f : Frame => f.payload ≠ []) (l := fs)
      rw [hall] at hsplit
      exact List.append_right_eq_self.mp hsplit
    rw [hall, hdrop] at hrouter
    exact ⟨⟨n, _, hrouter, rfl, rfl⟩, m, _, hclient, rfl, rfl⟩

/-! A frame without a payload, alone on its stream. -/

def emptyFrame : Frame := { exampleFrame with payload := [], payload_lt := by decide }

/-- The frames have arrived on socket 0. -/
def streamOf (fs : List Frame) : Os :=
  { Os.idle (Stream'.const .complete) with input := fun _ => fs.flatMap Frame.bytes }

theorem streamOf_delivers (fs : List Frame) : Delivers (streamOf fs).recvs := fun _ => ⟨8191, rfl⟩

theorem readers_agree_iff_example :
    RouterExtracts [exampleFrame] (rtConnectedClientInit 1 0) (streamOf [exampleFrame]) ∧
      ClientExtracts [exampleFrame] 0 listeningConnection (streamOf [exampleFrame]) := by
  have hsize : ∀ f ∈ [exampleFrame], f.size < 8192 := by decide
  exact (readers_agree_iff hsize rfl (streamOf_delivers [exampleFrame])
    (streamOf_delivers [exampleFrame]) rfl rfl).mpr (by decide)

/-- The router reports the end of the stream with the frame still to be extracted, and its
    peer has not closed anything. -/
theorem readers_disagree : ClientExtracts [emptyFrame] 0 listeningConnection (streamOf [emptyFrame]) ∧
    ¬ RouterExtracts [emptyFrame] (rtConnectedClientInit 1 0) (streamOf [emptyFrame]) ∧
    ¬ ∀ (fs : List Frame) (ptr fd sock : Nat) (con : RtConnection) (os os' : Os),
      (∀ f ∈ fs, f.size < 8192) → con.fd = some sock → Delivers os.recvs → Delivers os'.recvs →
      os.input fd = fs.flatMap Frame.bytes → os'.input sock = fs.flatMap Frame.bytes →
      RouterExtracts fs (rtConnectedClientInit ptr fd) os ∧ ClientExtracts fs sock con os' := by
  have hsize : ∀ f ∈ [emptyFrame], f.size < 8192 := by decide
  have hclient : ClientExtracts [emptyFrame] 0 listeningConnection (streamOf [emptyFrame]) := by
    have hfd : listeningConnection.fd = some 0 := rfl
    obtain ⟨n, hn⟩ := clientReads_eq hfd hsize (streamOf_delivers [emptyFrame]) rfl
    exact ⟨n, _, hn, rfl, rfl⟩
  have hrouter : ¬ RouterExtracts [emptyFrame] (rtConnectedClientInit 1 0) (streamOf [emptyFrame]) := by
    intro h
    obtain ⟨n, hn⟩ := routerReads_eq (resting_init 1 0) hsize (streamOf_delivers [emptyFrame]) rfl
    have hframes := (h.of_reads hn).frames
    cases hframes
  refine ⟨hclient, hrouter, fun hclaim => hrouter ?_⟩
  exact (hclaim [emptyFrame] 1 0 0 listeningConnection (streamOf [emptyFrame])
    (streamOf [emptyFrame]) hsize rfl (streamOf_delivers [emptyFrame])
    (streamOf_delivers [emptyFrame]) rfl rfl).1

end RtMessage
