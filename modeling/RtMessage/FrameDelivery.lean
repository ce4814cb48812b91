import RtMessage.Receiving
import RtMessage.Sending

/- What the receive loop of `rtConnection_TimedDispatch` makes of a stream of frames.

   The loop reads a frame in one piece: it starts again from the first byte of what is
   left after every failure, and a reconnect ends it. `receiveLoop_frame` is the loop on
   answers that deliver the first frame of the stream, `frameAnswers_of_read` the
   converse. -/
namespace RtMessage
open Lib

/-- The answers deliver the frame `f`, after at most `left` attempts that fail before the
    first byte, and with an error that is not taken for a lost connection. -/
inductive FrameAnswers (f : Frame) : Nat → Stream' RecvResult → Stream' RecvResult → Prop where
  | read {left : Nat} {s s₁ s₂ s' : Stream' RecvResult} (h₁ : Fills 4 s s₁)
      (h₂ : Fills (f.headerLength - 4) s₁ s₂) (h₃ : Fills f.payload.length s₂ s') :
      FrameAnswers f left s s'
  | again {left : Nat} {s s₁ s' : Stream' RecvResult} {e : Errno} (he : Refused s e s₁)
      (hkept : rtConnectionShouldReregister (.errno e) = false) (h : FrameAnswers f left s₁ s') :
      FrameAnswers f (left+1) s s'

theorem Delivers.frame {s : Stream' RecvResult} (h : Delivers s) (f : Frame) (left : Nat) :
    ∃ s', FrameAnswers f left s s' ∧ Delivers s' := by
  obtain ⟨s₁, h₁, hd₁⟩ := h.fills 4
  obtain ⟨s₂, h₂, hd₂⟩ := hd₁.fills (f.headerLength - 4)
  obtain ⟨s', h₃, hd₃⟩ := hd₂.fills f.payload.length
  exact ⟨s', .read h₁ h₂ h₃, hd₃⟩

/-- A frame of `size` bytes was read, in one piece: nothing was received before the last
    failure. -/
def ReadFrame (size : Nat) (evs : List RecvEvent) : Prop :=
  ∃ fails got, evs = fails ++ got ∧ (∀ ev ∈ fails, ∃ e, ev.reply = .error e) ∧
    (∀ ev ∈ got, ev.Smooth) ∧ received got = size

theorem received_errors {evs : List RecvEvent} (h : ∀ ev ∈ evs, ∃ e, ev.reply = .error e) :
    received evs = 0 := by
  induction evs with
  | nil => rfl
  | cons ev evs ih =>
    obtain ⟨e, he⟩ := h ev (by simp)
    have hcount : ev.count = 0 := by rw [RecvEvent.count, he]
    rw [received, List.map_cons, List.sum_cons, hcount, Nat.zero_add]
    exact ih fun k hk => h k (by simp [hk])

theorem readFrame_received {size : Nat} {evs : List RecvEvent} (h : ReadFrame size evs) :
    received evs = size := by
  obtain ⟨fails, got, rfl, hfails, -, hgot⟩ := h
  rw [received_append, received_errors hfails, hgot, Nat.zero_add]

theorem ReadFrame.of_failed {size : Nat} {init more : List RecvEvent} {last : RecvEvent}
    (h : ReadFrame size (init ++ [last] ++ more)) (hlast : ¬ last.Smooth) :
    (∀ ev ∈ init ++ [last], ∃ e, ev.reply = .error e) ∧ ReadFrame size more := by
  obtain ⟨fails, got, hevs, hfails, hgot, hsize⟩ := h
  rcases List.append_eq_append_iff.mp hevs with ⟨a, rfl, rfl⟩ | ⟨a, ha, rfl⟩
  · exact ⟨fun ev hev => hfails ev (List.mem_append_left _ hev),
      a, got, rfl, fun ev hev => hfails ev (List.mem_append_right _ hev), hgot, hsize⟩
  · rcases List.eq_nil_or_concat a with rfl | ⟨a', b, rfl⟩
    · rw [List.append_nil] at ha
      rw [ha]
      exact ⟨hfails, [], more, rfl, by simp, hgot, hsize⟩
    · rw [List.concat_eq_append, ← List.append_assoc] at ha
      have hb : last = b := by
        have := congrArg List.getLast? ha
        simpa using this
      exact absurd (hgot last (by simp [hb])) hlast

/-! The frame in the buffer. -/

namespace Frame
variable (f : Frame)

/-- The first reads find the header's length. -/
theorem decode_length (rest : Bytes) :
    ∃ after, rtEncoderDecodeUInt16 ((f.bytes.take 4 ++ rest).drop 2) =
      .ok (f.header.headerLength, after) := by
  refine ⟨rest, ?_⟩
  rw [f.bytes_take_four, List.append_assoc, List.drop_left' (encodeUInt16_length 1)]
  exact decodeUInt16_encode _ rest

theorem headerLength_ge : 28 ≤ f.headerLength := by
  simp only [headerLength]
  omega

/-- No header is longer than 282 bytes. -/
theorem size_le : f.size ≤ 282 + f.payload.length := by
  have htopic := f.topic.length_le
  have hreply := f.replyTopic.length_le
  rw [size, headerLength]
  omega

theorem take_bytes_headerLength : f.bytes.take f.headerLength = f.headerBytes := by
  rw [bytes, List.take_left' f.headerBytes_length]

end Frame

theorem toInt32_payloadLength {f : Frame} (h : f.payload.length < 2^31) :
    toInt32 f.header.payloadLength = f.payload.length := by
  rw [toInt32, f.header_payloadLength]
  split <;> omega

theorem length_stored {f : Frame} {a b : CArray 8192} (h : a.write 0 (f.bytes.take 4) = .ok b) :
    ∃ after, rtEncoderDecodeUInt16 (b.data.drop 2) = .ok (f.header.headerLength, after) := by
  have hlen : (f.bytes.take 4).length = 4 := by
    have := f.headerLength_ge
    refine List.length_take_of_le ?_
    rw [f.bytes_length, Frame.size]
    omega
  have hb := (CArray.write_eq_ok h).2
  rw [List.take_zero, List.nil_append, hlen, Nat.zero_add] at hb
  rw [hb]
  exact f.decode_length _

theorem header_stored {f : Frame} {a b b' : CArray 8192} {rest : Bytes}
    (h : a.write 0 (f.bytes.take 4) = .ok b)
    (h' : b.write 4 (((f.bytes ++ rest).drop 4).take (f.headerLength - 4)) = .ok b') :
    a.write 0 f.headerBytes = .ok b' ∧
      rtMessageHeaderDecode { rtMessageHeaderInit with headerLength := f.header.headerLength }
        b'.data = .ok f.header := by
  have hge := f.headerLength_ge
  have hlen : f.bytes.length = f.headerLength + f.payload.length := f.bytes_length
  have hfour : (f.bytes.take 4).length = 4 := List.length_take_of_le (by omega)
  have happ := CArray.write_append h ((f.bytes.drop 4).take (f.headerLength - 4))
  rw [hfour, ← List.take_add, show 4 + (f.headerLength - 4) = f.headerLength by omega,
    f.take_bytes_headerLength] at happ
  rw [List.drop_append_of_le_length (by omega),
    List.take_append_of_le_length (by rw [List.length_drop]; omega)] at h'
  have hw : a.write 0 f.headerBytes = .ok b' := happ.symm.trans h'
  refine ⟨hw, ?_⟩
  have hb := (CArray.write_eq_ok hw).2
  rw [List.take_zero, List.nil_append] at hb
  rw [hb]
  exact f.decode_headerBytes _

/-- **An attempt whose answers deliver the frame's header**: what is left is to read the
    payload. -/
theorem receiveAttempt_header {f : Frame} {rest : Bytes} {con : RtConnection} {os : Os} {sock : Nat}
    {s₁ s₂ : Stream' RecvResult} (hfd : con.fd = some sock)
    (hin : os.input sock = f.bytes ++ rest) (h₁ : Fills 4 os.recvs s₁)
    (h₂ : Fills (f.headerLength - 4) s₁ s₂) :
    ∃ evs buffer, con.recvBuffer.write 0 f.headerBytes = .ok buffer ∧
      received evs = f.headerLength ∧ (∀ ev ∈ evs, ev.Smooth) ∧
      ∃ enough, ∀ fuel, enough ≤ fuel → receiveAttempt fuel rtMessageHeaderInit con os = do
        let (err, con, os) ← rtConnectionReadUntil fuel { con with recvBuffer := buffer }
          f.headerLength (toInt32 f.header.payloadLength) (os.consume sock f.headerLength evs s₂)
        if err ≠ .ok then return ⟨err, f.header, con, os⟩
        let recvBuffer ← con.recvBuffer.write
          (f.header.headerLength.toUInt32 + f.header.payloadLength).toNat [0]
        return ⟨.ok, f.header, { con with recvBuffer }, os⟩ := by
  have hge := f.headerLength_ge
  have hle := f.headerLength_le
  have hlen : f.bytes.length = f.headerLength + f.payload.length := f.bytes_length
  -- the length
  obtain ⟨evs₁, b₁, hw₁, he₁, hs₁, n₁, hr₁⟩ := readUntil_fills 0 4 con os h₁ hfd rfl
    (by rw [hin, List.length_append]; omega) (by omega)
  rw [hin, List.take_append_of_le_length (by omega)] at hw₁
  obtain ⟨after, hlength⟩ := length_stored hw₁
  -- the header
  obtain ⟨evs₂, b₂, hw₂, he₂, hs₂, n₂, hr₂⟩ := readUntil_fills 4
    ((f.header.headerLength.toNat : Int) - 4) { con with recvBuffer := b₁ }
    (os.consume sock 4 evs₁ s₁) h₂ hfd (by rw [f.header_headerLength]; omega)
    (by rw [consume_input, hin, List.length_drop, List.length_append]; omega) (by omega)
  rw [consume_input, hin] at hw₂
  obtain ⟨hw₂, hdecode⟩ := header_stored hw₁ hw₂
  refine ⟨evs₁ ++ evs₂, b₂, hw₂, ?_, ?_, n₁ + n₂, fun fuel hfuel => ?_⟩
  · rw [received_append, he₁, he₂]
    omega
  · intro ev hev
    rcases List.mem_append.mp hev with hev | hev
    · exact hs₁ ev hev
    · exact hs₂ ev hev
  · rw [receiveAttempt, hr₁ fuel (by omega)]
    simp only [ok_bind, hlength]
    rw [hr₂ fuel (by omega)]
    simp only [ok_bind]
    rw [hdecode, ok_bind, f.header_headerLength, consume_consume,
      show 4 + (f.headerLength - 4) = f.headerLength by omega]
    rfl

/-- **An attempt whose answers deliver the frame.** -/
theorem receiveAttempt_frame {f : Frame} {rest : Bytes} {con : RtConnection} {os : Os} {sock : Nat}
    {s₁ s₂ s' : Stream' RecvResult} (hfd : con.fd = some sock)
    (hin : os.input sock = f.bytes ++ rest) (hsize : f.size < 8192) (h₁ : Fills 4 os.recvs s₁)
    (h₂ : Fills (f.headerLength - 4) s₁ s₂) (h₃ : Fills f.payload.length s₂ s') :
    ∃ evs buffer, con.recvBuffer.write 0 (f.bytes ++ [0]) = .ok buffer ∧
      received evs = f.size ∧ (∀ ev ∈ evs, ev.Smooth) ∧
      ∃ enough, ∀ fuel, enough ≤ fuel → receiveAttempt fuel rtMessageHeaderInit con os =
        .ok ⟨.ok, f.header, { con with recvBuffer := buffer }, os.consume sock f.size evs s'⟩ := by
  have hdef : f.size = f.headerLength + f.payload.length := rfl
  have hlen : f.bytes.length = f.size := f.bytes_length
  obtain ⟨evs₂, b₂, hw₂, he₂, hs₂, n₂, hr₂⟩ := receiveAttempt_header hfd hin h₁ h₂
  -- the payload
  have hcount : toInt32 f.header.payloadLength = f.payload.length :=
    toInt32_payloadLength (by omega)
  obtain ⟨evs₃, b₃, hw₃, he₃, hs₃, n₃, hr₃⟩ := readUntil_fills f.headerLength
    (toInt32 f.header.payloadLength) { con with recvBuffer := b₂ }
    (os.consume sock f.headerLength evs₂ s₂) h₃ hfd (by rw [hcount]; omega)
    (by rw [consume_input, hin, List.length_drop, List.length_append]; omega) (by omega)
  have hdrop : (f.bytes ++ rest).drop f.headerLength = f.payload ++ rest := by
    rw [Frame.bytes, List.append_assoc, List.drop_left' f.headerBytes_length]
  have hw₂₃ := CArray.write_append hw₂ f.payload
  rw [f.headerBytes_length, Nat.zero_add] at hw₂₃
  simp only [consume_input, hin, hdrop, List.take_left] at hw₃
  have hw₃ : con.recvBuffer.write 0 f.bytes = .ok b₃ := hw₂₃.symm.trans hw₃
  -- the NUL behind it
  obtain ⟨b₄, hw₄, -⟩ := CArray.write_ok b₃ f.size [0] (by
    rw [RTMSG_SEND_BUFFER_SIZE, List.length_singleton]
    omega)
  have hw₃₄ := CArray.write_append hw₃ [0]
  rw [hlen, Nat.zero_add, hw₄] at hw₃₄
  have hnul : (f.header.headerLength.toUInt32 + f.header.payloadLength).toNat = f.size := by
    rw [UInt32.toNat_add, UInt16.toNat_toUInt32, f.header_headerLength, f.header_payloadLength]
    omega
  refine ⟨evs₂ ++ evs₃, b₄, hw₃₄.symm, ?_, ?_, n₂ + n₃, fun fuel hfuel => ?_⟩
  · rw [received_append, he₂, he₃]
    omega
  · intro ev hev
    rcases List.mem_append.mp hev with hev | hev
    · exact hs₂ ev hev
    · exact hs₃ ev hev
  · rw [hr₂ fuel (by omega), hr₃ fuel (by omega)]
    simp only [ok_bind]
    rw [hnul, hw₄, ok_bind, consume_consume]
    rfl

theorem receiveAttempt_cut {f : Frame} {rest : Bytes} {con : RtConnection} {os : Os} {sock : Nat}
    {s₁ s₂ : Stream' RecvResult} (hfd : con.fd = some sock)
    (hin : os.input sock = f.bytes ++ rest) (hpayload : 0 < toInt32 f.header.payloadLength)
    (h₁ : Fills 4 os.recvs s₁) (h₂ : Fills (f.headerLength - 4) s₁ s₂) (heof : s₂.head = .eof) :
    ∃ evs buffer, received evs = f.headerLength ∧
      ∃ enough, ∀ fuel, enough ≤ fuel → receiveAttempt fuel rtMessageHeaderInit con os =
        .ok ⟨.errno .ENOTCONN, f.header, { con with recvBuffer := buffer },
          os.consume sock f.headerLength evs s₂.tail⟩ := by
  obtain ⟨evs, b, -, hevs, -, n, hr⟩ := receiveAttempt_header hfd hin h₁ h₂
  refine ⟨evs ++ [⟨sock, .ok 0⟩], b, ?_, n + 1, fun fuel hfuel => ?_⟩
  · rw [received_append, hevs]
    rfl
  · obtain ⟨fuel, rfl⟩ := Nat.exists_eq_succ_of_ne_zero (show fuel ≠ 0 by omega)
    have hfd : ({ con with recvBuffer := b } : RtConnection).fd = some sock := hfd
    rw [hr _ (by omega), readUntil_eof fuel f.headerLength hfd heof hpayload, consume_consume,
      Nat.add_zero]
    rfl

theorem receiveAttempt_unique {hdr : RtMessageHeader} {con : RtConnection} {os : Os} {a b : Nat}
    {x y : Received} (ha : receiveAttempt a hdr con os = .ok x)
    (hb : receiveAttempt b hdr con os = .ok y) : x = y := by
  rw [receiveAttempt] at ha hb
  obtain ⟨⟨err₁, con₁, os₁⟩, ha₁, ha⟩ := bind_eq_ok.mp ha
  obtain ⟨⟨_, _, _⟩, hb₁, hb⟩ := bind_eq_ok.mp hb
  cases readUntil_unique ha₁ hb₁
  dsimp only at ha hb
  split at ha
  · next hne =>
    rw [if_pos hne] at hb
    exact Except.ok.inj (ha.symm.trans hb)
  · next hne =>
    rw [if_neg hne] at hb
    obtain ⟨⟨headerLength, p⟩, hlen, ha⟩ := bind_eq_ok.mp ha
    rw [hlen, ok_bind] at hb
    obtain ⟨⟨err₂, con₂, os₂⟩, ha₂, ha⟩ := bind_eq_ok.mp ha
    obtain ⟨⟨_, _, _⟩, hb₂, hb⟩ := bind_eq_ok.mp hb
    cases readUntil_unique ha₂ hb₂
    dsimp only at ha hb
    split at ha
    · next hne =>
      rw [if_pos hne] at hb
      exact Except.ok.inj (ha.symm.trans hb)
    · next hne =>
      rw [if_neg hne] at hb
      obtain ⟨hdr', hdec, ha⟩ := bind_eq_ok.mp ha
      rw [hdec, ok_bind] at hb
      obtain ⟨⟨err₃, con₃, os₃⟩, ha₃, ha⟩ := bind_eq_ok.mp ha
      obtain ⟨⟨_, _, _⟩, hb₃, hb⟩ := bind_eq_ok.mp hb
      cases readUntil_unique ha₃ hb₃
      exact Except.ok.inj (ha.symm.trans hb)

theorem receiveAttempt_refused {con : RtConnection} {os : Os} {sock : Nat} {e : Errno}
    {s₁ : Stream' RecvResult} (hfd : con.fd = some sock) (he : Refused os.recvs e s₁)
    (hdr : RtMessageHeader) :
    ∃ evs, (∀ ev ∈ evs, ∃ e, ev.reply = .error e) ∧
      ∃ enough, ∀ fuel, enough ≤ fuel → receiveAttempt fuel hdr con os =
        .ok ⟨.errno e, hdr, con, os.consume sock 0 evs s₁⟩ := by
  obtain ⟨evs, hevs, enough, hread⟩ := readUntil_refused 0 he hfd (show (0 : Int) < 4 by decide)
  refine ⟨evs, hevs, enough, fun fuel hfuel => ?_⟩
  rw [receiveAttempt, hread fuel hfuel]
  rfl

/-- A turn of the receive loop that returns: the loop is over, or goes on after an error. -/
theorem receiveLoop_turn {reconnect : RtConnection → Os → ConResult} {fuel left : Nat}
    {hdr : RtMessageHeader} {con : RtConnection} {os : Os} {r : Received}
    (h : receiveLoop reconnect fuel left hdr con os = .ok r) :
    ∃ a err con' os', receiveAttempt fuel hdr con os = .ok a ∧
      reregister reconnect a.err a.con a.os = .ok (err, con', os') ∧
      (r = ⟨err, a.hdr, con', os'⟩ ∨ ∃ left', left = left' + 1 ∧ err ≠ .ok ∧
        receiveLoop reconnect fuel left' a.hdr con' os' = .ok r) := by
  rw [receiveLoop.eq_def] at h
  obtain ⟨a, ha, h⟩ := bind_eq_ok.mp h
  obtain ⟨⟨err, con', os'⟩, hre, h⟩ := bind_eq_ok.mp h
  refine ⟨a, err, con', os', ha, hre, ?_⟩
  dsimp only at h
  split at h
  · cases h
    exact .inl rfl
  · next hne =>
    cases left with
    | zero =>
      cases h
      exact .inl rfl
    | succ left => exact .inr ⟨left, rfl, hne, h⟩

/-- **The receive loop whose answers deliver the frame**: what it returns, if it does, and
    that it does. -/
theorem receiveLoop_frame {f : Frame} {rest : Bytes} {con : RtConnection} {sock left : Nat}
    {s s' : Stream' RecvResult} (h : FrameAnswers f left s s') (hfd : con.fd = some sock)
    (hsize : f.size < 8192) (os : Os) (hrecvs : os.recvs = s)
    (hin : os.input sock = f.bytes ++ rest) :
    ∃ evs buffer, con.recvBuffer.write 0 (f.bytes ++ [0]) = .ok buffer ∧ ReadFrame f.size evs ∧
      (∃ enough, ∀ fuel, enough ≤ fuel → ∀ reconnect, receiveLoop reconnect fuel left
        rtMessageHeaderInit con os =
          .ok ⟨.ok, f.header, { con with recvBuffer := buffer }, os.consume sock f.size evs s'⟩) ∧
      ∀ fuel reconnect r, receiveLoop reconnect fuel left rtMessageHeaderInit con os = .ok r →
        r = ⟨.ok, f.header, { con with recvBuffer := buffer }, os.consume sock f.size evs s'⟩ := by
  induction h generalizing os with
  | @read left s s₁ s₂ s' h₁ h₂ h₃ =>
    subst hrecvs
    obtain ⟨evs, buffer, hw, hevs, hsmooth, enough, hattempt⟩ :=
      receiveAttempt_frame hfd hin hsize h₁ h₂ h₃
    -- the attempt that reads the frame is the last
    have hloop : ∀ fuel reconnect, receiveAttempt fuel rtMessageHeaderInit con os =
        .ok ⟨.ok, f.header, { con with recvBuffer := buffer }, os.consume sock f.size evs s'⟩ →
        receiveLoop reconnect fuel left rtMessageHeaderInit con os =
          .ok ⟨.ok, f.header, { con with recvBuffer := buffer },
            os.consume sock f.size evs s'⟩ := by
      intro fuel reconnect ha
      rw [receiveLoop, ha, ok_bind, reregister_kept rfl, ok_bind]
      rfl
    refine ⟨evs, buffer, hw, ⟨[], evs, rfl, by simp, hsmooth, hevs⟩,
      ⟨enough, fun fuel hfuel reconnect => hloop fuel reconnect (hattempt fuel hfuel)⟩, ?_⟩
    intro fuel reconnect r hr
    obtain ⟨x, _, _, _, hx, -⟩ := receiveLoop_turn hr
    obtain rfl := receiveAttempt_unique hx (hattempt enough (Nat.le_refl _))
    rw [hloop fuel reconnect hx] at hr
    exact (Except.ok.inj hr).symm
  | @again left s s₁ s' e he hkept h ih =>
    subst hrecvs
    -- an attempt without a first byte leaves the header and the buffer for the next one
    obtain ⟨evs, hevs, n, hattempt⟩ := receiveAttempt_refused hfd he rtMessageHeaderInit
    obtain ⟨evs', buffer, hw, ⟨fails, got, rfl, hfails, hgot, hsz⟩, ⟨n', hreturns⟩, honly⟩ :=
      ih (os.consume sock 0 evs s₁) rfl (by rw [consume_input]; exact hin)
    simp only [consume_consume, Nat.zero_add] at hreturns honly
    have hloop : ∀ fuel reconnect, receiveAttempt fuel rtMessageHeaderInit con os =
        .ok ⟨.errno e, rtMessageHeaderInit, con, os.consume sock 0 evs s₁⟩ →
        receiveLoop reconnect fuel (left+1) rtMessageHeaderInit con os =
          receiveLoop reconnect fuel left rtMessageHeaderInit con (os.consume sock 0 evs s₁) := by
      intro fuel reconnect ha
      rw [receiveLoop, ha, ok_bind, reregister_kept hkept, ok_bind]
      rfl
    refine ⟨evs ++ (fails ++ got), buffer, hw, ⟨evs ++ fails, got, (List.append_assoc ..).symm,
      ?_, hgot, hsz⟩, ⟨n + n', fun fuel hfuel reconnect => ?_⟩, ?_⟩
    · intro ev hev
      rcases List.mem_append.mp hev with hev | hev
      · exact hevs ev hev
      · exact hfails ev hev
    · rw [hloop fuel reconnect (hattempt fuel (by omega))]
      exact hreturns fuel (by omega) reconnect
    · intro fuel reconnect r hr
      obtain ⟨x, _, _, _, hx, -⟩ := receiveLoop_turn hr
      obtain rfl := receiveAttempt_unique hx (hattempt n (Nat.le_refl _))
      rw [hloop fuel reconnect hx] at hr
      exact honly fuel reconnect r hr

/-- How an attempt ended that took `n` bytes of a stream that starts with the frame `f`. -/
inductive AttemptEnd (f : Frame) (con : RtConnection) (recvs recvs' : Stream' RecvResult) (n : Nat)
    (evs : List RecvEvent) (a : Received) : Prop where
  | failed {init : List RecvEvent} {last : RecvEvent} (herr : a.err ≠ .ok)
      (hevs : evs = init ++ [last]) (hlast : ¬ last.Smooth)
      (hfirst : n = 0 → ∀ e, last.reply = .error e → a.err = .errno e ∧ Refused recvs e recvs' ∧
        a.hdr = rtMessageHeaderInit ∧ a.con = con)
  | complete {s₁ s₂ : Stream' RecvResult} {n₃ : Nat} (herr : a.err = .ok) (h₁ : Fills 4 recvs s₁)
      (h₂ : Fills (f.headerLength - 4) s₁ s₂) (h₃ : Fills n₃ s₂ recvs')
      (hn : n = f.headerLength + n₃) (hsize : n₃ = f.payload.length → f.size < 8192)

/-- **Every attempt that returns.** -/
theorem receiveAttempt_cases {f : Frame} {rest : Bytes} {con : RtConnection} {os : Os} {sock : Nat}
    {fuel : Nat} {a : Received} (hfd : con.fd = some sock) (hin : os.input sock = f.bytes ++ rest)
    (h : receiveAttempt fuel rtMessageHeaderInit con os = .ok a) :
    ∃ n evs recvs, a.os = os.consume sock n evs recvs ∧ received evs = n ∧
      AttemptEnd f con os.recvs recvs n evs a := by
  have hge := f.headerLength_ge
  have hdef : f.size = f.headerLength + f.payload.length := rfl
  have hlen : f.bytes.length = f.size := f.bytes_length
  rw [receiveAttempt] at h
  obtain ⟨⟨err₁, con₁, os₁⟩, hr₁, h⟩ := bind_eq_ok.mp h
  obtain ⟨n₁, evs₁, s₁, b₁, failure₁, rfl, rfl, hle₁, he₁, hw₁, rfl, hend₁⟩ :=
    readUntil_cases hr₁ hfd (Nat.zero_le _)
  cases failure₁ with
  | some err =>
    obtain ⟨herr, init, last, hevs, hlast, hfirst⟩ := hend₁
    rw [Option.getD_some] at h
    simp only [if_pos herr] at h
    cases h
    refine ⟨n₁, evs₁, s₁, rfl, he₁, .failed herr hevs hlast fun h0 e he => ?_⟩
    refine ⟨(hfirst h0 e he).1, (hfirst h0 e he).2, rfl, ?_⟩
    subst h0
    rw [List.take_zero, CArray.write_nil (Nat.zero_le _)] at hw₁
    rw [← Except.ok.inj hw₁]
  | none =>
    obtain ⟨hn₁, hf₁, -⟩ := hend₁
    obtain rfl : n₁ = 4 := hn₁
    simp only [Option.getD_none, ne_eq, not_true_eq_false, if_false] at h
    -- the header's length
    rw [hin, List.take_append_of_le_length (by omega)] at hw₁
    obtain ⟨after, hlength⟩ := length_stored hw₁
    rw [hlength, ok_bind] at h
    obtain ⟨⟨err₂, con₂, os₂⟩, hr₂, h⟩ := bind_eq_ok.mp h
    obtain ⟨n₂, evs₂, s₂, b₂, failure₂, rfl, rfl, hle₂, he₂, hw₂, rfl, hend₂⟩ :=
      readUntil_cases hr₂ hfd (by decide)
    rw [consume_consume] at h
    cases failure₂ with
    | some err =>
      obtain ⟨herr, init, last, rfl, hlast, -⟩ := hend₂
      rw [Option.getD_some] at h
      simp only [if_pos herr] at h
      cases h
      refine ⟨4 + n₂, evs₁ ++ (init ++ [last]), s₂, rfl, ?_,
        .failed herr (List.append_assoc ..).symm hlast fun h0 => by omega⟩
      rw [received_append, he₁, he₂]
    | none =>
      obtain ⟨hn₂, hf₂, -⟩ := hend₂
      rw [f.header_headerLength, show ((f.headerLength : Int) - 4).toNat = f.headerLength - 4 by
        omega] at hn₂ hf₂
      subst hn₂
      simp only [Option.getD_none, not_true_eq_false, if_false] at h
      -- the header
      rw [consume_input, hin] at hw₂
      obtain ⟨hw₂, hdecode⟩ := header_stored hw₁ hw₂
      rw [hdecode, ok_bind] at h
      obtain ⟨⟨err₃, con₃, os₃⟩, hr₃, h⟩ := bind_eq_ok.mp h
      obtain ⟨n₃, evs₃, s₃, b₃, failure₃, rfl, rfl, hle₃, he₃, hw₃, rfl, hend₃⟩ :=
        readUntil_cases hr₃ hfd (by have := f.headerLength_le; rw [f.header_headerLength]; omega)
      rw [consume_consume] at h
      have hread : received (evs₁ ++ evs₂ ++ evs₃) = 4 + (f.headerLength - 4) + n₃ := by
        rw [received_append, received_append, he₁, he₂, he₃]
      cases failure₃ with
      | some err =>
        obtain ⟨herr, init, last, rfl, hlast, -⟩ := hend₃
        rw [Option.getD_some] at h
        simp only [if_pos herr] at h
        cases h
        exact ⟨_, _, s₃, rfl, hread,
          .failed herr (List.append_assoc ..).symm hlast fun h0 => by omega⟩
      | none =>
        obtain ⟨rfl, hf₃, -⟩ := hend₃
        simp only [Option.getD_none, not_true_eq_false, if_false] at h
        obtain ⟨b₄, hw₄, h⟩ := bind_eq_ok.mp h
        cases h
        refine ⟨_, _, s₃, rfl, hread, .complete rfl hf₁ hf₂ hf₃ (by omega) fun hn₃ => ?_⟩
        -- the payload and the NUL behind it are stored in the buffer
        have hpay := (CArray.write_eq_ok hw₃).1
        have hnul := (CArray.write_eq_ok hw₄).1
        rw [List.length_take_of_le hle₃, f.header_headerLength, RTMSG_SEND_BUFFER_SIZE] at hpay
        rw [UInt32.toNat_add, UInt16.toNat_toUInt32, f.header_headerLength,
          f.header_payloadLength, List.length_singleton, RTMSG_SEND_BUFFER_SIZE] at hnul
        omega

theorem receiveLoop_closed {reconnect : RtConnection → Os → ConResult} {fuel left : Nat}
    {hdr : RtMessageHeader} {con : RtConnection} {os : Os} {r : Received} (hfd : con.fd = none)
    (h : receiveLoop reconnect fuel left hdr con os = .ok r) :
    r = ⟨.errno .EBADF, hdr, con, os⟩ := by
  have hattempt : ∀ a, receiveAttempt fuel hdr con os = .ok a → a = ⟨.errno .EBADF, hdr, con, os⟩ := by
    intro a ha
    rw [receiveAttempt] at ha
    obtain ⟨x, hx, ha⟩ := bind_eq_ok.mp ha
    rw [readUntil_closed hfd (by decide) hx] at ha
    exact (Except.ok.inj ha).symm
  induction left using Nat.strongRecOn with
  | ind left ih =>
    obtain ⟨a, err, con', os', ha, hre, hend⟩ := receiveLoop_turn h
    rw [hattempt a ha, reregister_kept rfl] at hre
    cases hre
    rw [hattempt a ha] at hend
    obtain hend | ⟨left, rfl, -, h⟩ := hend
    · exact hend
    · exact ih left (Nat.lt_succ_self left) h

theorem receiveLoop_waits {reconnect : RtConnection → Os → ConResult} {fuel left : Nat}
    {hdr : RtMessageHeader} {con : RtConnection} {os : Os} {r : Received} {sock : Nat}
    (hfd : con.fd = some sock) (hin : os.input sock = []) (hdelivers : Delivers os.recvs) :
    receiveLoop reconnect fuel left hdr con os ≠ .ok r := by
  intro h
  obtain ⟨a, _, _, _, ha, -⟩ := receiveLoop_turn h
  rw [receiveAttempt] at ha
  obtain ⟨x, hx, -⟩ := bind_eq_ok.mp ha
  rw [rtConnectionReadUntil, hfd] at hx
  obtain ⟨t, hloop, -⟩ := bind_eq_ok.mp hx
  obtain ⟨k, hk⟩ := hdelivers 0
  have hgo : ReadState.goesOn 4 ⟨0, none, con.recvBuffer, os⟩ = true :=
    readState_goesOn rfl (show (0 : Int) < 4 by decide)
  have hturn : readTurn (some sock) 0 4 ⟨0, none, con.recvBuffer, os⟩ = .error .blocked := by
    have hk : os.recvs.head = .data k := hk
    simp [readTurn, Os.recv, hk, hin]
  rcases loop_ok_cases hloop with ⟨hc, -⟩ | ⟨_, u, -, -, hu, -⟩
  · cases hc.symm.trans hgo
  · cases hu.symm.trans hturn

theorem not_readFrame_nil {f : Frame} : ¬ ReadFrame f.size [] := by
  intro h
  have hge := f.headerLength_ge
  have hdef : f.size = f.headerLength + f.payload.length := rfl
  have hzero : 0 = f.size := readFrame_received h
  omega

/-- An attempt of a call that reads the frame reads it, or nothing. -/
theorem attempt_of_read {f : Frame} {rest : Bytes} {fuel sock : Nat} {con : RtConnection} {os : Os}
    {a : Received} {more : List RecvEvent} (hfd : con.fd = some sock)
    (hin : os.input sock = f.bytes ++ rest)
    (h : receiveAttempt fuel rtMessageHeaderInit con os = .ok a)
    (hread : ∀ evs, a.os.received = os.received ++ evs → ReadFrame f.size (evs ++ more)) :
    (a.err = .ok ∧ (more = [] → f.size < 8192 ∧ ∀ left, ∃ s', FrameAnswers f left os.recvs s')) ∨
      ∃ e evs s₁, a = ⟨.errno e, rtMessageHeaderInit, con, os.consume sock 0 evs s₁⟩ ∧
        Refused os.recvs e s₁ ∧ ReadFrame f.size more := by
  have hdef : f.size = f.headerLength + f.payload.length := rfl
  obtain ⟨n, evs, s₁, hos, hcount, hend⟩ := receiveAttempt_cases hfd hin h
  have hread := hread evs (by rw [hos, consume_received])
  cases hend with
  | @failed init last herr hevs hlast hfirst =>
    subst hevs
    obtain ⟨herrors, hmore⟩ := hread.of_failed hlast
    have hzero : n = 0 := hcount.symm.trans (received_errors herrors)
    obtain ⟨e, he⟩ := herrors _ (List.mem_append_right _ (List.mem_singleton_self _))
    obtain ⟨herr, hrefused, hhdr, hcon⟩ := hfirst hzero e he
    subst hzero
    refine .inr ⟨e, init ++ [last], s₁, ?_, hrefused, hmore⟩
    obtain ⟨aerr, ahdr, acon, aos⟩ := a
    cases herr
    cases hhdr
    cases hcon
    cases hos
    rfl
  | @complete _ _ n₃ herr h₁ h₂ h₃ hn hsize =>
    refine .inl ⟨herr, ?_⟩
    rintro rfl
    rw [List.append_nil] at hread
    have hall := readFrame_received hread
    have hpay : n₃ = f.payload.length := by omega
    exact ⟨hsize hpay, fun left => ⟨s₁, .read h₁ h₂ (hpay ▸ h₃)⟩⟩

/-- An attempt is a chain of reads, of which the first that goes wrong is the last: what holds
    before them, and of each read after a good one, holds in the end. -/
theorem receiveAttempt_invariant {I : RtError → RtConnection → Os → Prop} {fuel : Nat}
    {hdr : RtMessageHeader} {con : RtConnection} {os : Os} {a : Received} (hstart : I .ok con os)
    (hread : ∀ {con os off count err con' os'}, I .ok con os →
      rtConnectionReadUntil fuel con off count os = .ok (err, con', os') → I err con' os')
    (hstore : ∀ {con os} recvBuffer, I .ok con os → I .ok { con with recvBuffer } os)
    (h : receiveAttempt fuel hdr con os = .ok a) : I a.err a.con a.os := by
  rw [receiveAttempt] at h
  obtain ⟨⟨err₁, con₁, os₁⟩, hr₁, h⟩ := bind_eq_ok.mp h
  have h₁ := hread hstart hr₁
  dsimp only at h
  split at h
  · cases h
    exact h₁
  · next hok₁ =>
    obtain ⟨⟨headerLength, p⟩, -, h⟩ := bind_eq_ok.mp h
    obtain ⟨⟨err₂, con₂, os₂⟩, hr₂, h⟩ := bind_eq_ok.mp h
    have h₂ := hread (Decidable.not_not.mp hok₁ ▸ h₁) hr₂
    dsimp only at h
    split at h
    · cases h
      exact h₂
    · next hok₂ =>
      obtain ⟨hdr', -, h⟩ := bind_eq_ok.mp h
      obtain ⟨⟨err₃, con₃, os₃⟩, hr₃, h⟩ := bind_eq_ok.mp h
      have h₃ := hread (Decidable.not_not.mp hok₂ ▸ h₂) hr₃
      dsimp only at h
      split at h
      · cases h
        exact h₃
      · next hok₃ =>
        obtain ⟨buffer, -, h⟩ := bind_eq_ok.mp h
        cases h
        exact hstore buffer (Decidable.not_not.mp hok₃ ▸ h₃)

theorem receiveAttempt_received {fuel : Nat} {hdr : RtMessageHeader} {con : RtConnection} {os : Os}
    {a : Received} (h : receiveAttempt fuel hdr con os = .ok a) :
    os.received <+: a.os.received := by
  refine receiveAttempt_invariant (I := fun _ _ os' => os.received <+: os'.received) ?_ ?_ ?_ h
  · exact List.prefix_refl _
  · exact fun hpre hread => hpre.trans (readUntil_received hread)
  · exact fun _ hpre => hpre

theorem reregister_received {J : CJsonLib} {fuel : Nat} {err e : RtError} {con con' : RtConnection}
    {os os' : Os} (h : reregister (sendReconnect J fuel) err con os = .ok (e, con', os')) :
    os'.received = os.received := by
  rcases reregister_cases h with ⟨-, -, -, rfl⟩ | ⟨-, hre⟩
  · rfl
  · exact (sendReconnect_keeps hre).received

theorem receiveLoop_received {J : CJsonLib} {fuel left : Nat} {hdr : RtMessageHeader}
    {con : RtConnection} {os : Os} {r : Received}
    (h : receiveLoop (sendReconnect J fuel) fuel left hdr con os = .ok r) :
    os.received <+: r.os.received := by
  induction left using Nat.strongRecOn generalizing hdr con os with
  | ind left ih =>
    obtain ⟨a, err, con', os', ha, hre, hend⟩ := receiveLoop_turn h
    have hpre := receiveAttempt_received ha
    rw [← reregister_received hre] at hpre
    obtain rfl | ⟨left, rfl, -, h⟩ := hend
    · exact hpre
    · exact hpre.trans (ih left (Nat.lt_succ_self left) h)

/-- The loop from an attempt on: it is over, it goes on with nothing changed but the answers,
    or it has lost its descriptor. -/
theorem receiveLoop_cases {J : CJsonLib} {fuel left : Nat} {hdr : RtMessageHeader}
    {con : RtConnection} {os : Os} {r : Received}
    (h : receiveLoop (sendReconnect J fuel) fuel left hdr con os = .ok r) :
    ∃ a, receiveAttempt fuel hdr con os = .ok a ∧
      (r.os.received = a.os.received ∨ ∃ left', left = left' + 1 ∧ a.err ≠ .ok ∧
        rtConnectionShouldReregister a.err = false ∧
        receiveLoop (sendReconnect J fuel) fuel left' a.hdr a.con a.os = .ok r) := by
  obtain ⟨a, err, con', os', ha, hre, hend⟩ := receiveLoop_turn h
  refine ⟨a, ha, ?_⟩
  have hsame := reregister_received hre
  obtain rfl | ⟨left, rfl, hne, h⟩ := hend
  · exact .inl hsame
  · rcases reregister_cases hre with ⟨hkept, rfl, rfl, rfl⟩ | ⟨hlost, hrec⟩
    · exact .inr ⟨left, rfl, hne, hkept, h⟩
    · rw [receiveLoop_closed ((sendReconnect_failed hrec).2 hne) h]
      exact .inl hsame

/-- **A call that reads the frame** was given answers that deliver it. -/
theorem frameAnswers_of_read {J : CJsonLib} {f : Frame} {rest : Bytes} {fuel left sock : Nat}
    {con : RtConnection} {os : Os} {r : Received} {evs : List RecvEvent} (hfd : con.fd = some sock)
    (hin : os.input sock = f.bytes ++ rest)
    (h : receiveLoop (sendReconnect J fuel) fuel left rtMessageHeaderInit con os = .ok r)
    (hevs : r.os.received = os.received ++ evs) (hread : ReadFrame f.size evs) :
    f.size < 8192 ∧ ∃ s', FrameAnswers f left os.recvs s' := by
  induction left using Nat.strong_induction_on generalizing os evs with
  | _ left ih =>
    obtain ⟨a, ha, hsame | ⟨left, rfl, herr, hkept, hrest⟩⟩ := receiveLoop_cases h
    · have hall : ∀ evs', a.os.received = os.received ++ evs' → ReadFrame f.size (evs' ++ []) := by
        intro evs' hevs'
        rw [hsame, hevs', List.append_cancel_left_eq] at hevs
        rw [hevs, List.append_nil]
        exact hread
      rcases attempt_of_read hfd hin ha hall with ⟨-, hframe⟩ | ⟨e, evs', s₁, -, -, hnil⟩
      · exact ⟨(hframe rfl).1, (hframe rfl).2 left⟩
      · exact absurd hnil not_readFrame_nil
    · obtain ⟨more, hmore⟩ := receiveLoop_received hrest
      have hall : ∀ evs', a.os.received = os.received ++ evs' → ReadFrame f.size (evs' ++ more) := by
        intro evs' hevs'
        rw [← hmore, hevs', List.append_assoc, List.append_cancel_left_eq] at hevs
        rw [hevs]
        exact hread
      rcases attempt_of_read hfd hin ha hall with ⟨hok, -⟩ | ⟨e, evs', s₁, rfl, hrefused, hframe⟩
      · exact absurd hok herr
      · obtain ⟨hsize, s', hanswers⟩ := ih left (Nat.lt_succ_self left)
          (by rw [consume_input]; exact hin) hrest hmore.symm hframe
        exact ⟨hsize, s', .again hrefused hkept hanswers⟩

end RtMessage
