import RtMessage.Router

/- One step of the router's reader, and its buffers.

   `header_length` and `payload_length` decide how far the reader goes on reading, and
   the lengths of the two topics how much `rtMessageHeader_Decode` copies; the code
   compares none of them with anything. `LengthsFit` says that the lengths which the
   received bytes complete fit; `ReaderOk` is the invariant that only such bytes keep
   (`reader_step`, `reader_stores`). -/
namespace RtMessage
open Lib.BigEndian

/-- The `header_length` at the front of a buffer. -/
def lengthField (data : Bytes) : Nat := ofBytes ((data.drop 2).take 2)

/-- Its `payload_length`. -/
def payloadField (data : Bytes) : Nat := ofBytes ((data.drop 16).take 4)

/-- Its `topic_length`. -/
def topicField (data : Bytes) : Nat := ofBytes ((data.drop 20).take 4)

/-- Its `reply_topic_length`, which stands behind the topic. -/
def replyTopicField (data : Bytes) : Nat :=
  ofBytes ((data.drop (24 + topicField data)).take 4)

theorem readBytes_ok {itr b rest : Bytes} {n : Nat} (h : readBytes itr n = .ok (b, rest)) :
    b = itr.take n ∧ rest = itr.drop n ∧ b.length = n := by
  unfold readBytes at h
  split at h
  · next hn =>
    cases h
    exact ⟨rfl, rfl, List.length_take_of_le hn⟩
  · cases h

theorem decodeUInt16_ok {itr rest : Bytes} {n : UInt16}
    (h : rtEncoderDecodeUInt16 itr = .ok (n, rest)) :
    n.toNat = ofBytes (itr.take 2) ∧ rest = itr.drop 2 := by
  obtain ⟨⟨b, itr'⟩, hb, h⟩ := bind_eq_ok.mp h
  obtain ⟨rfl, rfl, hlen⟩ := readBytes_ok hb
  cases h
  refine ⟨UInt16.toNat_ofNat_of_lt' ?_, rfl⟩
  have := ofBytes_lt (itr.take 2)
  rw [hlen] at this
  exact this

theorem decodeInt32_ok {itr rest : Bytes} {n : UInt32}
    (h : rtEncoderDecodeInt32 itr = .ok (n, rest)) :
    n.toNat = ofBytes (itr.take 4) ∧ rest = itr.drop 4 := by
  obtain ⟨⟨b, itr'⟩, hb, h⟩ := bind_eq_ok.mp h
  obtain ⟨rfl, rfl, hlen⟩ := readBytes_ok hb
  cases h
  refine ⟨UInt32.toNat_ofNat_of_lt' ?_, rfl⟩
  have := ofBytes_lt (itr.take 4)
  rw [hlen] at this
  exact this

theorem decodeString_ok {n : Nat} {itr rest : Bytes} {s s' : CArray n} {len : UInt32}
    (h : rtEncoderDecodeString itr s = .ok (s', len, rest)) :
    ofBytes (itr.take 4) ≤ n ∧ rest = itr.drop (4 + ofBytes (itr.take 4)) := by
  obtain ⟨⟨len', itr'⟩, hl, h⟩ := bind_eq_ok.mp h
  obtain ⟨⟨b, itr''⟩, hb, h⟩ := bind_eq_ok.mp h
  obtain ⟨t, ht, h⟩ := bind_eq_ok.mp h
  obtain ⟨hlen, rfl⟩ := decodeInt32_ok hl
  obtain ⟨-, rfl, hsize⟩ := readBytes_ok hb
  cases h
  have hroom := (CArray.write_eq_ok ht).1
  rw [hlen] at hsize
  refine ⟨by omega, ?_⟩
  rw [List.drop_drop, hlen]

theorem headerDecode_lengths {hdr hdr' : RtMessageHeader} {buff : Bytes}
    (h : rtMessageHeaderDecode hdr buff = .ok hdr') :
    hdr'.headerLength.toNat = lengthField buff ∧ hdr'.payloadLength.toNat = payloadField buff ∧
      topicField buff ≤ 128 ∧ replyTopicField buff ≤ 128 := by
  rw [rtMessageHeaderDecode] at h
  obtain ⟨⟨version, p₁⟩, h₁, h⟩ := bind_eq_ok.mp h
  obtain ⟨⟨headerLength, p₂⟩, h₂, h⟩ := bind_eq_ok.mp h
  obtain ⟨⟨sequenceNumber, p₃⟩, h₃, h⟩ := bind_eq_ok.mp h
  obtain ⟨⟨flags, p₄⟩, h₄, h⟩ := bind_eq_ok.mp h
  obtain ⟨⟨controlData, p₅⟩, h₅, h⟩ := bind_eq_ok.mp h
  obtain ⟨⟨payloadLength, p₆⟩, h₆, h⟩ := bind_eq_ok.mp h
  obtain ⟨⟨topic, topicLength, p₇⟩, h₇, h⟩ := bind_eq_ok.mp h
  obtain ⟨⟨replyTopic, replyTopicLength, p₈⟩, h₈, h⟩ := bind_eq_ok.mp h
  cases h
  obtain ⟨-, rfl⟩ := decodeUInt16_ok h₁
  obtain ⟨hlen, rfl⟩ := decodeUInt16_ok h₂
  obtain ⟨-, rfl⟩ := decodeInt32_ok h₃
  obtain ⟨-, rfl⟩ := decodeInt32_ok h₄
  obtain ⟨-, rfl⟩ := decodeInt32_ok h₅
  obtain ⟨hpay, rfl⟩ := decodeInt32_ok h₆
  obtain ⟨htopic, rfl⟩ := decodeString_ok h₇
  have hreply := (decodeString_ok h₈).1
  simp only [List.drop_drop] at hpay htopic hreply
  refine ⟨hlen, hpay, htopic, ?_⟩
  rw [← Nat.add_assoc (2 + 2 + 4 + 4 + 4 + 4)] at hreply
  exact hreply

theorem readBytes_of_le {itr : Bytes} {n : Nat} (h : n ≤ itr.length) :
    readBytes itr n = .ok (itr.take n, itr.drop n) := if_pos h

theorem decodeUInt16_of_le {itr : Bytes} (h : 2 ≤ itr.length) :
    ∃ n, rtEncoderDecodeUInt16 itr = .ok (n, itr.drop 2) := by
  rw [rtEncoderDecodeUInt16, readBytes_of_le h, ok_bind]
  exact ⟨_, rfl⟩

theorem decodeInt32_of_le {itr : Bytes} (h : 4 ≤ itr.length) :
    ∃ n, rtEncoderDecodeInt32 itr = .ok (n, itr.drop 4) := by
  rw [rtEncoderDecodeInt32, readBytes_of_le h, ok_bind]
  exact ⟨_, rfl⟩

theorem decodeString_of_le {n : Nat} {itr : Bytes} (s : CArray n)
    (hfit : ofBytes (itr.take 4) ≤ n) (hroom : 4 + n ≤ itr.length) :
    ∃ s' len, rtEncoderDecodeString itr s =
      .ok (s', len, itr.drop (4 + ofBytes (itr.take 4))) := by
  obtain ⟨len, hl⟩ := decodeInt32_of_le (show 4 ≤ itr.length by omega)
  have hlen := (decodeInt32_ok hl).1
  have hrest : len.toNat ≤ (itr.drop 4).length := by
    rw [List.length_drop]
    omega
  obtain ⟨t, ht, -⟩ := CArray.write_ok s 0 ((itr.drop 4).take len.toNat) (by
    rw [List.length_take_of_le hrest]
    omega)
  refine ⟨t, len, ?_⟩
  simp only [rtEncoderDecodeString, hl, ok_bind, readBytes_of_le hrest, CArray.memcpy, ht,
    pure_eq_ok]
  rw [List.drop_drop, hlen]

theorem headerDecode_returns {buff : Bytes} (hdr : RtMessageHeader) (hlen : buff.length = 8192)
    (ht : topicField buff ≤ 128) (hr : replyTopicField buff ≤ 128) :
    ∃ hdr', rtMessageHeaderDecode hdr buff = .ok hdr' := by
  have hroom : ∀ k, k ≤ 1024 → 512 ≤ (buff.drop k).length := by
    intro k hk
    rw [List.length_drop]
    omega
  obtain ⟨version, h₁⟩ := decodeUInt16_of_le (show 2 ≤ buff.length by omega)
  obtain ⟨headerLength, h₂⟩ := decodeUInt16_of_le ((by decide : 2 ≤ 512).trans (hroom 2 (by omega)))
  obtain ⟨sequenceNumber, h₃⟩ :=
    decodeInt32_of_le ((by decide : 4 ≤ 512).trans (hroom 4 (by omega)))
  obtain ⟨flags, h₄⟩ := decodeInt32_of_le ((by decide : 4 ≤ 512).trans (hroom 8 (by omega)))
  obtain ⟨controlData, h₅⟩ := decodeInt32_of_le ((by decide : 4 ≤ 512).trans (hroom 12 (by omega)))
  obtain ⟨payloadLength, h₆⟩ :=
    decodeInt32_of_le ((by decide : 4 ≤ 512).trans (hroom 16 (by omega)))
  obtain ⟨topic, topicLength, h₇⟩ := decodeString_of_le hdr.topic ht
    ((by decide : 4 + 128 ≤ 512).trans (hroom 20 (by omega)))
  obtain ⟨replyTopic, replyTopicLength, h₈⟩ := decodeString_of_le hdr.replyTopic hr
    ((by decide : 4 + 128 ≤ 512).trans (hroom (24 + topicField buff) (by omega)))
  rw [List.drop_drop] at h₂ h₃ h₄ h₅ h₆ h₇
  rw [show 20 + (4 + ofBytes ((buff.drop 20).take 4)) = 24 + topicField buff by
    rw [topicField]; omega] at h₇
  simp only [rtMessageHeaderDecode, h₁, h₂, h₃, h₄, h₅, h₆, h₇, h₈, ok_bind, pure_eq_ok]
  exact ⟨_, rfl⟩

/-! The reader's states. -/

/-- The counters stay in the buffer, and there is something left to receive. -/
structure InBuffer (clnt : RtConnectedClient) : Prop where
  nonneg : 0 ≤ clnt.bytesRead
  unfinished : clnt.bytesRead < clnt.bytesToRead
  bounded : clnt.bytesToRead ≤ 8192

/-- The payload of a message lies in the buffer. -/
def PayloadInBuffer (hdr : RtMessageHeader) : Prop :=
  hdr.headerLength.toNat + hdr.payloadLength.toNat ≤ 8192

/-- What the buffer holds once the bytes are stored. -/
def storedData (clnt : RtConnectedClient) (bs : Bytes) : Bytes :=
  clnt.readBuffer.data.take clnt.bytesRead.toNat ++
    (bs ++ clnt.readBuffer.data.drop (clnt.bytesRead.toNat + bs.length))

/-- The lengths in a complete header: there is a payload, it lies in the buffer behind the
    header, and the topics fit the arrays they are copied to. -/
structure HeaderFits (data : Bytes) : Prop where
  payload_pos : 0 < payloadField data
  payload : lengthField data + payloadField data ≤ 8192
  topic : topicField data ≤ 128
  replyTopic : replyTopicField data ≤ 128

/-- The lengths that the bytes complete, if they do, fit. -/
def LengthsFit (clnt : RtConnectedClient) (bs : Bytes) : Prop :=
  clnt.bytesRead + bs.length = clnt.bytesToRead →
    match clnt.state with
    | .readHeaderPreamble =>
      4 < lengthField (storedData clnt bs) ∧ lengthField (storedData clnt bs) ≤ 8192
    | .readHeader => HeaderFits (storedData clnt bs)
    | .readPayload => True

/-- The bytes are stored and decoded inside the reader's arrays, and a payload that is handed
    to the route handlers lies in the buffer. -/
structure ReadInBuffer (clnt : RtConnectedClient) (bs : Bytes) : Prop where
  stored : ∃ full complete, storeBytes clnt bs = .ok (full, complete)
  handed : ∀ full, storeBytes clnt bs = .ok (full, true) → PayloadInBuffer full.header

/-- The reader's invariant: the counters are in the buffer and agree with the fields they
    were computed from. -/
structure ReaderOk (clnt : RtConnectedClient) : Prop extends InBuffer clnt where
  preamble : clnt.state = .readHeaderPreamble → clnt.bytesToRead = 4
  header : clnt.state = .readHeader →
    4 ≤ clnt.bytesRead ∧ clnt.bytesToRead = lengthField clnt.readBuffer.data
  payload : clnt.state = .readPayload →
    clnt.bytesToRead = clnt.header.headerLength.toNat + clnt.header.payloadLength.toNat

theorem readerOk_reset (clnt : RtConnectedClient) : ReaderOk (readerReset clnt) where
  nonneg := Int.le_refl 0
  unfinished := show (0 : Int) < 4 by decide
  bounded := show (4 : Int) ≤ 8192 by decide
  preamble := fun _ => rfl
  header := by intro h; cases h
  payload := by intro h; cases h

theorem readerOk_init (ptr fd : Nat) : ReaderOk (rtConnectedClientInit ptr fd) :=
  readerOk_reset (rtConnectedClientInit ptr fd)

/-! One step. -/

theorem storeBytes_cases {clnt full : RtConnectedClient} {bs : Bytes} {complete : Bool}
    (h : storeBytes clnt bs = .ok (full, complete)) :
    ∃ buf : CArray 8192, buf.data = storedData clnt bs ∧
      readerTurn { clnt with readBuffer := buf, bytesRead := clnt.bytesRead + bs.length } =
        .ok (full, complete) := by
  obtain ⟨buf, hw, h⟩ := bind_eq_ok.mp h
  exact ⟨buf, (CArray.write_eq_ok hw).2, h⟩

/-- Bytes stored behind the fourth do not change the header's length. -/
theorem lengthField_storedData {clnt : RtConnectedClient} (bs : Bytes)
    (h : 4 ≤ clnt.bytesRead) (h' : clnt.bytesRead ≤ 8192) :
    lengthField (storedData clnt bs) = lengthField clnt.readBuffer.data := by
  have hlen : 4 ≤ (clnt.readBuffer.data.take clnt.bytesRead.toNat).length := by
    rw [List.length_take, clnt.readBuffer.size_eq, RTMSG_CLIENT_READ_BUFFER_SIZE]
    omega
  have hfour : ∀ l : Bytes, (l.drop 2).take 2 = (l.take 4).drop 2 := by
    intro l
    rw [List.drop_take]
  rw [lengthField, lengthField, hfour, hfour, storedData, List.take_append_of_le_length hlen,
    List.take_take]
  congr 3
  omega

/-- The reader after a step: reset if a message was completed. -/
def afterStore (full : RtConnectedClient) (complete : Bool) : RtConnectedClient :=
  if complete then readerReset full else full

theorem reader_step_partial {clnt full : RtConnectedClient} {bs : Bytes} {complete : Bool}
    (hok : ReaderOk clnt) (hlen : clnt.bytesRead + bs.length < clnt.bytesToRead)
    (h : storeBytes clnt bs = .ok (full, complete)) : ReaderOk full ∧ complete = false := by
  obtain ⟨buf, hdata, h⟩ := storeBytes_cases h
  have hne : clnt.bytesRead + bs.length ≠ clnt.bytesToRead := by omega
  rw [readerTurn, if_pos hne] at h
  cases h
  have hnonneg := hok.nonneg
  have hbounded := hok.bounded
  refine ⟨.mk ⟨?_, hlen, hok.bounded⟩ hok.preamble ?_ hok.payload, rfl⟩
  · show 0 ≤ clnt.bytesRead + bs.length
    omega
  · intro hstate
    obtain ⟨h4, hto⟩ := hok.header hstate
    refine ⟨show 4 ≤ clnt.bytesRead + bs.length by omega, ?_⟩
    show clnt.bytesToRead = lengthField buf.data
    rw [hdata, lengthField_storedData bs h4 (by omega)]
    exact hto

/-- Bytes that complete the preamble: how far to read now is the header's length. -/
theorem reader_step_preamble {clnt full : RtConnectedClient} {bs : Bytes} {complete : Bool}
    (hok : ReaderOk clnt) (hstate : clnt.state = .readHeaderPreamble)
    (hend : clnt.bytesRead + bs.length = clnt.bytesToRead)
    (h : storeBytes clnt bs = .ok (full, complete)) :
    complete = false ∧ full.state = .readHeader ∧ full.bytesRead = 4 ∧
      full.bytesToRead = lengthField (storedData clnt bs) ∧
      full.readBuffer.data = storedData clnt bs := by
  obtain ⟨buf, hdata, h⟩ := storeBytes_cases h
  have h4 := hok.preamble hstate
  simp only [readerTurn, hstate, hend, ne_eq, not_true_eq_false, if_false] at h
  obtain ⟨⟨headerLength, rest⟩, hd, h⟩ := bind_eq_ok.mp h
  cases h
  have hl := (decodeUInt16_ok hd).1
  rw [hdata] at hl
  refine ⟨rfl, rfl, h4, ?_, hdata⟩
  show clnt.bytesToRead + ((headerLength.toNat : Int) - 4) = _
  rw [h4, hl, lengthField]
  omega

/-- Bytes that complete the header: the payload's length is added, modulo 2^32. -/
theorem reader_step_header {clnt full : RtConnectedClient} {bs : Bytes} {complete : Bool}
    (hstate : clnt.state = .readHeader)
    (hend : clnt.bytesRead + bs.length = clnt.bytesToRead)
    (h : storeBytes clnt bs = .ok (full, complete)) :
    complete = false ∧ full.state = .readPayload ∧ full.bytesRead = clnt.bytesToRead ∧
      full.bytesToRead = toInt32 (toUInt32 clnt.bytesToRead + full.header.payloadLength) ∧
      full.header.headerLength.toNat = lengthField (storedData clnt bs) ∧
      full.header.payloadLength.toNat = payloadField (storedData clnt bs) ∧
      topicField (storedData clnt bs) ≤ 128 ∧ replyTopicField (storedData clnt bs) ≤ 128 := by
  obtain ⟨buf, hdata, h⟩ := storeBytes_cases h
  simp only [readerTurn, hstate, hend, ne_eq, not_true_eq_false, if_false] at h
  obtain ⟨header, hd, h⟩ := bind_eq_ok.mp h
  cases h
  have hfields := headerDecode_lengths hd
  rw [hdata] at hfields
  exact ⟨rfl, rfl, rfl, rfl, hfields⟩

theorem reader_step_payload {clnt full : RtConnectedClient} {bs : Bytes} {complete : Bool}
    (hstate : clnt.state = .readPayload)
    (hend : clnt.bytesRead + bs.length = clnt.bytesToRead)
    (h : storeBytes clnt bs = .ok (full, complete)) :
    complete = true ∧ full.header = clnt.header := by
  obtain ⟨buf, hdata, h⟩ := storeBytes_cases h
  simp only [readerTurn, hstate, hend, ne_eq, not_true_eq_false, if_false] at h
  cases h
  exact ⟨rfl, rfl⟩

/-- The sum of the two lengths, as the code computes it, lies in the buffer exactly if it does
    not wrap around and fits. -/
theorem toInt32_add_iff {hl : Nat} (pl : UInt32) (hhl : hl ≤ 8192) :
    (hl : Int) < toInt32 (toUInt32 hl + pl) ∧ toInt32 (toUInt32 hl + pl) ≤ 8192 ↔
      0 < pl.toNat ∧ hl + pl.toNat ≤ 8192 := by
  have hpl : pl.toNat < 2^32 := pl.toNat_lt
  have hsum : (toUInt32 hl + pl).toNat = (hl + pl.toNat) % 2^32 := by
    rw [UInt32.toNat_add, toUInt32, UInt32.toNat_ofNat']
    omega
  unfold toInt32
  rw [hsum]
  split <;> omega

/-- **One step of the reader.** From a state of the invariant, fields that fit lead to one
    again, and only they lead to counters in the buffer; a payload that is handed out lies in
    it. -/
theorem reader_step {clnt full : RtConnectedClient} {bs : Bytes} {complete : Bool}
    (hok : ReaderOk clnt) (hlen : clnt.bytesRead + bs.length ≤ clnt.bytesToRead)
    (h : storeBytes clnt bs = .ok (full, complete)) :
    (LengthsFit clnt bs → ReaderOk (afterStore full complete)) ∧
      (InBuffer (afterStore full complete) → LengthsFit clnt bs) ∧
      (complete = true → PayloadInBuffer full.header) := by
  have hnonneg := hok.nonneg
  have hbounded := hok.bounded
  by_cases hend : clnt.bytesRead + bs.length = clnt.bytesToRead
  · cases hstate : clnt.state with
    | readHeaderPreamble =>
      obtain ⟨rfl, hs, hread, hto, hdata⟩ := reader_step_preamble hok hstate hend h
      simp only [afterStore, Bool.false_eq_true, if_false, LengthsFit, hstate]
      refine ⟨fun hfit => ?_, fun hin _ => ?_, by simp⟩
      · obtain ⟨hlo, hhi⟩ := hfit hend
        refine .mk ⟨by omega, by omega, by omega⟩ (fun h => ?_) (fun _ => ⟨by omega, ?_⟩)
          (fun h => ?_)
        · cases hs.symm.trans h
        · rw [hto, hdata]
        · cases hs.symm.trans h
      · have := hin.unfinished
        have := hin.bounded
        omega
    | readHeader =>
      obtain ⟨rfl, hs, hread, hto, hhl, hpl, ht, hr⟩ := reader_step_header hstate hend h
      obtain ⟨h4, hlength⟩ := hok.header hstate
      -- the bytes of the rest of the header do not touch the length that was read before
      have hsame := lengthField_storedData bs h4 (by omega)
      rw [hlength] at hto hread hbounded
      have hiff := toInt32_add_iff full.header.payloadLength
        (show lengthField clnt.readBuffer.data ≤ 8192 by omega)
      rw [← hto, hpl, ← hread, ← hsame] at hiff
      simp only [afterStore, Bool.false_eq_true, if_false, LengthsFit, hstate]
      refine ⟨fun hfit => ?_, fun hin _ => ?_, by simp⟩
      · obtain ⟨hpos, hpay, -, -⟩ := hfit hend
        obtain ⟨hlo, hhi⟩ := hiff.mpr ⟨hpos, hpay⟩
        refine .mk ⟨by omega, hlo, hhi⟩ (fun h => ?_) (fun h => ?_) (fun _ => ?_)
        · cases hs.symm.trans h
        · cases hs.symm.trans h
        rw [hto, hhl, hpl]
        have hpl' := full.header.payloadLength.toNat_lt
        -- `bytes_to_read += payload_length` does not wrap here
        have hsum : (toUInt32 (lengthField clnt.readBuffer.data) +
            full.header.payloadLength).toNat =
              lengthField (storedData clnt bs) + payloadField (storedData clnt bs) := by
          rw [UInt32.toNat_add, toUInt32, UInt32.toNat_ofNat', hpl, hsame]
          omega
        unfold toInt32
        rw [hsum]
        split <;> omega
      · obtain ⟨hpos, hpay⟩ := hiff.mp ⟨hin.unfinished, hin.bounded⟩
        exact ⟨hpos, hpay, ht, hr⟩
    | readPayload =>
      obtain ⟨rfl, hheader⟩ := reader_step_payload hstate hend h
      simp only [afterStore, if_true, LengthsFit, hstate, implies_true, true_and]
      refine ⟨?_, ?_⟩
      · exact fun _ => readerOk_reset full
      · have hpay := hok.payload hstate
        rw [PayloadInBuffer, hheader]
        omega
  · obtain ⟨hok', rfl⟩ := reader_step_partial hok (by omega) h
    exact ⟨fun _ => hok', fun _ he => absurd he hend, by simp⟩

/-- Bytes whose lengths fit are stored, whatever part they complete. -/
theorem reader_stores {clnt : RtConnectedClient} {bs : Bytes} (hok : ReaderOk clnt)
    (hlen : clnt.bytesRead + bs.length ≤ clnt.bytesToRead) (hfit : LengthsFit clnt bs) :
    ∃ full complete, storeBytes clnt bs = .ok (full, complete) := by
  have hnonneg := hok.nonneg
  have hbounded := hok.bounded
  have hroom : clnt.bytesRead.toNat + bs.length ≤ RTMSG_CLIENT_READ_BUFFER_SIZE := by
    rw [RTMSG_CLIENT_READ_BUFFER_SIZE]
    omega
  obtain ⟨buf, hw, hdata⟩ := CArray.write_ok clnt.readBuffer clnt.bytesRead.toNat bs hroom
  have hsame : buf.data = storedData clnt bs := hdata
  rw [storeBytes, hw, ok_bind, readerTurn]
  by_cases hend : clnt.bytesRead + bs.length = clnt.bytesToRead
  · cases hstate : clnt.state with
    | readHeaderPreamble =>
      obtain ⟨n, hn⟩ := decodeUInt16_of_le (show 2 ≤ (buf.data.drop 2).length by
        rw [List.length_drop, buf.size_eq]
        decide)
      simp only [hend, ne_eq, not_true_eq_false, if_false, hn, ok_bind]
      exact ⟨_, _, rfl⟩
    | readHeader =>
      have hheader := hfit hend
      simp only [hstate, ← hsame] at hheader
      obtain ⟨hdr, hd⟩ :=
        headerDecode_returns clnt.header buf.size_eq hheader.topic hheader.replyTopic
      simp only [hend, ne_eq, not_true_eq_false, if_false, hd, ok_bind]
      exact ⟨_, _, rfl⟩
    | readPayload =>
      simp only [hend, ne_eq, not_true_eq_false, if_false]
      exact ⟨_, _, rfl⟩
  · exact ⟨_, _, if_pos hend⟩

/-! What a `recv` gives the reader. -/

theorem recv_length {os os' : Os} {fd : Option Nat} {len : Nat} {bs : Bytes}
    (h : os.recv fd len = .ok (.ok bs, os')) : bs.length ≤ len := by
  unfold Os.recv at h
  split at h
  · cases h
  · split at h
    · cases h
      exact Nat.zero_le _
    · split at h
      · dsimp only at h
        split at h
        · cases h
        · cases h
          simp only [List.length_take]
          omega
      · cases h
        exact Nat.zero_le _
      · cases h

theorem toSize_of_pos {n : Int} (h : 0 < n) (h' : n ≤ 8192) : (toSize n : Int) = n := by
  unfold toSize
  omega

end RtMessage
