import RtMessage.Header

/- The header codec: `rtMessageHeader_Decode` reads back what `rtMessageHeader_Encode`
   wrote, whatever follows it, and stops right behind it.

   The decoder copies a string's bytes without a NUL, so what it leaves is terminated
   because the header it decodes into was zeroed. -/
namespace RtMessage

/-- `rtMessageHeader_Decode`, with what its `ptr` points at when it returns. -/
def decodeHeaderTo (hdr : RtMessageHeader) (buff : Bytes) :
    Except Fault (RtMessageHeader × Bytes) := do
  let (version, ptr) ← rtEncoderDecodeUInt16 buff
  let (headerLength, ptr) ← rtEncoderDecodeUInt16 ptr
  let (sequenceNumber, ptr) ← rtEncoderDecodeInt32 ptr
  let (flags, ptr) ← rtEncoderDecodeInt32 ptr
  let (controlData, ptr) ← rtEncoderDecodeInt32 ptr
  let (payloadLength, ptr) ← rtEncoderDecodeInt32 ptr
  let (topic, topicLength, ptr) ← rtEncoderDecodeString ptr hdr.topic
  let (replyTopic, replyTopicLength, ptr) ← rtEncoderDecodeString ptr hdr.replyTopic
  return ({ version, headerLength, sequenceNumber, flags, controlData, payloadLength,
            topicLength, topic, replyTopicLength, replyTopic }, ptr)

theorem headerDecode_eq (hdr : RtMessageHeader) (buff : Bytes) :
    rtMessageHeaderDecode hdr buff = do
      let (hdr, _) ← decodeHeaderTo hdr buff
      return hdr := by
  unfold rtMessageHeaderDecode decodeHeaderTo
  simp only [bind_assoc, pure_bind]

section RoundTrip
variable {hdr : RtMessageHeader}

/-- The topics are strings that end inside their arrays. -/
structure TopicsTerminated (hdr : RtMessageHeader) : Prop where
  topic : hdr.topic.str.length ≤ 127
  replyTopic : hdr.replyTopic.str.length ≤ 127

/-- The header that is read back. -/
def readBack (hdr : RtMessageHeader) : RtMessageHeader where
  version := RTMSG_HEADER_VERSION
  headerLength := (rtMessageHeaderEncode hdr).1.headerLength
  sequenceNumber := hdr.sequenceNumber
  flags := hdr.flags
  controlData := hdr.controlData
  payloadLength := hdr.payloadLength
  topicLength := UInt32.ofNat hdr.topic.str.length
  topic := .pad 128 hdr.topic.str
  replyTopicLength := UInt32.ofNat hdr.replyTopic.str.length
  replyTopic := .pad 128 hdr.replyTopic.str

theorem readBack_topic (h : TopicsTerminated hdr) : (readBack hdr).topic.str = hdr.topic.str :=
  CArray.pad_str (Nat.le_succ_of_le h.topic) (zero_not_mem_cstr _)

theorem readBack_replyTopic (h : TopicsTerminated hdr) :
    (readBack hdr).replyTopic.str = hdr.replyTopic.str :=
  CArray.pad_str (Nat.le_succ_of_le h.replyTopic) (zero_not_mem_cstr _)

theorem encode_length (hdr : RtMessageHeader) :
    (rtMessageHeaderEncode hdr).2.length =
      28 + hdr.topic.str.length + hdr.replyTopic.str.length := by
  simp only [rtMessageHeaderEncode, List.length_append, encodeUInt16_length, encodeInt32_length,
    encodeString_length]
  omega

theorem encode_headerLength (h : TopicsTerminated hdr) :
    (rtMessageHeaderEncode hdr).1.headerLength.toNat =
      28 + hdr.topic.str.length + hdr.replyTopic.str.length := by
  have := h.topic
  have := h.replyTopic
  exact UInt16.toNat_ofNat_of_lt' (show _ < 2^16 by omega)

theorem decode_encoded (h : TopicsTerminated hdr) (version : UInt16) (rest : Bytes) :
    decodeHeaderTo rtMessageHeaderInit
      (rtEncoderEncodeUInt16 version ++ ((rtMessageHeaderEncode hdr).2.drop 2 ++ rest)) =
        .ok ({ readBack hdr with version }, rest) := by
  have ht : hdr.topic.str.length ≤ 128 := Nat.le_succ_of_le h.topic
  have hr : hdr.replyTopic.str.length ≤ 128 := Nat.le_succ_of_le h.replyTopic
  rw [rtMessageHeaderEncode]
  dsimp only
  rw [List.drop_left' (encodeUInt16_length _)]
  simp only [List.append_assoc, decodeHeaderTo, decodeUInt16_encode, decodeInt32_encode, ok_bind]
  rw [show rtMessageHeaderInit.topic = .zero 128 from rfl,
    show rtMessageHeaderInit.replyTopic = .zero 128 from rfl,
    decodeString_encode ht (by decide), ok_bind]
  simp only [decodeString_encode hr (by decide), ok_bind, pure_eq_ok]
  rfl

theorem decode_encode (h : TopicsTerminated hdr) (rest : Bytes) :
    decodeHeaderTo rtMessageHeaderInit ((rtMessageHeaderEncode hdr).2 ++ rest) =
      .ok (readBack hdr, rest) := by
  have hversion : (rtMessageHeaderEncode hdr).2 =
      rtEncoderEncodeUInt16 RTMSG_HEADER_VERSION ++ (rtMessageHeaderEncode hdr).2.drop 2 := rfl
  rw [hversion, List.append_assoc]
  exact decode_encoded h RTMSG_HEADER_VERSION rest

theorem encode_readBack (h : TopicsTerminated hdr) :
    (rtMessageHeaderEncode (readBack hdr)).2 = (rtMessageHeaderEncode hdr).2 := by
  simp only [rtMessageHeaderEncode, readBack_topic h, readBack_replyTopic h]
  rfl

/-- **The codec's round trip.** -/
theorem header_round_trip (h : TopicsTerminated hdr) (rest : Bytes) :
    (rtMessageHeaderEncode hdr).2.length = 28 + hdr.topic.str.length + hdr.replyTopic.str.length ∧
    (rtMessageHeaderEncode hdr).1.headerLength.toNat = (rtMessageHeaderEncode hdr).2.length ∧
    ∃ dec, decodeHeaderTo rtMessageHeaderInit ((rtMessageHeaderEncode hdr).2 ++ rest) =
        .ok (dec, rest) ∧
      rtMessageHeaderDecode rtMessageHeaderInit ((rtMessageHeaderEncode hdr).2 ++ rest) = .ok dec ∧
      dec.version = 1 ∧ dec.headerLength = (rtMessageHeaderEncode hdr).1.headerLength ∧
      dec.sequenceNumber = hdr.sequenceNumber ∧ dec.flags = hdr.flags ∧
      dec.controlData = hdr.controlData ∧ dec.payloadLength = hdr.payloadLength ∧
      (dec.topic.str = hdr.topic.str ∧ 0 ∈ dec.topic.data ∧
        dec.topicLength.toNat = hdr.topic.str.length) ∧
      (dec.replyTopic.str = hdr.replyTopic.str ∧ 0 ∈ dec.replyTopic.data ∧
        dec.replyTopicLength.toNat = hdr.replyTopic.str.length) ∧
      (rtMessageHeaderEncode dec).2 = (rtMessageHeaderEncode hdr).2 := by
  have ht := h.topic
  have hr := h.replyTopic
  refine ⟨encode_length hdr, (encode_headerLength h).trans (encode_length hdr).symm, readBack hdr,
    decode_encode h rest, ?_, rfl, rfl, rfl, rfl, rfl, rfl, ⟨readBack_topic h, ?_, ?_⟩,
    ⟨readBack_replyTopic h, ?_, ?_⟩, encode_readBack h⟩
  · rw [headerDecode_eq, decode_encode h, ok_bind]
    simp only [pure_eq_ok]
  · refine (CArray.terminated_iff _).mpr ?_
    rw [readBack_topic h]
    change _ < 128
    omega
  · exact UInt32.toNat_ofNat_of_lt' (show _ < 2^32 by omega)
  · refine (CArray.terminated_iff _).mpr ?_
    rw [readBack_replyTopic h]
    change _ < 128
    omega
  · exact UInt32.toNat_ofNat_of_lt' (show _ < 2^32 by omega)

/-- A request for `A.B` with the largest length and what earlier topics left in the arrays. -/
def exampleHeader : RtMessageHeader :=
  { rtMessageHeaderInit with
    payloadLength := 0xffffffff
    flags := rtMessageFlagsRequest
    topic := .pad 128 [65, 46, 66, 0, 67]
    replyTopic := .pad 128 (ascii "app.INBOX.1") }

theorem header_round_trip_example : ∃ dec,
    rtMessageHeaderDecode rtMessageHeaderInit ((rtMessageHeaderEncode exampleHeader).2 ++ [7]) =
      .ok dec ∧ dec.payloadLength = 0xffffffff ∧ dec.topic.str = ascii "A.B" := by
  have hterminated : TopicsTerminated exampleHeader := ⟨by decide, by decide⟩
  obtain ⟨-, -, dec, -, hdec, -, -, -, -, -, hpayload, ⟨htopic, -⟩, -⟩ :=
    header_round_trip hterminated [7]
  exact ⟨dec, hdec, hpayload, htopic.trans (by decide)⟩

end RoundTrip

/-! What the decoder accepts. -/

/-- The buffer begins with what the encoder writes for a header, but for the version. -/
def BeginsWithHeader (buff : Bytes) : Prop :=
  ∃ version hdr rest, TopicsTerminated hdr ∧
    buff = rtEncoderEncodeUInt16 version ++ ((rtMessageHeaderEncode hdr).2.drop 2 ++ rest)

/-- What was decoded agrees with itself and with the buffer. -/
structure DecodedHeader (buff : Bytes) (dec : RtMessageHeader) : Prop where
  topicLength : dec.topicLength.toNat ≤ 127
  replyTopicLength : dec.replyTopicLength.toNat ≤ 127
  headerLength : 28 + dec.topicLength.toNat + dec.replyTopicLength.toNat = dec.headerLength.toNat
  topic : 0 ∉ dec.topic.data.take dec.topicLength.toNat
  replyTopic : 0 ∉ dec.replyTopic.data.take dec.replyTopicLength.toNat
  topicTerminated : 0 ∈ dec.topic.data
  replyTopicTerminated : 0 ∈ dec.replyTopic.data
  encoded : (rtMessageHeaderEncode dec).2.drop 2 = (buff.take dec.headerLength.toNat).drop 2

/-- The decoder has no other result than `RT_OK`: the buffer is decoded into an initialised
    header without a read or a write outside the buffers, and the result is a header. -/
def AcceptedAsHeader (buff : Bytes) : Prop :=
  ∃ dec, rtMessageHeaderDecode rtMessageHeaderInit buff = .ok dec ∧ DecodedHeader buff dec

section Accepting
variable {hdr dec : RtMessageHeader} {buff : Bytes} {version : UInt16}

/-- The version is read and nothing depends on it. -/
theorem decode_version (h : TopicsTerminated hdr) (version : UInt16) (rest : Bytes) :
    rtMessageHeaderDecode rtMessageHeaderInit
      (rtEncoderEncodeUInt16 version ++ ((rtMessageHeaderEncode hdr).2.drop 2 ++ rest)) =
        .ok { readBack hdr with version } := by
  rw [headerDecode_eq, decode_encoded h, ok_bind]
  rfl

theorem pad_topic {s : Bytes} (h : s.length ≤ 127) (hnul : 0 ∉ s) :
    0 ∉ (CArray.pad 128 s).data.take s.length ∧ 0 ∈ (CArray.pad 128 s).data := by
  constructor
  · rw [CArray.pad_data (Nat.le_succ_of_le h), List.take_left' rfl]
    exact hnul
  · apply (CArray.terminated_iff _).mpr
    rw [CArray.pad_str (Nat.le_succ_of_le h) hnul]
    omega

theorem decodedHeader_readBack (h : TopicsTerminated hdr) (version : UInt16) (rest : Bytes) :
    DecodedHeader (rtEncoderEncodeUInt16 version ++ ((rtMessageHeaderEncode hdr).2.drop 2 ++ rest))
      { readBack hdr with version } := by
  have hlong : 2 ≤ (rtMessageHeaderEncode hdr).2.length := by
    rw [encode_length]
    omega
  have ht : (UInt32.ofNat hdr.topic.str.length).toNat = hdr.topic.str.length :=
    UInt32.toNat_ofNat_of_lt' (Nat.lt_of_le_of_lt h.topic (by decide))
  have hr : (UInt32.ofNat hdr.replyTopic.str.length).toNat = hdr.replyTopic.str.length :=
    UInt32.toNat_ofNat_of_lt' (Nat.lt_of_le_of_lt h.replyTopic (by decide))
  have htopic := pad_topic h.topic (zero_not_mem_cstr hdr.topic.data)
  have hreply := pad_topic h.replyTopic (zero_not_mem_cstr hdr.replyTopic.data)
  have hlength : (readBack hdr).headerLength.toNat =
      (rtEncoderEncodeUInt16 version ++ (rtMessageHeaderEncode hdr).2.drop 2).length := by
    have hsame : (readBack hdr).headerLength.toNat = _ := encode_headerLength h
    rw [hsame, List.length_append, encodeUInt16_length, List.length_drop, encode_length]
    omega
  exact {
    topicLength := ht.le.trans h.topic
    replyTopicLength := hr.le.trans h.replyTopic
    headerLength := by
      have hsame : (readBack hdr).headerLength.toNat = _ := encode_headerLength h
      change 28 + (UInt32.ofNat hdr.topic.str.length).toNat +
        (UInt32.ofNat hdr.replyTopic.str.length).toNat = (readBack hdr).headerLength.toNat
      rw [hsame, ht, hr]
    topic := by
      change 0 ∉ (CArray.pad 128 hdr.topic.str).data.take (UInt32.ofNat hdr.topic.str.length).toNat
      rw [ht]
      exact htopic.1
    replyTopic := by
      change 0 ∉ (CArray.pad 128 hdr.replyTopic.str).data.take
        (UInt32.ofNat hdr.replyTopic.str.length).toNat
      rw [hr]
      exact hreply.1
    topicTerminated := htopic.2
    replyTopicTerminated := hreply.2
    encoded := by
      change (rtMessageHeaderEncode (readBack hdr)).2.drop 2 =
        ((rtEncoderEncodeUInt16 version ++ ((rtMessageHeaderEncode hdr).2.drop 2 ++ rest)).take
          (readBack hdr).headerLength.toNat).drop 2
      rw [encode_readBack h, ← List.append_assoc, List.take_left' hlength.symm,
        List.drop_left' (encodeUInt16_length version)] }

theorem decodeUInt16_bytes {ptr : Bytes} (h : rtEncoderDecodeUInt16 buff = .ok (version, ptr)) :
    buff.take 2 = rtEncoderEncodeUInt16 version := by
  unfold rtEncoderDecodeUInt16 readBytes at h
  by_cases hlong : 2 ≤ buff.length
  · rw [if_pos hlong, ok_bind] at h
    obtain ⟨rfl, _⟩ := Prod.mk.inj (Except.ok.inj h)
    have hlen : (buff.take 2).length = 2 := List.length_take_of_le hlong
    have hlt : Lib.BigEndian.ofBytes (buff.take 2) < 2^16 := by
      have hbound := Lib.BigEndian.ofBytes_lt (buff.take 2)
      rwa [hlen] at hbound
    have hbytes := Lib.BigEndian.toBytes_ofBytes (buff.take 2)
    rw [hlen] at hbytes
    rw [rtEncoderEncodeUInt16, UInt16.toNat_ofNat_of_lt' hlt, hbytes]
  · rw [if_neg hlong, error_bind] at h
    cases h

theorem decoded_version (h : rtMessageHeaderDecode rtMessageHeaderInit buff = .ok dec) :
    buff.take 2 = rtEncoderEncodeUInt16 dec.version := by
  unfold rtMessageHeaderDecode at h
  obtain ⟨⟨version, _⟩, hversion, h⟩ := bind_eq_ok.mp h
  obtain ⟨⟨_, _⟩, _, h⟩ := bind_eq_ok.mp h
  obtain ⟨⟨_, _⟩, _, h⟩ := bind_eq_ok.mp h
  obtain ⟨⟨_, _⟩, _, h⟩ := bind_eq_ok.mp h
  obtain ⟨⟨_, _⟩, _, h⟩ := bind_eq_ok.mp h
  obtain ⟨⟨_, _⟩, _, h⟩ := bind_eq_ok.mp h
  obtain ⟨⟨_, _, _⟩, _, h⟩ := bind_eq_ok.mp h
  obtain ⟨⟨_, _, _⟩, _, h⟩ := bind_eq_ok.mp h
  obtain rfl := Except.ok.inj h
  exact decodeUInt16_bytes hversion

theorem begins_of_decoded (h : rtMessageHeaderDecode rtMessageHeaderInit buff = .ok dec)
    (hdec : DecodedHeader buff dec) : BeginsWithHeader buff := by
  have hlong : 2 ≤ dec.headerLength.toNat := by
    have hsum := hdec.headerLength
    omega
  have hterminated : TopicsTerminated dec := by
    have htopic := cstr_length_lt hdec.topicTerminated
    have hreply := cstr_length_lt hdec.replyTopicTerminated
    rw [dec.topic.size_eq] at htopic
    rw [dec.replyTopic.size_eq] at hreply
    exact ⟨Nat.le_of_lt_succ htopic, Nat.le_of_lt_succ hreply⟩
  refine ⟨dec.version, dec, buff.drop dec.headerLength.toNat, hterminated, ?_⟩
  calc buff = buff.take dec.headerLength.toNat ++ buff.drop dec.headerLength.toNat :=
        (List.take_append_drop _ buff).symm
    _ = ((buff.take dec.headerLength.toNat).take 2 ++ (buff.take dec.headerLength.toNat).drop 2) ++
          buff.drop dec.headerLength.toNat := by rw [List.take_append_drop 2]
    _ = rtEncoderEncodeUInt16 dec.version ++ ((rtMessageHeaderEncode dec).2.drop 2 ++
          buff.drop dec.headerLength.toNat) := by
        rw [List.take_take, Nat.min_eq_left hlong, decoded_version h, hdec.encoded, List.append_assoc]

end Accepting

/-- The decoder accepts a buffer as a header exactly if it begins with one. -/
theorem accepted_as_header_iff (buff : Bytes) : AcceptedAsHeader buff ↔ BeginsWithHeader buff := by
  constructor
  · intro h
    obtain ⟨dec, hdec, hheader⟩ := h
    exact begins_of_decoded hdec hheader
  · intro h
    obtain ⟨version, hdr, rest, hterminated, rfl⟩ := h
    exact ⟨_, decode_version hterminated version rest,
      decodedHeader_readBack hterminated version rest⟩

/-- 28 bytes of zero are decoded with a header length of 0. -/
theorem zeros_accepted : ¬ ∀ buff : Bytes, AcceptedAsHeader buff := by
  intro h
  obtain ⟨dec, hdec, hheader⟩ := h (List.replicate 28 0)
  have hzeros : rtMessageHeaderDecode rtMessageHeaderInit (List.replicate 28 0) =
      .ok { rtMessageHeaderInit with version := 0 } := by decide +kernel
  rw [hzeros] at hdec
  obtain rfl := Except.ok.inj hdec
  have hlength := hheader.headerLength
  exact absurd hlength (by decide)

end RtMessage
